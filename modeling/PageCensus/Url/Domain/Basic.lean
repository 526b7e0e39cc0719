import PageCensus.Text.Pieces
import PageCensus.Url.Domain.Label

/-!
# Domain names

A domain name is made of labels with points between them.  A text stands for the name that is left
when every character is replaced by what it stands for and the result is composed.

* `Domain.labels?` — the labels, in ASCII, of the name that a text stands for.
* `Domain.isForbidden` — the ASCII characters that stand in no name.
-/

set_option autoImplicit false

namespace PageCensus

namespace Domain

/-- The ASCII characters that stand in no name. -/
def isForbidden (c : Char) : Bool :=
  c.toNat ≤ 0x20 || c.toNat == 0x7F ||
    ['%', '#', '/', ':', '<', '>', '?', '@', '[', '\\', ']', '^', '|'].contains c

/-- The simplified form of a text, unless a character stands in no name. -/
def simplify? (text : List Char) : Option (List Char) := do
  let simple ← text.mapM standsFor?
  let name := Composition.compose simple.flatten
  if name.any isForbidden then none else some name

/-- The labels, carried in ASCII, of the name that a text stands for. -/
def labels? (text : List Char) : Option (List (List Char)) := do
  let name ← simplify? text
  let labels ← (pieces (· == '.') name).mapM DomainLabel.ofText?
  if labels.any DomainLabel.isRightToLeft && !labels.all DomainLabel.keepsDirection then none
  else return labels.map DomainLabel.carried

example : labels? "Page.EXAMPLE".toList = some ["page".toList, "example".toList] ∧
    labels? "a b".toList = none := by decide

end Domain

end PageCensus
