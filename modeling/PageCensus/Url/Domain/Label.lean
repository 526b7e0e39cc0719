import PageCensus.Unicode.Composition
import PageCensus.Unicode.Direction
import PageCensus.Unicode.Joining
import PageCensus.Unicode.Mark
import PageCensus.Url.Domain.Mapping
import PageCensus.Url.Punycode

/-!
# Labels of domain names

A label with characters beyond ASCII is carried in Punycode after `xn--`; one that comes in this
form has to be the form of such a label.

A label beyond ASCII does not begin with a mark.  A joiner stands only where it changes how letters
are drawn: behind a sign that takes the vowel away from a letter, or, if it keeps letters apart,
between two that would join.

If any label of a name runs from the right to the left, every label has to keep one direction, so
that the labels of the name cannot be mixed up when it is drawn.

* `DomainLabel`, `DomainLabel.ofText?` — a label, and the one of a simplified text.
* `DomainLabel.keepsDirection` — whether it can stand in a name with a label that runs from the
  right.
-/

set_option autoImplicit false

namespace PageCensus

/-- A label of a domain name. -/
structure DomainLabel where
  /-- As it is shown. -/
  shown : List Char
  /-- As it is carried in ASCII. -/
  carried : List Char
deriving DecidableEq, Repr

namespace DomainLabel

/-! ## Joiners -/

/-- The character that keeps letters apart that would join. -/
def nonJoiner : Char := '\u200c'

/-- The character that joins letters that would stay apart. -/
def joiner : Char := '\u200d'

/-- The combining class of signs that take the vowel away from a letter. -/
def vowelKillerClass : Nat := 9

/-- Whether the first character of a text that is not transparent joins in one of these ways. -/
def joinsAt (text : List Char) (ways : List Joining) : Bool :=
  match text.find? fun c => joining c != .transparent with
  | none => false
  | some c => ways.contains (joining c)

/-- Whether a character may stand between others; those in front of it are given in reverse. -/
def fits (before : List Char) (c : Char) (rest : List Char) : Bool :=
  if c = joiner ∨ c = nonJoiner then
    before.head?.any (fun c => combiningClass c == vowelKillerClass) ||
      (c == nonJoiner && joinsAt before [.left, .both] && joinsAt rest [.right, .both])
  else true

/-- Whether all characters may stand where they stand behind others, given in reverse. -/
def allFit (before : List Char) : List Char → Bool
  | [] => true
  | c :: rest => fits before c rest && allFit (c :: before) rest

/-! ## Directions -/

/-- Whether there is a character of a label that runs from the right to the left. -/
def isRightToLeft (label : DomainLabel) : Bool :=
  label.shown.any fun c => 0x80 ≤ c.toNat && (direction c).isRightToLeft

/-- The directions that can stand in a label of either direction. -/
def sharedDirections : List Direction :=
  [.number, .numberSign, .numberSeparator, .numberEnd, .neutral, .ignored, .mark]

/-- Whether directions are those of a label that runs from the left. -/
def areFromLeft (directions : List Direction) : Bool :=
  directions.all (fun d => d == .fromLeft || sharedDirections.contains d) &&
    (directions.reverse.find? (· != .mark)).any [.fromLeft, .number].contains

/-- Whether directions are those of a label that runs from the right. -/
def areFromRight (directions : List Direction) : Bool :=
  directions.all (fun d => [.fromRight, .arabic, .arabicNumber].contains d ||
      sharedDirections.contains d) &&
    (directions.reverse.find? (· != .mark)).any
      [.fromRight, .arabic, .arabicNumber, .number].contains &&
    !(directions.contains .number && directions.contains .arabicNumber)

/-- Whether a label keeps one direction, which its first character gives. -/
def keepsDirection (label : DomainLabel) : Bool :=
  let directions := label.shown.map direction
  match directions.head? with
  | none => true
  | some .fromLeft => areFromLeft directions
  | some .fromRight | some .arabic => areFromRight directions
  | some _ => false

/-! ## Reading -/

/-- The greatest number of characters in a label that is put into Punycode. -/
def shownLimit : Nat := 1000

/-- The greatest number of characters that are read as Punycode. -/
def carriedLimit : Nat := 2000

/-- How a label in Punycode begins. -/
def mark : List Char := "xn--".toList

/-- Whether a text beyond ASCII can be a label. -/
def isShowable (text : List Char) : Bool := !text.head?.any isMark && allFit [] text

/-- Whether a text is already in the simplified form. -/
def isSimplified (text : List Char) : Bool :=
  text.all (fun c => Domain.standsFor? c == some [c]) && Composition.compose text == text

/-- The label that is carried by Punycode. -/
def ofCarried? (code : List Char) : Option DomainLabel := do
  if !code.all Punycode.isBasic || code.isEmpty || code.getLast? = some '-' ||
    carriedLimit < code.length then none
  let shown ← Punycode.decode? code
  if !shown.all Punycode.isBasic && isSimplified shown && isShowable shown then
    some ⟨shown, mark ++ code⟩
  else none

/-- The label of a text in the simplified form. -/
def ofText? (text : List Char) : Option DomainLabel :=
  if mark.isPrefixOf text then ofCarried? (text.drop mark.length)
  else if text.all Punycode.isBasic then some ⟨text, text⟩
  else if text.length ≤ shownLimit && isShowable text then
    some ⟨text, mark ++ Punycode.encode text⟩
  else none

example : ofText? "a-1".toList = some ⟨"a-1".toList, "a-1".toList⟩ ∧
    ofText? "xn--a-".toList = none := by decide

end DomainLabel

end PageCensus
