import Std.Data.ExtTreeMap

/-!
# Tallies

A tally says how often each token was seen.  Tokens are the characters or the words of a text; a
tally of either kind is a finite map from tokens to counts, in which two tallies with the same
counts are equal, whatever the order in which the tokens came.

Counts are natural numbers.  A sum, however, has to fit into 64 bits: `merge?` adds one tally to
another and gives up when a sum does not.

* `Tally.add` — see a token once more; `count_add` says what changes.
* `Tally.merge?` — add the counts of one tally to those of another, entry by entry.
-/

set_option autoImplicit false

namespace PageCensus

/-- What can be counted: tokens have a lawful total order, which also tells them apart, and a
written form. -/
class Token (κ : Type) extends Ord κ, Std.TransOrd κ, Std.LawfulEqOrd κ where
  /-- The token as it is written in reports and files. -/
  text : κ → String

/-- Characters are ordered by their scalar value. -/
instance : Token Char where
  text := Char.toString

/-- Words are ordered like their sequences of characters. -/
instance : Token String where
  text := id

/-- How often each token was seen.  A token that is absent was never seen; a token that is present
with count zero comes from a tally that was written down so. -/
abbrev Tally (κ : Type) [Token κ] := Std.ExtTreeMap κ Nat compare

/-- Sums of counts stay below this limit: they are kept in 64 bits. -/
def countLimit : Nat := 1 <<< 64

namespace Tally

variable {κ : Type} [Token κ]

/-- The count of a token, zero for an absent one. -/
def count (tally : Tally κ) (k : κ) : Nat := tally[k]?.getD 0

/-- The tally after `k` was seen once more. -/
def add (tally : Tally κ) (k : κ) : Tally κ := tally.alter k fun n => some (n.getD 0 + 1)

/-- How often each token of a list occurs in it. -/
def ofTokens (tokens : List κ) : Tally κ := tokens.foldl add ∅

/-- The sum of all counts. -/
def total (tally : Tally κ) : Nat := tally.toList.foldl (fun sum entry => sum + entry.2) 0

/-- The tally with the entries of a list; of several entries for one token the last is kept. -/
def ofEntries (entries : List (κ × Nat)) : Tally κ :=
  entries.foldl (fun tally entry => tally.insert entry.1 entry.2) ∅

/-- Raise the count of `k` by `n`, if the sum fits. -/
def raise? (tally : Tally κ) (k : κ) (n : Nat) : Option (Tally κ) :=
  if tally.count k + n < countLimit then some (tally.insert k (tally.count k + n)) else none

/-- Raise the counts of a list of entries one after the other, if every sum fits. -/
def raiseAll? (tally : Tally κ) (entries : List (κ × Nat)) : Option (Tally κ) :=
  entries.foldlM (fun tally entry => tally.raise? entry.1 entry.2) tally

/-- Add the counts of `page` to those of `tally`, if every sum fits.  The order in which the entries
of `page` are visited does not matter, because no token occurs in it twice. -/
def merge? (tally page : Tally κ) : Option (Tally κ) := tally.raiseAll? page.toList

/-! ## What the operations do to the counts -/

@[simp] theorem count_empty (k : κ) : (∅ : Tally κ).count k = 0 := by simp [count]

theorem getElem?_add (tally : Tally κ) (k l : κ) :
    (tally.add k)[l]? = if compare k l = .eq then some (tally.count k + 1) else tally[l]? := by
  simp [add, count, Std.ExtTreeMap.getElem?_alter]

theorem count_add (tally : Tally κ) (k l : κ) :
    (tally.add k).count l = tally.count l + if compare k l = .eq then 1 else 0 := by
  rw [count, getElem?_add]
  split
  · next h => rw [Std.LawfulEqOrd.eq_of_compare h]; rfl
  · rfl

theorem ofTokens_append (a b : List κ) : ofTokens (a ++ b) = b.foldl add (ofTokens a) :=
  List.foldl_append

@[simp] theorem raiseAll?_nil (tally : Tally κ) : tally.raiseAll? [] = some tally := rfl

@[simp] theorem raiseAll?_cons (tally : Tally κ) (entry : κ × Nat) (entries : List (κ × Nat)) :
    tally.raiseAll? (entry :: entries) =
      (tally.raise? entry.1 entry.2).bind fun tally => tally.raiseAll? entries := by
  simp [raiseAll?, List.foldlM_cons, Option.bind_eq_bind]

end Tally

end PageCensus
