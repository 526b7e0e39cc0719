import PageCensus.Tally.Basic

/-!
# Ranking a tally

Reports and files list the entries of a tally with the most frequent token first; tokens of the same
count follow each other in ascending order.  Since no token occurs twice, this order leaves nothing
open: `Tally.ranked` is the only strictly ordered list of the entries.

* `Entry.ranksBefore` — the order of two entries.
* `Tally.ranked`, `Tally.top` — all entries in this order, and the first of them.
-/

set_option autoImplicit false

namespace PageCensus

/-- A token with its count. -/
structure Entry (κ : Type) where
  /-- The token. -/
  key : κ
  /-- How often it was seen. -/
  count : Nat
deriving DecidableEq, Repr

namespace Entry

variable {κ : Type} [Token κ]

/-- The order of two entries in a ranking: the larger count first, and of two equal counts the
smaller key. -/
def order (a b : Entry κ) : Ordering := (compare b.count a.count).then (compare a.key b.key)

/-- Whether `a` may stand in front of `b`. -/
def ranksBefore (a b : Entry κ) : Bool := (order a b).isLE

/-- An entry as reports show it. -/
def text (entry : Entry κ) : String := Token.text entry.key ++ "=" ++ toString entry.count

end Entry

namespace Tally

variable {κ : Type} [Token κ]

/-- The entries of a tally, by ascending key. -/
def entries (tally : Tally κ) : List (Entry κ) := tally.toList.map fun entry => ⟨entry.1, entry.2⟩

/-- The entries of a tally, by descending count and then ascending key. -/
def ranked (tally : Tally κ) : List (Entry κ) := tally.entries.mergeSort Entry.ranksBefore

/-- The first `n` entries of the ranking, or all of them if there are fewer. -/
def top (tally : Tally κ) (n : Nat) : List (Entry κ) := tally.ranked.take n

theorem ranked_perm (tally : Tally κ) : tally.ranked.Perm tally.entries :=
  List.mergeSort_perm _ _

@[simp] theorem length_ranked (tally : Tally κ) : tally.ranked.length = tally.size := by
  rw [(ranked_perm tally).length_eq, entries, List.length_map, Std.ExtTreeMap.length_toList]

end Tally

end PageCensus
