import PageCensus.Proofs.Tally.Ranking

/-!
# Only one ranking

The order of a ranking decides between any two entries of a tally, because no token has two of them.
So there is only one way to put the entries in order.  It does not matter in which order they came,
nor what a way of sorting does with entries of the same rank, of which there are none; and "the
first `n`" means the same entries to everyone.

* `Entry.Precedes.trans`, `Entry.Precedes.asymm` — the order is strict.
* `IsSorting` — all that is asked of a way of sorting.
* `eq_ranked_of_isSorting` — whatever sorts the entries of a tally gives its ranking.
* `RankedCanonically`, `ranked_canonical` — what is to be said of a ranking and its first entries.
-/

set_option autoImplicit false

namespace PageCensus

variable {κ : Type} [Token κ]

/-! ## A strict order -/

namespace Entry

variable {a b c : Entry κ}

theorem Precedes.trans (hab : Precedes a b) (hbc : Precedes b c) : Precedes a c := by
  rcases hab with hab | ⟨hab, hkey⟩
  · rcases hbc with hbc | ⟨hbc, -⟩
    · exact Or.inl (Nat.lt_trans hbc hab)
    · exact Or.inl (hbc ▸ hab)
  · rcases hbc with hbc | ⟨hbc, hkey'⟩
    · exact Or.inl (hab ▸ hbc)
    · exact Or.inr ⟨hab.trans hbc, Std.TransCmp.lt_trans hkey hkey'⟩

theorem not_precedes_self (a : Entry κ) : ¬ Precedes a a := by
  rintro (hcount | ⟨-, hkey⟩)
  · exact Nat.lt_irrefl _ hcount
  · have hself : compare a.key a.key = .eq := Std.ReflCmp.compare_self
    rw [hself] at hkey
    cases hkey

theorem Precedes.asymm (hab : Precedes a b) : ¬ Precedes b a :=
  fun hba => not_precedes_self a (hab.trans hba)

end Entry

/-! ## Sorting -/

/-- **What is asked of a way of sorting entries**: it returns the same entries, and none in front of
one that ranks before it.  What becomes of entries of the same rank is left open. -/
structure IsSorting (entries sorted : List (Entry κ)) : Prop where
  /-- The entries are the same. -/
  perm : sorted.Perm entries
  /-- They are in order. -/
  pairwise : sorted.Pairwise fun a b => Entry.ranksBefore a b = true

namespace Tally

variable {tally : Tally κ} {list entries sorted : List (Entry κ)}

/-- **There is only one list of the entries in strict order.** -/
theorem eq_ranked (hperm : list.Perm tally.entries) (hsorted : list.Pairwise Entry.Precedes) :
    list = tally.ranked :=
  List.Perm.eq_of_pairwise (fun _ _ _ _ hab hba => absurd hba hab.asymm) hsorted
    (isRanking_ranked tally).sorted (hperm.trans (ranked_perm tally).symm)

/-- **Whatever sorts the entries of a tally gives its ranking**, from whatever order they come. -/
theorem eq_ranked_of_isSorting (hperm : entries.Perm tally.entries)
    (h : IsSorting entries sorted) : sorted = tally.ranked :=
  have hsorted := h.perm.trans hperm
  eq_ranked hsorted (pairwise_precedes hsorted h.pairwise)

/-- **The ranking of a tally, and its first entries.** -/
structure RankedCanonically (tally : Tally κ) : Prop where
  /-- The ranked entries are the one list of the entries of the tally in strict order. -/
  eq_ranked_iff : ∀ list, list = tally.ranked ↔
    list.Perm tally.entries ∧ list.Pairwise Entry.Precedes
  /-- They are those that the tally stores. -/
  mem_iff : ∀ entry, entry ∈ tally.ranked ↔ tally[entry.key]? = some entry.count
  /-- No token has two of them. -/
  nodup_keys : (tally.ranked.map Entry.key).Nodup
  /-- Whatever sorts the entries, in whatever order it finds them, gives the same list and the same
  first entries. -/
  sorting : ∀ entries sorted, entries.Perm tally.entries → IsSorting entries sorted →
    sorted = tally.ranked ∧ ∀ n, sorted.take n = tally.top n
  /-- As many first entries as there are entries are all of them. -/
  top_size : tally.top tally.size = tally.ranked
  /-- The first `n` are the first `n` of the ranking, or all of it. -/
  top_eq : ∀ n, tally.top n = tally.ranked.take (min n tally.size)
  /-- So many there are. -/
  length_top : ∀ n, (tally.top n).length = min n tally.size
  /-- Those that are left out stand behind all others. -/
  left_out : ∀ n, ∀ kept ∈ tally.top n, ∀ entry ∈ tally.entries, entry ∉ tally.top n →
    kept.Precedes entry
  /-- Fewer of them are the first of more. -/
  nested : ∀ m n, m ≤ n → tally.top m <+: tally.top n

/-- **Every tally is ranked in one way.** -/
theorem ranked_canonical (tally : Tally κ) : RankedCanonically tally := by
  have hranking := isRanking_ranked tally
  have hperm := ranked_perm tally
  constructor
  case eq_ranked_iff =>
    intro list
    constructor
    · rintro rfl
      exact ⟨hperm, hranking.sorted⟩
    · rintro ⟨hlist, hsorted⟩
      exact eq_ranked hlist hsorted
  case mem_iff => exact hranking.mem_iff
  case nodup_keys =>
    rw [List.nodup_iff_pairwise_ne, List.pairwise_map]
    exact pairwise_key_of_perm hperm
  case sorting =>
    intro entries sorted hentries h
    have heq := eq_ranked_of_isSorting hentries h
    exact ⟨heq, fun n => by rw [heq, top]⟩
  case top_size => rw [top, ← length_ranked, List.take_length]
  case top_eq =>
    intro n
    rw [top, ← length_ranked, ← List.take_eq_take_min]
  case length_top =>
    intro n
    rw [top, List.length_take, length_ranked]
  case left_out =>
    intro n kept hkept entry hentry hout
    have hsorted := hranking.sorted
    rw [← List.take_append_drop n tally.ranked, List.pairwise_append] at hsorted
    refine hsorted.2.2 kept hkept entry ?_
    have hmem := hperm.mem_iff.2 hentry
    rw [← List.take_append_drop n tally.ranked, List.mem_append] at hmem
    exact hmem.resolve_left hout
  case nested => exact fun m n h => List.take_prefix_take_left h

end Tally
end PageCensus
