import PageCensus.Proofs.Tally.Merge
import PageCensus.Tally.Ranking

/-!
# The ranking of a tally

A ranking of a tally lists its entries, each of them once, with the larger count first and of equal
counts the smaller key.  Nothing about it is left open, and nothing about the tally is lost.

* `Entry.Precedes` — the order of a ranking, strict because no token has two entries.
* `IsRanking`, `isRanking_ranked` — what a ranking is, and that `Tally.ranked` is one.
* `IsRanking.ofRanking_eq` — a tally is rebuilt from its ranking.
* `IsTokenRanking`, `isTokenRanking_ranked` — the ranking of the tokens of a list, without a tally
  in between.
-/

set_option autoImplicit false

namespace PageCensus

variable {κ : Type} [Token κ]

/-! ## The order of a ranking -/

namespace Entry

/-- Whether `a` has to stand in front of `b`: its count is larger, or the counts are equal and its
key is smaller. -/
def Precedes (a b : Entry κ) : Prop :=
  b.count < a.count ∨ (a.count = b.count ∧ compare a.key b.key = .lt)

theorem ranksBefore_iff {a b : Entry κ} :
    ranksBefore a b = true ↔
      b.count < a.count ∨ (a.count = b.count ∧ (compare a.key b.key).isLE = true) := by
  rw [ranksBefore, order, Ordering.isLE_then_iff_or, Nat.compare_eq_lt, Nat.compare_eq_eq,
    eq_comm (a := b.count)]

theorem ranksBefore_trans {a b c : Entry κ} (hab : ranksBefore a b = true)
    (hbc : ranksBefore b c = true) : ranksBefore a c = true := by
  rw [ranksBefore_iff] at hab hbc ⊢
  rcases hab with hab | ⟨hab, hkey⟩
  · left
    omega
  · rcases hbc with hbc | ⟨hbc, hkey'⟩
    · left
      omega
    · exact Or.inr ⟨hab.trans hbc, Std.TransCmp.isLE_trans hkey hkey'⟩

theorem ranksBefore_total (a b : Entry κ) : (ranksBefore a b || ranksBefore b a) = true := by
  rw [Bool.or_eq_true, ranksBefore_iff, ranksBefore_iff]
  rcases Nat.lt_trichotomy a.count b.count with h | h | h
  · exact Or.inr (Or.inl h)
  · cases hkey : (compare a.key b.key).isLE with
    | true => exact Or.inl (Or.inr ⟨h, rfl⟩)
    | false =>
      have hlt : compare b.key a.key = .lt :=
        Std.OrientedCmp.lt_of_not_isLE (by rw [hkey]; exact Bool.false_ne_true)
      exact Or.inr (Or.inr ⟨h.symm, by rw [hlt]; rfl⟩)
  · exact Or.inl (Or.inl h)

/-- Of two entries for different tokens one has to stand in front. -/
theorem precedes_of_ranksBefore {a b : Entry κ} (h : ranksBefore a b = true)
    (hkey : a.key ≠ b.key) : Precedes a b := by
  rcases ranksBefore_iff.1 h with hcount | ⟨hcount, hle⟩
  · exact Or.inl hcount
  · refine Or.inr ⟨hcount, ?_⟩
    cases hcompare : compare a.key b.key with
    | lt => rfl
    | eq => exact absurd (Std.compare_eq_iff_eq.1 hcompare) hkey
    | gt => rw [hcompare] at hle; cases hle

end Entry

/-! ## Rankings -/

/-- **What it means to be the ranking of a tally.** -/
structure IsRanking (tally : Tally κ) (entries : List (Entry κ)) : Prop where
  /-- The entries are those of the tally. -/
  mem_iff : ∀ entry, entry ∈ entries ↔ tally[entry.key]? = some entry.count
  /-- They stand in order, and none of them twice. -/
  sorted : entries.Pairwise Entry.Precedes

namespace Tally

theorem mem_entries {tally : Tally κ} {entry : Entry κ} :
    entry ∈ tally.entries ↔ tally[entry.key]? = some entry.count := by
  rw [entries, List.mem_map, ← Std.ExtTreeMap.mem_toList_iff_getElem?_eq_some]
  constructor
  · rintro ⟨pair, hpair, rfl⟩
    exact hpair
  · exact fun h => ⟨(entry.key, entry.count), h, rfl⟩

/-- No token has two entries. -/
theorem pairwise_key_entries (tally : Tally κ) :
    tally.entries.Pairwise fun a b => a.key ≠ b.key := by
  rw [entries, List.pairwise_map]
  refine Std.ExtTreeMap.distinct_keys_toList.imp fun hdistinct hkey => hdistinct ?_
  exact Std.compare_eq_iff_eq.2 hkey

theorem pairwise_key_of_perm {tally : Tally κ} {list : List (Entry κ)}
    (h : list.Perm tally.entries) : list.Pairwise fun a b => a.key ≠ b.key :=
  h.symm.pairwise (pairwise_key_entries tally) fun hkey => hkey.symm

/-- Among the entries of a tally there are none of the same rank. -/
theorem pairwise_precedes {tally : Tally κ} {list : List (Entry κ)} (h : list.Perm tally.entries)
    (hsorted : list.Pairwise fun a b => Entry.ranksBefore a b = true) :
    list.Pairwise Entry.Precedes :=
  hsorted.imp₂ (fun _ _ hab hkey => Entry.precedes_of_ranksBefore hab hkey) (pairwise_key_of_perm h)

/-- **The ranked entries are the ranking.** -/
theorem isRanking_ranked (tally : Tally κ) : IsRanking tally tally.ranked := by
  refine ⟨fun entry => (ranked_perm tally).mem_iff.trans mem_entries, ?_⟩
  have hsorted : tally.ranked.Pairwise fun a b => Entry.ranksBefore a b = true :=
    @List.pairwise_mergeSort _ Entry.ranksBefore (fun _ _ _ => Entry.ranksBefore_trans)
      Entry.ranksBefore_total tally.entries
  exact pairwise_precedes (ranked_perm tally) hsorted

/-! ## From a ranking back to the tally -/

/-- The tally with the entries of a ranking. -/
def ofRanking (entries : List (Entry κ)) : Tally κ :=
  ofEntries (entries.map fun entry => (entry.key, entry.count))

theorem getElem?_foldl_insert_of_not_mem {entries : List (κ × Nat)} {k : κ}
    (h : ∀ entry ∈ entries, entry.1 ≠ k) (tally : Tally κ) :
    (entries.foldl (fun tally entry => tally.insert entry.1 entry.2) tally)[k]? = tally[k]? := by
  induction entries generalizing tally with
  | nil => rfl
  | cons entry rest ih =>
    obtain ⟨hfirst, hrest⟩ := List.forall_mem_cons.1 h
    rw [List.foldl_cons, ih hrest, Std.ExtTreeMap.getElem?_insert,
      if_neg fun hk => hfirst (Std.compare_eq_iff_eq.1 hk)]

theorem getElem?_foldl_insert_of_mem {entries : List (κ × Nat)} {k : κ} {n : Nat}
    (hdistinct : entries.Pairwise fun a b => a.1 ≠ b.1) (h : (k, n) ∈ entries) (tally : Tally κ) :
    (entries.foldl (fun tally entry => tally.insert entry.1 entry.2) tally)[k]? = some n := by
  induction entries generalizing tally with
  | nil => exact absurd h List.not_mem_nil
  | cons entry rest ih =>
    obtain ⟨hfirst, hrest⟩ := List.pairwise_cons.1 hdistinct
    rw [List.foldl_cons]
    rcases List.mem_cons.1 h with rfl | h
    · rw [getElem?_foldl_insert_of_not_mem fun other hother => (hfirst other hother).symm,
        Std.ExtTreeMap.getElem?_insert_self]
    · exact ih hrest h _

end Tally

namespace IsRanking

variable {tally : Tally κ} {entries : List (Entry κ)}

theorem key_ne_of_precedes {a b : Entry κ} (ha : tally[a.key]? = some a.count)
    (hb : tally[b.key]? = some b.count) (h : Entry.Precedes a b) : a.key ≠ b.key := by
  intro hkey
  rw [hkey, hb, Option.some_inj] at ha
  rcases h with hcount | ⟨-, hlt⟩
  · omega
  · have hself : compare b.key b.key = .eq := Std.ReflCmp.compare_self
    rw [hkey, hself] at hlt
    cases hlt

/-- **A tally is rebuilt from its ranking.** -/
theorem ofRanking_eq (h : IsRanking tally entries) : Tally.ofRanking entries = tally := by
  have hdistinct : entries.Pairwise fun a b => a.key ≠ b.key :=
    h.sorted.imp_of_mem fun ha hb =>
      key_ne_of_precedes ((h.mem_iff _).1 ha) ((h.mem_iff _).1 hb)
  refine Std.ExtTreeMap.ext_getElem? fun k => ?_
  rw [Tally.ofRanking, Tally.ofEntries]
  cases hk : tally[k]? with
  | none =>
    rw [Tally.getElem?_foldl_insert_of_not_mem, Std.ExtTreeMap.getElem?_empty]
    rintro pair hpair rfl
    obtain ⟨entry, hentry, rfl⟩ := List.mem_map.1 hpair
    rw [(h.mem_iff entry).1 hentry] at hk
    cases hk
  | some n =>
    have hentry : (⟨k, n⟩ : Entry κ) ∈ entries := (h.mem_iff ⟨k, n⟩).2 hk
    have hpair : (k, n) ∈ entries.map fun entry => (entry.key, entry.count) :=
      List.mem_map.2 ⟨⟨k, n⟩, hentry, rfl⟩
    exact Tally.getElem?_foldl_insert_of_mem (List.pairwise_map.2 hdistinct) hpair ∅

/-- Two tallies with the same ranking are the same. -/
theorem tally_eq {other : Tally κ} (h : IsRanking tally entries) (h' : IsRanking other entries) :
    tally = other := by
  rw [← h.ofRanking_eq, h'.ofRanking_eq]

end IsRanking

/-! ## Rankings of lists of tokens -/

/-- **What it means to be the ranking of the tokens of a list.** -/
structure IsTokenRanking [DecidableEq κ] (tokens : List κ) (entries : List (Entry κ)) : Prop where
  /-- There is an entry for each token that says how often the token stands in the list, and no
  other. -/
  mem_iff : ∀ entry, entry ∈ entries ↔ entry.key ∈ tokens ∧ entry.count = tokens.count entry.key
  /-- They stand in order, and none of them twice. -/
  sorted : entries.Pairwise Entry.Precedes

namespace Tally

variable [DecidableEq κ]

theorem getElem?_ofTokens_eq_some {tokens : List κ} {k : κ} {n : Nat} :
    (ofTokens tokens)[k]? = some n ↔ k ∈ tokens ∧ n = tokens.count k := by
  constructor
  · intro h
    refine ⟨mem_ofTokens.1 (Std.ExtTreeMap.mem_iff_isSome_getElem?.2 (by rw [h]; rfl)), ?_⟩
    rw [← count_of_getElem? h, count_ofTokens]
  · rintro ⟨hk, rfl⟩
    obtain ⟨n, hn⟩ := Option.isSome_iff_exists.1
      (Std.ExtTreeMap.mem_iff_isSome_getElem?.1 (mem_ofTokens.2 hk))
    rw [hn, ← count_of_getElem? hn, count_ofTokens]

/-- **The tally of a list ranks the tokens of the list.** -/
theorem isTokenRanking_ranked (tokens : List κ) :
    IsTokenRanking tokens (ofTokens tokens).ranked := by
  have h := isRanking_ranked (ofTokens tokens)
  exact ⟨fun entry => (h.mem_iff entry).trans getElem?_ofTokens_eq_some, h.sorted⟩

end Tally

end PageCensus
