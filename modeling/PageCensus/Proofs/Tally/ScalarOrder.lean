import PageCensus.CountFile
import PageCensus.Proofs.Tally.Canonical
import PageCensus.Proofs.Text.ByteOrder
import PageCensus.Report

/-!
# One order for characters and words

Characters are ranked by their scalar values, words by the bytes in which they are kept.  Since
bytes come in the order of the scalar values that they encode, the two rankings agree: a tally of
characters and the tally of the words that consist of just these characters are ranked alike, and
words of the same count stand in the order of their scalar values wherever they are shown.

* `Tally.asWords` — a tally of characters as a tally of words.
* `ranked_asWords` — its ranking.
* `ScalarRanked` — entries by descending count and then ascending scalar values.
* `RankedByScalars`, `ranked_byScalars` — what is to be said of the order of rankings.
-/

set_option autoImplicit false

namespace PageCensus

/-! ## Characters as words -/

/-- A character as a word of its own, with the same count. -/
def Entry.asWord (entry : Entry Char) : Entry String := ⟨entry.key.toString, entry.count⟩

/-- A tally of characters, with the word of each character in its place. -/
def Tally.asWords (tally : Tally Char) : Tally String :=
  Tally.ofRanking (tally.entries.map Entry.asWord)

theorem scalarsOf_toString (c : Char) : scalarsOf c.toString = [c.toNat] := by
  rw [scalarsOf, Char.toString, String.toList_singleton, List.map_singleton]

theorem toString_injective {c d : Char} (h : c.toString = d.toString) : c = d := by
  have hscalars := congrArg scalarsOf h
  rw [scalarsOf_toString, scalarsOf_toString] at hscalars
  exact Char.toNat_inj.1 (List.cons.inj hscalars).1

/-- A character and its word are compared alike. -/
theorem compare_toString (c d : Char) : compare c.toString d.toString = compare c d := by
  rw [compare_eq_compare_scalarsOf, scalarsOf_toString, scalarsOf_toString,
    List.compare_cons_cons, List.compare_nil_nil, Ordering.then_eq, compare_char]

namespace Entry

/-- The order of two characters is kept. -/
theorem Precedes.asWord {a b : Entry Char} (h : Precedes a b) :
    Precedes (Entry.asWord a) (Entry.asWord b) := by
  rcases h with hcount | ⟨hcount, hkey⟩
  · exact Or.inl hcount
  · exact Or.inr ⟨hcount, (compare_toString _ _).trans hkey⟩

end Entry

namespace Tally

section

variable {κ : Type} [Token κ] {list : List (Entry κ)}

/-- A tally has the entries that it was made from. -/
theorem getElem?_ofRanking (h : list.Pairwise fun a b => a.key ≠ b.key) (k : κ) (n : Nat) :
    (ofRanking list)[k]? = some n ↔ ⟨k, n⟩ ∈ list := by
  have hdistinct : (list.map fun entry => (entry.key, entry.count)).Pairwise
      fun a b => a.1 ≠ b.1 := List.pairwise_map.2 h
  have hmem : ∀ n, ⟨k, n⟩ ∈ list → (ofRanking list)[k]? = some n := fun n hn =>
    getElem?_foldl_insert_of_mem hdistinct (List.mem_map_of_mem hn) ∅
  refine ⟨fun hn => ?_, hmem n⟩
  by_cases hk : ∃ entry ∈ list, entry.key = k
  · obtain ⟨entry, hentry, rfl⟩ := hk
    rw [hmem entry.count hentry, Option.some_inj] at hn
    exact hn ▸ hentry
  · -- no entry of the list is for `k`, and the tally began without any
    have hnone : (ofRanking list)[k]? = (∅ : Tally κ)[k]? := by
      refine getElem?_foldl_insert_of_not_mem (fun pair hpair hkey => hk ?_) ∅
      obtain ⟨entry, hentry, rfl⟩ := List.mem_map.1 hpair
      exact ⟨entry, hentry, hkey⟩
    rw [hnone, Std.ExtTreeMap.getElem?_empty] at hn
    cases hn

theorem entries_ofRanking_perm (h : list.Pairwise fun a b => a.key ≠ b.key) :
    (ofRanking list).entries.Perm list := by
  have hnodup : ∀ {list : List (Entry κ)}, (list.Pairwise fun a b => a.key ≠ b.key) → list.Nodup :=
    fun h => h.imp fun hkey heq => hkey (congrArg Entry.key heq)
  rw [List.perm_ext_iff_of_nodup (hnodup (pairwise_key_entries _)) (hnodup h)]
  exact fun entry => mem_entries.trans (getElem?_ofRanking h entry.key entry.count)

end

variable {tally : Tally Char}

theorem pairwise_key_asWord (tally : Tally Char) :
    (tally.entries.map Entry.asWord).Pairwise fun a b => a.key ≠ b.key := by
  rw [List.pairwise_map]
  exact (pairwise_key_entries tally).imp fun hkey heq => hkey (toString_injective heq)

/-- **Its entries are those of the characters.** -/
theorem getElem?_asWords {word : String} {n : Nat} :
    tally.asWords[word]? = some n ↔ ∃ c : Char, word = c.toString ∧ tally[c]? = some n := by
  rw [asWords, getElem?_ofRanking (pairwise_key_asWord tally), List.mem_map]
  constructor
  · rintro ⟨entry, hentry, hword⟩
    obtain ⟨rfl, rfl⟩ := Entry.mk.inj hword
    exact ⟨entry.key, rfl, mem_entries.1 hentry⟩
  · rintro ⟨c, rfl, hc⟩
    exact ⟨⟨c, n⟩, mem_entries.2 hc, rfl⟩

/-- **A tally of characters is ranked like that of their words.** -/
theorem ranked_asWords (tally : Tally Char) :
    tally.asWords.ranked = tally.ranked.map Entry.asWord := by
  have hperm : (tally.ranked.map Entry.asWord).Perm tally.asWords.entries :=
    ((ranked_perm tally).map _).trans (entries_ofRanking_perm (pairwise_key_asWord tally)).symm
  refine (eq_ranked hperm ?_).symm
  rw [List.pairwise_map]
  exact (isRanking_ranked tally).sorted.imp Entry.Precedes.asWord

end Tally

/-! ## Words by their scalar values -/

/-- The entries stand by descending count, and those of the same count in the order of the scalar
values of their words. -/
def ScalarRanked (entries : List (Entry String)) : Prop :=
  entries.Pairwise fun a b =>
    b.count < a.count ∨ a.count = b.count ∧ scalarsOf a.key < scalarsOf b.key

/-- The order of two words with their counts, when words are compared by their bytes. -/
def Entry.byteOrder (a b : Entry String) : Ordering :=
  (compare b.count a.count).then (compare (bytesOf a.key) (bytesOf b.key))

theorem Entry.order_eq_byteOrder (a b : Entry String) : Entry.order a b = Entry.byteOrder a b := by
  rw [Entry.order, Entry.byteOrder, compare_bytesOf, compare_eq_compare_scalarsOf]

theorem scalarRanked_ranked (tally : Tally String) : ScalarRanked tally.ranked := by
  refine (Tally.isRanking_ranked tally).sorted.imp fun h => h.imp_right fun ⟨hcount, hkey⟩ => ?_
  rw [compare_eq_compare_scalarsOf, compare_scalarsOf_eq_lt_iff] at hkey
  exact ⟨hcount, hkey⟩

/-- **Characters and words are ranked in one order**, that of scalar values. -/
structure RankedByScalars : Prop where
  /-- The bytes of texts are in the order of their scalar values. -/
  compare_bytes : ∀ x y : String,
    compare (bytesOf x) (bytesOf y) = compare (scalarsOf x) (scalarsOf y)
  /-- Words are in the order of their bytes. -/
  compare_words : ∀ x y : String, compare x y = compare (bytesOf x) (bytesOf y)
  /-- Characters are in the order of their scalar values. -/
  compare_chars : ∀ c d : Char, compare c d = compare c.toNat d.toNat
  /-- Whatever sorts the entries of a tally of words, by descending count and then by bytes, gives
  its ranking. -/
  sorting : ∀ (tally : Tally String) (sorted : List (Entry String)), sorted.Perm tally.entries →
    sorted.Pairwise (fun a b => (Entry.byteOrder a b).isLE = true) → sorted = tally.ranked
  /-- Each character of a tally can be replaced by its word. -/
  asWords : ∀ (tally : Tally Char) (word : String) (n : Nat),
    tally.asWords[word]? = some n ↔ ∃ c : Char, word = c.toString ∧ tally[c]? = some n
  /-- Then the ranking has the words in the places of their characters. -/
  ranked_asWords : ∀ tally : Tally Char, tally.asWords.ranked = tally.ranked.map Entry.asWord
  /-- So have the first entries. -/
  top_asWords : ∀ (tally : Tally Char) (n : Nat),
    tally.asWords.top n = (tally.top n).map Entry.asWord
  /-- The words of a report stand in the order of their scalar values. -/
  shown : ∀ (census : Census) (top : Nat), ∃ entries, entries <+: census.words.ranked ∧
    entries.length = min top census.words.size ∧ ScalarRanked entries ∧
    (Report.pageSummary census top).getLast? = some ("Most used words " ++ Report.list entries) ∧
    (Report.globalSummary census top).getLast? =
      some ("Global most used words " ++ Report.list entries)
  /-- So do the words of a count file. -/
  written : ∀ tally : Tally String, ∃ entries, entries.Perm tally.entries ∧
    ScalarRanked entries ∧ CountFile.render tally = String.join (entries.map CountFile.line)

/-- **The order of rankings is that of scalar values.** -/
theorem ranked_byScalars : RankedByScalars where
  compare_bytes := compare_bytesOf
  compare_words := fun x y => by rw [compare_bytesOf, compare_eq_compare_scalarsOf]
  compare_chars := compare_char
  sorting := by
    intro tally sorted hperm hsorted
    refine Tally.eq_ranked_of_isSorting hperm ⟨.refl _, hsorted.imp fun {a b} h => ?_⟩
    rw [Entry.ranksBefore, Entry.order_eq_byteOrder]
    exact h
  asWords := fun _ _ _ => Tally.getElem?_asWords
  ranked_asWords := Tally.ranked_asWords
  top_asWords := by
    intro tally n
    rw [Tally.top, Tally.ranked_asWords, ← List.map_take, Tally.top]
  shown := by
    intro census top
    refine ⟨census.words.top top, List.take_prefix _ _, ?_,
      List.Pairwise.take (scalarRanked_ranked _), rfl, rfl⟩
    rw [Tally.top, List.length_take, Tally.length_ranked]
  written := fun tally =>
    ⟨tally.ranked, Tally.ranked_perm tally, scalarRanked_ranked tally, rfl⟩

end PageCensus
