import Mathlib.Algebra.GroupWithZero.Nat
import PageCensus.Tally.Census

/-!
# What merging does to the counts

A tally is known by two readings: which tokens it holds, and the count of each of them.  They
determine it (`Tally.ext_count`), so everything about merging is said in their terms.

* `count_ofTokens`, `mem_ofTokens` — the two readings of a tally made from a list of tokens.
* `count_of_merge?`, `mem_of_merge?` — the two readings of a merged tally: counts add up, and a
  token is there if it was in either part.
* `isSome_merge?_iff` — a merge succeeds exactly when every sum of counts stays below the limit.
* `merge?_ofTokens` — the tallies of two lists merge into the tally of both lists together.

`merge?` raises one count after the other.  A partial sum may only be compared with the limit
because it never exceeds the final one; `raisedBy`, the total by which a list of entries raises the
count of a token, is what makes this visible, and it does not depend on the order of the entries.
-/

set_option autoImplicit false

namespace PageCensus
namespace Tally

variable {κ : Type} [Token κ]

/-! ## The two readings of a tally -/

theorem count_of_getElem? {tally : Tally κ} {k : κ} {n : Nat} (h : tally[k]? = some n) :
    tally.count k = n := by
  rw [count, h, Option.getD_some]

/-- **Tokens and counts determine a tally.** -/
theorem ext_count {s t : Tally κ} (hmem : ∀ k, k ∈ s ↔ k ∈ t)
    (hcount : ∀ k, s.count k = t.count k) : s = t := by
  refine Std.ExtTreeMap.ext_getElem? fun k => ?_
  have hm := hmem k
  have hc := hcount k
  rw [Std.ExtTreeMap.mem_iff_isSome_getElem?, Std.ExtTreeMap.mem_iff_isSome_getElem?] at hm
  rw [count, count] at hc
  cases hs : s[k]? with
  | none =>
    rw [hs] at hm
    exact (Option.not_isSome_iff_eq_none.1 fun h => absurd (hm.2 h) (by simp)).symm
  | some m =>
    obtain ⟨n, ht⟩ := Option.isSome_iff_exists.1 (hm.1 (by rw [hs]; rfl))
    rw [hs, ht, Option.getD_some, Option.getD_some] at hc
    rw [ht, hc]

theorem mem_add {tally : Tally κ} {k l : κ} : l ∈ tally.add k ↔ k = l ∨ l ∈ tally := by
  rw [add, Std.ExtTreeMap.mem_alter]
  by_cases h : compare k l = .eq
  · rw [if_pos h]
    exact ⟨fun _ => Or.inl (Std.compare_eq_iff_eq.1 h), fun _ => rfl⟩
  · rw [if_neg h]
    exact ⟨Or.inr, fun h' => h'.resolve_left fun hkl => h (Std.compare_eq_iff_eq.2 hkl)⟩

theorem count_insert (tally : Tally κ) (k l : κ) (n : Nat) :
    Tally.count (tally.insert k n) l = if compare k l = .eq then n else tally.count l := by
  rw [count, Std.ExtTreeMap.getElem?_insert]
  split
  · rfl
  · rfl

/-! ## Tallies of lists of tokens -/

theorem mem_foldl_add (tokens : List κ) (tally : Tally κ) (k : κ) :
    k ∈ tokens.foldl add tally ↔ k ∈ tally ∨ k ∈ tokens := by
  induction tokens generalizing tally with
  | nil => simp
  | cons t tokens ih =>
    rw [List.foldl_cons, ih, mem_add, List.mem_cons, or_comm (a := t = k), or_assoc,
      eq_comm (a := t)]

/-- The tally of a list holds the tokens of the list. -/
@[simp] theorem mem_ofTokens {tokens : List κ} {k : κ} : k ∈ ofTokens tokens ↔ k ∈ tokens := by
  rw [ofTokens, mem_foldl_add]
  simp

theorem count_foldl_add [DecidableEq κ] (tokens : List κ) (tally : Tally κ) (k : κ) :
    (tokens.foldl add tally).count k = tally.count k + tokens.count k := by
  induction tokens generalizing tally with
  | nil => simp
  | cons t tokens ih =>
    rw [List.foldl_cons, ih, count_add, List.count_cons, Nat.add_assoc,
      Nat.add_comm (List.count k tokens)]
    simp only [Std.compare_eq_iff_eq, beq_iff_eq]

/-- The tally of a list counts how often a token stands in the list. -/
@[simp] theorem count_ofTokens [DecidableEq κ] (tokens : List κ) (k : κ) :
    (ofTokens tokens).count k = tokens.count k := by
  rw [ofTokens, count_foldl_add, count_empty, Nat.zero_add]

/-- The order in which tokens come does not matter to their tally. -/
theorem ofTokens_perm {a b : List κ} (h : a.Perm b) : ofTokens a = ofTokens b := by
  classical
  refine ext_count (fun k => ?_) fun k => ?_
  · rw [mem_ofTokens, mem_ofTokens, h.mem_iff]
  · rw [count_ofTokens, count_ofTokens, h.count_eq]

/-- What is stored for a token that was seen is never zero. -/
theorem one_le_of_getElem?_ofTokens {tokens : List κ} {k : κ} {n : Nat}
    (h : (ofTokens tokens)[k]? = some n) : 1 ≤ n := by
  classical
  have hk : k ∈ tokens :=
    mem_ofTokens.1 (Std.ExtTreeMap.mem_iff_isSome_getElem?.2 (by rw [h]; rfl))
  rw [← count_of_getElem? h, count_ofTokens]
  exact List.one_le_count_iff.2 hk

/-! ## Raising counts by a list of entries -/

/-- By how much a list of entries raises the count of a token. -/
def raisedBy (entries : List (κ × Nat)) (k : κ) : Nat :=
  (entries.map fun entry => if compare entry.1 k = .eq then entry.2 else 0).sum

@[simp] theorem raisedBy_nil (k : κ) : raisedBy [] k = 0 := rfl

@[simp] theorem raisedBy_cons (entry : κ × Nat) (entries : List (κ × Nat)) (k : κ) :
    raisedBy (entry :: entries) k =
      (if compare entry.1 k = .eq then entry.2 else 0) + raisedBy entries k := by
  rw [raisedBy, List.map_cons, List.sum_cons]
  rfl

theorem raisedBy_eq_zero {entries : List (κ × Nat)} {k : κ} (h : ∀ entry ∈ entries, entry.1 ≠ k) :
    raisedBy entries k = 0 := by
  induction entries with
  | nil => rfl
  | cons entry entries ih =>
    rw [raisedBy_cons, ih fun e he => h e (List.mem_cons_of_mem _ he), if_neg]
    exact fun hk => h entry List.mem_cons_self (Std.compare_eq_iff_eq.1 hk)

/-- If no token has two entries, an entry raises its token by what it says. -/
theorem raisedBy_eq_of_mem {entries : List (κ × Nat)} {k : κ} {n : Nat}
    (hdistinct : entries.Pairwise fun a b => ¬ compare a.1 b.1 = .eq) (h : (k, n) ∈ entries) :
    raisedBy entries k = n := by
  induction entries with
  | nil => simp at h
  | cons entry entries ih =>
    obtain ⟨hhead, htail⟩ := List.pairwise_cons.1 hdistinct
    rw [raisedBy_cons]
    rcases List.mem_cons.1 h with rfl | hmem
    · rw [if_pos Std.ReflCmp.compare_self, raisedBy_eq_zero, Nat.add_zero]
      exact fun e he hk => hhead e he (Std.compare_eq_iff_eq.2 hk.symm)
    · rw [if_neg (hhead _ hmem), Nat.zero_add, ih htail hmem]

/-- The entries of a tally raise each token by its count. -/
theorem raisedBy_toList (tally : Tally κ) (k : κ) : raisedBy tally.toList k = tally.count k := by
  cases h : tally[k]? with
  | none =>
    rw [count, h, Option.getD_none]
    refine raisedBy_eq_zero fun entry hentry hk => ?_
    have hsome : tally[entry.1]? = some entry.2 :=
      Std.ExtTreeMap.mem_toList_iff_getElem?_eq_some.1 hentry
    rw [hk, h] at hsome
    cases hsome
  | some n =>
    rw [count_of_getElem? h]
    exact raisedBy_eq_of_mem Std.ExtTreeMap.distinct_keys_toList
      (Std.ExtTreeMap.mem_toList_iff_getElem?_eq_some.2 h)

theorem raise?_eq_some {tally sum : Tally κ} {k : κ} {n : Nat} :
    tally.raise? k n = some sum ↔
      tally.count k + n < countLimit ∧ tally.insert k (tally.count k + n) = sum := by
  rw [raise?]
  split
  · next h => simp [h]
  · next h => simp [h]

theorem count_of_raise? {tally sum : Tally κ} {k : κ} {n : Nat} (h : tally.raise? k n = some sum)
    (l : κ) : sum.count l = tally.count l + if compare k l = .eq then n else 0 := by
  obtain ⟨-, rfl⟩ := raise?_eq_some.1 h
  rw [count_insert]
  split
  · next hkl => rw [Std.compare_eq_iff_eq.1 hkl]
  · rfl

/-- **Raised counts are sums.** -/
theorem count_of_raiseAll? {entries : List (κ × Nat)} {tally sum : Tally κ}
    (h : tally.raiseAll? entries = some sum) (k : κ) :
    sum.count k = tally.count k + raisedBy entries k := by
  induction entries generalizing tally with
  | nil =>
    rw [raiseAll?_nil, Option.some_inj] at h
    rw [h, raisedBy_nil, Nat.add_zero]
  | cons entry entries ih =>
    rw [raiseAll?_cons, Option.bind_eq_some_iff] at h
    obtain ⟨raised, hraised, hrest⟩ := h
    rw [ih hrest, count_of_raise? hraised, raisedBy_cons, Nat.add_assoc]

theorem mem_of_raiseAll? {entries : List (κ × Nat)} {tally sum : Tally κ}
    (h : tally.raiseAll? entries = some sum) (k : κ) :
    k ∈ sum ↔ k ∈ tally ∨ k ∈ entries.map Prod.fst := by
  induction entries generalizing tally with
  | nil =>
    rw [raiseAll?_nil, Option.some_inj] at h
    rw [h]
    simp
  | cons entry entries ih =>
    rw [raiseAll?_cons, Option.bind_eq_some_iff] at h
    obtain ⟨raised, hraised, hrest⟩ := h
    obtain ⟨-, rfl⟩ := raise?_eq_some.1 hraised
    rw [ih hrest, Std.ExtTreeMap.mem_insert, Std.compare_eq_iff_eq, List.map_cons, List.mem_cons,
      or_comm (a := entry.1 = k), or_assoc, eq_comm (a := entry.1)]

/-- **Counts can be raised exactly when every sum fits.**  Each raised count is compared with the
limit before the next entry is looked at; since counts only grow, the last comparison for a token
decides. -/
theorem isSome_raiseAll?_iff {entries : List (κ × Nat)} {tally : Tally κ} :
    (tally.raiseAll? entries).isSome ↔
      ∀ entry ∈ entries, tally.count entry.1 + raisedBy entries entry.1 < countLimit := by
  induction entries generalizing tally with
  | nil => simp
  | cons entry entries ih =>
    rw [raiseAll?_cons]
    have hself : compare entry.1 entry.1 = .eq := Std.ReflCmp.compare_self
    cases hraise : tally.raise? entry.1 entry.2 with
    | none =>
      rw [Option.bind_none]
      refine ⟨fun h => by simp at h, fun h => ?_⟩
      have hfit := h entry List.mem_cons_self
      rw [raisedBy_cons, if_pos hself] at hfit
      rw [raise?, if_pos (by omega)] at hraise
      cases hraise
    | some raised =>
      have hfit : tally.count entry.1 + entry.2 < countLimit := (raise?_eq_some.1 hraise).1
      rw [Option.bind_some, ih]
      constructor
      · intro h e he
        rw [raisedBy_cons]
        rcases List.mem_cons.1 he with rfl | he
        · -- the head: later entries for its token have been checked if there are any
          by_cases hlater : ∃ e' ∈ entries, e'.1 = e.1
          · obtain ⟨e', he', hkey⟩ := hlater
            have hlast := h e' he'
            rw [count_of_raise? hraise, hkey, if_pos hself] at hlast
            rw [if_pos hself]
            omega
          · rw [if_pos hself, raisedBy_eq_zero fun e' he' hkey => hlater ⟨e', he', hkey⟩]
            omega
        · have hlast := h e he
          rw [count_of_raise? hraise] at hlast
          omega
      · intro h e he
        have hlast := h e (List.mem_cons_of_mem _ he)
        rw [raisedBy_cons] at hlast
        rw [count_of_raise? hraise]
        omega

/-! ## Merging -/

/-- **Merged counts are sums.** -/
theorem count_of_merge? {tally page sum : Tally κ} (h : tally.merge? page = some sum) (k : κ) :
    sum.count k = tally.count k + page.count k := by
  rw [count_of_raiseAll? h, raisedBy_toList]

/-- A merged tally holds the tokens of both parts. -/
theorem mem_of_merge? {tally page sum : Tally κ} (h : tally.merge? page = some sum) (k : κ) :
    k ∈ sum ↔ k ∈ tally ∨ k ∈ page := by
  rw [mem_of_raiseAll? h, Std.ExtTreeMap.map_fst_toList_eq_keys, Std.ExtTreeMap.mem_keys]

/-- **A merge succeeds exactly when every sum of counts fits.** -/
theorem isSome_merge?_iff {tally page : Tally κ} :
    (tally.merge? page).isSome ↔ ∀ k ∈ page, tally.count k + page.count k < countLimit := by
  rw [merge?, isSome_raiseAll?_iff]
  simp only [raisedBy_toList]
  constructor
  · intro h k hk
    obtain ⟨n, hn⟩ := Option.isSome_iff_exists.1 (Std.ExtTreeMap.mem_iff_isSome_getElem?.1 hk)
    exact h (k, n) (Std.ExtTreeMap.mem_toList_iff_getElem?_eq_some.2 hn)
  · intro h entry hentry
    have hsome : page[entry.1]? = some entry.2 :=
      Std.ExtTreeMap.mem_toList_iff_getElem?_eq_some.1 hentry
    exact h entry.1 (Std.ExtTreeMap.mem_iff_isSome_getElem?.2 (by rw [hsome]; rfl))

/-- A merged tally of two lists can only be the tally of both lists together. -/
theorem eq_of_merge?_ofTokens {a b : List κ} {sum : Tally κ}
    (h : (ofTokens a).merge? (ofTokens b) = some sum) : sum = ofTokens (a ++ b) := by
  classical
  refine ext_count (fun k => ?_) fun k => ?_
  · rw [mem_of_merge? h, mem_ofTokens, mem_ofTokens, mem_ofTokens, List.mem_append]
  · rw [count_of_merge? h, count_ofTokens, count_ofTokens, count_ofTokens, List.count_append]

/-- **Counting two lists apart and merging is counting them together**, as long as there are fewer
tokens than a count can hold. -/
theorem merge?_ofTokens {a b : List κ} (h : a.length + b.length < countLimit) :
    (ofTokens a).merge? (ofTokens b) = some (ofTokens (a ++ b)) := by
  classical
  have hfits : ((ofTokens a).merge? (ofTokens b)).isSome := by
    refine isSome_merge?_iff.2 fun k _ => ?_
    rw [count_ofTokens, count_ofTokens]
    have ha := List.count_le_length (a := k) (l := a)
    have hb := List.count_le_length (a := k) (l := b)
    omega
  obtain ⟨sum, hsum⟩ := Option.isSome_iff_exists.1 hfits
  rw [hsum, eq_of_merge?_ofTokens hsum]

end Tally
end PageCensus
