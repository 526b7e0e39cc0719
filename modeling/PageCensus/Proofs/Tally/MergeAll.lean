import Mathlib.Algebra.Order.BigOperators.Group.List
import Mathlib.Algebra.Order.Group.Nat
import PageCensus.Proofs.Tally.Merge

/-!
# Merging many tallies

Tallies are merged one after the other into an empty one, or in groups whose sums are merged in
turn, and each time the entries of the tally that is added are visited in some order.  Nothing of
this matters: what comes out can be told from the tallies alone.  If the counts of every token add
up to less than the limit, it is the tally of these sums; otherwise the merge that first goes beyond
the limit gives up.

The reason is that counts are never negative.  A sum that is too large on the way is part of one
that is too large in the end, so it does not matter where it is noticed.

* `SumsTo` — what several tallies come to; `SumsTo.merge?` says that merging two sums keeps it so.
* `Traversal`, `raiseAll?_eq_merge?` — the order in which the entries of a tally are visited.
* `MergePlan` — merges put together in any way.
* `MergesExactly`, `mergesExactly_of_fits` — what merging does, step by step and as a whole.
-/

set_option autoImplicit false

namespace PageCensus
namespace Tally

variable {κ : Type} [Token κ]

/-! ## What several tallies come to -/

/-- The counts of a token in several tallies, added up. -/
def countIn (tallies : List (Tally κ)) (k : κ) : Nat :=
  (tallies.map fun tally => tally.count k).sum

theorem countIn_singleton (tally : Tally κ) (k : κ) : countIn [tally] k = tally.count k := by
  simp [countIn]

theorem countIn_append (a b : List (Tally κ)) (k : κ) :
    countIn (a ++ b) k = countIn a k + countIn b k := by
  simp [countIn]

theorem countIn_perm {a b : List (Tally κ)} (h : a.Perm b) (k : κ) : countIn a k = countIn b k :=
  (h.map _).sum_nat

/-- **The exact sum of several tallies.** -/
structure IsSum (tallies : List (Tally κ)) (sum : Tally κ) : Prop where
  /-- It holds the tokens that one of the tallies holds. -/
  mem_iff : ∀ k, k ∈ sum ↔ ∃ tally ∈ tallies, k ∈ tally
  /-- Each has the sum of its counts. -/
  count_eq : ∀ k, sum.count k = countIn tallies k

/-- **What several tallies come to** if their counts have to stay below the limit. -/
inductive SumsTo (tallies : List (Tally κ)) : Option (Tally κ) → Prop where
  /-- If every sum of counts fits, it is their sum. -/
  | sum {sum : Tally κ} (h : IsSum tallies sum) (fits : ∀ k, countIn tallies k < countLimit) :
      SumsTo tallies (some sum)
  /-- If one of them does not, there is none. -/
  | tooLarge {k : κ} (h : countLimit ≤ countIn tallies k) : SumsTo tallies none

/-- Whether all counts of a tally are held in 64 bits. -/
def Fits (tally : Tally κ) : Prop := ∀ entry ∈ tally.toList, entry.2 < countLimit

theorem count_eq_zero {tally : Tally κ} {k : κ} (h : k ∉ tally) : tally.count k = 0 := by
  rw [count, Std.ExtTreeMap.getElem?_eq_none h, Option.getD_none]

theorem Fits.count_lt {tally : Tally κ} (h : tally.Fits) (k : κ) : tally.count k < countLimit := by
  cases hk : tally[k]? with
  | none =>
    rw [count, hk]
    decide
  | some n =>
    rw [count_of_getElem? hk]
    exact h (k, n) (Std.ExtTreeMap.mem_toList_iff_getElem?_eq_some.2 hk)

namespace SumsTo

variable {a b : List (Tally κ)} {s t : Tally κ} {outcome outcome' : Option (Tally κ)}

theorem nil : SumsTo [] (some (∅ : Tally κ)) :=
  .sum ⟨by simp, fun k => count_empty k⟩ fun _ => (by decide : 0 < countLimit)

theorem singleton (h : s.Fits) : SumsTo [s] (some s) := by
  refine .sum ⟨by simp, fun k => (countIn_singleton s k).symm⟩ fun k => ?_
  rw [countIn_singleton]
  exact h.count_lt k

/-- The tallies alone decide what they come to. -/
theorem unique (h : SumsTo a outcome) (h' : SumsTo a outcome') : outcome = outcome' := by
  cases h with
  | sum hsum hfits =>
    cases h' with
    | sum hsum' =>
      refine congrArg some (ext_count (fun k => ?_) fun k => ?_)
      · rw [hsum.mem_iff, hsum'.mem_iff]
      · rw [hsum.count_eq, hsum'.count_eq]
    | tooLarge hlarge => exact absurd (hfits _) (Nat.not_lt.2 hlarge)
  | tooLarge hlarge =>
    cases h' with
    | sum hsum hfits => exact absurd (hfits _) (Nat.not_lt.2 hlarge)
    | tooLarge => rfl

theorem isSum (h : SumsTo a (some s)) : IsSum a s := by
  cases h with
  | sum hsum => exact hsum

theorem eq_none_iff (h : SumsTo a outcome) :
    outcome = none ↔ ∃ k, countLimit ≤ countIn a k := by
  cases h with
  | sum hsum hfits => simpa using hfits
  | @tooLarge k hlarge => exact ⟨fun _ => ⟨k, hlarge⟩, fun _ => rfl⟩

/-- Their order does not. -/
theorem perm (h : SumsTo a outcome) (hperm : a.Perm b) : SumsTo b outcome := by
  cases h with
  | sum hsum hfits =>
    refine .sum ⟨fun k => ?_, fun k => ?_⟩ fun k => ?_
    · simp only [hsum.mem_iff, hperm.mem_iff]
    · rw [hsum.count_eq, countIn_perm hperm]
    · rw [← countIn_perm hperm]
      exact hfits k
  | tooLarge hlarge => exact .tooLarge (countIn_perm hperm _ ▸ hlarge)

/-- What is too large stays so when more is added. -/
theorem none_append (h : SumsTo a none) (b : List (Tally κ)) : SumsTo (a ++ b) none := by
  cases h with
  | @tooLarge k hlarge =>
    refine .tooLarge (k := k) ?_
    rw [countIn_append]
    exact Nat.le_add_right_of_le hlarge

theorem append_none (h : SumsTo b none) (a : List (Tally κ)) : SumsTo (a ++ b) none :=
  (h.none_append a).perm List.perm_append_comm

/-- **Merging two sums** gives the sum of all their tallies, or gives up if that is too large. -/
theorem merge? (ha : SumsTo a (some s)) (hb : SumsTo b (some t)) :
    SumsTo (a ++ b) (s.merge? t) := by
  cases ha with | sum hs hsfits =>
  cases hb with | sum ht htfits =>
  have hcount : ∀ k, countIn (a ++ b) k = s.count k + t.count k := by
    intro k
    rw [countIn_append, hs.count_eq, ht.count_eq]
  cases hmerge : s.merge? t with
  | some sum =>
    refine .sum ⟨fun k => ?_, fun k => ?_⟩ fun k => ?_
    · simp only [mem_of_merge? hmerge, hs.mem_iff, ht.mem_iff, List.mem_append, or_and_right,
        exists_or]
    · rw [count_of_merge? hmerge, hcount]
    · rw [hcount]
      by_cases hk : k ∈ t
      · exact isSome_merge?_iff.1 (by rw [hmerge]; rfl) k hk
      · rw [count_eq_zero hk, hs.count_eq]
        exact hsfits k
  | none =>
    have hlarge : ¬ ∀ k ∈ t, s.count k + t.count k < countLimit := fun h => by
      have hsome := isSome_merge?_iff.2 h
      rw [hmerge] at hsome
      cases hsome
    obtain ⟨k, hk⟩ := not_forall.1 hlarge
    refine .tooLarge (k := k) ?_
    rw [hcount]
    exact Nat.not_lt.1 fun hlt => hk fun _ => hlt

/-- **Merging tally after tally** into a sum gives the sum of them all, or gives up. -/
theorem foldlM_merge? (h : SumsTo a (some s)) (hfits : ∀ tally ∈ b, tally.Fits) :
    SumsTo (a ++ b) (b.foldlM Tally.merge? s) := by
  induction b generalizing a s with
  | nil => simpa using h
  | cons tally rest ih =>
    obtain ⟨hfirst, hrest⟩ := List.forall_mem_cons.1 hfits
    have hstep := h.merge? (singleton hfirst)
    rw [List.foldlM_cons, ← List.singleton_append, ← List.append_assoc]
    cases hmerge : s.merge? tally with
    | some sum =>
      rw [hmerge] at hstep
      exact ih hstep hrest
    | none =>
      rw [hmerge] at hstep
      exact hstep.none_append rest

end SumsTo

/-! ## The order of the entries -/

theorem raisedBy_perm {entries entries' : List (κ × Nat)} (h : entries.Perm entries') (k : κ) :
    raisedBy entries k = raisedBy entries' k := (h.map _).sum_nat

/-- **The order in which entries are visited does not matter.** -/
theorem raiseAll?_eq_merge? {tally page : Tally κ} {entries : List (κ × Nat)}
    (h : entries.Perm page.toList) : tally.raiseAll? entries = tally.merge? page := by
  have hsome : (tally.raiseAll? entries).isSome ↔ (tally.merge? page).isSome := by
    rw [Tally.merge?, isSome_raiseAll?_iff, isSome_raiseAll?_iff]
    simp only [h.mem_iff, raisedBy_perm h]
  cases hmerge : tally.merge? page with
  | none =>
    rw [hmerge] at hsome
    exact Option.not_isSome_iff_eq_none.1 fun hraise => by cases hsome.1 hraise
  | some sum =>
    rw [hmerge] at hsome
    obtain ⟨sum', hsum'⟩ := Option.isSome_iff_exists.1 (hsome.2 rfl)
    rw [hsum', Option.some_inj]
    refine ext_count (fun k => ?_) fun k => ?_
    · rw [mem_of_raiseAll? hsum', mem_of_raiseAll? hmerge, (h.map Prod.fst).mem_iff]
    · rw [count_of_raiseAll? hsum', count_of_raiseAll? hmerge, raisedBy_perm h]

/-- A way through a tally. -/
structure Traversal (κ : Type) [Token κ] where
  /-- The tally. -/
  tally : Tally κ
  /-- Its entries, in the order in which they are visited. -/
  entries : List (κ × Nat)
  /-- They are its entries, each of them once. -/
  perm : entries.Perm tally.toList

/-- Merge tallies one after the other into the empty one, if every sum fits; the entries of each are
visited as given. -/
def mergeEach? (pages : List (Traversal κ)) : Option (Tally κ) :=
  pages.foldlM (fun sum page => sum.raiseAll? page.entries) ∅

theorem mergeEach?_eq (pages : List (Traversal κ)) :
    mergeEach? pages = (pages.map Traversal.tally).foldlM merge? ∅ := by
  have hstep : ∀ (sum : Tally κ) (page : Traversal κ),
      sum.raiseAll? page.entries = sum.merge? page.tally :=
    fun _ page => raiseAll?_eq_merge? page.perm
  rw [mergeEach?, List.foldlM_map]
  simp only [hstep]

/-- **Merging tallies one after the other gives what they come to.** -/
theorem sumsTo_mergeEach? {pages : List (Traversal κ)}
    (h : ∀ tally ∈ pages.map Traversal.tally, tally.Fits) :
    SumsTo (pages.map Traversal.tally) (mergeEach? pages) := by
  rw [mergeEach?_eq]
  exact SumsTo.nil.foldlM_merge? h

/-! ## Step by step -/

/-- Whether merging one tally after the other gets as far as to the tally at place `i`, and gives up
there. -/
def GivesUpAt (pages : List (Traversal κ)) (i : Nat) : Prop :=
  ∃ sum page, mergeEach? (pages.take i) = some sum ∧ pages[i]? = some page ∧
    sum.raiseAll? page.entries = none

theorem mergeEach?_take_succ {pages : List (Traversal κ)} {i : Nat} {page : Traversal κ}
    (h : pages[i]? = some page) : mergeEach? (pages.take (i + 1)) =
      (mergeEach? (pages.take i)).bind fun sum => sum.raiseAll? page.entries := by
  rw [List.take_add_one, h, mergeEach?, List.foldlM_append]
  simp only [Option.toList_some, List.foldlM_cons, List.foldlM_nil, bind_pure]
  rfl

/-- A sum is reached exactly if no step before has given up. -/
theorem isSome_mergeEach?_take_iff {pages : List (Traversal κ)} {i : Nat} (h : i ≤ pages.length) :
    (mergeEach? (pages.take i)).isSome ↔ ∀ j < i, ¬ GivesUpAt pages j := by
  induction i with
  | zero => exact ⟨fun _ _ hj => absurd hj (Nat.not_lt_zero _), fun _ => rfl⟩
  | succ i ih =>
    have hpage : pages[i]? = some pages[i] := List.getElem?_eq_getElem h
    rw [mergeEach?_take_succ hpage, Nat.forall_lt_succ_right, ← ih (Nat.le_of_lt h)]
    cases hsum : mergeEach? (pages.take i) with
    | none => simp
    | some sum =>
      cases hraise : sum.raiseAll? pages[i].entries with
      | none =>
        have hgives : GivesUpAt pages i := ⟨sum, pages[i], hsum, hpage, hraise⟩
        simp [hraise, hgives]
      | some raised =>
        have hkeeps : ¬ GivesUpAt pages i := by
          rintro ⟨sum', page, hsum', hpage', hraise'⟩
          rw [hsum, Option.some_inj] at hsum'
          rw [hpage, Option.some_inj] at hpage'
          rw [← hsum', ← hpage', hraise] at hraise'
          cases hraise'
        simp [hraise, hkeeps]

theorem givesUpAt_iff {pages : List (Traversal κ)} {i : Nat} (h : i < pages.length) :
    GivesUpAt pages i ↔
      mergeEach? (pages.take (i + 1)) = none ∧ ∀ j < i, ¬ GivesUpAt pages j := by
  have hnext := isSome_mergeEach?_take_iff (Nat.succ_le_of_lt h)
  rw [Nat.forall_lt_succ_right] at hnext
  constructor
  · intro hgives
    have ⟨sum, _, hsum, _⟩ := hgives
    refine ⟨Option.not_isSome_iff_eq_none.1 fun hsome => (hnext.1 hsome).2 hgives, ?_⟩
    exact (isSome_mergeEach?_take_iff (Nat.le_of_lt h)).1 (by rw [hsum]; rfl)
  · rintro ⟨hnone, hkeeps⟩
    by_contra hgives
    have hsome := hnext.2 ⟨hkeeps, hgives⟩
    rw [hnone] at hsome
    cases hsome

/-! ## Merges put together -/

/-- A way to put merges together: a tally is merged into another, and each of the two is given or
comes from merges itself. -/
inductive MergePlan (κ : Type) [Token κ] where
  /-- The empty tally, before anything is merged into it. -/
  | nothing
  /-- A tally that is given. -/
  | page (tally : Tally κ)
  /-- What the second comes to is merged into what the first comes to. -/
  | merge (first second : MergePlan κ)

namespace MergePlan

/-- The tallies that are given. -/
def pages : MergePlan κ → List (Tally κ)
  | nothing => []
  | page tally => [tally]
  | merge first second => first.pages ++ second.pages

/-- **What merges may come to**, whatever the orders in which entries are visited. -/
inductive Outcome : MergePlan κ → Option (Tally κ) → Prop where
  /-- Nothing was merged. -/
  | nothing : Outcome nothing (some ∅)
  /-- A given tally is taken as it is. -/
  | page (tally : Tally κ) : Outcome (page tally) (some tally)
  /-- The entries of the second are visited in some order. -/
  | merge {first second : MergePlan κ} {sum : Tally κ} {added : Traversal κ}
      (hfirst : Outcome first (some sum)) (hsecond : Outcome second (some added.tally)) :
      Outcome (merge first second) (sum.raiseAll? added.entries)
  /-- The first was given up. -/
  | first {first second : MergePlan κ} (h : Outcome first none) : Outcome (merge first second) none
  /-- The second was given up. -/
  | second {first second : MergePlan κ} (h : Outcome second none) :
      Outcome (merge first second) none

theorem exists_outcome (plan : MergePlan κ) : ∃ outcome, plan.Outcome outcome := by
  induction plan with
  | nothing => exact ⟨_, .nothing⟩
  | page tally => exact ⟨_, .page tally⟩
  | merge first second ihfirst ihsecond =>
    obtain ⟨_ | sum, hfirst⟩ := ihfirst
    · exact ⟨_, .first hfirst⟩
    · obtain ⟨_ | added, hsecond⟩ := ihsecond
      · exact ⟨_, .second hsecond⟩
      · let traversal : Traversal κ := ⟨added, added.toList, .refl _⟩
        exact ⟨sum.raiseAll? traversal.entries, .merge hfirst hsecond⟩

/-- **However merges are put together, they come to what their tallies come to.** -/
theorem Outcome.sumsTo {plan : MergePlan κ} {outcome : Option (Tally κ)} (h : plan.Outcome outcome)
    (hfits : ∀ tally ∈ plan.pages, tally.Fits) : SumsTo plan.pages outcome := by
  induction h with
  | nothing => exact .nil
  | page tally => exact .singleton (hfits tally List.mem_cons_self)
  | @merge _ _ sum added _ _ ihfirst ihsecond =>
    obtain ⟨hfirst, hsecond⟩ := List.forall_mem_append.1 hfits
    rw [raiseAll?_eq_merge? added.perm]
    exact (ihfirst hfirst).merge? (ihsecond hsecond)
  | first _ ih => exact (ih (List.forall_mem_append.1 hfits).1).none_append _
  | second _ ih => exact (ih (List.forall_mem_append.1 hfits).2).append_none _

end MergePlan

/-! ## What merging does -/

/-- Whether no token of a tally has the count zero. -/
def Positive (tally : Tally κ) : Prop := ∀ k ∈ tally, 1 ≤ tally.count k

theorem IsSum.positive {tallies : List (Tally κ)} {sum : Tally κ} (h : IsSum tallies sum)
    (hpositive : ∀ tally ∈ tallies, tally.Positive) : sum.Positive := by
  intro k hk
  obtain ⟨tally, htally, hmem⟩ := (h.mem_iff k).1 hk
  rw [h.count_eq]
  calc 1 ≤ tally.count k := hpositive tally htally k hmem
    _ ≤ countIn tallies k := List.le_sum_of_mem (List.mem_map_of_mem htally)

/-- **What merging tallies into the empty one does**, where the entries of each are visited in some
order. -/
structure MergesExactly (pages : List (Traversal κ)) : Prop where
  /-- A step gives up exactly if the counts of a token in the tallies so far add up to more than can
  be held, and no step before it has given up. -/
  givesUpAt_iff : ∀ i < pages.length, GivesUpAt pages i ↔
    (∃ k, countLimit ≤ countIn ((pages.take (i + 1)).map Traversal.tally) k) ∧
      ∀ j < i, ¬ GivesUpAt pages j
  /-- After steps of which none gives up, the result is the exact sum of the tallies so far. -/
  isSum : ∀ i ≤ pages.length, (∀ j < i, ¬ GivesUpAt pages j) →
    ∃ sum, mergeEach? (pages.take i) = some sum ∧
      IsSum ((pages.take i).map Traversal.tally) sum
  /-- There is no result in the end exactly if a step gives up. -/
  eq_none_iff : mergeEach? pages = none ↔ ∃ i < pages.length, GivesUpAt pages i
  /-- Neither the order of the tallies nor those of their entries matter to the result. -/
  reordered : ∀ pages' : List (Traversal κ),
    (pages'.map Traversal.tally).Perm (pages.map Traversal.tally) →
      mergeEach? pages' = mergeEach? pages
  /-- Merging by `merge?`, which visits the entries in ascending order, has this result too. -/
  ascending : (pages.map Traversal.tally).foldlM merge? ∅ = mergeEach? pages
  /-- Merges of the same tallies that are put together in another way come to the same result, and
  to no other. -/
  regrouped : ∀ plan : MergePlan κ, plan.pages.Perm (pages.map Traversal.tally) →
    ∀ outcome, plan.Outcome outcome ↔ outcome = mergeEach? pages
  /-- If no tally has a count of zero, no result after any step has one. -/
  positive : (∀ page ∈ pages, page.tally.Positive) → ∀ i sum,
    mergeEach? (pages.take i) = some sum → sum.Positive

/-- **Merging adds up exactly**, as long as all counts are held in 64 bits. -/
theorem mergesExactly_of_fits {pages : List (Traversal κ)} (h : ∀ page ∈ pages, page.tally.Fits) :
    MergesExactly pages := by
  have hfits : ∀ tally ∈ pages.map Traversal.tally, tally.Fits := List.forall_mem_map.2 h
  have hall : SumsTo (pages.map Traversal.tally) (mergeEach? pages) := sumsTo_mergeEach? hfits
  have hsums : ∀ i, SumsTo ((pages.take i).map Traversal.tally) (mergeEach? (pages.take i)) :=
    fun i => sumsTo_mergeEach? fun tally htally =>
      hfits tally (((List.take_sublist i pages).map _).subset htally)
  constructor
  case givesUpAt_iff =>
    intro i hi
    rw [givesUpAt_iff hi, (hsums (i + 1)).eq_none_iff]
  case isSum =>
    intro i hi hkeeps
    obtain ⟨sum, hsum⟩ := Option.isSome_iff_exists.1 ((isSome_mergeEach?_take_iff hi).2 hkeeps)
    exact ⟨sum, hsum, (hsum ▸ hsums i).isSum⟩
  case eq_none_iff =>
    have hiff := isSome_mergeEach?_take_iff (Nat.le_refl pages.length)
    rw [List.take_length] at hiff
    rw [← Option.not_isSome_iff_eq_none, hiff]
    simp only [not_forall, not_not, exists_prop]
  case reordered =>
    intro pages' hperm
    have hall' := sumsTo_mergeEach? fun tally htally => hfits tally (hperm.mem_iff.1 htally)
    exact (hall'.perm hperm).unique hall
  case ascending => exact (mergeEach?_eq pages).symm
  case regrouped =>
    intro plan hperm outcome
    have hplan : ∀ outcome, plan.Outcome outcome → outcome = mergeEach? pages := by
      intro outcome houtcome
      have hsum := houtcome.sumsTo fun tally htally => hfits tally (hperm.mem_iff.1 htally)
      exact (hsum.perm hperm).unique hall
    refine ⟨hplan outcome, ?_⟩
    rintro rfl
    obtain ⟨outcome, houtcome⟩ := plan.exists_outcome
    exact hplan outcome houtcome ▸ houtcome
  case positive =>
    intro hpositive i sum hsum
    refine (hsum ▸ hsums i).isSum.positive fun tally htally => ?_
    exact List.forall_mem_map.2 hpositive tally (((List.take_sublist i pages).map _).subset htally)

/-- Three tallies, the first with a zero and its entries in descending order; the counts of `b` in
the other two are too large together. -/
theorem mergesExactly_of_tooLarge :
    let pages : List (Traversal Char) :=
      [⟨ofEntries [('a', 3), ('b', 0)], [('b', 0), ('a', 3)], by decide⟩,
        ⟨ofEntries [('b', 1 <<< 63)], [('b', 1 <<< 63)], by decide⟩,
        ⟨ofEntries [('a', 1), ('b', 1 <<< 63)], [('b', 1 <<< 63), ('a', 1)], by decide⟩]
    (∀ page ∈ pages, page.tally.Fits) ∧ mergeEach? pages = none ∧ MergesExactly pages := by
  intro pages
  have h : ∀ page ∈ pages, page.tally.Fits := by unfold Fits; decide
  exact ⟨h, by decide, mergesExactly_of_fits h⟩

end Tally
end PageCensus
