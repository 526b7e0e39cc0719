import Mathlib.Algebra.BigOperators.Group.Finset.Basic
import PageCensus.Proofs.Tally.Merge

/-!
# Sums over a tally

A tally keeps one entry for each token, however often the token was seen.  A sum over its entries
nevertheless says something about the list that the tokens came from, if every entry is taken as
often as its count says: it is then the sum over the list, token by token.

* `weighted` — such a sum, for any weight of the tokens; `Tally.total` is the one in which every
  token weighs one (`total_eq_weighted`).
* `weighted_ofTokens` — what it is for the tally of a list; `total_ofTokens` and `size_ofTokens` say
  how many tokens the list has, and how many different ones.
-/

set_option autoImplicit false

namespace PageCensus
namespace Tally

variable {κ : Type} [Token κ]

/-- The sum of the counts, each multiplied by what its token weighs. -/
def weighted (tally : Tally κ) (weight : κ → Nat) : Nat :=
  (tally.toList.map fun entry => entry.2 * weight entry.1).sum

theorem total_eq_weighted (tally : Tally κ) : tally.total = tally.weighted fun _ => 1 := by
  simp only [weighted, Nat.mul_one]
  rw [List.sum_eq_foldl, List.foldl_map]
  rfl

theorem count_of_mem_toList {tally : Tally κ} {entry : κ × Nat} (h : entry ∈ tally.toList) :
    tally.count entry.1 = entry.2 :=
  count_of_getElem? (Std.ExtTreeMap.mem_toList_iff_getElem?_eq_some.1 h)

theorem weighted_eq_sum_keys (tally : Tally κ) (weight : κ → Nat) :
    tally.weighted weight = (tally.keys.map fun k => tally.count k * weight k).sum := by
  rw [weighted, ← Std.ExtTreeMap.map_fst_toList_eq_keys, List.map_map]
  refine congrArg List.sum (List.map_congr_left fun entry hentry => ?_)
  rw [Function.comp_apply, count_of_mem_toList hentry]

theorem toFinset_keys_ofTokens [DecidableEq κ] (tokens : List κ) :
    (ofTokens tokens).keys.toFinset = tokens.toFinset := by
  ext k
  rw [List.mem_toFinset, List.mem_toFinset, Std.ExtTreeMap.mem_keys, mem_ofTokens]

/-- **A sum over the tally of a list is the sum over the list.**  Both are the sum over the tokens
without repetition, each of them as often as it stands in the list. -/
theorem weighted_ofTokens (tokens : List κ) (weight : κ → Nat) :
    (ofTokens tokens).weighted weight = (tokens.map weight).sum := by
  classical
  calc (ofTokens tokens).weighted weight
    _ = ((ofTokens tokens).keys.map fun k => tokens.count k * weight k).sum := by
      simp only [weighted_eq_sum_keys, count_ofTokens]
    _ = ∑ k ∈ tokens.toFinset, tokens.count k * weight k := by
      rw [← List.sum_toFinset _ Std.ExtTreeMap.nodup_keys, toFinset_keys_ofTokens]
    _ = (tokens.map weight).sum := (Finset.sum_list_map_count tokens weight).symm

/-- The counts add up to the length of the list. -/
theorem total_ofTokens (tokens : List κ) : (ofTokens tokens).total = tokens.length := by
  rw [total_eq_weighted, weighted_ofTokens]
  simp

/-- There is one entry for each token of the list. -/
theorem size_ofTokens [DecidableEq κ] (tokens : List κ) :
    (ofTokens tokens).size = tokens.dedup.length := by
  rw [← Std.ExtTreeMap.length_keys, ← List.toFinset_card_of_nodup Std.ExtTreeMap.nodup_keys,
    toFinset_keys_ofTokens, List.card_toFinset]

end Tally
end PageCensus
