import Std.Data.String.ToNat
import PageCensus.Proofs.Text.Layout

/-!
# Numbers in a text

A number is written in decimal digits, so in a text it ends where there is no digit behind it, and
begins where there is none in front of it; with this, the text leaves open neither where the number
is nor what it is.

* `toString_append_inj` — the number in front of a text.
* `append_toString_inj` — the number at the end of a text.
-/

set_option autoImplicit false

namespace PageCensus

variable {m n : Nat} {r s : List Char}

theorem isDigit_of_mem_toString {c : Char} (h : c ∈ (toString n).toList) : c.isDigit = true := by
  rw [Nat.toString_eq_repr, Nat.toList_repr] at h
  exact Nat.isDigit_of_mem_toDigits (by decide) (by decide) h

theorem toNat_of_isDigit {c : Char} (h : c.isDigit = true) : 0x30 ≤ c.toNat ∧ c.toNat ≤ 0x39 := by
  simpa [Char.isDigit, UInt32.le_iff_toNat_le] using h

/-- No digit is a blank. -/
theorem isBlank_of_isDigit {c : Char} (h : c.isDigit = true) : isBlank c = false := by
  have hrange := toNat_of_isDigit h
  simp only [isBlank, blankRanges, List.any_cons, List.any_nil, Bool.or_false,
    Bool.or_eq_false_iff, Bool.and_eq_false_iff, decide_eq_false_iff_not]
  omega

theorem toString_inj (h : (toString m).toList = (toString n).toList) : m = n :=
  Nat.repr_injective (String.toList_inj.1 h)

/-- **A number ends where there is no digit behind it.** -/
theorem toString_append_inj (hr : ∀ c ∈ r.head?, c.isDigit = false)
    (hs : ∀ c ∈ s.head?, c.isDigit = false)
    (h : (toString m).toList ++ r = (toString n).toList ++ s) : m = n ∧ r = s := by
  obtain ⟨hdigits, hrest⟩ := append_inj_of_head? (fun _ => isDigit_of_mem_toString)
    (fun _ => isDigit_of_mem_toString) hr hs h
  exact ⟨toString_inj hdigits, hrest⟩

/-- **A number begins where there is no digit in front of it.** -/
theorem append_toString_inj (hr : ∀ c ∈ r.getLast?, c.isDigit = false)
    (hs : ∀ c ∈ s.getLast?, c.isDigit = false)
    (h : r ++ (toString m).toList = s ++ (toString n).toList) : r = s ∧ m = n := by
  have hreverse := congrArg List.reverse h
  rw [List.reverse_append, List.reverse_append] at hreverse
  have hdigits : ∀ n : Nat, ∀ c ∈ (toString n).toList.reverse, c.isDigit = true :=
    fun _ _ hc => isDigit_of_mem_toString (List.mem_reverse.1 hc)
  obtain ⟨hnumber, hfront⟩ := append_inj_of_head? (hdigits m) (hdigits n)
    (by rwa [List.head?_reverse]) (by rwa [List.head?_reverse]) hreverse
  exact ⟨List.reverse_inj.1 hfront, toString_inj (List.reverse_inj.1 hnumber)⟩

end PageCensus
