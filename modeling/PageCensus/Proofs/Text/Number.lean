import PageCensus.Text.Number

/-!
# Which texts are numbers

Digits are read from left to right, and the value never shrinks on the way.  So it stays below the
limit all the way if it does at the end, and the limit does not matter where the digits are looked
at one by one.

* `Numeral` — how a number is typed.
* `readNumber_eq_ok_iff` — these texts are read, and no others.
-/

set_option autoImplicit false

namespace PageCensus

/-- Two steps succeed if the first does and then the second. -/
theorem bind_eq_ok_iff {ε α β : Type} {step : Except ε α} {next : α → Except ε β} {b : β} :
    (step >>= next) = .ok b ↔ ∃ a, step = .ok a ∧ next a = .ok b := by
  cases step with
  | error fault =>
    constructor
    · intro h
      cases h
    · rintro ⟨a, h, -⟩
      cases h
  | ok a =>
    constructor
    · exact fun h => ⟨a, rfl, h⟩
    · rintro ⟨a, h, hnext⟩
      cases h
      exact hnext

/-- **How a number is typed**: one digit or more, perhaps behind a plus sign, of a value that fits
into 64 bits. -/
structure Numeral (text : String) (n : Nat) : Prop where
  /-- There are digits, of this value. -/
  exists_digits : ∃ digits, (text.toList = digits ∨ text.toList = '+' :: digits) ∧
    digits ≠ [] ∧ (∀ c ∈ digits, c.isDigit = true) ∧ Nat.ofDigitChars 10 digits 0 = n
  /-- The value fits. -/
  fits : n < 1 <<< 64

/-- A number begins with a digit or a plus sign. -/
theorem Numeral.exists_cons {text : String} {n : Nat} (h : Numeral text n) :
    ∃ c rest, text.toList = c :: rest ∧ (c.isDigit = true ∨ c = '+') := by
  obtain ⟨digits, htext, hnil, hdigits, -⟩ := h.exists_digits
  obtain ⟨d, rest, rfl⟩ := List.exists_cons_of_ne_nil hnil
  rcases htext with htext | htext
  · exact ⟨d, rest, htext, Or.inl (hdigits d List.mem_cons_self)⟩
  · exact ⟨'+', d :: rest, htext, Or.inr rfl⟩

variable {m n : Nat} {c : Char} {digits : List Char}

theorem readDigit_eq_ok_iff : readDigit m c = .ok n ↔
    c.isDigit = true ∧ 10 * m + (c.toNat - '0'.toNat) = n ∧ n < 1 <<< 64 := by
  have hlimit : numberLimit = 1 <<< 64 := rfl
  have hzero : '0'.toNat = 0x30 := rfl
  rw [readDigit, hlimit, hzero, Nat.mul_comm 10 m]
  cases c.isDigit with
  | false => simp
  | true =>
    simp only [Bool.not_true, Bool.false_eq_true, if_false, true_and]
    split
    case isTrue h =>
      rw [Except.ok.injEq]
      exact ⟨fun hn => ⟨hn, hn ▸ h⟩, fun hn => hn.1⟩
    case isFalse h =>
      simp only [reduceCtorEq, false_iff]
      rintro ⟨rfl, hn⟩
      exact h hn

/-- More digits do not make a number smaller. -/
theorem le_ofDigitChars (digits : List Char) (m : Nat) : m ≤ Nat.ofDigitChars 10 digits m := by
  rw [Nat.ofDigitChars_eq_ofDigitChars_zero]
  exact Nat.le_trans (Nat.le_mul_of_pos_left m (Nat.pow_pos (by decide))) (Nat.le_add_right _ _)

/-- Digits are read if the whole of them fits: the value in front of each is no larger. -/
theorem foldlM_readDigit_eq_ok_iff (hm : m < 1 <<< 64) : digits.foldlM readDigit m = .ok n ↔
    (∀ c ∈ digits, c.isDigit = true) ∧ Nat.ofDigitChars 10 digits m = n ∧ n < 1 <<< 64 := by
  induction digits generalizing m with
  | nil =>
    rw [List.foldlM_nil, Nat.ofDigitChars_nil]
    constructor
    · rintro h
      cases h
      exact ⟨fun c hc => absurd hc List.not_mem_nil, rfl, hm⟩
    · rintro ⟨-, rfl, -⟩
      rfl
  | cons c rest ih =>
    rw [List.foldlM_cons, List.forall_mem_cons, Nat.ofDigitChars_cons, bind_eq_ok_iff]
    constructor
    · rintro ⟨k, hk, hrest⟩
      obtain ⟨hc, rfl, hfits⟩ := readDigit_eq_ok_iff.1 hk
      obtain ⟨hdigits, hn⟩ := (ih hfits).1 hrest
      exact ⟨⟨hc, hdigits⟩, hn⟩
    · rintro ⟨⟨hc, hdigits⟩, hvalue, hn⟩
      have hfits := Nat.lt_of_le_of_lt (hvalue ▸ le_ofDigitChars rest _) hn
      exact ⟨_, readDigit_eq_ok_iff.2 ⟨hc, rfl, hfits⟩, (ih hfits).2 ⟨hdigits, hvalue, hn⟩⟩

/-- **Numbers as they are typed are read, and nothing else is.** -/
theorem readNumber_eq_ok_iff {text : String} : readNumber text = .ok n ↔ Numeral text n := by
  have hzero : (0 : Nat) < 1 <<< 64 := by decide
  constructor
  · intro h
    rw [readNumber] at h
    split at h
    case h_1 => cases h
    case h_2 => cases h
    case h_3 digits hplus htext =>
      obtain ⟨hdigits, hvalue, hn⟩ := (foldlM_readDigit_eq_ok_iff hzero).1 h
      exact ⟨⟨digits, Or.inr htext, hplus, hdigits, hvalue⟩, hn⟩
    case h_4 hnil _ _ =>
      obtain ⟨hdigits, hvalue, hn⟩ := (foldlM_readDigit_eq_ok_iff hzero).1 h
      exact ⟨⟨text.toList, Or.inl rfl, hnil, hdigits, hvalue⟩, hn⟩
  · rintro ⟨⟨digits, htext, hnil, hdigits, hvalue⟩, hn⟩
    have hread := (foldlM_readDigit_eq_ok_iff hzero).2 ⟨hdigits, hvalue, hn⟩
    obtain ⟨d, rest, rfl⟩ := List.exists_cons_of_ne_nil hnil
    rw [readNumber]
    rcases htext with htext | htext
    · -- the first digit is no plus sign
      have hplus : d ≠ '+' := by
        rintro rfl
        exact absurd (hdigits '+' List.mem_cons_self) (by decide)
      rw [htext]
      split
      case h_1 h => cases h
      case h_2 h => exact absurd (List.cons.inj h).1 hplus
      case h_3 h => exact absurd (List.cons.inj h).1 hplus
      case h_4 => exact hread
    · rw [htext]
      exact hread

end PageCensus
