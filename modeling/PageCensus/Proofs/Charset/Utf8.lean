import Mathlib.Algebra.Group.Nat.Defs
import PageCensus.Charset.Utf8

/-!
# The shape of UTF-8

A character is encoded as the digits of its scalar value to the base 64: the first one together with
a mark that says how many follow, and each of the others with a mark of its own.  A decoder that
meets the bytes of a text finds the characters again.

* `Utf8.utf8EncodeChar_eq` — the encoding of a character, digit by digit.
* `Utf8.lead_cases` — the four lengths of encodings.
* `Utf8.decode_encode` — a text is read back from its bytes.
-/

set_option autoImplicit false

namespace PageCensus

/-! ## The encoding of a character -/

namespace Utf8

/-- The last `count` bytes of the encoding of a number: its last digits to the base 64. -/
def continuation : Nat → Nat → List UInt8
  | 0, _ => []
  | count + 1, value => UInt8.ofNat (value / 64 ^ count % 64 + 128) :: continuation count value

/-- How many bytes follow the first byte of the encoding of a number. -/
def following (value : Nat) : Nat :=
  if value ≤ 0x7F then 0 else if value ≤ 0x7FF then 1 else if value ≤ 0xFFFF then 2 else 3

/-- What is added to the first digit of a number when so many bytes follow. -/
def leadOffset : Nat → Nat
  | 0 => 0
  | 1 => 0xC0
  | 2 => 0xE0
  | _ => 0xF0

/-- The first byte of the encoding of a number. -/
def lead (value : Nat) : Nat := value / 64 ^ following value + leadOffset (following value)

theorem toNat_lt (c : Char) : c.toNat < 0x110000 := by
  have hvalid := c.valid
  rw [UInt32.isValidChar, Nat.isValidChar] at hvalid
  show c.val.toNat < _
  omega

/-- The encoding of a character is its first byte and the bytes that follow. -/
theorem utf8EncodeChar_eq (c : Char) : String.utf8EncodeChar c =
    UInt8.ofNat (lead c.toNat) :: continuation (following c.toNat) c.toNat := by
  have hlt := toNat_lt c
  have hval : c.val.toNat = c.toNat := rfl
  rw [String.utf8EncodeChar, lead, following]
  simp only [hval]
  generalize c.toNat = value at hlt ⊢
  have hfirst : 0x7F < value → value ≤ 0x7FF → value / 64 % 32 = value / 64 := by omega
  have hsecond : value ≤ 0xFFFF → value / 4096 % 16 = value / 4096 := by omega
  have hthird : value / 262144 % 8 = value / 262144 := by omega
  split
  · simp [continuation, leadOffset]
  · split
    · next h h' => simp [continuation, leadOffset, hfirst (by omega) h']
    · split
      · next h h' h'' => simp [continuation, leadOffset, hsecond h'']
      · simp [continuation, leadOffset, hthird]

/-- The four lengths of encodings. -/
theorem lead_cases (value : Nat) :
    (value ≤ 0x7F ∧ following value = 0 ∧ lead value = value) ∨
    (0x7F < value ∧ value ≤ 0x7FF ∧ following value = 1 ∧ lead value = value / 64 + 0xC0) ∨
    (0x7FF < value ∧ value ≤ 0xFFFF ∧ following value = 2 ∧ lead value = value / 4096 + 0xE0) ∨
    (0xFFFF < value ∧ following value = 3 ∧ lead value = value / 262144 + 0xF0) := by
  rw [lead, following]
  split
  · next h => exact Or.inl ⟨h, rfl, Nat.div_one value⟩
  · split
    · next h h' => exact Or.inr (Or.inl ⟨Nat.lt_of_not_le h, h', rfl, rfl⟩)
    · split
      · next h h' => exact Or.inr (Or.inr (Or.inl ⟨Nat.lt_of_not_le h, h', rfl, rfl⟩))
      · next h => exact Or.inr (Or.inr (Or.inr ⟨Nat.lt_of_not_le h, rfl, rfl⟩))

theorem lead_lt {value : Nat} (h : value < 0x110000) : lead value < 256 := by
  have hcases := lead_cases value
  omega

/-! ## Reading it back -/

/-- What a byte stands for, by its number. -/
theorem ofByte_ofNat {n : Nat} (h : n < 256) : Lead.ofByte (UInt8.ofNat n) =
    if n < 0x80 then .single (Char.ofNat n)
    else if n < 0xC2 then .invalid
    else if n < 0xE0 then .first ⟨0, n - 0xC0, 0x80, 0xBF⟩
    else if n = 0xE0 then .first ⟨1, 0, 0xA0, 0xBF⟩
    else if n = 0xED then .first ⟨1, 0xD, 0x80, 0x9F⟩
    else if n < 0xF0 then .first ⟨1, n - 0xE0, 0x80, 0xBF⟩
    else if n = 0xF0 then .first ⟨2, 0, 0x90, 0xBF⟩
    else if n < 0xF4 then .first ⟨2, n - 0xF0, 0x80, 0xBF⟩
    else if n = 0xF4 then .first ⟨2, 4, 0x80, 0x8F⟩
    else .invalid := by
  have hn : (UInt8.ofNat n).toNat = n := UInt8.toNat_ofNat_of_lt' h
  simp only [Lead.ofByte, UInt8.lt_iff_toNat_lt, ← UInt8.toNat_inj, hn]
  rfl

/-- The first of two bytes. -/
theorem ofByte_two {n : Nat} (h : 0xC2 ≤ n) (h' : n < 0xE0) :
    Lead.ofByte (UInt8.ofNat n) = .first ⟨0, n - 0xC0, 0x80, 0xBF⟩ := by
  rw [ofByte_ofNat (by omega), if_neg (by omega), if_neg (by omega), if_pos h']

/-- The first of three bytes.  What may come next is narrowed where the number would have a shorter
encoding, and where it would be a surrogate. -/
theorem ofByte_three {n : Nat} (h : 0xE0 ≤ n) (h' : n < 0xF0) :
    ∃ lower upper, Lead.ofByte (UInt8.ofNat n) = .first ⟨1, n - 0xE0, lower, upper⟩ ∧
      (lower.toNat = 0x80 ∨ n = 0xE0 ∧ lower.toNat = 0xA0) ∧
      (upper.toNat = 0xBF ∨ n = 0xED ∧ upper.toNat = 0x9F) := by
  rw [ofByte_ofNat (by omega), if_neg (by omega), if_neg (by omega), if_neg (by omega)]
  by_cases hshort : n = 0xE0
  · exact ⟨_, _, by rw [if_pos hshort, hshort], Or.inr ⟨hshort, rfl⟩, Or.inl rfl⟩
  · rw [if_neg hshort]
    by_cases hsurrogate : n = 0xED
    · exact ⟨_, _, by rw [if_pos hsurrogate, hsurrogate], Or.inl rfl, Or.inr ⟨hsurrogate, rfl⟩⟩
    · exact ⟨_, _, by rw [if_neg hsurrogate, if_pos h'], Or.inl rfl, Or.inl rfl⟩

/-- The first of four bytes.  What may come next is narrowed where the number would have a shorter
encoding, and where it would be too large. -/
theorem ofByte_four {n : Nat} (h : 0xF0 ≤ n) (h' : n ≤ 0xF4) :
    ∃ lower upper, Lead.ofByte (UInt8.ofNat n) = .first ⟨2, n - 0xF0, lower, upper⟩ ∧
      (lower.toNat = 0x80 ∨ n = 0xF0 ∧ lower.toNat = 0x90) ∧
      (upper.toNat = 0xBF ∨ n = 0xF4 ∧ upper.toNat = 0x8F) := by
  rw [ofByte_ofNat (by omega), if_neg (by omega), if_neg (by omega), if_neg (by omega),
    if_neg (by omega), if_neg (by omega), if_neg (by omega)]
  by_cases hshort : n = 0xF0
  · exact ⟨_, _, by rw [if_pos hshort, hshort], Or.inr ⟨hshort, rfl⟩, Or.inl rfl⟩
  · rw [if_neg hshort]
    by_cases hlarge : n = 0xF4
    · exact ⟨_, _, by rw [if_neg (by omega), if_pos hlarge, hlarge], Or.inl rfl,
        Or.inr ⟨hlarge, rfl⟩⟩
    · exact ⟨_, _, by rw [if_pos (by omega)], Or.inl rfl, Or.inl rfl⟩

/-- The first byte of several says how many follow and what the first digit is, and lets the next
digit pass. -/
theorem exists_ofByte_lead {value count : Nat} (hvalid : value.isValidChar)
    (h : following value = count + 1) :
    ∃ lower upper, Lead.ofByte (UInt8.ofNat (lead value)) =
        .first ⟨count, value / 64 ^ (count + 1), lower, upper⟩ ∧
      lower.toNat ≤ value / 64 ^ count % 64 + 128 ∧
      value / 64 ^ count % 64 + 128 ≤ upper.toNat := by
  rw [Nat.isValidChar] at hvalid
  rcases lead_cases value with ⟨-, hf, -⟩ | ⟨h₀, h₁, hf, hlead⟩ | ⟨h₀, h₁, hf, hlead⟩ |
    ⟨h₀, hf, hlead⟩
  · omega
  · obtain rfl : count = 0 := by omega
    refine ⟨0x80, 0xBF, (ofByte_two (by omega) (by omega)).trans ?_, Nat.le_add_left _ _, ?_⟩
    · rw [hlead, Nat.add_sub_cancel, Nat.zero_add, Nat.pow_one]
    · show _ ≤ 191
      omega
  · obtain rfl : count = 1 := by omega
    obtain ⟨lower, upper, hbyte, hlower, hupper⟩ :=
      ofByte_three (n := lead value) (by omega) (by omega)
    refine ⟨lower, upper, hbyte.trans ?_, by omega, by omega⟩
    rw [hlead, Nat.add_sub_cancel]
    rfl
  · obtain rfl : count = 2 := by omega
    obtain ⟨lower, upper, hbyte, hlower, hupper⟩ :=
      ofByte_four (n := lead value) (by omega) (by omega)
    refine ⟨lower, upper, hbyte.trans ?_, by omega, by omega⟩
    rw [hlead, Nat.add_sub_cancel]
    rfl

/-- A digit that follows is read. -/
theorem read_digit {more payload digit : Nat} {lower upper : UInt8} (hdigit : digit < 64)
    (hlower : lower.toNat ≤ digit + 128) (hupper : digit + 128 ≤ upper.toNat)
    (reversed : List Char) :
    Decoder.read ⟨some ⟨more, payload, lower, upper⟩, reversed⟩ (UInt8.ofNat (digit + 128)) =
      match more with
      | 0 => ⟨none, Char.ofNat (payload * 64 + digit) :: reversed⟩
      | more + 1 => ⟨some ⟨more, payload * 64 + digit, 0x80, 0xBF⟩, reversed⟩ := by
  have hbyte : (UInt8.ofNat (digit + 128)).toNat = digit + 128 :=
    UInt8.toNat_ofNat_of_lt' (show _ < 256 by omega)
  have hrange : lower ≤ UInt8.ofNat (digit + 128) ∧ UInt8.ofNat (digit + 128) ≤ upper := by
    rw [UInt8.le_iff_toNat_le, UInt8.le_iff_toNat_le, hbyte]
    exact ⟨hlower, hupper⟩
  cases more <;> simp only [Decoder.read, if_pos hrange, hbyte, Nat.add_sub_cancel]

/-- The digits that follow are read to their end. -/
theorem foldl_read_continuation {count value payload : Nat} {lower upper : UInt8}
    (hlower : lower.toNat ≤ value / 64 ^ count % 64 + 128)
    (hupper : value / 64 ^ count % 64 + 128 ≤ upper.toNat) (reversed : List Char) :
    (continuation (count + 1) value).foldl Decoder.read
        ⟨some ⟨count, payload, lower, upper⟩, reversed⟩ =
      ⟨none, Char.ofNat (payload * 64 ^ (count + 1) + value % 64 ^ (count + 1)) :: reversed⟩ := by
  induction count generalizing payload lower upper with
  | zero =>
    rw [continuation, continuation, List.foldl_cons, List.foldl_nil,
      read_digit (Nat.mod_lt _ (by decide)) hlower hupper, Nat.zero_add, Nat.pow_one, Nat.pow_zero,
      Nat.div_one]
  | succ count ih =>
    have hdigit : value / 64 ^ count % 64 < 64 := Nat.mod_lt _ (by decide)
    rw [continuation, List.foldl_cons, read_digit (Nat.mod_lt _ (by decide)) hlower hupper]
    refine (ih (Nat.le_add_left _ _) ?_).trans ?_
    · show _ ≤ 191
      omega
    · have hvalue : (payload * 64 + value / 64 ^ (count + 1) % 64) * 64 ^ (count + 1) +
          value % 64 ^ (count + 1) = payload * 64 ^ (count + 2) + value % 64 ^ (count + 2) := by
        have hmod : value % 64 ^ (count + 2) = value % 64 ^ (count + 1) +
            64 ^ (count + 1) * (value / 64 ^ (count + 1) % 64) := Nat.mod_pow_succ
        rw [hmod, Nat.add_mul, Nat.mul_assoc, ← Nat.pow_succ', Nat.add_assoc,
          Nat.mul_comm (64 ^ (count + 1)), Nat.add_comm (value % _)]
      rw [hvalue]

/-- **A character is read back from its bytes.** -/
theorem foldl_read_utf8EncodeChar (c : Char) (reversed : List Char) :
    (String.utf8EncodeChar c).foldl Decoder.read ⟨none, reversed⟩ = ⟨none, c :: reversed⟩ := by
  rw [utf8EncodeChar_eq, List.foldl_cons]
  show (continuation _ _).foldl Decoder.read (Decoder.begin reversed _) = _
  rw [Decoder.begin]
  cases hfollowing : following c.toNat with
  | zero =>
    have hcases := lead_cases c.toNat
    have hlead : lead c.toNat = c.toNat := by omega
    rw [hlead, ofByte_ofNat (by omega), if_pos (by omega), Char.ofNat_toNat]
    rfl
  | succ count =>
    have hvalid : c.toNat.isValidChar := c.valid
    obtain ⟨lower, upper, hbyte, hlower, hupper⟩ := exists_ofByte_lead hvalid hfollowing
    rw [hbyte]
    refine (foldl_read_continuation hlower hupper reversed).trans ?_
    rw [Nat.div_add_mod', Char.ofNat_toNat]

/-- **A text is read back from its bytes.** -/
theorem decode_encode (text : List Char) : decode (encode text) = text := by
  have hread : ∀ reversed : List Char, (encode text).foldl Decoder.read ⟨none, reversed⟩ =
      ⟨none, text.reverse ++ reversed⟩ := by
    induction text with
    | nil => exact fun _ => rfl
    | cons c rest ih =>
      intro reversed
      rw [encode_cons, List.foldl_append, foldl_read_utf8EncodeChar, ih, List.reverse_cons,
        List.append_assoc, List.singleton_append]
  rw [decode, Decoder.start, hread, List.append_nil, Decoder.finish]
  exact List.reverse_reverse text

theorem isValid_encode (text : List Char) : isValid (encode text) = true := by
  rw [isValid, decode_encode, beq_self_eq_true]

end Utf8
end PageCensus
