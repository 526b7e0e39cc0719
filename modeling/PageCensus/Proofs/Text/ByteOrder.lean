import PageCensus.Proofs.Charset.Utf8
import PageCensus.Tally.Basic

/-!
# Texts in the order of their bytes

A text is kept as bytes, and texts are compared byte by byte; a list of characters is compared
character by character.  Both come to the same.  The encoding of a character is never the front of
that of another one: the two differ at some byte, and there the character with the smaller scalar
value has the smaller byte.  What follows behind that byte no longer matters, which is why the order
of characters is handed on to texts.

* `Diverge` — two lists of bytes that differ at some place, the smaller byte in the first.
* `diverge_utf8EncodeChar` — the encodings of two characters do.
* `compare_bytesOf` — texts are compared by their bytes as by their scalar values.
* `compare_eq_compare_scalarsOf` — which is how words are compared.
-/

set_option autoImplicit false

namespace PageCensus

/-- The bytes of a text. -/
def bytesOf (text : String) : List UInt8 := text.toUTF8.data.toList

/-- The scalar values of the characters of a text. -/
def scalarsOf (text : String) : List Nat := text.toList.map Char.toNat

theorem bytesOf_eq_encode (text : String) : bytesOf text = Utf8.encode text.toList := by
  rw [bytesOf, String.toUTF8, ← String.utf8Encode_toList, List.utf8Encode, List.data_toByteArray,
    Utf8.encode]

theorem bytesOf_append (a b : String) : bytesOf (a ++ b) = bytesOf a ++ bytesOf b := by
  rw [bytesOf_eq_encode, bytesOf_eq_encode, bytesOf_eq_encode, String.toList_append,
    Utf8.encode_append]

@[simp] theorem length_bytesOf (text : String) : (bytesOf text).length = text.utf8ByteSize :=
  Array.length_toList

/-- The bytes of texts in turn are those of the texts together. -/
theorem flatMap_bytesOf (texts : List String) :
    texts.flatMap bytesOf = bytesOf (String.join texts) := by
  induction texts with
  | nil => rfl
  | cons text rest ih => rw [List.flatMap_cons, String.join_cons, bytesOf_append, ih]

/-! ## Lists that diverge -/

/-- **Two lists of bytes diverge**: behind a common front there is a byte in each of them, and that
of the first list is smaller. -/
inductive Diverge : List UInt8 → List UInt8 → Prop
  /-- At the first bytes. -/
  | here {a b : UInt8} (h : a < b) (rest rest' : List UInt8) : Diverge (a :: rest) (b :: rest')
  /-- Behind a common first byte. -/
  | behind (a : UInt8) {rest rest' : List UInt8} (h : Diverge rest rest') :
      Diverge (a :: rest) (a :: rest')

/-- Where two lists diverge their order is settled, whatever comes behind them. -/
theorem Diverge.compare_append {l m : List UInt8} (h : Diverge l m) (l' m' : List UInt8) :
    compare (l ++ l') (m ++ m') = .lt := by
  induction h with
  | here h rest rest' =>
    rw [List.cons_append, List.cons_append, List.compare_cons_cons, Std.compare_eq_lt.2 h]
    rfl
  | behind a _ ih =>
    rw [List.cons_append, List.cons_append, List.compare_cons_cons, Std.compare_self, ih]
    rfl

/-- Bytes that are given as numbers. -/
theorem diverge_ofNat {m n : Nat} {l l' : List UInt8} (hm : m < 256) (hn : n < 256)
    (h : m < n ∨ m = n ∧ Diverge l l') : Diverge (UInt8.ofNat m :: l) (UInt8.ofNat n :: l') := by
  rcases h with h | ⟨rfl, h⟩
  · refine .here ?_ _ _
    rw [UInt8.lt_iff_toNat_lt, UInt8.toNat_ofNat_of_lt' hm, UInt8.toNat_ofNat_of_lt' hn]
    exact h
  · exact .behind _ h

/-! ## The encodings of two characters -/

namespace Utf8

/-- Of two numbers the smaller has the smaller first byte, or both have the same one, and then the
rest decides. -/
theorem lead_lt_or {m n : Nat} (h : m < n) :
    lead m < lead n ∨ lead m = lead n ∧ following m = following n ∧
      m % 64 ^ following m < n % 64 ^ following m := by
  rcases lead_cases m with ⟨h₀, hm, hlead⟩ | ⟨h₀, h₁, hm, hlead⟩ | ⟨h₀, h₁, hm, hlead⟩ |
    ⟨h₀, hm, hlead⟩ <;>
  have hn := lead_cases n <;> rw [hm] <;> omega

/-- Digits to the base 64 diverge if the numbers that they make differ. -/
theorem diverge_continuation {count m n : Nat} (h : m % 64 ^ count < n % 64 ^ count) :
    Diverge (continuation count m) (continuation count n) := by
  induction count with
  | zero => omega
  | succ count ih =>
    rw [Nat.mod_pow_succ, Nat.mod_pow_succ] at h
    have hdigit : m / 64 ^ count % 64 < 64 := Nat.mod_lt _ (by decide)
    have hdigit' : n / 64 ^ count % 64 < 64 := Nat.mod_lt _ (by decide)
    refine diverge_ofNat (by omega) (by omega) ?_
    rcases Nat.lt_trichotomy (m / 64 ^ count % 64) (n / 64 ^ count % 64) with hlt | heq | hgt
    · exact Or.inl (Nat.add_lt_add_right hlt 128)
    · rw [heq] at h ⊢
      exact Or.inr ⟨rfl, ih (Nat.lt_of_add_lt_add_right h)⟩
    · -- a larger digit in front cannot be made up for by those behind it
      have hle := Nat.mul_le_mul_left (64 ^ count) (Nat.succ_le_of_lt hgt)
      have hrest : n % 64 ^ count < 64 ^ count := Nat.mod_lt _ (Nat.pow_pos (by decide))
      rw [Nat.succ_eq_add_one, Nat.mul_add, Nat.mul_one] at hle
      omega

/-- **The encodings of two characters diverge**, in the order of their scalar values. -/
theorem diverge_utf8EncodeChar {c d : Char} (h : c.toNat < d.toNat) :
    Diverge (String.utf8EncodeChar c) (String.utf8EncodeChar d) := by
  have hd := toNat_lt d
  rw [utf8EncodeChar_eq, utf8EncodeChar_eq]
  refine diverge_ofNat (lead_lt (Nat.lt_trans h hd)) (lead_lt hd) ?_
  rcases lead_lt_or h with hlt | ⟨heq, hfollowing, hrest⟩
  · exact Or.inl hlt
  · refine Or.inr ⟨heq, ?_⟩
    rw [← hfollowing]
    exact diverge_continuation hrest

end Utf8

/-! ## Texts -/

/-- Characters are compared by their scalar values. -/
theorem compare_char (c d : Char) : compare c d = compare c.toNat d.toNat := by
  rcases Nat.lt_trichotomy c.toNat d.toNat with h | h | h
  · rw [Nat.compare_eq_lt.2 h]
    exact if_pos h
  · rw [Char.toNat_inj.1 h, Std.compare_self, Std.compare_self]
  · rw [Nat.compare_eq_gt.2 h]
    have hlt : compare d c = .lt := if_pos h
    exact Std.OrientedCmp.gt_of_lt hlt

/-- Lists are compared alike if their elements are. -/
theorem compare_map {α β : Type} [Ord α] [Ord β] {f : α → β}
    (h : ∀ a b, compare (f a) (f b) = compare a b) (l m : List α) :
    compare (l.map f) (m.map f) = compare l m := by
  induction l generalizing m with
  | nil =>
    cases m with
    | nil => rfl
    | cons b m => rfl
  | cons a l ih =>
    cases m with
    | nil => rfl
    | cons b m => rw [List.map_cons, List.map_cons, List.compare_cons_cons, List.compare_cons_cons,
        h, ih]

theorem compare_append_left {α : Type} [Ord α] [Std.ReflOrd α] (common l m : List α) :
    compare (common ++ l) (common ++ m) = compare l m := by
  induction common with
  | nil => rfl
  | cons a common ih =>
    rw [List.cons_append, List.cons_append, List.compare_cons_cons, Std.compare_self, ih]
    rfl

/-- **Encodings are compared as the characters are.** -/
theorem compare_encode (l m : List Char) :
    compare (Utf8.encode l) (Utf8.encode m) = compare l m := by
  induction l generalizing m with
  | nil =>
    cases m with
    | nil => rfl
    | cons d m => rw [Utf8.encode_cons, Utf8.utf8EncodeChar_eq]; rfl
  | cons c l ih =>
    cases m with
    | nil => rw [Utf8.encode_cons, Utf8.utf8EncodeChar_eq]; rfl
    | cons d m =>
      rw [Utf8.encode_cons, Utf8.encode_cons, List.compare_cons_cons, compare_char]
      rcases Nat.lt_trichotomy c.toNat d.toNat with h | h | h
      · rw [(Utf8.diverge_utf8EncodeChar h).compare_append, Nat.compare_eq_lt.2 h]
        rfl
      · rw [Char.toNat_inj.1 h, Std.compare_self, compare_append_left, ih]
        rfl
      · rw [Std.OrientedCmp.gt_of_lt ((Utf8.diverge_utf8EncodeChar h).compare_append _ _),
          Nat.compare_eq_gt.2 h]
        rfl

/-- **Texts are compared by their bytes as by their scalar values.** -/
theorem compare_bytesOf (x y : String) :
    compare (bytesOf x) (bytesOf y) = compare (scalarsOf x) (scalarsOf y) := by
  rw [bytesOf_eq_encode, bytesOf_eq_encode, compare_encode, scalarsOf, scalarsOf,
    compare_map fun c d => (compare_char c d).symm]

/-- The order of lists is the one in which they are compared. -/
theorem compare_eq_lt_iff {α : Type} [Ord α] [LT α] [Std.LawfulEqOrd α]
    (h : ∀ a b : α, compare a b = .lt ↔ a < b) (l m : List α) : compare l m = .lt ↔ l < m := by
  induction l generalizing m with
  | nil =>
    cases m with
    | nil => exact iff_of_false nofun (List.not_lt_nil _)
    | cons b m => exact iff_of_true rfl (List.nil_lt_cons b m)
  | cons a l ih =>
    cases m with
    | nil => exact iff_of_false nofun (List.not_lt_nil _)
    | cons b m => rw [List.compare_cons_cons, List.cons_lt_cons_iff, Ordering.then_eq_lt, h, ih,
        Std.compare_eq_iff_eq]

theorem compare_scalarsOf_eq_lt_iff (x y : String) :
    compare (scalarsOf x) (scalarsOf y) = .lt ↔ scalarsOf x < scalarsOf y :=
  compare_eq_lt_iff (fun _ _ => Nat.compare_eq_lt) _ _

/-- **Words are compared by their scalar values.** -/
theorem compare_eq_compare_scalarsOf (x y : String) :
    compare x y = compare (scalarsOf x) (scalarsOf y) := by
  have hlist : compare (scalarsOf x) (scalarsOf y) = compare x.toList y.toList :=
    compare_map (fun c d => (compare_char c d).symm) _ _
  have hlt : ∀ x y : String, x < y ↔ compare x.toList y.toList = .lt := fun x y => by
    rw [String.lt_iff, compare_eq_lt_iff]
    exact fun c d => by rw [compare_char, Nat.compare_eq_lt]; exact Iff.rfl
  show compareOfLessAndEq x y = _
  rw [hlist, compareOfLessAndEq]
  split
  · next h => exact ((hlt x y).1 h).symm
  · next h =>
    split
    · next heq => rw [heq, Std.compare_self]
    · next hne =>
      rw [hlt] at h
      cases hcompare : compare x.toList y.toList with
      | lt => exact absurd hcompare h
      | eq => exact absurd (String.toList_inj.1 (Std.compare_eq_iff_eq.1 hcompare)) hne
      | gt => rfl

end PageCensus
