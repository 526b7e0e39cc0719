import PageCensus.Fetch.Head
import PageCensus.Proofs.Charset.Utf8
import PageCensus.Proofs.Text.Layout
import PageCensus.Proofs.Text.Number
import PageCensus.Proofs.Text.Trim

/-!
# Lines that are read as they were meant

A server writes the lines in front of a page one after the other, and a reader has to find them
again in the bytes that it gets.  It does as long as no value holds a character that ends a line.
The spaces and tabs around a value are lost.

* `octets` — the bytes of a text, each as a character, as a reader sees them.
* `readField_line`, `readFields_lines` — a line, and lines, are read back.
* `ofTexts_eq_ok` — so what stands in front of a page is what was put there.
-/

set_option autoImplicit false

namespace PageCensus

namespace Head

/-! ## Bytes as characters -/

/-- The bytes of a text, each as the character with its number. -/
def octets (text : List Char) : List Char := charsOfBytes (Utf8.encode text)

theorem octets_append (a b : List Char) : octets (a ++ b) = octets a ++ octets b := by
  rw [octets, octets, octets, Utf8.encode_append, charsOfBytes, List.map_append, charsOfBytes,
    charsOfBytes]

/-- The number of a byte is that of its character. -/
theorem toNat_charOfByte (b : UInt8) : (Char.ofNat b.toNat).toNat = b.toNat := by
  have hb := b.toNat_lt
  have hvalid : b.toNat.isValidChar := Or.inl (by omega)
  rw [Char.ofNat, dif_pos hvalid]
  rfl

/-- Nothing is lost on the way to characters and back. -/
@[simp] theorem bytesOfChars_charsOfBytes (bytes : List UInt8) :
    bytesOfChars (charsOfBytes bytes) = bytes := by
  rw [bytesOfChars, charsOfBytes, List.map_map]
  refine (List.map_congr_left fun b _ => ?_).trans (List.map_id bytes)
  rw [Function.comp_apply, toNat_charOfByte, UInt8.ofNat_toNat]
  rfl

theorem octets_singleton (c : Char) : octets [c] = charsOfBytes (String.utf8EncodeChar c) := by
  rw [octets, Utf8.encode_cons, Utf8.encode_nil, List.append_nil]

/-- A character of one byte is what its byte is seen as. -/
theorem octets_of_lt {c : Char} (h : c.toNat < 0x80) : octets [c] = [c] := by
  have hcases := Utf8.lead_cases c.toNat
  have hfollowing : Utf8.following c.toNat = 0 := by omega
  have hlead : Utf8.lead c.toNat = c.toNat := by omega
  have hbyte : (UInt8.ofNat c.toNat).toNat = c.toNat :=
    UInt8.toNat_ofNat_of_lt' (show _ < 256 by omega)
  rw [octets_singleton, Utf8.utf8EncodeChar_eq, hfollowing, hlead, Utf8.continuation, charsOfBytes,
    List.map_singleton, hbyte, Char.ofNat_toNat]

theorem le_of_mem_continuation {count value : Nat} {b : UInt8}
    (h : b ∈ Utf8.continuation count value) : 0x80 ≤ b.toNat := by
  induction count with
  | zero => exact absurd h List.not_mem_nil
  | succ count ih =>
    rcases List.mem_cons.1 h with rfl | h
    · have hdigit : value / 64 ^ count % 64 < 64 := Nat.mod_lt _ (by decide)
      rw [UInt8.toNat_ofNat_of_lt' (show _ < 256 by omega)]
      exact Nat.le_add_left _ _
    · exact ih h

/-- The bytes of any other character are seen as characters beyond these. -/
theorem le_of_mem_octets {c d : Char} (h : 0x80 ≤ c.toNat) (hd : d ∈ octets [c]) :
    0x80 ≤ d.toNat := by
  rw [octets_singleton, Utf8.utf8EncodeChar_eq] at hd
  obtain ⟨b, hb, rfl⟩ := List.mem_map.1 hd
  rw [toNat_charOfByte]
  rcases List.mem_cons.1 hb with rfl | hb
  · have hcases := Utf8.lead_cases c.toNat
    rw [UInt8.toNat_ofNat_of_lt' (Utf8.lead_lt (Utf8.toNat_lt c))]
    omega
  · exact le_of_mem_continuation hb

/-- What holds of a character, and of all beyond the first ones, holds of its bytes. -/
theorem of_mem_octets {p : Char → Prop} (hp : ∀ c : Char, 0x80 ≤ c.toNat → p c) {c d : Char}
    (hc : p c) (hd : d ∈ octets [c]) : p d := by
  rcases Nat.lt_or_ge c.toNat 0x80 with h | h
  · rw [octets_of_lt h, List.mem_singleton] at hd
    exact hd ▸ hc
  · exact hp d (le_of_mem_octets h hd)

theorem forall_mem_octets {p : Char → Prop} (hp : ∀ c : Char, 0x80 ≤ c.toNat → p c)
    {text : List Char} (htext : ∀ c ∈ text, p c) : ∀ d ∈ octets text, p d := by
  induction text with
  | nil => exact fun d hd => absurd hd List.not_mem_nil
  | cons c rest ih =>
    obtain ⟨hc, hrest⟩ := List.forall_mem_cons.1 htext
    intro d hd
    rw [← List.singleton_append, octets_append, List.mem_append] at hd
    exact hd.elim (of_mem_octets hp hc) (ih hrest d)

/-- Texts of characters of one byte are what their bytes are seen as. -/
theorem octets_eq_self {text : List Char} (h : ∀ c ∈ text, c.toNat < 0x80) :
    octets text = text := by
  induction text with
  | nil => rfl
  | cons c rest ih =>
    obtain ⟨hc, hrest⟩ := List.forall_mem_cons.1 h
    rw [← List.singleton_append, octets_append, octets_of_lt hc, ih hrest]

/-! ## Spaces around a value -/

section

variable {p : Char → Bool}

theorem dropWhile_append_of_forall {front : List Char} (h : ∀ c ∈ front, p c = false)
    (hne : front ≠ []) (rest : List Char) : (front ++ rest).dropWhile p = front ++ rest := by
  obtain ⟨d, front, rfl⟩ := List.exists_cons_of_ne_nil hne
  refine dropWhile_eq_self_of_head? fun c hc => ?_
  rw [← Option.some.inj hc]
  exact h d List.mem_cons_self

theorem octets_singleton_ne_nil (c : Char) : octets [c] ≠ [] := by
  rw [octets_singleton, Utf8.utf8EncodeChar_eq]
  exact List.cons_ne_nil _ _

variable (hp : ∀ c : Char, 0x80 ≤ c.toNat → p c = false)

include hp

/-- Characters of one byte can be dropped before or after a text is encoded. -/
theorem dropWhile_octets (text : List Char) :
    (octets text).dropWhile p = octets (text.dropWhile p) := by
  induction text with
  | nil => rfl
  | cons c rest ih =>
    cases hc : p c with
    | true =>
      have hlt : c.toNat < 0x80 := Nat.lt_of_not_le fun hle => by rw [hp c hle] at hc; cases hc
      rw [← List.singleton_append, octets_append, octets_of_lt hlt, List.singleton_append,
        List.singleton_append, List.dropWhile_cons_of_pos hc, List.dropWhile_cons_of_pos hc, ih]
    | false =>
      rw [List.dropWhile_cons_of_neg (Bool.eq_false_iff.1 hc), ← List.singleton_append,
        octets_append, dropWhile_append_of_forall (fun d => of_mem_octets hp hc)
          (octets_singleton_ne_nil c)]

/-- So can they at the end. -/
theorem dropWhile_reverse_octets (reversed : List Char) :
    (octets reversed.reverse).reverse.dropWhile p =
      (octets (reversed.dropWhile p).reverse).reverse := by
  induction reversed with
  | nil => rfl
  | cons c rest ih =>
    rw [List.reverse_cons, octets_append, List.reverse_append]
    cases hc : p c with
    | true =>
      have hlt : c.toNat < 0x80 := Nat.lt_of_not_le fun hle => by rw [hp c hle] at hc; cases hc
      rw [octets_of_lt hlt, List.reverse_singleton, List.singleton_append,
        List.dropWhile_cons_of_pos hc, List.dropWhile_cons_of_pos hc, ih]
    | false =>
      have hfront : ∀ d ∈ (octets [c]).reverse, p d = false :=
        fun d hd => of_mem_octets hp hc (List.mem_reverse.1 hd)
      rw [List.dropWhile_cons_of_neg (Bool.eq_false_iff.1 hc), List.reverse_cons, octets_append,
        List.reverse_append, dropWhile_append_of_forall hfront
          (List.reverse_ne_nil_iff.2 (octets_singleton_ne_nil c))]

end

/-- **Spaces and tabs can be taken away before or after a value is encoded.** -/
theorem trimmed_octets (text : List Char) :
    MediaType.trimmed (octets text) = octets (MediaType.trimmed text) := by
  have hp : ∀ c : Char, 0x80 ≤ c.toNat → (c == ' ' || c == '\t') = false := by
    intro c hc
    rw [Bool.or_eq_false_iff, beq_eq_false_iff_ne, beq_eq_false_iff_ne]
    constructor <;> rintro rfl <;> exact absurd hc (by decide)
  rw [MediaType.trimmed, MediaType.trimmed]
  rw [dropWhile_octets hp]
  generalize text.dropWhile _ = rest
  have hreverse := dropWhile_reverse_octets hp rest.reverse
  rw [List.reverse_reverse] at hreverse
  rw [hreverse, List.reverse_reverse]

/-! ## Lines -/

/-- A line with a name and a value that holds nothing that ends it. -/
structure IsLine (line : String × String) : Prop where
  /-- It has a name, -/
  name_ne : line.1.toList ≠ []
  /-- which is one, -/
  name : ∀ c ∈ line.1.toList, MediaType.isTokenChar c = true
  /-- and a value. -/
  value : ∀ c ∈ line.2.toList, isValueChar c = true

/-- A line as it is written. -/
def lineText (line : String × String) : List Char :=
  line.1.toList ++ ':' :: line.2.toList ++ ['\r', '\n']

/-- The name and the value that are read from a line. -/
def fieldOf (line : String × String) : String × List UInt8 :=
  (String.ofList (line.1.toList.map Char.toLower), Utf8.encode (MediaType.trimmed line.2.toList))

theorem isTokenChar_lt {c : Char} (h : MediaType.isTokenChar c = true) : c.toNat < 0x80 := by
  rw [MediaType.isTokenChar, Bool.or_eq_true] at h
  rcases h with h | h
  · unfold Char.isAlphanum Char.isAlpha Char.isUpper Char.isLower Char.isDigit at h
    simp only [Bool.or_eq_true, Bool.and_eq_true, decide_eq_true_eq, ge_iff_le,
      UInt32.le_iff_toNat_le] at h
    have hbounds : 'Z'.val.toNat < 0x80 ∧ 'z'.val.toNat < 0x80 ∧ '9'.val.toNat < 0x80 := by decide
    rw [← Char.toNat_val]
    omega
  · have hall : "!#$%&'*+-.^_`|~".toList.all (fun c => decide (c.toNat < 0x80)) = true := by decide
    exact of_decide_eq_true (List.all_eq_true.1 hall c (List.contains_iff_mem.1 h))

theorem octets_lineEnd : octets ['\r', '\n'] = ['\r', '\n'] := by decide

theorem octets_lineText {line : String × String} (h : IsLine line) (rest : List Char) :
    octets (lineText line) ++ rest =
      line.1.toList ++ ':' :: (octets line.2.toList ++ '\r' :: '\n' :: rest) := by
  have hname : octets line.1.toList = line.1.toList :=
    octets_eq_self fun c hc => isTokenChar_lt (h.name c hc)
  have hmark : octets [':'] = [':'] := octets_of_lt (by decide)
  rw [lineText, ← List.singleton_append, octets_append, octets_append, octets_append, hname, hmark,
    octets_lineEnd]
  simp only [List.append_assoc, List.cons_append, List.nil_append]

/-- **A line is read back.** -/
theorem readField_line {line : String × String} (h : IsLine line) (rest : List Char) :
    readField (octets (lineText line) ++ rest) = .ok (fieldOf line, rest) := by
  have hmark : ∀ (r : List Char), ∀ c ∈ (':' :: r).head?, MediaType.isTokenChar c = false := by
    intro r c hc
    rw [← Option.some.inj hc]
    decide
  have hend : ∀ c ∈ ('\r' :: '\n' :: rest).head?, isValueChar c = false := by
    intro c hc
    rw [← Option.some.inj hc]
    decide
  have hvalue : ∀ c ∈ octets line.2.toList, isValueChar c = true := by
    refine forall_mem_octets (fun c hc => ?_) h.value
    rw [isValueChar, Bool.or_eq_true, Bool.and_eq_true, decide_eq_true_eq, bne_iff_ne]
    refine Or.inr ⟨Nat.le_trans (by decide) hc, ?_⟩
    rintro rfl
    exact absurd hc (by decide)
  rw [octets_lineText h, readField, takeWhile_append_of_head? h.name (hmark _), List.drop_left]
  split
  case h_1 hnil => exact absurd hnil h.name_ne
  case h_2 hrest _ => exact absurd hrest (List.cons_ne_nil _ _)
  case h_3 hrest _ =>
    rw [← (List.cons.inj hrest).2]
    dsimp only
    rw [takeWhile_append_of_head? hvalue hend, List.drop_left, trimmed_octets, octets,
      bytesOfChars_charsOfBytes]
    rfl
  case h_4 hrest => exact absurd rfl (hrest _)

/-- A line begins with its name, so it is not the empty one that ends the lines. -/
theorem readFields_cons {line : String × String} (h : IsLine line) {left : Nat}
    {rest behind : List Char} {fields : List (String × List UInt8)}
    (hrest : readFields left rest = .ok (fields, behind)) :
    readFields (left + 1) (octets (lineText line) ++ rest) =
      .ok (fieldOf line :: fields, behind) := by
  have hread := readField_line h rest
  rw [octets_lineText h] at hread ⊢
  obtain ⟨c, name, hname⟩ := List.exists_cons_of_ne_nil h.name_ne
  have hc : MediaType.isTokenChar c = true := h.name c (hname ▸ List.mem_cons_self)
  rw [hname, List.cons_append] at hread ⊢
  have hfront : c ≠ '\n' ∧ c ≠ '\r' := by
    constructor <;> rintro rfl <;> exact absurd hc (by decide)
  rw [readFields.eq_def]
  split
  · next hnewline => exact absurd (List.cons.inj hnewline).1 hfront.1
  · next hreturn => exact absurd (List.cons.inj hreturn).1 hfront.2
  · next hnil => exact absurd hnil (List.cons_ne_nil _ _)
  · simp only [hread, hrest, bind, Except.bind, pure, Except.pure]

/-- **Lines are read back**, if there are not too many. -/
theorem readFields_lines {lines : List (String × String)} (h : ∀ line ∈ lines, IsLine line)
    {left : Nat} (hleft : lines.length ≤ left) :
    readFields left (octets (lines.flatMap lineText ++ ['\r', '\n'])) =
      .ok (lines.map fieldOf, []) := by
  induction lines generalizing left with
  | nil =>
    rw [List.flatMap_nil, List.nil_append, octets_lineEnd]
    unfold readFields
    rfl
  | cons line lines ih =>
    obtain ⟨hline, hlines⟩ := List.forall_mem_cons.1 h
    cases left with
    | zero => exact absurd hleft (Nat.not_succ_le_zero _)
    | succ left =>
      rw [List.flatMap_cons, List.append_assoc, octets_append]
      exact readFields_cons hline (ih hlines (Nat.le_of_succ_le_succ hleft))

theorem ofTexts_eq (status : Nat) (lines : List (String × String)) : ofTexts status lines =
    if isStatus status then
      readFields fieldLimit (octets (lines.flatMap lineText ++ ['\r', '\n'])) >>= fun read =>
        if read.2.isEmpty then .ok ⟨false, status, read.1⟩ else .error .line
    else .error .status := by
  rw [ofTexts]
  cases isStatus status <;> rfl

/-- What stands in front of a page are a status and the lines, behind which nothing is left. -/
theorem ofTexts_eq_ok_iff {status : Nat} {lines : List (String × String)} {head : Head} :
    ofTexts status lines = .ok head ↔ isStatus status = true ∧ ∃ fields,
      readFields fieldLimit (octets (lines.flatMap lineText ++ ['\r', '\n'])) = .ok (fields, []) ∧
        head = ⟨false, status, fields⟩ := by
  rw [ofTexts_eq]
  cases isStatus status with
  | false =>
    constructor
    · intro h
      cases h
    · rintro ⟨h, -⟩
      cases h
  | true =>
    rw [if_pos rfl, bind_eq_ok_iff]
    constructor
    · rintro ⟨⟨fields, rest⟩, hread, h⟩
      cases rest with
      | nil => exact ⟨rfl, fields, hread, (Except.ok.inj h).symm⟩
      | cons c rest => cases h
    · rintro ⟨-, fields, hread, rfl⟩
      exact ⟨(fields, []), hread, rfl⟩

/-- **What stands in front of a page is what was put there**, if each line is one. -/
theorem ofTexts_eq_ok {status : Nat} {lines : List (String × String)}
    (hstatus : isStatus status = true) (h : ∀ line ∈ lines, IsLine line)
    (hlength : lines.length ≤ fieldLimit) :
    ofTexts status lines = .ok ⟨false, status, lines.map fieldOf⟩ :=
  ofTexts_eq_ok_iff.2 ⟨hstatus, _, readFields_lines h hlength, rfl⟩

end Head

end PageCensus
