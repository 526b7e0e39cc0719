/-!
# UTF-8

The bytes of a text, and the text of bytes that need not be well formed.

A decoder reads the bytes from left to right.  Between two characters nothing is pending; inside a
character it remembers how many bytes are missing and which range the next one must lie in.  The
range is narrower than `80..BF` only after the lead bytes `E0`, `ED`, `F0` and `F4`, which excludes
overlong forms, surrogates and numbers beyond `10FFFF`.  Bytes that cannot be continued to a
character are replaced by `U+FFFD`, one for each longest run that could still have been continued.

* `Utf8.encode` — the bytes of a text.
* `Utf8.decode` — the text of any bytes.
* `Utf8.isValid` — whether bytes are those of a text.
-/

set_option autoImplicit false

namespace PageCensus

/-- The character that stands for bytes that have no meaning. -/
def replacementChar : Char := '\ufffd'

namespace Utf8

/-- The bytes of a text. -/
def encode (text : List Char) : List UInt8 := text.flatMap String.utf8EncodeChar

@[simp] theorem encode_nil : encode [] = [] := rfl

@[simp] theorem encode_cons (c : Char) (text : List Char) :
    encode (c :: text) = String.utf8EncodeChar c ++ encode text := rfl

theorem encode_append (a b : List Char) : encode (a ++ b) = encode a ++ encode b := by
  simp [encode]

/-- A character of which some bytes were read. -/
structure Partial where
  /-- How many bytes are missing, less one. -/
  more : Nat
  /-- The payload of the bytes read so far. -/
  value : Nat
  /-- The least byte that may come next. -/
  lower : UInt8
  /-- The greatest byte that may come next. -/
  upper : UInt8

/-- What a byte stands for where a character may begin. -/
inductive Lead where
  /-- A character of one byte. -/
  | single (c : Char)
  /-- The first of several bytes. -/
  | first (rest : Partial)
  /-- No character begins so. -/
  | invalid

/-- Read a byte where a character may begin. -/
def Lead.ofByte (b : UInt8) : Lead :=
  if b < 0x80 then .single (Char.ofNat b.toNat)
  else if b < 0xC2 then .invalid
  else if b < 0xE0 then .first ⟨0, b.toNat - 0xC0, 0x80, 0xBF⟩
  else if b = 0xE0 then .first ⟨1, 0, 0xA0, 0xBF⟩
  else if b = 0xED then .first ⟨1, 0xD, 0x80, 0x9F⟩
  else if b < 0xF0 then .first ⟨1, b.toNat - 0xE0, 0x80, 0xBF⟩
  else if b = 0xF0 then .first ⟨2, 0, 0x90, 0xBF⟩
  else if b < 0xF4 then .first ⟨2, b.toNat - 0xF0, 0x80, 0xBF⟩
  else if b = 0xF4 then .first ⟨2, 4, 0x80, 0x8F⟩
  else .invalid

/-- A decoder between two bytes. -/
structure Decoder where
  /-- The character that is being read. -/
  pending : Option Partial
  /-- The characters read so far, the last one first. -/
  reversed : List Char

namespace Decoder

/-- Nothing was read. -/
def start : Decoder := ⟨none, []⟩

/-- Read a byte where a character may begin. -/
def begin (reversed : List Char) (b : UInt8) : Decoder :=
  match Lead.ofByte b with
  | .single c => ⟨none, c :: reversed⟩
  | .first rest => ⟨some rest, reversed⟩
  | .invalid => ⟨none, replacementChar :: reversed⟩

/-- Read a byte.  One that cannot continue the pending character ends it, and is read again where a
character may begin. -/
def read (decoder : Decoder) (b : UInt8) : Decoder :=
  match decoder.pending with
  | none => begin decoder.reversed b
  | some rest =>
    if rest.lower ≤ b ∧ b ≤ rest.upper then
      let value := rest.value * 64 + (b.toNat - 0x80)
      match rest.more with
      | 0 => ⟨none, Char.ofNat value :: decoder.reversed⟩
      | more + 1 => ⟨some ⟨more, value, 0x80, 0xBF⟩, decoder.reversed⟩
    else
      begin (replacementChar :: decoder.reversed) b

/-- The text read so far, if no more bytes follow. -/
def finish (decoder : Decoder) : List Char :=
  match decoder.pending with
  | none => decoder.reversed.reverse
  | some _ => (replacementChar :: decoder.reversed).reverse

end Decoder

/-- The text of any bytes. -/
def decode (bytes : List UInt8) : List Char := (bytes.foldl Decoder.read .start).finish

/-- Whether bytes are those of a text. -/
def isValid (bytes : List UInt8) : Bool := encode (decode bytes) == bytes

/-- A text of characters of all four lengths is read back. -/
example : decode (encode ['a', 'é', '€', '😀']) = ['a', 'é', '€', '😀'] := by decide

/-- Two bytes of a character of four make one replacement, a surrogate makes three. -/
example : decode [0xF0, 0x9F, 0x61] = [replacementChar, 'a'] ∧
    decode [0xED, 0xA0, 0x80] = [replacementChar, replacementChar, replacementChar] := by decide

end Utf8

end PageCensus
