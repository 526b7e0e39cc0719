import PageCensus.Charset.Utf8

/-!
# UTF-16

The text of bytes that come in pairs, in either order of the two.  A code unit in `D800..DBFF` waits
for one in `DC00..DFFF`, with which it makes one character; a unit of either range without its
partner is replaced by `U+FFFD`.  Whatever is left over at the end, a waiting unit, a single byte or
both, is replaced by one `U+FFFD`.

* `Utf16.decode` — the text of any bytes.
-/

set_option autoImplicit false

namespace PageCensus

namespace Utf16

/-- Which byte of a pair comes first. -/
inductive ByteOrder where
  /-- The low byte comes first. -/
  | little
  /-- The high byte comes first. -/
  | big
deriving DecidableEq, Repr

/-- The code unit of a pair of bytes. -/
def ByteOrder.join (order : ByteOrder) (first second : UInt8) : Nat :=
  match order with
  | .little => second.toNat * 256 + first.toNat
  | .big => first.toNat * 256 + second.toNat

/-- Whether a code unit is the first half of a character. -/
def isHigh (unit : Nat) : Bool := 0xD800 ≤ unit && unit < 0xDC00

/-- Whether a code unit is the second half of a character. -/
def isLow (unit : Nat) : Bool := 0xDC00 ≤ unit && unit < 0xE000

/-- A decoder between two bytes. -/
structure Decoder where
  /-- The first byte of a pair. -/
  byte : Option UInt8
  /-- The first half of a character. -/
  high : Option Nat
  /-- The characters read so far, the last one first. -/
  reversed : List Char

namespace Decoder

/-- Nothing was read. -/
def start : Decoder := ⟨none, none, []⟩

/-- Read a code unit where a character may begin. -/
def begin (reversed : List Char) (unit : Nat) : Decoder :=
  if isHigh unit then ⟨none, some unit, reversed⟩
  else if isLow unit then ⟨none, none, replacementChar :: reversed⟩
  else ⟨none, none, Char.ofNat unit :: reversed⟩

/-- Read a code unit. -/
def readUnit (decoder : Decoder) (unit : Nat) : Decoder :=
  match decoder.high with
  | none => begin decoder.reversed unit
  | some high =>
    if isLow unit then
      let value := 0x10000 + (high - 0xD800) * 0x400 + (unit - 0xDC00)
      ⟨none, none, Char.ofNat value :: decoder.reversed⟩
    else
      begin (replacementChar :: decoder.reversed) unit

/-- Read a byte. -/
def read (order : ByteOrder) (decoder : Decoder) (b : UInt8) : Decoder :=
  match decoder.byte with
  | none => { decoder with byte := some b }
  | some first => readUnit { decoder with byte := none } (order.join first b)

/-- The text read so far, if no more bytes follow. -/
def finish (decoder : Decoder) : List Char :=
  if decoder.byte.isSome || decoder.high.isSome then
    (replacementChar :: decoder.reversed).reverse
  else
    decoder.reversed.reverse

end Decoder

/-- The text of any bytes. -/
def decode (order : ByteOrder) (bytes : List UInt8) : List Char :=
  (bytes.foldl (Decoder.read order) .start).finish

/-- A pair of halves is one character; a half without its partner is replaced. -/
example : decode .little [0x3D, 0xD8, 0x00, 0xDE] = ['😀'] ∧
    decode .little [0x3D, 0xD8, 0x61, 0x00] = [replacementChar, 'a'] := by decide

/-- A waiting half and a single byte at the end make one replacement. -/
example : decode .big [0xD8, 0x3D, 0xDE] = [replacementChar] := by decide

end Utf16

end PageCensus
