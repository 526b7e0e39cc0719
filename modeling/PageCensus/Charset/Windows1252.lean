/-!
# Windows-1252

One byte is one character.  The bytes `80..9F` have characters of their own, all others those of
their number.  Five of the thirty-two stand for the control character of their number, so every byte
has a meaning.

* `Windows1252.decode` — the text of any bytes.
-/

set_option autoImplicit false

namespace PageCensus

namespace Windows1252

/-- The characters of the bytes `80..9F`, in order. -/
def upperControls : List Char :=
  ['\u20ac', '\u0081', '\u201a', '\u0192', '\u201e', '\u2026', '\u2020', '\u2021',
    '\u02c6', '\u2030', '\u0160', '\u2039', '\u0152', '\u008d', '\u017d', '\u008f',
    '\u0090', '\u2018', '\u2019', '\u201c', '\u201d', '\u2022', '\u2013', '\u2014',
    '\u02dc', '\u2122', '\u0161', '\u203a', '\u0153', '\u009d', '\u017e', '\u0178']

/-- The character of a byte. -/
def decodeByte (b : UInt8) : Char :=
  if b < 0x80 then Char.ofNat b.toNat
  else (upperControls[b.toNat - 0x80]?).getD (Char.ofNat b.toNat)

/-- The text of any bytes. -/
def decode (bytes : List UInt8) : List Char := bytes.map decodeByte

/-- Different bytes have different characters. -/
example : upperControls.length = 32 ∧ upperControls.Nodup := by decide

end Windows1252

end PageCensus
