import PageCensus.Charset.Utf8
import PageCensus.Text.Number

/-!
# Percent signs in addresses

A character that an address cannot show is written as the bytes of its UTF-8 form, each as a percent
sign and two hexadecimal digits.  Which characters have to be written so depends on the part of the
address.  Control characters and everything beyond ASCII have to be in every part.

* `Percent.encode` — a text as it is written in a part of an address.
* `Percent.decode` — the bytes that a written text stands for.
-/

set_option autoImplicit false

namespace PageCensus

namespace Percent

/-! ## Characters that are written as bytes -/

/-- In every part. -/
def inAnyPart (c : Char) : Bool := c.toNat < 0x20 || 0x7F ≤ c.toNat

/-- In a fragment. -/
def inFragment (c : Char) : Bool := inAnyPart c || [' ', '"', '<', '>', '`'].contains c

/-- In a query. -/
def inQuery (c : Char) : Bool := inAnyPart c || [' ', '"', '#', '<', '>'].contains c

/-- In a query of one of the schemes of the web. -/
def inWebQuery (c : Char) : Bool := inQuery c || c == '\''

/-- In a path. -/
def inPath (c : Char) : Bool := inFragment c || ['#', '?', '\x7b', '\x7d'].contains c

/-- In a user name or password. -/
def inUserInfo (c : Char) : Bool :=
  inPath c || ['/', ':', ';', '=', '@', '[', '\\', ']', '^', '|'].contains c

/-! ## Writing and reading -/

/-- A hexadecimal digit, upper case. -/
def hexDigit (n : Nat) : Char := if n < 10 then Char.ofNat (0x30 + n) else Char.ofNat (0x37 + n)

/-- A byte as a percent sign and two digits. -/
def encodeByte (b : UInt8) : List Char :=
  ['%', hexDigit (b.toNat / 16), hexDigit (b.toNat % 16)]

/-- A character as it is written where the characters of `isEscaped` cannot be shown. -/
def encodeChar (isEscaped : Char → Bool) (c : Char) : List Char :=
  if isEscaped c then (Utf8.encode [c]).flatMap encodeByte else [c]

/-- A text as it is written where the characters of `isEscaped` cannot be shown. -/
def encode (isEscaped : Char → Bool) (text : List Char) : List Char :=
  text.flatMap (encodeChar isEscaped)

/-- The bytes that a written text stands for.  A percent sign without two digits stands for
itself. -/
def decode : List Char → List UInt8
  | [] => []
  | '%' :: a :: b :: rest =>
    match hexValue? a, hexValue? b with
    | some high, some low => UInt8.ofNat (high * 16 + low) :: decode rest
    | _, _ => 0x25 :: decode (a :: b :: rest)
  | c :: rest => String.utf8EncodeChar c ++ decode rest

example : encode inPath "a b?é".toList = "a%20b%3F%C3%A9".toList := by decide

example : decode "%41%zz%".toList = [0x41, 0x25, 0x7A, 0x7A, 0x25] := by decide

end Percent

end PageCensus
