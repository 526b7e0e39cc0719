import PageCensus.Charset.Utf16
import PageCensus.Charset.Windows1252

/-!
# Charsets

How the bytes of a page become a text.  A byte order mark at the front of the bytes says how they
are to be read and is no part of the text.  Only without one does the charset count that was
declared along with the bytes.

There are dozens of charsets, most of them large tables, and which of them a reader knows is its own
affair.  So whoever reads a page brings the charsets along; only the ones that a byte order mark can
name are always there.

* `Charsets` — the charsets that a reader knows.
* `Charset.ofMark?` — the charset of a byte order mark, and the bytes after it.
* `decodePage` — the text of a page.
* `Charset.ofLabel?`, `Charsets.builtIn` — the charsets that come with this library, and no others.
-/

set_option autoImplicit false

namespace PageCensus

/-- The charsets that a reader knows: for the declared name of one, what bytes are read as in it.
All bytes can be read in a charset; those that stand for nothing are read as a character that says
so. -/
abbrev Charsets := String → Option (List UInt8 → List Char)

/-- The ways to read bytes as text that come with this library. -/
inductive Charset where
  /-- One to four bytes for a character. -/
  | utf8
  /-- Pairs of bytes. -/
  | utf16 (order : Utf16.ByteOrder)
  /-- One byte for a character. -/
  | windows1252
deriving DecidableEq, Repr

namespace Charset

/-- The text of any bytes. -/
def decode : Charset → List UInt8 → List Char
  | utf8 => Utf8.decode
  | utf16 order => Utf16.decode order
  | windows1252 => Windows1252.decode

/-- The names of UTF-8. -/
def utf8Labels : List String :=
  ["unicode-1-1-utf-8", "unicode11utf8", "unicode20utf8", "utf-8", "utf8", "x-unicode20utf8"]

/-- The names of UTF-16 with the low byte first, which is also meant when no order is named. -/
def utf16LittleLabels : List String :=
  ["csunicode", "iso-10646-ucs-2", "ucs-2", "unicode", "unicodefeff", "utf-16", "utf-16le"]

/-- The names of UTF-16 with the high byte first. -/
def utf16BigLabels : List String := ["unicodefffe", "utf-16be"]

/-- The names of Windows-1252, among them those of the smaller sets that it contains. -/
def windows1252Labels : List String :=
  ["ansi_x3.4-1968", "ascii", "cp1252", "cp819", "csisolatin1", "ibm819", "iso-8859-1",
    "iso-ir-100", "iso8859-1", "iso88591", "iso_8859-1", "iso_8859-1:1987", "l1", "latin1",
    "us-ascii", "windows-1252", "x-cp1252"]

/-- The characters that may stand around a declared name. -/
def isLabelSpace (c : Char) : Bool :=
  c == ' ' || c == '\t' || c == '\n' || c == '\r' || c == '\x0c'

/-- The charset of a declared name.  Case and spaces around the name do not matter. -/
def ofLabel? (label : String) : Option Charset :=
  let name := ((label.toList.dropWhile isLabelSpace).reverse.dropWhile isLabelSpace).reverse
  let name := String.ofList (name.map Char.toLower)
  if utf8Labels.contains name then some utf8
  else if utf16LittleLabels.contains name then some (utf16 .little)
  else if utf16BigLabels.contains name then some (utf16 .big)
  else if windows1252Labels.contains name then some windows1252
  else none

/-- The charset that a byte order mark at the front names, and the bytes after the mark. -/
def ofMark? : List UInt8 → Option (Charset × List UInt8)
  | 0xEF :: 0xBB :: 0xBF :: rest => some (utf8, rest)
  | 0xFF :: 0xFE :: rest => some (utf16 .little, rest)
  | 0xFE :: 0xFF :: rest => some (utf16 .big, rest)
  | _ => none

/-- No name is claimed by two charsets. -/
example : (utf8Labels ++ utf16LittleLabels ++ utf16BigLabels ++ windows1252Labels).Nodup := by
  decide

end Charset

/-- The charsets that come with this library. -/
def Charsets.builtIn : Charsets := fun label => (Charset.ofLabel? label).map Charset.decode

/-- The text of a page: its byte order mark decides, and without one the declared charset, in which
bytes are read by `declared`. -/
def decodePage (declared : List UInt8 → List Char) (bytes : List UInt8) : List Char :=
  match Charset.ofMark? bytes with
  | some (charset, rest) => charset.decode rest
  | none => declared bytes

/-- Only the first mark is taken away. -/
example : decodePage Windows1252.decode [0xEF, 0xBB, 0xBF, 0xEF, 0xBB, 0xBF, 0x78] =
    ['\ufeff', 'x'] := by decide

end PageCensus
