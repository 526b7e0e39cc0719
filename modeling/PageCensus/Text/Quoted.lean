import PageCensus.Text.Visible

/-!
# Quoted texts

A text between double quotes, written so that its end and every character in it can be told.  Quotes
and backslashes get a backslash in front; the line feed, the carriage return, the tab and the null
character have short names; every other character that cannot be seen by itself is given by its
number.

* `quoteChar` — how one character is written.
* `quoted` — how a text is written, with the quotes around it.
-/

set_option autoImplicit false

namespace PageCensus

/-- The least hexadecimal digits of a number, lower case. -/
def hexDigits (n : Nat) : List Char := Nat.toDigits 16 n

/-- How a character is written between quotes. -/
def quoteChar (c : Char) : List Char :=
  if c = '"' then ['\\', '"']
  else if c = '\\' then ['\\', '\\']
  else if c = '\n' then ['\\', 'n']
  else if c = '\r' then ['\\', 'r']
  else if c = '\t' then ['\\', 't']
  else if c = '\x00' then ['\\', '0']
  else if isVisible c then [c]
  else ['\\', 'u', '\x7b'] ++ hexDigits c.toNat ++ ['\x7d']

/-- How a text is written, with the quotes around it. -/
def quoted (text : String) : String :=
  String.ofList ('"' :: text.toList.flatMap quoteChar ++ ['"'])

example : quoted "a\"b\\\n" = "\"a\\\"b\\\\\\n\"" := by decide +kernel

end PageCensus
