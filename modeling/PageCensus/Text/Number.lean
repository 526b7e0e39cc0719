/-!
# Numbers as they are typed

A number is written in decimal digits, with a plus sign in front or not, and has to fit into 64
bits.  The first character that makes it wrong decides what is said about it, so that a text which
is too large and ends in a letter is too large.

* `readNumber` — the value of a text.
* `hexValue?` — the value of a hexadecimal digit, where digits of that kind are in use.
-/

set_option autoImplicit false

namespace PageCensus

/-- Why a text is not a number. -/
inductive NumberFault where
  /-- There is nothing at all. -/
  | empty
  /-- A character is not a digit. -/
  | notDigit
  /-- The value does not fit. -/
  | tooLarge
deriving DecidableEq, Repr

/-- How the reason is worded. -/
def NumberFault.message : NumberFault → String
  | empty => "cannot parse integer from empty string"
  | notDigit => "invalid digit found in string"
  | tooLarge => "number too large to fit in target type"

/-- Numbers stay below this limit. -/
def numberLimit : Nat := 1 <<< 64

/-- Read one more digit. -/
def readDigit (n : Nat) (c : Char) : Except NumberFault Nat :=
  if !c.isDigit then .error .notDigit
  else
    let n := n * 10 + (c.toNat - 0x30)
    if n < numberLimit then .ok n else .error .tooLarge

/-- The value of a text. -/
def readNumber (text : String) : Except NumberFault Nat :=
  match text.toList with
  | [] => .error .empty
  | ['+'] => .error .notDigit
  | '+' :: digits => digits.foldlM readDigit 0
  | digits => digits.foldlM readDigit 0

/-- The value of a hexadecimal digit, in either case. -/
def hexValue? (c : Char) : Option Nat :=
  if '0' ≤ c ∧ c ≤ '9' then some (c.toNat - 0x30)
  else if 'a' ≤ c ∧ c ≤ 'f' then some (c.toNat - 0x57)
  else if 'A' ≤ c ∧ c ≤ 'F' then some (c.toNat - 0x37)
  else none

/-- Zeros in front and one plus sign do not matter; the first fault does. -/
example : readNumber "+007" = .ok 7 ∧ readNumber "" = .error .empty ∧
    readNumber "++1" = .error .notDigit ∧
    readNumber "18446744073709551616x" = .error .tooLarge := ⟨rfl, rfl, rfl, rfl⟩

end PageCensus
