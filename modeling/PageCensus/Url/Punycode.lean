/-!
# Punycode

A label of a domain name that holds characters beyond ASCII is carried as letters and digits.  Its
ASCII characters come first, then a hyphen, then the other characters in ascending order as
differences: how far to count, through all positions at which a character could be inserted, until
the next one.  The differences are numbers of variable length in base 36, whose digits have a
threshold each; a digit below its threshold is the last one.  The thresholds follow the size of the
differences seen so far.

No loop needs a bound from outside: `adaptLoop` and `encodeNumber` divide, and everything else
recurses on a list.

* `Punycode.encode` — the letters and digits of a label.
* `Punycode.decode?` — the label of letters and digits.
-/

set_option autoImplicit false

namespace PageCensus

namespace Punycode

/-- A digit: the letters come before the ten digits. -/
def digitChar (d : Nat) : Char := if d < 26 then Char.ofNat (0x61 + d) else Char.ofNat (0x16 + d)

/-- The value of a digit. -/
def digitValue? (c : Char) : Option Nat :=
  if 'a' ≤ c ∧ c ≤ 'z' then some (c.toNat - 0x61)
  else if 'A' ≤ c ∧ c ≤ 'Z' then some (c.toNat - 0x41)
  else if '0' ≤ c ∧ c ≤ '9' then some (c.toNat - 0x30 + 26)
  else none

/-- The threshold of the digit at `position`, counted in steps of 36. -/
def threshold (position bias : Nat) : Nat := max 1 (min 26 (position - bias))

theorem threshold_bounds (position bias : Nat) :
    1 ≤ threshold position bias ∧ threshold position bias ≤ 26 := by
  unfold threshold; omega

/-- Divide until little is left; every division moves the thresholds by one position. -/
def adaptLoop (delta position : Nat) : Nat × Nat :=
  if 455 < delta then adaptLoop (delta / 35) (position + 36) else (delta, position)
termination_by delta
decreasing_by omega

/-- The bias after a difference, which was the first or not, when there are `count` characters. -/
def adapt (delta count : Nat) (isFirst : Bool) : Nat :=
  let scaled := if isFirst then delta / 700 else delta / 2
  let (rest, position) := adaptLoop (scaled + scaled / count) 0
  position + 36 * rest / (rest + 38)

/-! ## Encoding -/

/-- The digits of a number, from a position on. -/
def encodeNumber (bias position n : Nat) : List Char :=
  let t := threshold position bias
  if n < t then [digitChar n]
  else digitChar (t + (n - t) % (36 - t)) :: encodeNumber bias (position + 36) ((n - t) / (36 - t))
termination_by n
decreasing_by
  have := threshold_bounds position bias
  have := Nat.div_le_self (n - threshold position bias) (36 - threshold position bias)
  omega

/-- A label while its characters are inserted in ascending order. -/
structure Encoder where
  /-- The differences so far, the last one first. -/
  reversed : List (List Char)
  /-- How far was counted since the last insertion. -/
  delta : Nat
  /-- The bias for the next difference. -/
  bias : Nat
  /-- How many characters are in place. -/
  placed : Nat

namespace Encoder

/-- Count past one character of the label, or insert it if it is the one with number `next`. -/
def pass (basicCount next : Nat) (encoder : Encoder) (c : Char) : Encoder :=
  if c.toNat < next then { encoder with delta := encoder.delta + 1 }
  else if c.toNat = next then
    { reversed := encodeNumber encoder.bias 36 encoder.delta :: encoder.reversed
      delta := 0
      bias := adapt encoder.delta (encoder.placed + 1) (encoder.placed == basicCount)
      placed := encoder.placed + 1 }
  else encoder

/-- Insert all characters with number `next`, when those with numbers less than `below` are in
place. -/
def insertAll (label : List Char) (basicCount below next : Nat) (encoder : Encoder) : Encoder :=
  let counted := encoder.delta + (next - below) * (encoder.placed + 1)
  let encoder := label.foldl (pass basicCount next) { encoder with delta := counted }
  { encoder with delta := encoder.delta + 1 }

end Encoder

/-- Whether a character is carried as it is. -/
def isBasic (c : Char) : Bool := c.toNat < 0x80

/-- Numbers in ascending order, each once. -/
def ascending (numbers : List Nat) : List Nat :=
  numbers.foldr
    (fun n sorted => sorted.takeWhile (· < n) ++ n :: (sorted.dropWhile (· < n)).dropWhile (· == n))
    []

/-- The letters and digits of a label. -/
def encode (label : List Char) : List Char :=
  let basic := label.filter isBasic
  let numbers := ascending ((label.filter fun c => !isBasic c).map Char.toNat)
  let start : Encoder := ⟨[], 0, 72, basic.length⟩
  let encoder := (numbers.foldl
    (fun (state : Nat × Encoder) next =>
      (next + 1, state.2.insertAll label basic.length state.1 next)) (0x80, start)).2
  (if basic.isEmpty then [] else basic ++ ['-']) ++ encoder.reversed.reverse.flatten

/-! ## Decoding -/

/-- A label while characters are inserted into it. -/
structure Decoder where
  /-- The label so far. -/
  label : List Char
  /-- The number of the next character, if nothing more is counted. -/
  next : Nat
  /-- The position for the next character, if nothing more is counted. -/
  position : Nat
  /-- The bias for the difference that is being read. -/
  bias : Nat
  /-- What was read of the difference. -/
  delta : Nat
  /-- The weight of its next digit. -/
  weight : Nat
  /-- The position of its next digit, in steps of 36. -/
  digit : Nat

namespace Decoder

/-- Nothing of the differences was read. -/
def start (basic : List Char) : Decoder := ⟨basic, 0x80, 0, 72, 0, 1, 36⟩

/-- A character with this number, if there is one. -/
def char? (n : Nat) : Option Char := if n.isValidChar then some (Char.ofNat n) else none

/-- A difference is complete: count on by it and insert the character reached. -/
def insert? (decoder : Decoder) (isFirst : Bool) : Option Decoder := do
  let count := decoder.label.length + 1
  let reached := decoder.position + decoder.delta
  let next := decoder.next + reached / count
  let position := reached % count
  let c ← char? next
  return {
    label := decoder.label.take position ++ c :: decoder.label.drop position
    next := next
    position := position + 1
    bias := adapt decoder.delta count isFirst
    delta := 0
    weight := 1
    digit := 36 }

/-- Read a digit. -/
def read? (basicCount : Nat) (decoder : Decoder) (c : Char) : Option Decoder := do
  let value ← digitValue? c
  let t := threshold decoder.digit decoder.bias
  let decoder := { decoder with delta := decoder.delta + value * decoder.weight }
  if 1 <<< 32 ≤ decoder.delta then none
  else if value < t then decoder.insert? (decoder.label.length == basicCount)
  else return { decoder with weight := decoder.weight * (36 - t), digit := decoder.digit + 36 }

end Decoder

/-- The text before the last hyphen and the text after it. -/
def splitAtLastHyphen (text : List Char) : List Char × List Char :=
  let after := (text.reverse.takeWhile (· != '-')).reverse
  if after.length = text.length then ([], text)
  else (text.take (text.length - after.length - 1), after)

/-- The label of letters and digits, unless a difference is cut short or leads to no character. -/
def decode? (text : List Char) : Option (List Char) := do
  let (basic, differences) := splitAtLastHyphen text
  if !basic.all isBasic then none
  let decoder ← differences.foldlM (Decoder.read? basic.length) (.start basic)
  if decoder.weight = 1 && decoder.digit = 36 then some decoder.label else none

example : encode "bücher".toList = "bcher-kva".toList ∧
    decode? "bcher-kva".toList = some "bücher".toList := by decide +kernel

end Punycode

end PageCensus
