import PageCensus.Text.Number

/-!
# IPv4 addresses

One to four numbers with points between them.  All but the last are bytes; the last fills the bytes
that are left.  A number may be hexadecimal, after `0x`, or octal, after `0`.

A host whose last part is a number has to be such an address: it is never a name.

* `Ipv4.isMeant` — whether a host has to be an address.
* `Ipv4.ofText?`, `Ipv4.text` — reading and writing.
-/

set_option autoImplicit false

namespace PageCensus

/-- An IPv4 address, as a number of 32 bits. -/
structure Ipv4 where
  /-- The number. -/
  value : Nat
deriving DecidableEq, Repr

namespace Ipv4

/-- The value of a digit in a base of at most sixteen. -/
def digit? (base : Nat) (c : Char) : Option Nat := (hexValue? c).filter (· < base)

/-- The value of digits in a base; of no digits it is zero. -/
def digits? (base : Nat) (digits : List Char) : Option Nat :=
  digits.foldlM (fun n c => (digit? base c).map (n * base + ·)) 0

/-- The value of a part of an address. -/
def number? : List Char → Option Nat
  | [] => none
  | '0' :: 'x' :: rest => digits? 16 rest
  | '0' :: 'X' :: rest => digits? 16 rest
  | '0' :: c :: rest => digits? 8 (c :: rest)
  | part => digits? 10 part

/-- The parts of a host, without the empty one behind a point at the end. -/
def parts (labels : List (List Char)) : List (List Char) :=
  if 1 < labels.length ∧ labels.getLast? = some [] then labels.dropLast else labels

/-- Whether a host, given as what stands between its points, has to be an address: its last part is
made of digits, or is a number in another base. -/
def isMeant (labels : List (List Char)) : Bool :=
  match (parts labels).getLast? with
  | none => false
  | some last => (!last.isEmpty && last.all Char.isDigit) || (number? last).isSome

/-- The address of numbers, the last of which fills the bytes that are left. -/
def ofNumbers? (numbers : List Nat) : Option Ipv4 :=
  match numbers.getLast? with
  | none => none
  | some last =>
    let bytes := numbers.dropLast
    let bitsLeft := 8 * (4 - bytes.length)
    if 4 < numbers.length || bytes.any (255 < ·) || 1 <<< bitsLeft ≤ last then none
    else
      let high := bytes.foldl (fun n b => n * 256 + b) 0
      some ⟨(high <<< bitsLeft) + last⟩

/-- The address of a host, given as what stands between its points. -/
def ofLabels? (labels : List (List Char)) : Option Ipv4 :=
  ((parts labels).mapM number?).bind ofNumbers?

/-- The address as four decimal numbers. -/
def text (address : Ipv4) : String :=
  ".".intercalate ([24, 16, 8, 0].map fun shift => toString ((address.value >>> shift) % 256))

example : (ofLabels? ["0x7f".toList, "1".toList]).map text = some "127.0.0.1" := by decide

end Ipv4

end PageCensus
