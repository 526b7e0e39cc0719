import PageCensus.Text.Pieces
import PageCensus.Url.Ipv4

/-!
# IPv6 addresses

Eight numbers of up to four hexadecimal digits with colons between them.  One run of zeros may be
left out, which leaves two colons in a row, and the last two numbers may be written as four decimal
bytes.

* `Ipv6.ofText?`, `Ipv6.text` — reading and writing.
-/

set_option autoImplicit false

namespace PageCensus

/-- An IPv6 address, as eight numbers of 16 bits. -/
structure Ipv6 where
  /-- The numbers. -/
  groups : List Nat
deriving DecidableEq, Repr

namespace Ipv6

/-- A number of one to four hexadecimal digits. -/
def group? (piece : List Char) : Option Nat :=
  if piece.isEmpty || 4 < piece.length then none else Ipv4.digits? 16 piece

/-- A decimal byte without zeros in front. -/
def byte? (piece : List Char) : Option Nat :=
  if piece.isEmpty || (1 < piece.length && piece.head? == some '0') then none
  else (Ipv4.digits? 10 piece).filter (· ≤ 255)

/-- The two numbers that four decimal bytes stand for. -/
def bytes? (piece : List Char) : Option (List Nat) :=
  match pieces (· == '.') piece with
  | [a, b, c, d] => do
    return [(← byte? a) * 256 + (← byte? b), (← byte? c) * 256 + (← byte? d)]
  | _ => none

/-- The numbers of pieces, of which the last may hold decimal bytes. -/
def groups? : List (List Char) → Option (List Nat)
  | [] => some []
  | [last] => if last.contains '.' then bytes? last else (group? last).map fun n => [n]
  | piece :: rest => do return (← group? piece) :: (← groups? rest)

/-- The text before the first two colons in a row and the text after them. -/
def splitAtGap : List Char → Option (List Char × List Char)
  | [] => none
  | ':' :: ':' :: rest => some ([], rest)
  | c :: rest => (splitAtGap rest).map fun halves => (c :: halves.1, halves.2)

/-- The numbers on one side of a gap, where there may be none. -/
def side? (text : List Char) : Option (List Nat) :=
  if text.isEmpty then some [] else groups? (pieces (· == ':') text)

/-- The address that is written in a text. -/
def ofText? (text : List Char) : Option Ipv6 :=
  match splitAtGap text with
  | none => do
    let groups ← groups? (pieces (· == ':') text)
    if groups.length = 8 then some ⟨groups⟩ else none
  | some (left, right) => do
    -- decimal bytes end an address, so they cannot stand in front of a gap
    if left.contains '.' then none
    let left ← side? left
    let right ← side? right
    if left.length + right.length ≤ 7 then
      some ⟨left ++ List.replicate (8 - left.length - right.length) 0 ++ right⟩
    else none

/-! ## Writing -/

/-- How many zeros stand at the front. -/
def zerosAtFront (groups : List Nat) : Nat := (groups.takeWhile (· == 0)).length

/-- Where the first of the longest runs of zeros starts, and how long it is.  `best` is the answer
for the numbers before, of which there are `start`. -/
def longestZeros (start : Nat) (best : Nat × Nat) : List Nat → Nat × Nat
  | [] => best
  | n :: rest =>
    let here := zerosAtFront (n :: rest)
    longestZeros (start + 1) (if best.2 < here then (start, here) else best) rest

/-- Numbers with colons between them. -/
def joined (groups : List Nat) : String :=
  ":".intercalate (groups.map fun n => String.ofList (Nat.toDigits 16 n))

/-- The address as it is written, with the longest run of two or more zeros left out. -/
def text (address : Ipv6) : String :=
  let (start, length) := longestZeros 0 (0, 0) address.groups
  if length < 2 then joined address.groups
  else joined (address.groups.take start) ++ "::" ++ joined (address.groups.drop (start + length))

example : (ofText? "1:0:0:2::1.2.3.4".toList).map text = some "1::2:0:0:102:304" := by
  decide +kernel

example : [":::1", "1:2", "::1%25", "1::2::3", "1:"].map (fun s => ofText? s.toList) =
    [none, none, none, none, none] := by decide

end Ipv6

end PageCensus
