import PageCensus.Text.Pieces

/-!
# Tables of code points

What Unicode says about characters mostly holds for whole runs of code points, so a table is a list
of runs in ascending order.  A run says how far behind the last one it starts, how long it is, and
which numbers go with it.

A table is written as one row a run, with blanks between rows and hyphens between the numbers of a
row: the gap, the length and the numbers of the run, all of them hexadecimal.  A length of one at
the end of a row may be left out.

* `CodeTable`, `CodeTable.ofText` — a table, and the table of a text.
* `CodeTable.find?` — how far into a run a code point is, and the numbers of the run.
-/

set_option autoImplicit false

namespace PageCensus

/-- Code points in a row. -/
structure CodeRun where
  /-- How many code points are between the last run and this one. -/
  gap : Nat
  /-- How many code points are in it. -/
  length : Nat
  /-- The numbers that go with them. -/
  values : List Nat
deriving DecidableEq, Repr

/-- Runs in ascending order. -/
abbrev CodeTable := List CodeRun

namespace CodeTable

/-- The value of a lower case hexadecimal digit. -/
def digitValue (c : Char) : Nat := if c ≤ '9' then c.toNat - 0x30 else c.toNat - 0x57

/-- The value of hexadecimal digits. -/
def number (digits : List Char) : Nat := digits.foldl (fun n c => n * 16 + digitValue c) 0

/-- The run that the numbers of a row stand for. -/
def runOfRow : List Nat → CodeRun
  | [] => ⟨0, 0, []⟩
  | [gap] => ⟨gap, 1, []⟩
  | gap :: length :: values => ⟨gap, length, values⟩

/-- The table that is written in a text. -/
def ofText (text : String) : CodeTable :=
  let rows := (pieces (fun c => c == ' ' || c == '\n') text.toList).filter (!·.isEmpty)
  rows.map fun row => runOfRow ((pieces (· == '-') row).map number)

/-- How far into its run the code point `n` is, counted from the end of the runs before, and the
numbers of that run. -/
def find? : CodeTable → Nat → Option (Nat × List Nat)
  | [], _ => none
  | run :: rest, n =>
    if n < run.gap then none
    else if n < run.gap + run.length then some (n - run.gap, run.values)
    else find? rest (n - (run.gap + run.length))

/-- Whether a character is in one of the runs. -/
def contains (table : CodeTable) (c : Char) : Bool := (table.find? c.toNat).isSome

/-- The first number that goes with a character. -/
def value? (table : CodeTable) (c : Char) : Option Nat :=
  (table.find? c.toNat).bind fun found => found.2.head?

/-- The first code point of each run, with the numbers that go with it, when the runs before end in
front of `start`. -/
def entries (start : Nat) : CodeTable → List (Nat × List Nat)
  | [] => []
  | run :: rest =>
    (start + run.gap, run.values) :: entries (start + run.gap + run.length) rest

example : ofText "3-2-1f-a 10" = [⟨3, 2, [0x1F, 0xA]⟩, ⟨0x10, 1, []⟩] := by decide

example : (List.range 8).map (find? [⟨3, 2, [7]⟩, ⟨2, 1, []⟩]) =
    [none, none, none, some (0, [7]), some (1, [7]), none, none, some (0, [])] := by decide

end CodeTable

end PageCensus
