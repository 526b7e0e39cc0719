/-!
# Cutting a text into pieces

A text is cut at every character of a certain kind.  The characters at which it is cut belong to no
piece, and a piece may be empty, so `n` cuts make `n + 1` pieces.

* `pieces` — the pieces of a text, in order.
* `lines`, `readLines` — the pieces between line feeds, and the lines of a text that may be written
  with carriage returns.
* `pieces_append` — a cut divides a text into two that are read independently.
-/

set_option autoImplicit false

namespace PageCensus

/-- Put one more character in front of the pieces read so far. -/
def extendPieces (isCut : Char → Bool) (c : Char) : List (List Char) → List (List Char)
  | [] => if isCut c then [[], []] else [[c]]
  | piece :: rest => if isCut c then [] :: piece :: rest else (c :: piece) :: rest

/-- The pieces of a text between the characters at which it is cut. -/
def pieces (isCut : Char → Bool) (text : List Char) : List (List Char) :=
  text.foldr (extendPieces isCut) [[]]

/-- The lines of a text, without their line feeds.  What follows the last line feed is a line too,
and carriage returns stay where they are. -/
def lines (text : List Char) : List (List Char) := pieces (· == '\n') text

/-- A line without the carriage return at its end, if there is one. -/
def dropReturn (line : List Char) : List Char :=
  if line.getLast? = some '\r' then line.dropLast else line

/-- The lines of a text in which a carriage return may stand in front of each line feed.  What
follows the last line feed is a line unless it is empty; as no line feed ends it, it keeps a
carriage return at its end. -/
def readLines (text : List Char) : List (List Char) :=
  (lines text).dropLast.map dropReturn ++ (lines text).getLast?.toList.filter (!·.isEmpty)

@[simp] theorem pieces_nil (isCut : Char → Bool) : pieces isCut [] = [[]] := rfl

@[simp] theorem pieces_cons (isCut : Char → Bool) (c : Char) (text : List Char) :
    pieces isCut (c :: text) = extendPieces isCut c (pieces isCut text) := rfl

/-- There is always a first piece. -/
theorem exists_pieces_eq_cons (isCut : Char → Bool) (text : List Char) :
    ∃ piece rest, pieces isCut text = piece :: rest := by
  induction text with
  | nil => exact ⟨[], [], rfl⟩
  | cons c text ih =>
    obtain ⟨piece, rest, h⟩ := ih
    cases hc : isCut c <;> simp [h, extendPieces, hc]

/-- The text before a cut is read independently of the text after it. -/
theorem pieces_append {isCut : Char → Bool} {c : Char} (hc : isCut c = true) (a b : List Char) :
    pieces isCut (a ++ c :: b) = pieces isCut a ++ pieces isCut b := by
  induction a with
  | nil =>
    obtain ⟨piece, rest, h⟩ := exists_pieces_eq_cons isCut b
    simp [h, extendPieces, hc]
  | cons x a ih =>
    obtain ⟨piece, rest, h⟩ := exists_pieces_eq_cons isCut a
    cases hx : isCut x <;> simp [ih, h, extendPieces, hx]

/-- A text without cuts is its own only piece. -/
theorem pieces_eq_singleton {isCut : Char → Bool} {text : List Char}
    (h : ∀ c ∈ text, isCut c = false) : pieces isCut text = [text] := by
  induction text with
  | nil => rfl
  | cons c text ih =>
    rw [pieces_cons, ih fun x hx => h x (List.mem_cons_of_mem c hx)]
    simp [extendPieces, h c List.mem_cons_self]

theorem lines_append (a b : List Char) : lines (a ++ '\n' :: b) = lines a ++ lines b :=
  pieces_append (by decide) a b

/-- Only a line feed ends a line, and what follows the last one need not be a line. -/
example : readLines "a\r\nb\rc\n\r\nd\r".toList =
    ["a".toList, "b\rc".toList, [], "d\r".toList] ∧ readLines "a\n".toList = ["a".toList] := by
  decide

end PageCensus
