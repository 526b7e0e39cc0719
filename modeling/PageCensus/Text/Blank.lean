/-!
# Blank characters

Words are separated, and lines are trimmed, by *blank* characters: those with the Unicode property
`White_Space`.  The set is larger than the four or five characters that a keyboard produces, and
smaller than "everything that looks empty": the zero width space `U+200B` and the byte order mark
`U+FEFF` are not in it.

* `isBlank` — membership in the set, read off the table `blankRanges`.
* `trimBlank` — a text without the blanks at its two ends.
-/

set_option autoImplicit false

namespace PageCensus

/-- The code points with the property `White_Space`, as inclusive ranges in ascending order. -/
def blankRanges : List (Nat × Nat) :=
  [(0x9, 0xD), (0x20, 0x20), (0x85, 0x85), (0xA0, 0xA0), (0x1680, 0x1680), (0x2000, 0x200A),
    (0x2028, 0x2029), (0x202F, 0x202F), (0x205F, 0x205F), (0x3000, 0x3000)]

/-- Whether a character separates words. -/
def isBlank (c : Char) : Bool :=
  blankRanges.any fun range => range.1 ≤ c.toNat && c.toNat ≤ range.2

/-- Twenty-five characters are blank. -/
example : (blankRanges.map fun range => range.2 - range.1 + 1).sum = 25 := by decide

/-- The ranges ascend and do not touch. -/
example : blankRanges.Pairwise fun a b => a.2 + 1 < b.1 := by decide

/-- The zero width space and the byte order mark are not blank. -/
example : (isBlank '\u200b', isBlank '\ufeff', isBlank '\u3000') = (false, false, true) := by decide

/-! ## Trimming -/

/-- A text without the blanks at its two ends. -/
def trimBlank (text : List Char) : List Char :=
  ((text.dropWhile isBlank).reverse.dropWhile isBlank).reverse

@[simp] theorem trimBlank_nil : trimBlank [] = [] := rfl

/-- Blanks in front of a text do not matter to the trimmed text. -/
theorem trimBlank_cons_of_isBlank {c : Char} {text : List Char} (h : isBlank c = true) :
    trimBlank (c :: text) = trimBlank text := by
  simp [trimBlank, h]

end PageCensus
