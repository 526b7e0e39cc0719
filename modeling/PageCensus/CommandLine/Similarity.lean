/-!
# How similar two words are

The similarity of two words is the mean of three shares: of the characters of the one that match, of
those of the other, and of the matches that stand in the same order.  Two characters match if they
are equal and their positions are less than half the longer word apart.

Every step of this is rounded to 53 binary digits.  What is rounded is kept as a fraction, so that
the digits are exact and two similarities are compared as they are.

* `Fraction.rounded` — the nearest fraction with few binary digits.
* `similarity` — of two words.
* `mostSimilar?` — the word of a list that is most similar to a given one, if any is similar enough.
-/

set_option autoImplicit false

namespace PageCensus

/-- A fraction. -/
structure Fraction where
  /-- Above the line. -/
  upper : Nat
  /-- Below the line. -/
  lower : Nat
deriving DecidableEq, Repr

namespace Fraction

/-- Whether one fraction is less than another.  Neither has zero below the line. -/
def lt (a b : Fraction) : Bool := a.upper * b.lower < b.upper * a.lower

/-- How many binary digits are kept. -/
def precision : Nat := 53

/-- The quotient of two numbers, rounded to the nearest number; of two the even one. -/
def nearest (n d : Nat) : Nat :=
  let q := n / d
  if d < 2 * (n % d) || (2 * (n % d) == d && q % 2 == 1) then q + 1 else q

/-- The nearest fraction with `precision` binary digits above a power of two.  It is exact where `a`
is such a fraction already. -/
def rounded (a : Fraction) : Fraction :=
  let shift := precision - 1 + a.lower.log2 - a.upper.log2
  let shift :=
    if (a.upper <<< shift) / a.lower < 1 <<< (precision - 1) then shift + 1 else shift
  ⟨nearest (a.upper <<< shift) a.lower, 1 <<< shift⟩

/-- The sum, rounded. -/
def add (a b : Fraction) : Fraction :=
  rounded ⟨a.upper * b.lower + b.upper * a.lower, a.lower * b.lower⟩

/-- The `n`-th part, rounded. -/
def part (a : Fraction) (n : Nat) : Fraction := rounded ⟨a.upper, a.lower * n⟩

end Fraction

/-- How far apart the positions of matching characters may be. -/
def reach (a b : List Char) : Nat := max a.length b.length / 2 - 1

/-- Match the character `c` at `position` with the first free one in reach.  A character of the
other word comes with whether it is taken. -/
def takeMatch (reach position : Nat) (c : Char) : Nat → List (Char × Bool) →
    Option (List (Char × Bool))
  | _, [] => none
  | index, (x, taken) :: rest =>
    if position + reach < index then none
    else if position ≤ index + reach ∧ x = c ∧ !taken then some ((x, true) :: rest)
    else (takeMatch reach position c (index + 1) rest).map ((x, taken) :: ·)

/-- Match the characters of a word, from `position` on, with those of another word; the result is
the characters of both that match, each in the order of its word. -/
def takeMatches (reach : Nat) : Nat → List Char → List (Char × Bool) → List Char × List Char
  | _, [], other => ([], (other.filter Prod.snd).map Prod.fst)
  | position, c :: rest, other =>
    match takeMatch reach position c 0 other with
    | some other =>
      let (mine, theirs) := takeMatches reach (position + 1) rest other
      (c :: mine, theirs)
    | none => takeMatches reach (position + 1) rest other

/-- The similarity of two words: one if both are empty, zero if nothing matches. -/
def similarity (a b : List Char) : Fraction :=
  if a.isEmpty ∧ b.isEmpty then ⟨1, 1⟩
  else
    let (mine, theirs) := takeMatches (reach a b) 0 a (b.map fun c => (c, false))
    let matched := mine.length
    let moved := ((mine.zip theirs).filter fun pair => pair.1 != pair.2).length / 2
    let share (n total : Nat) := Fraction.rounded ⟨n, total⟩
    if matched = 0 then ⟨0, 1⟩
    else
      (((share matched a.length).add (share matched b.length)).add
        (share (matched - moved) matched)).part 3

/-- Only what is more similar than this is worth a hint: seven tenths. -/
def similarEnough : Fraction := Fraction.rounded ⟨7, 10⟩

/-- The word of a list that is most similar to `word`, if it is similar enough; of several the
last. -/
def mostSimilar? {α : Type} (word : List Char) (spelling : α → List Char) (candidates : List α) :
    Option α :=
  let better (best : Option (α × Fraction)) (candidate : α) : Option (α × Fraction) :=
    let score := similarity word (spelling candidate)
    if similarEnough.lt score && best.all (fun other => !score.lt other.2) then
      some (candidate, score)
    else best
  (candidates.foldl better none).map Prod.fst

example : mostSimilar? "nope".toList String.toList ["top", "verbose"] = some "top" ∧
    mostSimilar? "tpo".toList String.toList ["top", "verbose"] = none := by decide

end PageCensus
