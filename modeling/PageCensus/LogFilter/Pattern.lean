import PageCensus.Text.Number
import PageCensus.Unicode.Alphanumeric

/-!
# Patterns for values

A directive can ask that a field has a certain value, which is a number, or a pattern that the value
matches as a whole.  Here a pattern is only checked: parentheses and brackets have to close, what is
repeated has to be there, an escape has to be known, and no two groups have one name.  Numbers of
repetitions cannot be given, since a closing brace ends the value, and neither can the ends of
words.

* `Pattern.isValid` — whether a text is a pattern.
* `isValueText` — whether a directive can ask for it as a value.
-/

set_option autoImplicit false

namespace PageCensus

namespace Pattern

/-! ## Escapes -/

/-- What an escape stands for. -/
inductive Escape where
  /-- One character, with this number. -/
  | char (number : Nat)
  /-- A set of characters. -/
  | set
  /-- An end of the text. -/
  | place
deriving DecidableEq, Repr

/-- The character that is given by `count` digits. -/
def numbered? (count : Nat) (text : List Char) : Option (Escape × List Char) := do
  let digits ← (text.take count).mapM hexValue?
  let number := digits.foldl (fun n digit => n * 16 + digit) 0
  if digits.length = count && number.isValidChar then some (.char number, text.drop count) else none

/-- The characters that have a letter of their own. -/
def lettered : List (Char × Nat) :=
  [('a', 0x07), ('f', 0x0C), ('n', 0x0A), ('r', 0x0D), ('t', 0x09), ('v', 0x0B)]

/-- What stands behind a backslash, and the text after it. -/
def escape? : List Char → Option (Escape × List Char)
  | [] => none
  | 'x' :: rest => numbered? 2 rest
  | 'u' :: rest => numbered? 4 rest
  | 'U' :: rest => numbered? 8 rest
  | 'A' :: rest => some (.place, rest)
  | 'z' :: rest => some (.place, rest)
  | c :: rest =>
    if ['p', 'P'].contains c then
      match rest with
      | category :: rest =>
        if "CLMNPSZclmnpsz".toList.contains category then some (.set, rest) else none
      | [] => none
    else if "dDsSwW".toList.contains c then some (.set, rest)
    else match lettered.lookup c with
      | some number => some (.char number, rest)
      | none =>
        if c.toNat < 0x80 && !c.isAlphanum && c != '<' && c != '>' then
          some (.char c.toNat, rest)
        else none

/-! ## Classes -/

/-- A member of a class, and the text after it. -/
def member? : List Char → Option (Escape × List Char)
  | [] => none
  | '\\' :: rest => (escape? rest).filter fun found => found.1 != .place
  | c :: rest => some (.char c.toNat, rest)

/-- A member of a class or a range of members, and the text after it. -/
def range? (text : List Char) : Option (List Char) := do
  let (low, rest) ← member? text
  match rest with
  | '-' :: ']' :: _ => some rest
  | '-' :: '-' :: _ => some rest
  | '-' :: rest =>
    let (high, rest) ← member? rest
    match low, high with
    | .char low, .char high => if low ≤ high then some rest else none
    | _, _ => none
  | _ => some rest

/-- The text behind an opening bracket, without what can only stand there: a circumflex, hyphens,
and a closing bracket that is a member. -/
def enterClass (text : List Char) : List Char :=
  let text := if text.head? = some '^' then text.drop 1 else text
  let members := text.dropWhile (· == '-')
  if members.length = text.length ∧ text.head? = some ']' then text.drop 1 else members

/-- The text behind `depth` classes that are open, one inside the other. -/
def leaveClass? : Nat → Nat → List Char → Option (List Char)
  | 0, _, _ => none
  | _ + 1, 0, text => some text
  | bound + 1, depth + 1, text =>
    match text with
    | '[' :: rest => leaveClass? bound (depth + 2) (enterClass rest)
    | ']' :: rest => leaveClass? bound depth rest
    | '&' :: '&' :: rest => leaveClass? bound (depth + 1) rest
    | '-' :: '-' :: rest => leaveClass? bound (depth + 1) rest
    | '~' :: '~' :: rest => leaveClass? bound (depth + 1) rest
    | text => (range? text).bind (leaveClass? bound (depth + 1))

/-- The text behind a class, after its opening bracket. -/
def afterClass? (text : List Char) : Option (List Char) :=
  leaveClass? (text.length + 2) 1 (enterClass text)

/-! ## Groups -/

/-- Whether a text can be the name of a group. -/
def isGroupName : List Char → Bool
  | [] => false
  | first :: rest =>
    (first == '_' || (isAlphanumeric first && !first.isDigit)) &&
      rest.all fun c => isAlphanumeric c || ['_', '.', '[', ']'].contains c

/-- Whether a text is a list of flags: each at most once, and those behind a hyphen are taken
away. -/
def areFlags (text : List Char) : Bool :=
  text.all (fun c => "imsUuRx-".toList.contains c) && text.Nodup && text.getLast? != some '-'

/-- What an opening parenthesis begins. -/
inductive Opening where
  /-- Flags for what follows, which close at once. -/
  | flags
  /-- A group, perhaps with a name. -/
  | group (name : Option (List Char))
deriving DecidableEq, Repr

/-- What an opening parenthesis begins, and the text behind what belongs to it. -/
def opening? : List Char → Option (Opening × List Char)
  | '?' :: rest =>
    let named := match rest with
      | 'P' :: '<' :: name => some name
      | '<' :: name => some name
      | _ => none
    match named with
    | some text =>
      let name := text.takeWhile (· != '>')
      if isGroupName name && name.length < text.length then
        some (.group name, text.drop (name.length + 1))
      else none
    | none =>
      let flags := rest.takeWhile fun c => c != ':' && c != ')'
      if !areFlags flags then none
      else match rest.drop flags.length with
        | ':' :: rest => some (.group none, rest)
        | ')' :: rest => if flags.isEmpty then none else some (.flags, rest)
        | _ => none
  | rest => some (.group none, rest)

/-! ## Patterns -/

/-- Whether a text goes on as a pattern where groups have these names already, `depth` groups are
open, and there is something to repeat or not. -/
def goesOn : Nat → List (List Char) → Nat → Bool → List Char → Bool
  | 0, _, _, _, _ => false
  | bound + 1, names, depth, repeatable, text =>
    match text with
    | [] => depth == 0
    | '(' :: rest =>
      match opening? rest with
      | some (.flags, rest) => goesOn bound names depth false rest
      | some (.group none, rest) => goesOn bound names (depth + 1) false rest
      | some (.group (some name), rest) =>
        !names.contains name && goesOn bound (name :: names) (depth + 1) false rest
      | none => false
    | ')' :: rest => 0 < depth && goesOn bound names (depth - 1) true rest
    | '|' :: rest => goesOn bound names depth false rest
    | '[' :: rest =>
      match afterClass? rest with
      | some rest => goesOn bound names depth true rest
      | none => false
    | '\\' :: rest =>
      match escape? rest with
      | some (_, rest) => goesOn bound names depth true rest
      | none => false
    | c :: rest =>
      if ['?', '*', '+'].contains c then repeatable && goesOn bound names depth true rest
      else c != '\x7b' && goesOn bound names depth true rest

/-- Whether a text is a pattern. -/
def isValid (text : List Char) : Bool := goesOn (text.length + 1) [] 0 false text

example : ["", "a|b*", "(?i)[^]a-c&&[b]]+", "\\d\\.\\x41"].map (fun s => isValid s.toList) =
    [true, true, true, true] := by decide

example : ["(", ")", "*a", "a|+", "[z-a]", "\\b", "(?)", "x\x7b2"].map (fun s => isValid s.toList) =
    [false, false, false, false, false, false, false, false] := by decide

example : ["(?<a>b)(?P<c>d)", "(?<a>b)(?P<a>c)"].map (fun s => isValid s.toList) =
    [true, false] := by decide

end Pattern

/-- Whether a text is a number without a sign, with digits behind a point and an exponent or not, or
infinite, or no number. -/
def isNumeral (text : List Char) : Bool :=
  let whole := text.takeWhile Char.isDigit
  let rest := text.drop whole.length
  let behindPoint := if rest.head? = some '.' then rest.drop 1 else rest
  let decimals := if rest.head? = some '.' then behindPoint.takeWhile Char.isDigit else []
  let exponentOk := match behindPoint.drop decimals.length with
    | [] => true
    | e :: exponent =>
      let digits := if ['+', '-'].contains (exponent.headD ' ') then exponent.drop 1 else exponent
      e.toLower == 'e' && !digits.isEmpty && digits.all Char.isDigit
  (!(whole.isEmpty && decimals.isEmpty) && exponentOk) ||
    ["inf", "infinity", "nan"].contains (String.ofList (text.map Char.toLower))

/-- Whether a directive can ask for a value: a number with a plus sign in front is one, and every
other number is a pattern too. -/
def isValueText (text : List Char) : Bool :=
  Pattern.isValid text || (text.head? == some '+' && isNumeral (text.drop 1))

example : ["+5", "+.5e-3", "+INF", "+.", "+a"].map (fun s => isValueText s.toList) =
    [true, true, true, false, false] := by decide

end PageCensus
