import PageCensus.LogFilter.Pattern
import PageCensus.Text.Blank
import PageCensus.Text.Number

/-!
# Directives

A directive says how important an event has to be to be shown.  It can name the part of the program
that it is about, and in brackets a span or, in braces, a field and the value of it:

    part[span field in braces=value]=level

Without a part it is about all of them, and without a level it shows everything.  A directive with a
name in front of which no bracket and no equals sign stands is read as a level if it is one.

This program opens no spans, and the values of fields are only compared in spans.  So a directive
that asks for a span or for a value has to make sense, but shows and hides nothing.

**Positions.**  Where the parts of a directive begin and end is found in the text without the blanks
around it; they are then cut at these distances from the front out of the text with the blanks.  So
a blank in front moves the parts, and one at the end belongs to the last part.

* `Directive`, `Directive.ofText?` — a directive, and the one of a text.
* `Directive.isAbout`, `Directive.isWeakerThan` — which events it is about, and which of two
  decides.
-/

set_option autoImplicit false

namespace PageCensus

/-- What is shown of a part of the program. -/
structure Directive where
  /-- How the name of the part begins; none means all parts. -/
  origin : Option (List Char)
  /-- A field that an event has to have. -/
  field : Option (List Char) := none
  /-- How many levels are shown, the most important first. -/
  verbosity : Nat
deriving DecidableEq, Repr

/-- The number of levels. -/
def levelCount : Nat := 5

/-- How many levels a text asks for: a number, or the name of the last one, in any case. -/
def verbosity? (text : List Char) : Option Nat :=
  match readNumber (String.ofList text) with
  | .ok n => if n ≤ levelCount then some n else none
  | .error _ =>
    [("off", 0), ("error", 1), ("warn", 2), ("info", 3), ("debug", 4), ("trace", 5)].lookup
      (String.ofList (text.map Char.toLower))

/-! ## Cutting at bytes -/

/-- The text behind the first `n` bytes, unless they end inside a character. -/
def behindBytes? : Nat → List Char → Option (List Char)
  | 0, text => some text
  | _ + 1, [] => none
  | n + 1, c :: rest =>
    if c.utf8Size ≤ n + 1 then behindBytes? (n + 1 - c.utf8Size) rest else none

/-- The text from one position to another. -/
def cut? (text : List Char) (start stop : Nat) : Option (List Char) := do
  let rest ← behindBytes? start text
  let behind ← behindBytes? (stop - start) rest
  return rest.take (rest.length - behind.length)

/-! ## Reading -/

/-- Where a reader of a directive is.  Positions count bytes. -/
inductive DirectivePlace where
  /-- At the front. -/
  | front
  /-- In a name or a level. -/
  | name
  /-- In the name of a span, which began at a position. -/
  | span (start : Nat)
  /-- In a field, which began at a position. -/
  | field (start : Nat)
  /-- Behind the brace that closes a field. -/
  | behindField
  /-- Behind the closing bracket. -/
  | behindSpan
  /-- In the level, which began at a position. -/
  | level (start : Nat)
deriving DecidableEq, Repr

/-- A reader of a directive. -/
structure DirectiveReader where
  /-- Where it is. -/
  place : DirectivePlace := .front
  /-- How many bytes were read. -/
  position : Nat := 0
  /-- The part of the program. -/
  origin : Option (List Char) := none
  /-- A field that events have to have. -/
  field : Option (List Char) := none
  /-- Whether the directive asks for a span or for the value of a field. -/
  needsSpan : Bool := false
deriving DecidableEq, Repr

namespace DirectiveReader

/-- Whether a directive can begin with a character. -/
def canBegin (c : Char) : Bool := isAlphanumeric c || c == '-' || c == ':' || c == '_'

/-- Keep a field: a name, and perhaps a value behind an equals sign. -/
def keepField? (reader : DirectiveReader) (text : List Char) : Option DirectiveReader :=
  if text.isEmpty then none
  else match pieces (· == '=') text with
    | name :: value :: _ =>
      if isValueText value then some { reader with field := some name, needsSpan := true } else none
    | _ => some { reader with field := some text }

/-- Read a character of the directive in `text`. -/
def read? (text : List Char) (reader : DirectiveReader) (c : Char) : Option DirectiveReader := do
  let here := reader.position
  let reader := { reader with position := here + c.utf8Size }
  match reader.place, c with
  | .front, '[' => return { reader with place := .span reader.position }
  | .front, c => if canBegin c then some { reader with place := .name } else none
  | .name, '=' =>
    return { reader with origin := ← cut? text 0 here, place := .level reader.position }
  | .name, '[' =>
    return { reader with origin := ← cut? text 0 here, place := .span reader.position }
  | .span start, ']' =>
    let _ ← cut? text start here
    return { reader with needsSpan := true, place := .behindSpan }
  | .span start, '\x7b' =>
    let span ← cut? text start here
    return { reader with needsSpan := !span.isEmpty, place := .field reader.position }
  | .field start, '\x7d' =>
    let reader ← reader.keepField? (← cut? text start here)
    return { reader with place := .behindField }
  | .behindField, ']' => return { reader with place := .behindSpan }
  | .behindSpan, '=' => return { reader with place := .level reader.position }
  | .name, _ | .span _, _ | .field _, _ | .level _, _ => return reader
  | .behindField, _ | .behindSpan, _ => none

/-- The level of the directive in `text`, and the part that it is about, if it may end here. -/
def finish? (text : List Char) (reader : DirectiveReader) : Option (Option (List Char) × Nat) :=
  match reader.place with
  | .name =>
    match verbosity? text with
    | some verbosity => some (none, verbosity)
    | none => some (some text, levelCount)
  | .level start => do
    let level ← behindBytes? start text
    let verbosity ← if level.isEmpty then some levelCount else verbosity? level
    return (reader.origin, verbosity)
  | .behindSpan => some (reader.origin, levelCount)
  | .front | .span _ | .field _ | .behindField => none

end DirectiveReader

namespace Directive

/-- The directive of a text without commas, if it makes sense; there is nothing to keep of one that
needs a span. -/
def ofText? (text : List Char) : Option (List Directive) := do
  let reader ← (trimBlank text).foldlM (DirectiveReader.read? text) {}
  let (origin, verbosity) ← reader.finish? text
  return if reader.needsSpan then [] else [⟨origin, reader.field, verbosity⟩]

/-- Whether a directive is about events of a part of the program with certain fields. -/
def isAbout (directive : Directive) (origin : List Char) (fields : List (List Char)) : Bool :=
  directive.origin.all (fun name => name.isPrefixOf origin) &&
    directive.field.all fun field => fields.contains field

/-- How specific the part is that a directive is about. -/
def weight (directive : Directive) : Nat :=
  match directive.origin with
  | none => 0
  | some name => name.length + 1

/-- Whether another directive about the same event decides instead: one with a longer name, of those
with one name one that asks for a field, and of those the one whose field comes later in the order
of names. -/
def isWeakerThan (directive other : Directive) : Bool :=
  directive.weight < other.weight ||
    (directive.weight == other.weight &&
      match directive.field, other.field with
      | _, none => false
      | none, some _ => true
      | some field, some other => decide (field < other))

example : ofText? "part=info".toList = some [⟨some "part".toList, none, 3⟩] ∧
    ofText? "part".toList = some [⟨some "part".toList, none, 5⟩] ∧
    ofText? "WARN".toList = some [⟨none, none, 2⟩] ∧
    ofText? " info".toList = some [⟨some " info".toList, none, 5⟩] ∧
    ofText? " a=off".toList = none := by decide

example : ofText? "a[\x7burl\x7d]=off".toList = some [⟨some ['a'], some "url".toList, 0⟩] ∧
    ofText? "[\x7burl=x\x7d]".toList = some [] ∧ ofText? "[\x7burl=(\x7d]".toList = none ∧
    ofText? "[s]=2".toList = some [] ∧ ofText? "[\x7b\x7d]".toList = none := by decide

end Directive

end PageCensus
