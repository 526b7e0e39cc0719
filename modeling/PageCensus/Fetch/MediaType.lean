/-!
# Media types

What kind of text a page is comes along with it: a type and a subtype, and after semicolons
parameters with their values.  A value may stand in quotes.  A description that breaks these rules
anywhere says nothing at all.

* `MediaType.parameters?` — the parameters of a description.
* `MediaType.charset?` — the value of its first `charset`.
-/

set_option autoImplicit false

namespace PageCensus

namespace MediaType

/-- Whether a character can stand in a type, a name, or a value without quotes. -/
def isTokenChar (c : Char) : Bool :=
  c.isAlphanum || "!#$%&'*+-.^_`|~".toList.contains c

/-- Whether a character can be part of a description at all. -/
def isAllowed (c : Char) : Bool := c == '\t' || (0x20 ≤ c.toNat && c.toNat < 0x7F)

/-- Where a reader of parameters is.  Names and values are kept with their last character first. -/
inductive Place where
  /-- In front of a parameter. -/
  | beforeName
  /-- In its name. -/
  | inName (name : List Char)
  /-- Behind the equals sign. -/
  | beforeValue (name : List Char)
  /-- In a value without quotes. -/
  | inValue (name value : List Char)
  /-- In a value in quotes. -/
  | inQuotes (name value : List Char)
  /-- Behind the closing quote. -/
  | afterQuotes
deriving DecidableEq, Repr

/-- A reader of parameters. -/
structure Reader where
  /-- Where it is. -/
  place : Place
  /-- The parameters read so far, the last one first. -/
  reversed : List (String × String)

namespace Reader

/-- Keep a parameter that was read to its end. -/
def keep (reader : Reader) (place : Place) (name value : List Char) : Reader :=
  ⟨place, (String.ofList name.reverse, String.ofList value.reverse) :: reader.reversed⟩

/-- Read a character.  A quote right behind the opening one does not close it. -/
def read? (reader : Reader) (c : Char) : Option Reader :=
  match reader.place with
  | .beforeName =>
    if c = ' ' then some reader
    else if isTokenChar c then some { reader with place := .inName [c] } else none
  | .inName name =>
    if isTokenChar c then some { reader with place := .inName (c :: name) }
    else if c = '=' then some { reader with place := .beforeValue name } else none
  | .beforeValue name =>
    if c = '"' then some { reader with place := .inQuotes name [] }
    else if isTokenChar c then some { reader with place := .inValue name [c] } else none
  | .inValue name value =>
    if isTokenChar c then some { reader with place := .inValue name (c :: value) }
    else if c = ';' then some (reader.keep .beforeName name value) else none
  | .inQuotes name value =>
    if c = '"' ∧ value ≠ [] then some (reader.keep .afterQuotes name value)
    else if c.toNat < 0x20 then none
    else some { reader with place := .inQuotes name (c :: value) }
  | .afterQuotes =>
    if c = ' ' then some reader
    else if c = ';' then some { reader with place := .beforeName } else none

/-- The parameters, if the description may end here. -/
def finish? (reader : Reader) : Option (List (String × String)) :=
  match reader.place with
  | .beforeName | .afterQuotes => some reader.reversed.reverse
  | .beforeValue name => some (reader.keep .beforeName name []).reversed.reverse
  | .inValue name value => some (reader.keep .beforeName name value).reversed.reverse
  | .inName _ | .inQuotes _ _ => none

end Reader

/-- A text without the spaces and tabs around it. -/
def trimmed (text : List Char) : List Char :=
  let isSpace (c : Char) := c == ' ' || c == '\t'
  ((text.dropWhile isSpace).reverse.dropWhile isSpace).reverse

/-- The parameters of a description, with their names as they are written. -/
def parameters? (text : String) : Option (List (String × String)) :=
  let text := trimmed text.toList
  let type := text.takeWhile isTokenChar
  match type.isEmpty || !text.all isAllowed, text.drop type.length with
  | false, '/' :: rest =>
    let subtype := rest.takeWhile isTokenChar
    match rest.drop subtype.length with
    | [] => some []
    | ';' :: rest =>
      if subtype.isEmpty then none
      else (rest.foldlM Reader.read? ⟨.beforeName, []⟩).bind Reader.finish?
    | _ => none
  | _, _ => none

/-- The value of the first parameter that is called `charset`, in any case. -/
def charset? (text : String) : Option String :=
  (parameters? text).bind fun parameters =>
    (parameters.find? fun p => p.1.toList.map Char.toLower == "charset".toList).map Prod.snd

example : ["text/html;charset=\"utf-8\" ", "TEXT/HTML; CHARSET=latin1", "a/b; charset=",
    "charset=latin1", "a/b;c;charset=utf-8"].map charset? =
    [some "utf-8", some "latin1", some "", none, none] := by decide

end MediaType

end PageCensus
