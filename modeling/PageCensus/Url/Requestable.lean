import PageCensus.Url.Basic

/-!
# Addresses that can be asked for

The texts of addresses are a little freer than those that can stand in a request.  A request needs a
part with user, host and port that keeps to the older rules, a path and a query of certain
characters, and not too many bytes in all.  An address without two slashes behind its scheme is
taken for such a part as a whole.  What the fragment holds does not matter, since it is not sent.

* `Authority.isValid` — whether a text keeps to the older rules for user, host and port.
* `Url.isRequestable` — whether an address can stand in a request.
* `Url.withoutUser` — the address that is asked for: who asks is sent apart from it.
-/

set_option autoImplicit false

namespace PageCensus

namespace Authority

/-- Whether a character can stand in the part with user, host and port, a percent sign apart. -/
def isAllowed (c : Char) : Bool :=
  c.isAlphanum || "!$&'()*+,-.:;=@[]_~".toList.contains c

/-- At most so many colons may follow each other without an `@` or a closing bracket between. -/
def colonLimit : Nat := 8

/-- What was read of a part with user, host and port. -/
structure Reader where
  /-- How many colons stand behind the user and the brackets. -/
  colons : Nat := 0
  /-- Whether there is a percent sign behind them. -/
  percent : Bool := false
  /-- Whether a bracket was opened. -/
  opened : Bool := false
  /-- Whether it was closed. -/
  closed : Bool := false
  /-- Whether the last character is an `@`. -/
  endsUser : Bool := false
deriving DecidableEq, Repr

/-- Read a character. -/
def Reader.read? (reader : Reader) (c : Char) : Option Reader :=
  let reader := { reader with endsUser := false }
  match c with
  | ':' =>
    if reader.colons < colonLimit then some { reader with colons := reader.colons + 1 } else none
  | '[' => if reader.percent || reader.opened then none else some { reader with opened := true }
  | ']' =>
    if reader.opened && !reader.closed then
      some { reader with closed := true, colons := 0, percent := false }
    else none
  | '@' => some { reader with endsUser := true, colons := 0, percent := false }
  | '%' => some { reader with percent := true }
  | c => if isAllowed c then some reader else none

/-- Whether the part may end here: only a user may be written with percent signs. -/
def Reader.mayEnd (reader : Reader) : Bool :=
  reader.opened == reader.closed && reader.colons ≤ 1 && !reader.endsUser && !reader.percent

/-- Whether a text keeps to the older rules for user, host and port. -/
def isValid (text : List Char) : Bool := (text.foldlM Reader.read? {}).any Reader.mayEnd

example : ["h", "u:p%20@[::1]:80", "tel:+1"].map (fun s => isValid s.toList) = [true, true, true] ∧
    ["a:b:c", "u@", "a%20b", "a\"b", "]["].map (fun s => isValid s.toList) =
      [false, false, false, false, false] := by decide

end Authority

namespace Url

/-- The greatest number of bytes in an address that is asked for. -/
def lengthLimit : Nat := 65534

/-- The greatest number of characters in the scheme of an address that is asked for. -/
def schemeLimit : Nat := 64

/-- Whether a character can stand in the path of a request. -/
def isPathChar (c : Char) : Bool :=
  0x20 < c.toNat && c.toNat < 0x7F && !(['#', '<', '>', '?', '\x60'].contains c)

/-- Whether a character can stand in the query of a request. -/
def isQueryChar (c : Char) : Bool :=
  0x20 < c.toNat && c.toNat < 0x7F && !(['"', '#', '<', '>'].contains c)

/-- Whether a text is a path and a query of a request, with a fragment or not. -/
def isTarget (text : List Char) : Bool :=
  let path := text.takeWhile fun c => c != '?' && c != '#'
  let query := ((text.drop path.length).drop 1).takeWhile (· != '#')
  path.all isPathChar && ((text.drop path.length).head? != some '?' || query.all isQueryChar)

/-- Whether an address can stand in a request. -/
def isRequestable (url : Url) : Bool :=
  let written := url.text.toList
  let inside := match written.drop (url.scheme.length + 1) with
    | '/' :: '/' :: rest =>
      let authority := rest.takeWhile fun c => c != '/' && c != '?' && c != '#'
      url.scheme.length ≤ schemeLimit && !authority.isEmpty && Authority.isValid authority &&
        isTarget (rest.drop authority.length)
    | _ => Authority.isValid written
  url.text.utf8ByteSize ≤ lengthLimit && inside

/-! ## Users -/

/-- Whether an encoded text stands for characters. -/
def isReadable (text : List Char) : Bool := Utf8.isValid (Percent.decode text)

/-- The address without user name and password.  They stay where they are if they cannot be sent
apart from it: a name that stands for no characters, or a password of that kind without a name. -/
def withoutUser (url : Url) : Url :=
  let hasPassword := !url.password.isEmpty && isReadable url.password
  if isReadable url.username && (!url.username.isEmpty || hasPassword) then
    { url with username := [], password := [] }
  else url

end Url

end PageCensus
