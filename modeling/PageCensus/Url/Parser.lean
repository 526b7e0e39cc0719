import PageCensus.Url.Path

/-!
# Reading addresses

An address starts with its scheme, or is relative to another one.  Control characters and spaces
around it do not belong to it, and tabs and line ends inside it are dropped.

An address of the web has a host even if slashes are missing or doubled, and takes backslashes for
slashes.  Other schemes have a host only after exactly two slashes; without any slash their path is
a text without structure.

* `Url.ofText` — the address that a text stands for by itself.
* `Url.join` — the address that a text stands for where another address is known.
-/

set_option autoImplicit false

namespace PageCensus

namespace Url

/-! ## Pieces of the text -/

/-- Whether a character around an address does not belong to it. -/
def isPadding (c : Char) : Bool := c.toNat ≤ 0x20

/-- Whether a character inside an address is dropped. -/
def isDropped (c : Char) : Bool := c == '\t' || c == '\n' || c == '\r'

/-- The characters of a text that belong to the address. -/
def cleaned (text : String) : List Char :=
  let front := text.toList.dropWhile isPadding
  ((front.reverse.dropWhile isPadding).reverse).filter fun c => !isDropped c

/-- Whether a character can stand in a scheme behind its first letter. -/
def isSchemeChar (c : Char) : Bool := c.isAlphanum || c == '+' || c == '-' || c == '.'

/-- The scheme at the front of a text and the text after its colon. -/
def splitScheme? (text : List Char) : Option (String × List Char) :=
  let name := text.takeWhile isSchemeChar
  match name.head?, text.drop name.length with
  | some c, ':' :: rest =>
    if c.isAlpha then some (String.ofList (name.map Char.toLower), rest) else none
  | _, _ => none

/-- The text before the query and the fragment. -/
def beforeQuery (text : List Char) : List Char := text.takeWhile fun c => c != '?' && c != '#'

/-- The query and the fragment, as they are written, of the text after the path. -/
def readTail (kind : SchemeKind) (rest : List Char) : Option (List Char) × Option (List Char) :=
  let isEscaped := if kind = .other then Percent.inQuery else Percent.inWebQuery
  let fragment (text : List Char) := Percent.encode Percent.inFragment text
  match rest with
  | '?' :: rest =>
    let query := rest.takeWhile (· != '#')
    let written := some (Percent.encode isEscaped query)
    match rest.drop query.length with
    | '#' :: rest => (written, some (fragment rest))
    | _ => (written, none)
  | '#' :: rest => (none, some (fragment rest))
  | _ => (none, none)

/-- An address whose path was read, with the query and the fragment of the text after the path. -/
def withTail (url : Url) (rest : List Char) : Url :=
  let (query, fragment) := readTail (.ofScheme url.scheme) rest
  { url with query, fragment }

/-! ## User, host and port -/

/-- Whether a character ends the part with the host. -/
def endsAuthority (kind : SchemeKind) (c : Char) : Bool :=
  c == '/' || c == '?' || c == '#' || (kind != .other && c == '\\')

/-- The text before the last `@` of a part, and the text after it. -/
def splitAtLast? (part : List Char) : Option (List Char × List Char) :=
  if part.contains '@' then
    let after := (part.reverse.takeWhile (· != '@')).reverse
    some (part.take (part.length - after.length - 1), after)
  else none

/-- The user name, the password, and the text after them. -/
def readUser (kind : SchemeKind) (text : List Char) :
    Except UrlError (List Char × List Char × List Char) :=
  let part := text.takeWhile fun c => !endsAuthority kind c
  match splitAtLast? part with
  | none => .ok ([], [], text)
  | some (before, after) =>
    let rest := text.drop (before.length + 1)
    if before.isEmpty && after.isEmpty && !rest.isEmpty then .error .emptyHost
    else
      let name := before.takeWhile (· != ':')
      let password := before.drop (name.length + 1)
      .ok (Percent.encode Percent.inUserInfo name, Percent.encode Percent.inUserInfo password, rest)

/-- The text of a host; a colon in brackets belongs to it. -/
def takeHost (kind : SchemeKind) (inBrackets : Bool) : List Char → List Char
  | [] => []
  | c :: rest =>
    if (c == ':' && !inBrackets) || endsAuthority kind c then []
    else c :: takeHost kind (c == '[' || (inBrackets && c != ']')) rest

/-- The host and the text after it. -/
def readHost (kind : SchemeKind) (text : List Char) : Except UrlError (Host × List Char) := do
  let part := takeHost kind false text
  let rest := text.drop part.length
  let host ←
    if kind = .other then Host.ofOpaqueText part
    else if part.isEmpty then .error .emptyHost
    else Host.ofText part
  if host = .empty && rest.head? = some ':' then .error .emptyHost
  return (host, rest)

/-- The value of decimal digits. -/
def decimal (digits : List Char) : Nat := digits.foldl (fun n c => n * 10 + (c.toNat - 0x30)) 0

/-- The port, if there is one to name, and the text after it. -/
def readPort (scheme : String) (text : List Char) : Except UrlError (Option Nat × List Char) :=
  match text with
  | ':' :: text =>
    let digits := text.takeWhile Char.isDigit
    let rest := text.drop digits.length
    let ends := match rest with
      | [] => true
      | c :: _ => endsAuthority .web c
    let port := decimal digits
    if 65535 < port || !ends then .error .invalidPort
    else if digits.isEmpty || defaultPort? scheme = some port then .ok (none, rest)
    else .ok (some port, rest)
  | text => .ok (none, text)

/-- The path behind a host, and the text after it. -/
def readRootedPath (kind : SchemeKind) (text : List Char) : UrlPath × List Char :=
  let part := beforeQuery text
  let rest := text.drop part.length
  let path := match part with
    | [] => if kind = .other then [] else UrlPath.read kind [] []
    | c :: inner => UrlPath.read kind [] (if UrlPath.isSlash kind c then inner else part)
  (.segments path, rest)

/-- The address after the two slashes in front of its host. -/
def ofAuthority (scheme : String) (text : List Char) : Except UrlError Url := do
  let kind := SchemeKind.ofScheme scheme
  let (username, password, rest) ← readUser kind text
  let (host, rest) ← readHost kind rest
  let (port, rest) ← readPort scheme rest
  if host = .empty && !(username.isEmpty && password.isEmpty) then .error .emptyHost
  let (path, rest) := readRootedPath kind rest
  return withTail { scheme, username, password, host := some host, port, path } rest

/-! ## The three kinds of schemes -/

/-- The host of a file, and the text of the path.  The name of this machine and a drive are none.
Behind a host the slash in front of the path belongs to neither. -/
def readFileHost (text : List Char) : Except UrlError (Host × List Char) := do
  let part := text.takeWhile fun c => !endsAuthority .file c
  if UrlPath.isDrive part then return (.empty, text)
  let rest := text.drop part.length
  if part.isEmpty then return (.empty, rest)
  let host ← Host.ofText part
  if host = .name "localhost" then return (.empty, rest)
  return (host, if rest.head?.any (UrlPath.isSlash .file) then rest.drop 1 else rest)

/-- The address of a file, after its scheme. -/
def ofFile (text : List Char) : Except UrlError Url := do
  let (host, rest) ← match text with
    | [] => pure (.empty, [])
    | a :: inner =>
      match UrlPath.isSlash .file a, inner with
      | true, b :: host =>
        if UrlPath.isSlash .file b then readFileHost host else pure (.empty, inner)
      | true, [] => pure (.empty, [])
      | false, _ => pure (.empty, text)
  let part := beforeQuery rest
  let names := UrlPath.walk .file [] part
  -- a drive is on this machine, whatever host was named
  let host := if names.head?.any UrlPath.isDrive then .empty else host
  let path := .segments (UrlPath.trimFile .file names)
  return withTail { scheme := "file", host := some host, path } (rest.drop part.length)

/-- An address without a host, after its scheme. -/
def ofHostless (scheme : String) (text : List Char) : Url :=
  let part := beforeQuery text
  let path := match part with
    | '/' :: inner => .segments (UrlPath.read .other [] inner)
    | part => .unstructured (Percent.encode Percent.inAnyPart part)
  withTail { scheme, path } (text.drop part.length)

/-- The address with a scheme and the text after its colon. -/
def ofScheme (scheme : String) (text : List Char) : Except UrlError Url :=
  match SchemeKind.ofScheme scheme, text with
  | .web, text => ofAuthority scheme (text.dropWhile (UrlPath.isSlash .web))
  | .file, text => ofFile text
  | .other, '/' :: '/' :: rest => ofAuthority scheme rest
  | .other, text => .ok (ofHostless scheme text)

/-- The address that a text stands for by itself. -/
def ofText (text : String) : Except UrlError Url :=
  match splitScheme? (cleaned text) with
  | some (scheme, rest) => ofScheme scheme rest
  | none => .error .relativeWithoutBase

/-! ## Relative addresses -/

/-- The address that a text without a scheme stands for, where `base` is known. -/
def relativeTo (base : Url) (text : List Char) : Except UrlError Url :=
  let kind := SchemeKind.ofScheme base.scheme
  match base.path with
  | .unstructured _ =>
    if text.head? = some '#' then .ok { base with fragment := (readTail kind text).2 }
    else .error .relativeToOpaque
  | .segments before =>
    let part := beforeQuery text
    let rest := text.drop part.length
    match part with
    | [] =>
      let (query, fragment) := readTail kind rest
      let query := if rest.head? = some '?' then query else base.query
      .ok { base with query, fragment }
    | first :: inner =>
      if UrlPath.isSlash .web first then
        if inner.head?.any (UrlPath.isSlash .web) then
          match text with
          | '/' :: '/' :: authority => ofAuthority base.scheme authority
          | _ => ofAuthority base.scheme (text.dropWhile (UrlPath.isSlash .web))
        else .ok (withTail { base with path := .segments (UrlPath.read kind [] inner) } rest)
      else
        let path := UrlPath.read kind before.dropLast part
        .ok (withTail { base with path := .segments path } rest)

/-- The address that a text stands for where `base` is known. -/
def join (base : Url) (text : String) : Except UrlError Url :=
  let text := cleaned text
  match splitScheme? text with
  | none => relativeTo base text
  | some (scheme, rest) =>
    let slashes := (rest.takeWhile (UrlPath.isSlash .web)).length
    if SchemeKind.ofScheme scheme = .web && scheme = base.scheme && slashes < 2 then
      relativeTo base rest
    else ofScheme scheme rest

end Url

end PageCensus
