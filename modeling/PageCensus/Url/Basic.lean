import PageCensus.Url.Host

/-!
# Addresses

The parts of an address, each in the form in which it is written.

* `Url` — the parts.
* `Url.text` — the address in full; parts that say nothing are left out.
* `Url.requestTarget` — what a server is asked for: the path and the query, never the fragment.
-/

set_option autoImplicit false

namespace PageCensus

/-- What schemes have in common. -/
inductive SchemeKind where
  /-- The schemes of the web, and files on this machine, have hosts and paths of a fixed form. -/
  | web
  /-- Files on this machine. -/
  | file
  /-- All others. -/
  | other
deriving DecidableEq, Repr

/-- The kind of a scheme, which is written in lower case. -/
def SchemeKind.ofScheme (scheme : String) : SchemeKind :=
  if ["http", "https", "ws", "wss", "ftp"].contains scheme then .web
  else if scheme = "file" then .file
  else .other

/-- The port that is meant when none is given. -/
def defaultPort? (scheme : String) : Option Nat :=
  [("http", 80), ("https", 443), ("ws", 80), ("wss", 443), ("ftp", 21)].lookup scheme

/-- The path of an address. -/
inductive UrlPath where
  /-- Segments, each with a slash in front. -/
  | segments (names : List (List Char))
  /-- A text that has no structure. -/
  | unstructured (text : List Char)
deriving DecidableEq, Repr

/-- The path as it is written. -/
def UrlPath.chars : UrlPath → List Char
  | segments names => names.flatMap ('/' :: ·)
  | unstructured text => text

/-- An address. -/
structure Url where
  /-- The scheme, in lower case. -/
  scheme : String
  /-- The user name. -/
  username : List Char := []
  /-- The password. -/
  password : List Char := []
  /-- The host, if the address has a place for one. -/
  host : Option Host := none
  /-- The port, if it is not the one that is meant anyway. -/
  port : Option Nat := none
  /-- The path. -/
  path : UrlPath
  /-- The query. -/
  query : Option (List Char) := none
  /-- The fragment. -/
  fragment : Option (List Char) := none
deriving DecidableEq, Repr

namespace Url

/-- What is written between the scheme and the path. -/
def authorityChars (url : Url) : List Char :=
  match url.host with
  | none => []
  | some host =>
    let password := if url.password.isEmpty then [] else ':' :: url.password
    let user := if url.username.isEmpty && url.password.isEmpty then [] else
      url.username ++ password ++ ['@']
    let port := match url.port with
      | none => []
      | some port => ':' :: (toString port).toList
    ['/', '/'] ++ user ++ host.text.toList ++ port

/-- A path that starts with two slashes is kept apart from a host by a point. -/
def pathGuard (url : Url) : List Char :=
  match url.host, url.path with
  | none, .segments ([] :: _ :: _) => ['/', '.']
  | _, _ => []

/-- An optional part with the character that announces it. -/
def announced (mark : Char) : Option (List Char) → List Char
  | none => []
  | some part => mark :: part

/-- The address in full. -/
def text (url : Url) : String :=
  String.ofList (url.scheme.toList ++ ':' :: url.authorityChars ++ url.pathGuard ++
    url.path.chars ++ announced '?' url.query ++ announced '#' url.fragment)

/-- What a server is asked for. -/
def requestTarget (url : Url) : String :=
  String.ofList (url.path.chars ++ announced '?' url.query)

end Url

end PageCensus
