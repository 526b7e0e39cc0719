import PageCensus.Url.Domain.Basic
import PageCensus.Url.Error
import PageCensus.Url.Ipv6
import PageCensus.Url.Percent

/-!
# Hosts

Where a scheme of the web is used, a host is a domain name or an address of either kind.  Elsewhere
it is an IPv6 address or any text without the characters that end or divide hosts.

* `Host.ofText`, `Host.ofOpaqueText` — reading a host of either kind.
* `Host.text` — writing it.
-/

set_option autoImplicit false

namespace PageCensus

/-- A host. -/
inductive Host where
  /-- A name, in the form in which it is carried. -/
  | name (text : String)
  /-- An IPv4 address. -/
  | ipv4 (address : Ipv4)
  /-- An IPv6 address. -/
  | ipv6 (address : Ipv6)
deriving DecidableEq, Repr

namespace Host

/-- The host of an address that has none to name. -/
def empty : Host := .name ""

/-- How a host is written. -/
def text : Host → String
  | name text => text
  | ipv4 address => address.text
  | ipv6 address => "[" ++ address.text ++ "]"

/-- A host in brackets, the first of which is already read. -/
def ofBracketed (rest : List Char) : Except UrlError Host :=
  if rest.getLast? ≠ some ']' then .error .invalidIpv6
  else match Ipv6.ofText? rest.dropLast with
    | some address => .ok (.ipv6 address)
    | none => .error .invalidIpv6

/-- The host with these labels. -/
def ofLabels (labels : List (List Char)) : Except UrlError Host :=
  if labels.all List.isEmpty && labels.length ≤ 1 then .error .emptyHost
  else if Ipv4.isMeant labels then
    match Ipv4.ofLabels? labels with
    | some address => .ok (.ipv4 address)
    | none => .error .invalidIpv4
  else .ok (.name (String.ofList (['.'].intercalate labels)))

/-- The host of an address of the web. -/
def ofText : List Char → Except UrlError Host
  | '[' :: rest => ofBracketed rest
  | text =>
    match Domain.labels? (Utf8.decode (Percent.decode text)) with
    | none => .error .domainName
    | some labels => ofLabels labels

/-- The characters that no host may hold. -/
def isForbidden (c : Char) : Bool :=
  c == '\x00' || c == '\t' || c == '\n' || c == '\r' || " #/:<>?@[\\]^|".toList.contains c

/-- The host of any other address. -/
def ofOpaqueText : List Char → Except UrlError Host
  | '[' :: rest => ofBracketed rest
  | text =>
    if text.any isForbidden then .error .hostCharacter
    else .ok (.name (String.ofList (Percent.encode Percent.inAnyPart text)))

end Host

end PageCensus
