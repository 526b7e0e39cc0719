/-!
# Texts that are no address

* `UrlError` — why a text is not the address of anything.
* `UrlError.message` — how the reason is worded.
-/

set_option autoImplicit false

namespace PageCensus

/-- Why a text is not the address of anything. -/
inductive UrlError where
  /-- The host is empty where there has to be one. -/
  | emptyHost
  /-- The host is no domain name. -/
  | domainName
  /-- The port is no number below `65536`. -/
  | invalidPort
  /-- The host looks like an IPv4 address and is none. -/
  | invalidIpv4
  /-- The host is in brackets and is no IPv6 address. -/
  | invalidIpv6
  /-- The host holds a character that no host may hold. -/
  | hostCharacter
  /-- The address is relative to nothing. -/
  | relativeWithoutBase
  /-- The address is relative to one that has no path to start from. -/
  | relativeToOpaque
  /-- A host was to be set on an address that cannot have one. -/
  | hostOnOpaque
  /-- The address is too long to be handled. -/
  | tooLong
deriving DecidableEq, Repr

/-- How the reason is worded. -/
def UrlError.message : UrlError → String
  | emptyHost => "empty host"
  | domainName => "invalid international domain name"
  | invalidPort => "invalid port number"
  | invalidIpv4 => "invalid IPv4 address"
  | invalidIpv6 => "invalid IPv6 address"
  | hostCharacter => "invalid domain character"
  | relativeWithoutBase => "relative URL without a base"
  | relativeToOpaque => "relative URL with a cannot-be-a-base base"
  | hostOnOpaque => "a cannot-be-a-base URL doesn’t have a host to set"
  | tooLong => "URLs more than 4 GB are not supported"

end PageCensus
