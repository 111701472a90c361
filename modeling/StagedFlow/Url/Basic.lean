import StagedFlow.Url.Form

/-!
# Links

The parts of a link, in their written form. The authority holds user, host and port.
-/

namespace StagedFlow

structure Url where
  scheme : String
  authority : Option String
  path : String
  query : Option String
  fragment : Option String
deriving DecidableEq

inductive UrlFault where
  | emptyHost
  | invalidDomain
  | invalidPort
  | invalidIpv4
  | invalidIpv6
  | invalidDomainCharacter
  | relative
  | opaqueBase
deriving DecidableEq

def UrlFault.message : UrlFault → String
  | emptyHost => "empty host"
  | invalidDomain => "invalid international domain name"
  | invalidPort => "invalid port number"
  | invalidIpv4 => "invalid IPv4 address"
  | invalidIpv6 => "invalid IPv6 address"
  | invalidDomainCharacter => "invalid domain character"
  | relative => "relative URL without a base"
  | opaqueBase => "relative URL with a cannot-be-a-base base"

namespace Url

/-- The written form. A path that starts like an authority is set off from the scheme. -/
def write (url : Url) : String :=
  url.scheme ++ ":"
    ++ (match url.authority with
      | some a => "//" ++ a
      | none => if url.path.startsWith "//" then "/." else "")
    ++ url.path
    ++ (match url.query with | some q => "?" ++ q | none => "")
    ++ (match url.fragment with | some f => "#" ++ f | none => "")

/-- True of links whose path is not made of segments; nothing is relative to them. -/
def isOpaque (url : Url) : Bool := url.authority.isNone && !url.path.startsWith "/"

def withoutFragment (url : Url) : Url := { url with fragment := none }

/-- Appends a pair to the query, form-encoded. -/
def appendPair (url : Url) (name value : String) : Url :=
  let query := ((url.query.map String.toList).getD [])
  { url with query := some (String.ofList (Form.append query name value)) }

end Url

end StagedFlow
