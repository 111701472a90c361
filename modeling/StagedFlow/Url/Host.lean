import StagedFlow.Domain.Label
import StagedFlow.Url.Address
import StagedFlow.Url.Percent

/-!
# Hosts of links

A host is an address or a domain name. A name whose last label is a number is an address. Schemes
without hosts of their own keep them as they are.
-/

namespace StagedFlow.Url

/-- An address in brackets, in its written form. -/
def bracketed (text : List Char) : Except UrlFault (List Char) :=
  if text.getLast? = some ']' then
    match Address.ipv6? text.dropLast with
    | some pieces => .ok ('[' :: Address.writeIpv6 pieces ++ [']'])
    | none => .error .invalidIpv6
  else .error .invalidIpv6

/-- A host of a scheme that has hosts, in its written form. -/
def readHost (text : List Char) : Except UrlFault (List Char) :=
  match text with
  | '[' :: rest => bracketed rest
  | _ =>
    match (String.fromUTF8? ⟨(unescape text).toArray⟩).bind fun s => Domain.write? s.toList with
    | none => .error .invalidDomain
    | some [] => .error .emptyHost
    | some name =>
      if Address.endsInNumber name then
        match Address.ipv4? name with
        | some n => .ok (Address.writeIpv4 n)
        | none => .error .invalidIpv4
      else .ok name

/-- The host of a scheme without hosts of its own. -/
def readOpaqueHost (text : List Char) : Except UrlFault (List Char) :=
  match text with
  | '[' :: rest => bracketed rest
  | _ =>
    if text.any fun c => "\x00\t\n\r #/:<>?@[\\]^|".toList.contains c then
      .error .invalidDomainCharacter
    else .ok (encodeUnless (fun _ => true) text)

end StagedFlow.Url
