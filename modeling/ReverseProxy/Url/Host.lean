import ReverseProxy.Url.Domain
import ReverseProxy.Url.Ipv4
import ReverseProxy.Url.Ipv6
import ReverseProxy.Url.Percent

/-! # Hosts of URLs -/

namespace ReverseProxy

/-- Why a text is no URL. -/
inductive UrlError where
  | emptyHost
  | invalidPort
  | invalidDomain
  | invalidIpv4
  | invalidIpv6
deriving DecidableEq, Repr

def UrlError.message : UrlError → String
  | emptyHost => "empty host"
  | invalidPort => "invalid port number"
  | invalidDomain => "invalid international domain name"
  | invalidIpv4 => "invalid IPv4 address"
  | invalidIpv6 => "invalid IPv6 address"

namespace Host

/-- The text between brackets. -/
def inBrackets? (inner : List Char) : Option (List Char) :=
  if inner.getLast? = some ']' then some inner.dropLast else none

def ofBracketed (inner : List Char) : Except UrlError (List Char) :=
  match (inBrackets? inner).bind Ipv6.parse? with
  | some pieces => .ok ('[' :: (Ipv6.print pieces ++ [']']))
  | none => .error .invalidIpv6

def ofNumeric (name : List Char) : Except UrlError (List Char) :=
  match Ipv4.parse? name with
  | some bytes => .ok (Ipv4.print bytes)
  | none => .error .invalidIpv4

def ofName (text : List Char) : Except UrlError (List Char) :=
  match Domain.ofBytes? (Percent.decode text) with
  | none => .error .invalidDomain
  | some name =>
    if name = [] then .error .emptyHost
    else if Ipv4.isNumeric name then ofNumeric name
    else .ok name

/-- The one way to write a host: an address in its shortest form, or a name in small letters. -/
def normalize (text : List Char) : Except UrlError (List Char) :=
  match text with
  | [] => .error .emptyHost
  | '[' :: inner => ofBracketed inner
  | _ => ofName text

end Host

end ReverseProxy
