import FluxCorpus.Text.Percent
import FluxCorpus.Url.Address
import FluxCorpus.Url.Label

/-!
# Hosts

The host of a URL is a name or an address.  The name of a host on the internet is written in lower
case and in basic characters; a name that ends in a number is meant as an address and must be one.
Schemes that do not mean the internet may have a name of almost any characters.
-/

namespace FluxCorpus

/-- Why a text is not a URL. -/
inductive UrlProblem
  | relative
  | emptyHost
  | invalidPort
  | invalidIpv4
  | invalidIpv6
  | invalidName
deriving DecidableEq, Repr

/-- The message for a text that is not a URL. -/
def UrlProblem.message : UrlProblem → String
  | relative => "relative URL without a base"
  | emptyHost => "empty host"
  | invalidPort => "invalid port number"
  | invalidIpv4 => "invalid IPv4 address"
  | invalidIpv6 => "invalid IPv6 address"
  | invalidName => "invalid international domain name"

/-- The host of a URL. -/
inductive Host
  | name (s : String)
  | ipv4 (address : Nat)
  | ipv6 (pieces : List Nat)
deriving DecidableEq, Repr

namespace Host

open Text

/-- The host as it stands in a URL. -/
def chars : Host → List Char
  | name s => s.toList
  | ipv4 a => Address.v4Chars a
  | ipv6 ns => '[' :: Address.v6Chars ns ++ [']']

/-- A character that no name of a host has, not even one without labels. -/
def isForbidden (c : Char) : Bool :=
  "\x00\t\n\r #/:<>?@[\\]^|".toList.contains c

/-- Reads an address of version 6 behind its opening bracket. -/
def bracketed (cs : List Char) : Except UrlProblem Host :=
  match cs.reverse with
  | ']' :: inner =>
    match Address.v6? inner.reverse with
    | some ns => return ipv6 ns
    | none => throw .invalidIpv6
  | _ => throw .invalidIpv6

/-- Reads a host on the internet. -/
def domain : List Char → Except UrlProblem Host
  | '[' :: cs => bracketed cs
  | cs => do
    let some decoded := Utf8.decode? (Percent.decode cs) | throw .invalidName
    let some labels := Label.ofName? decoded | throw .invalidName
    let written := join ['.'] (labels.map Label.written)
    if written.isEmpty then throw .emptyHost
    else if Address.endsInNumber written then
      match Address.v4? written with
      | some a => return ipv4 a
      | none => throw .invalidIpv4
    else return name (String.ofList written)

/-- Reads a host of a scheme that does not mean the internet. -/
def other : List Char → Except UrlProblem Host
  | '[' :: cs => bracketed cs
  | cs =>
    if cs.any isForbidden then throw .invalidName
    else return name (String.ofList (Percent.encode (fun c => ' ' ≤ c ∧ c ≤ '~') cs))

end Host

end FluxCorpus
