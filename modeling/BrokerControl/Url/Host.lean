import BrokerControl.Text.Percent
import BrokerControl.Url.Error
import BrokerControl.Url.International
import BrokerControl.Url.Ipv4
import BrokerControl.Url.Ipv6

/-!
# Hosts

The host of a URL: an address, or a name. A name under a scheme of the web is a domain name: it is
percent-decoded, brought into ASCII, and an IPv4 address if its last part is a number. Under any
other scheme a name is kept as it is, in triplets where needed.
-/

namespace BrokerControl

/-- A host. -/
inductive Host where
  | domain (name : String)
  | ipv4 (address : Nat)
  | ipv6 (groups : List Nat)
  deriving DecidableEq, Repr

namespace Host

/-- The control characters, which are written as triplets everywhere. -/
def isControl (c : Char) : Bool := decide (c.toNat < 0x20) || decide (0x7F ≤ c.toNat)

/-- The characters that no domain name may hold. -/
def isForbiddenInDomain (c : Char) : Bool :=
  decide (c.toNat ≤ 0x20) || c.toNat = 0x7F || "%#/:<>?@[\\]^|".toList.contains c

/-- The characters that no other name may hold. -/
def isForbiddenInName (c : Char) : Bool := "\x00\t\n\r #/:<>?@[\\]^|".toList.contains c

/-- An address between brackets; the opening one has been read. -/
def bracketed (cs : List Char) : Except UrlError Host :=
  if cs.getLast? == some ']' then
    match Ipv6.parse? cs.dropLast with
    | some groups => .ok (.ipv6 groups)
    | none => .error .invalidIpv6
  else .error .invalidIpv6

/-- A host under a scheme of the web. -/
def ofWeb (cs : List Char) : Except UrlError Host :=
  match cs with
  | '[' :: rest => bracketed rest
  | cs =>
    match International.toAscii? isForbiddenInDomain (Percent.decode cs) with
    | none => .error .invalidInternationalName
    | some name =>
      if name.isEmpty then .error .emptyHost
      else if Ipv4.isMeant name then
        match Ipv4.parse? name with
        | some address => .ok (.ipv4 address)
        | none => .error .invalidIpv4
      else .ok (.domain (String.ofList name))

/-- A host under any other scheme. -/
def ofOther (cs : List Char) : Except UrlError Host :=
  match cs with
  | '[' :: rest => bracketed rest
  | cs =>
    if cs.any isForbiddenInName then .error .invalidDomainCharacter
    else .ok (.domain (String.ofList (Percent.encodeWith (fun c ↦ !isControl c) cs)))

/-- The written form outside a URL. -/
def plainText : Host → String
  | domain name => name
  | ipv4 address => Ipv4.text address
  | ipv6 groups => Ipv6.text groups

/-- The written form inside a URL, where brackets stand around the colons of an address. -/
def text (h : Host) : String :=
  match h with
  | ipv6 _ => "[" ++ h.plainText ++ "]"
  | h => h.plainText

/-- Whether the host is the empty name. -/
def isEmptyName : Host → Bool
  | domain name => name.isEmpty
  | _ => false

end Host

end BrokerControl
