import ClusterAudit.Url.Address
import ClusterAudit.Url.Domain

/-!
# Hosts

The host of an address is a name, a numeric address, or, where the scheme is not a special one,
any text. Percent signs in a name are decoded, and it is brought into its form in ASCII. A name that
ends in a number has to be a numeric address.
-/

namespace ClusterAudit.Url

open Text

/-- Why a text is no address. -/
inductive Fault where
  /-- There is no host. -/
  | emptyHost
  /-- The host is no name. -/
  | invalidDomain
  /-- The port is no number of 16 bits. -/
  | invalidPort
  /-- The host is no address of four bytes but ends in a number. -/
  | invalidIpv4
  /-- What stands between brackets is no address of eight groups. -/
  | invalidIpv6
  /-- The host holds a character that no host may hold. -/
  | invalidHostCharacter
  /-- There is no scheme. -/
  | noScheme
deriving DecidableEq, Repr, Inhabited

/-- The words for a fault. -/
def Fault.message : Fault → String
  | .emptyHost => "empty host"
  | .invalidDomain => "invalid international domain name"
  | .invalidPort => "invalid port number"
  | .invalidIpv4 => "invalid IPv4 address"
  | .invalidIpv6 => "invalid IPv6 address"
  | .invalidHostCharacter => "invalid domain character"
  | .noScheme => "relative URL without a base"

/-- A host. -/
inductive Host where
  /-- A name in ASCII, or any text. -/
  | name (s : String)
  /-- An address of four bytes. -/
  | ipv4 (n : Nat)
  /-- An address of eight groups. -/
  | ipv6 (groups : List Nat)
deriving DecidableEq, Inhabited

namespace Host

/-- The host as it stands in an address. -/
def text : Host → String
  | .name s => s
  | .ipv4 n => ipv4Text n
  | .ipv6 groups => "[" ++ ipv6Text groups ++ "]"

/-! ### Reading -/

/-- The address of eight groups between brackets. -/
def ofBrackets? (cs : List Char) : Except Fault Host :=
  match cs.getLast? with
  | some ']' =>
    match ipv6? (cs.dropLast) with
    | some g => .ok (.ipv6 g)
    | none => .error .invalidIpv6
  | _ => .error .invalidIpv6

/-- The host of an address with a special scheme. -/
def ofSpecial? (cs : List Char) : Except Fault Host :=
  match cs with
  | '[' :: rest => ofBrackets? rest
  | cs =>
    match Domain.ascii? (Utf8.decodeLossy (decode cs)).toList with
    | none => .error .invalidDomain
    | some [] => .error .emptyHost
    | some domain =>
      if endsInNumber domain then
        match ipv4? domain with
        | some n => .ok (.ipv4 n)
        | none => .error .invalidIpv4
      else .ok (.name (String.ofList domain))

/-- The host of an address with another scheme. -/
def ofOther? (cs : List Char) : Except Fault Host :=
  match cs with
  | '[' :: rest => ofBrackets? rest
  | cs =>
    if cs.any fun c => "\x00\t\n\r #/:<>?@[\\]^|".toList.contains c then
      .error .invalidHostCharacter
    else .ok (.name (String.ofList (encode isControl cs)))

end Host

end ClusterAudit.Url
