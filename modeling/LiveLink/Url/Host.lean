import LiveLink.Url.Address
import LiveLink.Domain.Name

/-!
# Hosts

A host in brackets is an IPv6 address. Otherwise the host of a special URL is a
domain name, or an IPv4 address if its last part is a number; the host of any
other URL is kept as it stands, control characters and characters beyond ASCII
percent encoded.
-/

namespace LiveLink.Url

/-- A host. A URL without an address behind its double slash has the empty name. -/
inductive Host where
  | name (s : String)
  | ipv4 (address : Nat)
  | ipv6 (pieces : List Nat)
  deriving DecidableEq

namespace Host

/-- The empty name. -/
def empty : Host := name ""

/-- A host as it is written. -/
def write : Host → String
  | name s => s
  | ipv4 n => writeIpv4 n
  | ipv6 ps => "[" ++ writeIpv6 ps ++ "]"

/-- What stands between brackets, for a text that has both. -/
def bracketed? : List Char → Option (List Char)
  | '[' :: cs => if cs.getLast? = some ']' then some cs.dropLast else none
  | _ => none

/-- A host that starts with a bracket. -/
def readBracketed (cs : List Char) : Except Error Host :=
  match bracketed? cs with
  | some inner => (readIpv6 inner).map ipv6
  | none => .error .invalidIpv6

/-- The host of a special URL. -/
def readSpecial (cs : List Char) : Except Error Host :=
  if cs.head? = some '[' then readBracketed cs
  else
    -- percent signs are decoded before the name is looked at
    match Domain.write? (Text.Utf8.decodeLossy (percentDecode cs)) with
    | none => .error .invalidDomain
    | some [] => .error .emptyHost
    | some domain =>
      if endsInNumber domain then (readIpv4 domain).map ipv4
      else .ok (name (String.ofList domain))

/-- Characters that the host of no other URL may have. -/
def isForbidden (c : Char) : Bool :=
  "\x00\t\n\r #/:<>?@[\\]^|".toList.contains c

/-- The host of a URL that is not special. -/
def readPlain (cs : List Char) : Except Error Host :=
  if cs.head? = some '[' then readBracketed cs
  else if cs.any isForbidden then .error .invalidHostCharacter
  else .ok (name (String.ofList (percentEncode controlSet cs)))

end Host

end LiveLink.Url
