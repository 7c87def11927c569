import LiveLink.Text.Utf8

/-!
# Percent encoding

A byte that may not stand for itself is written as a percent sign and two
upper-case hexadecimal digits. Which ASCII characters may stand for themselves
depends on the part of a URL; characters beyond ASCII never do.
-/

namespace LiveLink.Url

/-- An upper-case hexadecimal digit. -/
def hexDigit (n : Nat) : Char := if n < 10 then Char.ofNat (48 + n) else Char.ofNat (55 + n)

/-- A byte as a percent sign and two digits. -/
def percentByte (b : UInt8) : List Char := ['%', hexDigit (b.toNat / 16), hexDigit (b.toNat % 16)]

/-- Characters with those encoded that are beyond ASCII, control characters or in a set. -/
def percentEncode (set : Char → Bool) (cs : List Char) : List Char :=
  cs.flatMap fun c =>
    if c.toNat < 0x20 || 0x7e < c.toNat || set c then
      (String.utf8EncodeChar c).flatMap percentByte
    else [c]

/-- Encoded nowhere but among control characters. -/
def controlSet (_ : Char) : Bool := false

/-- Encoded in a query. -/
def querySet (c : Char) : Bool := c = ' ' || c = '"' || c = '#' || c = '<' || c = '>'

/-- Encoded in the query of a special URL. -/
def specialQuerySet (c : Char) : Bool := querySet c || c = '\''

/-- Encoded in a fragment. -/
def fragmentSet (c : Char) : Bool := c = ' ' || c = '"' || c = '<' || c = '>' || c = '`'

/-- Encoded in a path. -/
def pathSet (c : Char) : Bool := fragmentSet c || c = '#' || c = '?' || c = '{' || c = '}'

/-- Encoded in a user name or a password. -/
def userSet (c : Char) : Bool :=
  pathSet c || c = '/' || c = ':' || c = ';' || c = '=' || c = '@' || c = '[' || c = '\\' ||
    c = ']' || c = '^' || c = '|'

/-- The value of a hexadecimal digit of either case. -/
def hexValue? (c : Char) : Option Nat :=
  if '0' ≤ c ∧ c ≤ '9' then some (c.toNat - 48)
  else if 'a' ≤ c ∧ c ≤ 'f' then some (c.toNat - 87)
  else if 'A' ≤ c ∧ c ≤ 'F' then some (c.toNat - 55)
  else none

/-- The bytes of characters, with every percent sign and two digits as the byte they write. -/
def percentDecode : List Char → List UInt8
  | [] => []
  | '%' :: a :: b :: rest =>
    match hexValue? a, hexValue? b with
    | some x, some y => UInt8.ofNat (x * 16 + y) :: percentDecode rest
    | _, _ => 0x25 :: percentDecode (a :: b :: rest)
  | c :: rest => String.utf8EncodeChar c ++ percentDecode rest

end LiveLink.Url
