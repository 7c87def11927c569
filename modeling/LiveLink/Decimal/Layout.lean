import LiveLink.Decimal.Shortest

/-!
# How decimals are laid out

Two layouts are in use. `Layout.compact` writes a point for decimal exponents
from -5 to 15 and an exponent beyond; `Layout.plain` always writes all places.
Both write the shortest decimal of the number.
-/

namespace LiveLink

namespace Layout

/-- Decimal digits of a natural number, as text. -/
def digits (n : Nat) : String := String.ofList (Nat.toDigits 10 n)

/-- `digits` padded on the left with zeros to a width. -/
def padded (width n : Nat) : String :=
  let ds := Nat.toDigits 10 n
  String.ofList (List.replicate (width - ds.length) '0' ++ ds)

/-- A number of zeros. -/
def zeros (n : Nat) : String := String.ofList (List.replicate n '0')

/-- The digits with a point after the first `n` of them. -/
def pointAfter (n : Nat) (ds : List Char) : String :=
  String.ofList (ds.take n ++ '.' :: ds.drop n)

/-- The sign of a number as it is written: only a minus is. -/
def sign (negative : Bool) : String := if negative then "-" else ""

/-- Always with a point or an exponent: `0.00001`, `1.5`, `100000.0`, `1e+16`, `1.5e-7`. -/
def compact (x : Binary64) : String :=
  let d := Shortest.ofBinary64 x
  let ds := Nat.toDigits 10 d.digits
  let places : Int := ds.length + d.exponent
  let body :=
    if 0 ≤ d.exponent ∧ places ≤ 16 then digits d.digits ++ zeros d.exponent.toNat ++ ".0"
    else if 0 < places ∧ places ≤ 16 then pointAfter places.toNat ds
    else if -5 < places ∧ places ≤ 0 then "0." ++ zeros (-places).toNat ++ digits d.digits
    else
      let e := places - 1
      let lead := if ds.length = 1 then digits d.digits else pointAfter 1 ds
      lead ++ "e" ++ (if e < 0 then "-" else "+") ++ digits e.natAbs
  sign x.negative ++ body

/-- All places and no exponent: `0.0000001`, `1.5`, `10000000000000000`. -/
def plain (x : Binary64) : String :=
  let d := Shortest.ofBinary64 x
  let ds := Nat.toDigits 10 d.digits
  let places : Int := ds.length + d.exponent
  let body :=
    if 0 ≤ d.exponent then digits d.digits ++ zeros d.exponent.toNat
    else if 0 < places then pointAfter places.toNat ds
    else "0." ++ zeros (-places).toNat ++ digits d.digits
  sign x.negative ++ body

end Layout

end LiveLink
