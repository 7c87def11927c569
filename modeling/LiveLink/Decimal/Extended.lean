import LiveLink.Decimal.Layout

/-!
# Real numbers with infinities

A binary64 number that need not be finite, as configuration knows it: read from
a decimal with one rounding, written with all its places, and turned into a
64-bit count.
-/

namespace LiveLink

/-- A finite number, an infinity, or no number. -/
inductive Extended where
  | finite (x : Binary64)
  | infinite (negative : Bool)
  | nan
  deriving DecidableEq

namespace Extended

/-- The number nearest to the decimal `digits · 10 ^ exponent`. Beyond the largest number that is
an infinity, and far below the smallest it is zero. -/
def ofDecimal (negative : Bool) (digits : Nat) (exponent : Int) : Extended :=
  let places : Int := (Nat.toDigits 10 digits).length + exponent
  if digits = 0 ∨ places < -400 then finite (.zero negative)
  else if 400 < places then infinite negative
  else
    match Binary64.ofDecimal? negative digits exponent with
    | some x => finite x
    | none => infinite negative

/-- A number as text, with all its places. -/
def write : Extended → String
  | finite x => Layout.plain x
  | infinite negative => Layout.sign negative ++ "inf"
  | nan => "NaN"

/-- A number as text that shows it is not an integer. -/
def writePointed : Extended → String
  | finite x =>
    let s := Layout.plain x
    if s.toList.contains '.' then s else s ++ ".0"
  | x => x.write

/-- The nearest count, a half going up. What is below zero counts as nothing, what is too large as
the largest count. -/
def toCount : Extended → UInt64
  | finite x => if x.negative then 0 else .ofNat (min x.roundHalfUp (2 ^ 64 - 1))
  | infinite negative => if negative then 0 else 0xffffffffffffffff
  | nan => 0

end Extended

end LiveLink
