import LiveLink.Power

/-!
# Finite binary64 numbers

A finite binary64 number is kept as its three fields, so that two numbers are
equal exactly when they are the same word: `0.0` and `-0.0` differ. Arithmetic
goes through exact quotients of natural numbers: every operation computes the
real result as a quotient and rounds it once, to the nearest number, a half to
the neighbour with the even significand.

* `Binary64.ratio` is the magnitude as a quotient.
* `Binary64.ofRatio?` rounds a quotient; it fails exactly when the result is too
  large to be finite.
-/

namespace LiveLink

/-- A finite binary64 number: sign, biased exponent and fraction field. -/
structure Binary64 where
  negative : Bool
  exponent : Nat
  fraction : Nat
  exponent_lt : exponent < 2047
  fraction_lt : fraction < 2 ^ 52
  deriving DecidableEq

namespace Binary64

/-- Positive or negative zero. -/
def zero (negative : Bool) : Binary64 := ⟨negative, 0, 0, by decide, by decide⟩

instance : Inhabited Binary64 := ⟨zero false⟩

/-- The number with its sign turned. -/
def neg (x : Binary64) : Binary64 := { x with negative := !x.negative }

/-- The integer significand: a hidden bit stands before the fraction of a normal number. -/
def significand (x : Binary64) : Nat :=
  if x.exponent = 0 then x.fraction else x.fraction + 2 ^ 52

/-- The exponent the significand is scaled by, biased by 1075. -/
def scale (x : Binary64) : Nat := max x.exponent 1

/-- The magnitude `significand · 2 ^ (scale - 1075)` as a numerator and a denominator. -/
def ratio (x : Binary64) : Nat × Nat :=
  if 1075 ≤ x.scale then (x.significand * 2 ^ (x.scale - 1075), 1)
  else (x.significand, 2 ^ (1075 - x.scale))

/-- Whether the number is a zero, of either sign. -/
def isZero (x : Binary64) : Bool := x.exponent == 0 && x.fraction == 0

/-- The quotient rounded to the nearest natural number, a half to the even one. -/
def roundHalfEven (num den : Nat) : Nat :=
  let q := num / den
  let r := num % den
  if 2 * r < den then q
  else if den < 2 * r then q + 1
  else if q % 2 = 0 then q else q + 1

/-- The number with significand `m` at scale `s`, if that is a finite number. -/
def ofParts? (negative : Bool) (m s : Nat) : Option Binary64 :=
  if hm : m < 2 ^ 52 then
    some ⟨negative, 0, m, by decide, hm⟩
  else if h : s < 2047 ∧ m < 2 ^ 53 then
    some ⟨negative, s, m - 2 ^ 52, h.1, by omega⟩
  else none

/-- The quotient `num / den` in units of `2 ^ (s - 1075)`. -/
def inUnits (num den s : Nat) : Nat × Nat :=
  if s ≤ 1075 then (num * 2 ^ (1075 - s), den) else (num, den * 2 ^ (s - 1075))

/-- The least scale at which the quotient has at most 53 significant bits. -/
def scaleFor (num den : Nat) : Nat :=
  -- off by one at most, and never too small
  let guess := num.log2 + 1023 - den.log2
  let s := max guess 1
  let (n, d) := inUnits num den s
  if s = 1 ∨ d * 2 ^ 52 ≤ n then s else s - 1

/-- The number nearest to `num / den`, unless that is beyond the largest finite number. -/
def ofRatio? (negative : Bool) (num den : Nat) : Option Binary64 :=
  let s := scaleFor num den
  let (n, d) := inUnits num den s
  let m := roundHalfEven n d
  -- rounding up has made it one bit longer
  if m = 2 ^ 53 then ofParts? negative (2 ^ 52) (s + 1) else ofParts? negative m s

/-- The number nearest to a natural number. -/
def ofNat? (n : Nat) : Option Binary64 := ofRatio? false n 1

/-- The number nearest to an integer. -/
def ofInt? (i : Int) : Option Binary64 := ofRatio? (i < 0) i.natAbs 1

/-- The rounded product; fails on overflow. -/
def mul? (x y : Binary64) : Option Binary64 :=
  let (a, b) := x.ratio
  let (c, d) := y.ratio
  ofRatio? (x.negative != y.negative) (a * c) (b * d)

/-- The rounded quotient by a number that is not zero; fails on overflow. -/
def div? (x y : Binary64) : Option Binary64 :=
  let (a, b) := x.ratio
  let (c, d) := y.ratio
  ofRatio? (x.negative != y.negative) (a * d) (b * c)

/-- The number nearest to the decimal `digits · 10 ^ exponent`. -/
def ofDecimal? (negative : Bool) (digits : Nat) (exponent : Int) : Option Binary64 :=
  if 0 ≤ exponent then ofRatio? negative (digits * 10 ^ exponent.toNat) 1
  else ofRatio? negative digits (10 ^ (-exponent).toNat)

/-- The integer nearest to the magnitude, a half going away from zero. -/
def roundHalfUp (x : Binary64) : Nat :=
  let (a, b) := x.ratio
  (2 * a + b) / (2 * b)

end Binary64

end LiveLink
