import LiveLink.Decimal.Binary64

/-!
# The shortest decimal of a binary64 number

Reading a decimal rounds it to the nearest binary64 number, so a whole interval
of decimals reads back as the same number. `Shortest.ofBinary64` picks from that
interval a decimal with the fewest digits and, of those, the one nearest to the
number itself.

For one digit, two digits, and so on up to seventeen, the two neighbours of the
number on the decimal grid of that many digits are tested in exact arithmetic.
Seventeen digits always suffice.
-/

namespace LiveLink

/-- A decimal magnitude `digits · 10 ^ exponent`. -/
structure Decimal where
  digits : Nat
  exponent : Int
  deriving DecidableEq, Repr

namespace Decimal

/-- The same decimal without trailing zeros, looking at no more than `n` of them. -/
def strip : Nat → Decimal → Decimal
  | 0, d => d
  | n + 1, d =>
    if d.digits ≠ 0 ∧ d.digits % 10 = 0 then strip n ⟨d.digits / 10, d.exponent + 1⟩ else d

end Decimal

namespace Shortest

/-- `num / den` in units of `10 ^ e`, as a quotient again. -/
def inUnits (num den : Nat) (e : Int) : Nat × Nat :=
  if 0 ≤ e then (num, den * 10 ^ e.toNat) else (num * 10 ^ (-e).toNat, den)

/-- Raises `e` while `10 ^ e ≤ num / den`, at most `n` times. -/
def raise (num den : Nat) : Nat → Int → Int
  | 0, e => e
  | n + 1, e =>
    let (a, b) := inUnits num den e
    if b ≤ a then raise num den n (e + 1) else e

/-- The number of decimal places left of the point: `10 ^ (e - 1) ≤ num / den < 10 ^ e`. -/
def magnitude (num den : Nat) : Int :=
  let bits : Int := (num.log2 : Int) - den.log2
  raise num den 6 (bits * 30103 / 100000 - 2)

/-- The decimals that read back as a number: every quotient from `low` to `high` over `den`,
the ends included when `closed`. -/
structure Interval where
  low : Nat
  high : Nat
  den : Nat
  closed : Bool

namespace Interval

/-- The interval around a number: half a unit to each side, a quarter below a power of two. -/
def around (x : Binary64) : Interval :=
  let m := 4 * x.significand
  -- below a power of two the numbers lie twice as close
  let below := if x.fraction = 0 ∧ 1 < x.exponent then 1 else 2
  let closed := x.significand % 2 = 0
  if 1077 ≤ x.scale then
    let unit := 2 ^ (x.scale - 1077)
    ⟨(m - below) * unit, (m + 2) * unit, 1, closed⟩
  else
    ⟨m - below, m + 2, 2 ^ (1077 - x.scale), closed⟩

/-- Whether `t · 10 ^ e` lies in the interval. -/
def holds (i : Interval) (t : Nat) (e : Int) : Bool :=
  let (a, b) := if 0 ≤ e then (t * 10 ^ e.toNat * i.den, 1) else (t * i.den, 10 ^ (-e).toNat)
  if i.closed then i.low * b ≤ a && a ≤ i.high * b else i.low * b < a && a < i.high * b

end Interval

/-- The candidates with digits left to try: the nearer neighbour that reads back, if any does. -/
def search (num den : Nat) (i : Interval) (top : Int) : Nat → Nat → Decimal
  | 0, n =>
    let e := top - n
    let (a, b) := inUnits num den e
    ⟨Binary64.roundHalfEven a b, e⟩
  | more + 1, n =>
    let e := top - n
    let (a, b) := inUnits num den e
    let t := a / b
    let r := a % b
    match i.holds t e, i.holds (t + 1) e with
    | true, true =>
      -- both neighbours read back: the nearer one, and of two as near the even one
      if 2 * r < b ∨ (2 * r = b ∧ t % 2 = 0) then ⟨t, e⟩ else ⟨t + 1, e⟩
    | true, false => ⟨t, e⟩
    | false, true => ⟨t + 1, e⟩
    | false, false => search num den i top more (n + 1)

/-- The shortest decimal that reads back as the magnitude of `x`, nearest to it. -/
def ofBinary64 (x : Binary64) : Decimal :=
  if x.isZero then ⟨0, 0⟩
  else
    let (num, den) := x.ratio
    Decimal.strip 20 (search num den (Interval.around x) (magnitude num den) 16 1)

end Shortest

end LiveLink
