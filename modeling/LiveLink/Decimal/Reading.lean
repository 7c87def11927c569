import LiveLink.Decimal.Extended

/-!
# Numbers as words

A whole text as a number: an integer of 64 bits, with or without a sign, or a
decimal with a point, an exponent, or the name of an infinity.
-/

namespace LiveLink.Words

/-- The value of decimal digits. -/
def value (ds : List Char) : Nat := ds.foldl (fun n c => n * 10 + (c.toNat - 48)) 0

/-- A sign, if there is one, and what follows it. -/
def cutSign : List Char → Bool × List Char
  | '-' :: cs => (true, cs)
  | '+' :: cs => (false, cs)
  | cs => (false, cs)

/-- Decimal digits and nothing else, at least one. -/
def natural? (cs : List Char) : Option Nat :=
  if cs.isEmpty || !cs.all Char.isDigit then none else some (value cs)

/-- An integer of 64 bits. -/
def signed? (s : String) : Option Int := do
  let (negative, cs) := cutSign s.toList
  let n ← natural? cs
  let i : Int := if negative then -n else n
  if -(2 ^ 63) ≤ i ∧ i < 2 ^ 63 then some i else none

/-- A natural number of 64 bits; a plus sign may stand before it. -/
def unsigned? (s : String) : Option UInt64 := do
  let cs := match s.toList with
    | '+' :: cs => cs
    | cs => cs
  let n ← natural? cs
  if n < 2 ^ 64 then some (.ofNat n) else none

/-- The digits before and behind the point, and what follows. -/
def cutPoint (cs : List Char) : List Char × List Char × List Char :=
  let whole := cs.takeWhile Char.isDigit
  match cs.drop whole.length with
  | '.' :: rest =>
    let places := rest.takeWhile Char.isDigit
    (whole, places, rest.drop places.length)
  | rest => (whole, [], rest)

/-- An exponent; zero if there is none. -/
def exponent? : List Char → Option Int
  | [] => some 0
  | c :: cs =>
    if c = 'e' || c = 'E' then
      let (negative, ds) := cutSign cs
      (natural? ds).map fun n => if negative then -(n : Int) else n
    else none

/-- A number, or the name of one that is not finite. -/
def real? (s : String) : Option Extended :=
  let (negative, cs) := cutSign s.toList
  let word := cs.map Char.toLower
  if word = "inf".toList || word = "infinity".toList then some (.infinite negative)
  else if word = "nan".toList then some .nan
  else
    let (whole, places, rest) := cutPoint cs
    if whole.isEmpty && places.isEmpty then none
    else (exponent? rest).map fun e => .ofDecimal negative (value (whole ++ places)) (e - places.length)

end LiveLink.Words
