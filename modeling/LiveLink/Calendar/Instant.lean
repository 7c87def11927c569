import LiveLink.Calendar.Date
import LiveLink.Decimal.Layout

/-!
# Instants

An instant is a date and a time of day in UTC, to the nanosecond. The last
minute of a day may have a 61st second, and so may any other minute: second 60
is a leap second. Instants are written with `Z` and with as many groups of three
fraction digits as they need; a year of other than four digits carries its sign.
-/

namespace LiveLink

/-- A moment in UTC. -/
structure Instant where
  date : Date
  hour : Nat
  minute : Nat
  second : Nat
  nanos : Nat
  hour_lt : hour < 24
  minute_lt : minute < 60
  second_le : second ≤ 60
  nanos_lt : nanos < 10 ^ 9
  deriving DecidableEq

namespace Instant

/-- The start of 1970. -/
def epoch : Instant :=
  ⟨.epoch, 0, 0, 0, 0, by decide, by decide, by decide, by decide⟩

instance : Inhabited Instant := ⟨epoch⟩

/-- A year: four digits, or a sign and at least four digits. -/
def writeYear (y : Int) : String :=
  if 0 ≤ y ∧ y ≤ 9999 then Layout.padded 4 y.natAbs
  else (if y < 0 then "-" else "+") ++ Layout.padded 4 y.natAbs

/-- The fraction of a second: nothing, or three, six or nine digits. -/
def writeFraction (n : Nat) : String :=
  if n = 0 then ""
  else if n % 1000000 = 0 then "." ++ Layout.padded 3 (n / 1000000)
  else if n % 1000 = 0 then "." ++ Layout.padded 6 (n / 1000)
  else "." ++ Layout.padded 9 n

/-- The instant as text. -/
def write (t : Instant) : String :=
  writeYear t.date.year ++ "-" ++ Layout.padded 2 t.date.month ++ "-" ++
    Layout.padded 2 t.date.day ++ "T" ++ Layout.padded 2 t.hour ++ ":" ++
    Layout.padded 2 t.minute ++ ":" ++ Layout.padded 2 t.second ++ writeFraction t.nanos ++ "Z"

end Instant

end LiveLink
