import LiveLink.Calendar.Instant
import LiveLink.Text.Blank

/-!
# Reading instants

The notation is a relaxed form of RFC 3339: blanks may stand before each part,
months, days, hours, minutes and seconds may have one digit, the date and the
time may be separated by a blank, years beyond four digits carry a sign, and the
zone is `UTC`, `Z` or an offset in hours and minutes with any colons and blanks
between them. Fraction digits beyond the ninth are dropped.
-/

namespace LiveLink.Instant

/-- Why a text is not an instant. -/
inductive Fault where
  | tooShort
  | invalid
  | outOfRange
  | trailing
  /-- The moment exists in its zone but its date in UTC is beyond the calendar. -/
  | impossible
  deriving DecidableEq

/-- The wording of a fault. -/
def Fault.message : Fault → String
  | .tooShort => "premature end of input"
  | .invalid => "input contains invalid characters"
  | .outOfRange => "input is out of range"
  | .trailing => "trailing input"
  | .impossible => "no possible date and time matching input"

/-- The value of decimal digits. -/
def valueOf (ds : List Char) : Nat := ds.foldl (fun n d => n * 10 + (d.toNat - 48)) 0

/-- One or more digits, no more than `most` of them if there is a bound. -/
def number (most : Option Nat) (cs : List Char) : Except Fault (Nat × List Char) :=
  let ahead := match most with
    | some n => cs.take n
    | none => cs
  let ds := ahead.takeWhile Char.isDigit
  if ds.isEmpty then .error (if cs.isEmpty then .tooShort else .invalid)
  else if valueOf ds < 2 ^ 63 then .ok (valueOf ds, cs.drop ds.length)
  else .error .outOfRange

/-- A number of one or two digits after blanks, between two bounds. -/
def part (low high : Nat) (cs : List Char) : Except Fault (Nat × List Char) := do
  let (n, cs) ← number (some 2) (Text.trimStart cs)
  if low ≤ n ∧ n ≤ high then return (n, cs) else throw .outOfRange

/-- A character after blanks. -/
def mark (c : Char) (cs : List Char) : Except Fault (List Char) :=
  match Text.trimStart cs with
  | [] => .error .tooShort
  | x :: rest => if x = c then .ok rest else .error .invalid

/-- A year: four digits at most, or a sign and any number of digits. -/
def year (cs : List Char) : Except Fault (Int × List Char) := do
  let check := fun (y : Int) (rest : List Char) =>
    if -(2 ^ 31) ≤ y ∧ y < 2 ^ 31 then Except.ok (y, rest) else .error Fault.outOfRange
  match Text.trimStart cs with
  | '-' :: rest => do
    let (n, rest) ← number none rest
    check (-n) rest
  | '+' :: rest => do
    let (n, rest) ← number none rest
    check n rest
  | rest => do
    let (n, rest) ← number (some 4) rest
    check n rest

/-- The fraction of a second in nanoseconds, if a point follows. -/
def fraction : List Char → Except Fault (Nat × List Char)
  | '.' :: cs => do
    let (n, rest) ← number (some 9) cs
    -- as many places as were read; the digits beyond the ninth say nothing
    return (n * 10 ^ (9 - (cs.length - rest.length)), rest.dropWhile Char.isDigit)
  | cs => .ok (0, cs)

/-- The number of bytes of a text, which decides whether two more can be digits. -/
def byteCount (cs : List Char) : Nat := cs.foldl (fun n c => n + c.utf8Size) 0

/-- Two digits. -/
def twoDigits (cs : List Char) : Except Fault (Nat × List Char) :=
  match cs with
  | a :: b :: rest =>
    if a.isDigit ∧ b.isDigit then .ok (valueOf [a, b], rest) else .error .invalid
  | _ => .error (if byteCount cs < 2 then .tooShort else .invalid)

/-- Whether three characters are `UTC` in any case. -/
def isUtc (a b c : Char) : Bool := a.toUpper = 'U' && b.toUpper = 'T' && c.toUpper = 'C'

/-- Hours and minutes of an offset from its sign on, in minutes. -/
def hoursAndMinutes (cs : List Char) : Except Fault (Nat × List Char) := do
  let (h, cs) ← twoDigits cs
  let (m, cs) ← twoDigits (cs.dropWhile fun c => c = ':' || Text.isBlank c)
  if m < 60 then return (h * 60 + m, cs) else throw .outOfRange

/-- The zone: its offset from UTC in minutes. -/
def zone (cs : List Char) : Except Fault (Int × List Char) :=
  match cs with
  | [] => .error .tooShort
  | x :: rest =>
    let utc := match cs with
      | a :: b :: c :: after => if isUtc a b c then some after else none
      | _ => none
    match utc with
    | some after => .ok (0, after)
    | none =>
      if x = 'Z' ∨ x = 'z' then .ok (0, rest)
      else if x = '+' then do
        let (m, rest) ← hoursAndMinutes rest
        return (m, rest)
      else if x = '-' ∨ x = '\u2212' then do
        let (m, rest) ← hoursAndMinutes rest
        return (-m, rest)
      else .error .invalid

/-- The instant a date and time of day in a zone is, the zone's offset in minutes. -/
def inZone (date : Date) (hour minute second nanos : Nat) (offset : Int) :
    Except Fault Instant :=
  -- below zero on the day before, from 1440 on on the day after
  let m := (hour * 60 + minute : Nat) - offset
  let date? :=
    if m < 0 then date.prev? else if m < 1440 then some date else date.next?
  match date? with
  | none => .error .impossible
  | some d =>
    let m := (m % 1440).toNat
    if h : m / 60 < 24 ∧ second ≤ 60 ∧ nanos < 10 ^ 9 then
      .ok ⟨d, m / 60, m % 60, second, nanos, h.1, Nat.mod_lt _ (by decide), h.2.1, h.2.2⟩
    else .error .outOfRange

/-- The instant that the characters write. -/
def ofChars (cs : List Char) : Except Fault Instant := do
  let (y, cs) ← year cs
  let cs ← mark '-' cs
  let (mo, cs) ← part 1 12 cs
  let cs ← mark '-' cs
  let (d, cs) ← part 1 31 cs
  let cs ← match cs with
    | [] => throw .tooShort
    | c :: rest => if c = 'T' ∨ c = 't' ∨ c = ' ' then pure rest else throw .invalid
  let (h, cs) ← part 0 23 cs
  let cs ← mark ':' cs
  let (mi, cs) ← part 0 59 cs
  let cs ← mark ':' cs
  let (s, cs) ← part 0 60 cs
  let (nanos, cs) ← fraction cs
  let (offset, cs) ← zone (Text.trimStart cs)
  if !(Text.trimStart cs).isEmpty then throw .trailing
  match Date.of? y mo d with
  | none => throw .outOfRange
  | some date =>
    -- a zone is less than a day away
    if offset.natAbs < 1440 then inZone date h mi s nanos offset else throw .outOfRange

/-- The instant that a text writes. -/
def read (s : String) : Except Fault Instant := ofChars s.toList

end LiveLink.Instant
