import LiveLink.Calendar.Date
import LiveLink.Decimal.Reading
import LiveLink.Decimal.Layout

/-!
# Points in time of a TOML file

A date, a time of day, or both, then with or without an offset. A time of day may
do without seconds. They are kept as text, in one notation: a capital `T` between
date and time, a capital `Z` for the offset zero written so, and fractions of a
second of one to nine places, without zeros at the end if there are more than one.
-/

namespace LiveLink.Toml

/-- A number of so many digits at the start of a text. -/
def fixed? (width : Nat) (cs : List Char) : Option (Nat × List Char) :=
  let ds := cs.take width
  if ds.length = width && ds.all Char.isDigit then some (Words.value ds, cs.drop width) else none

/-- A given character at the start of a text. -/
def sign? (c : Char) : List Char → Option (List Char)
  | x :: cs => if x = c then some cs else none
  | [] => none

/-- A date. -/
def date? (cs : List Char) : Option (String × List Char) := do
  let (year, cs) ← fixed? 4 cs
  let (month, cs) ← fixed? 2 (← sign? '-' cs)
  let (day, cs) ← fixed? 2 (← sign? '-' cs)
  let _ ← Date.of? year month day
  return (Layout.padded 4 year ++ "-" ++ Layout.padded 2 month ++ "-" ++ Layout.padded 2 day, cs)

/-- The fraction of a second, as it is written. -/
def fraction? (cs : List Char) : Option (String × List Char) :=
  match cs with
  | '.' :: rest =>
    let ds := rest.takeWhile Char.isDigit
    if ds.isEmpty then none
    else
      -- nanoseconds are the finest unit; what is beyond them is cut off
      let kept := ((ds.take 9).reverse.dropWhile (· = '0')).reverse
      some (String.ofList ('.' :: if kept.isEmpty then ['0'] else kept), rest.drop ds.length)
  | cs => some ("", cs)

/-- The second and its fraction, if they are given. A minute may end in a leap second. -/
def second? (cs : List Char) : Option (String × List Char) :=
  match cs with
  | ':' :: rest => do
    let (second, cs) ← fixed? 2 rest
    let (fraction, cs) ← fraction? cs
    if 60 < second then none
    return (":" ++ Layout.padded 2 second ++ fraction, cs)
  | cs => some ("", cs)

/-- A time of day. -/
def clock? (cs : List Char) : Option (String × List Char) := do
  let (hour, cs) ← fixed? 2 cs
  let (minute, cs) ← fixed? 2 (← sign? ':' cs)
  let (second, cs) ← second? cs
  if 23 < hour ∨ 59 < minute then none
  return (Layout.padded 2 hour ++ ":" ++ Layout.padded 2 minute ++ second, cs)

/-- The offset at the end of a time, if there is one. -/
def offset? (cs : List Char) : Option String :=
  match cs with
  | [] => some ""
  | ['Z'] | ['z'] => some "Z"
  | s :: cs =>
    if s = '+' || s = '-' then do
      let (hour, cs) ← fixed? 2 cs
      let (minute, cs) ← fixed? 2 (← sign? ':' cs)
      if 23 < hour ∨ 59 < minute ∨ !cs.isEmpty then none
      -- a negative offset of zero is written as a positive one
      let plus := s = '+' || (hour = 0 && minute = 0)
      return (if plus then "+" else "-") ++ Layout.padded 2 hour ++ ":" ++ Layout.padded 2 minute
    else none

/-- A whole text as a point in time. -/
def time? (cs : List Char) : Option String :=
  match date? cs with
  | none => do
    let (clock, rest) ← clock? cs
    if rest.isEmpty then some clock else none
  | some (date, []) => some date
  | some (date, c :: rest) =>
    if c = 'T' || c = 't' || c = ' ' then do
      let (clock, rest) ← clock? rest
      return date ++ "T" ++ clock ++ (← offset? rest)
    else none

/-- Whether a word starts like a point in time: four digits and a dash, or two and a colon. -/
def looksLikeTime (word : List Char) : Bool :=
  let ds := word.takeWhile Char.isDigit
  (ds.length = 4 && word[4]? = some '-') || (ds.length = 2 && word[2]? = some ':')

end LiveLink.Toml
