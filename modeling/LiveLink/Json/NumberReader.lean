import LiveLink.Json.Cursor

/-!
# Reading numbers

An integer that fits 64 bits is exact. Any other number is worked out from a
64-bit significand and a decimal exponent: the leading digits are collected
while they fit, further ones only shift the exponent, and the significand is
scaled by a power of ten in binary64 arithmetic. The scaling rounds at each
step, so the result may differ from the nearest number in its last place.
-/

namespace LiveLink.Json

/-- A decimal digit's value. -/
def digitValue (c : Char) : Nat := c.toNat - 48

/-- The first value a 64-bit word cannot hold. -/
def wordLimit : Nat := 2 ^ 64

/-- The largest exponent that is written out; a larger one overflows. -/
def exponentLimit : Nat := 2 ^ 31 - 1

/-- A significand collected digit by digit, and how many digits it has lost or gained. -/
structure Collected where
  significand : Nat
  exponent : Int

/-- Collects the digits before the point; once one does not fit it and all later ones only
count. -/
def collectWhole : Nat → List Char → Collected
  | m, [] => ⟨m, 0⟩
  -- a digit that does not fit is not rounded in, and its place is taken by the exponent
  | m, d :: ds =>
    if m * 10 + digitValue d < wordLimit then collectWhole (m * 10 + digitValue d) ds
    else ⟨m, (d :: ds).length⟩

/-- Collects the digits after the point; once one does not fit it and all later ones are
dropped. -/
def collectFraction : Collected → List Char → Collected
  | c, [] => c
  | c, d :: ds =>
    if c.significand * 10 + digitValue d < wordLimit then
      collectFraction ⟨c.significand * 10 + digitValue d, c.exponent - 1⟩ ds
    else c

/-- Reads digits of an exponent; `inr` gives the digits left when the value gets too large. -/
def collectExponent : Nat → List Char → Nat ⊕ List Char
  | n, [] => .inl n
  | n, d :: ds =>
    if n * 10 + digitValue d ≤ exponentLimit then collectExponent (n * 10 + digitValue d) ds
    else .inr ds

/-- The power of ten as a binary64 number, up to the largest one. -/
def powerOfTen? (n : Nat) : Option Binary64 := Binary64.ofNat? (10 ^ n)

/-- Divides by `10 ^ n` in steps of at most `10 ^ 308`, stopping at zero. -/
def divPower (x : Binary64) (n : Nat) : Option Binary64 :=
  if h : n ≤ 308 then do x.div? (← powerOfTen? n)
  else if x.isZero then some x
  else do divPower (← x.div? (← powerOfTen? 308)) (n - 308)
termination_by n
decreasing_by omega

/-- The significand scaled by its exponent; fails on overflow. -/
def Collected.scale? (c : Collected) : Option Binary64 := do
  let x ← Binary64.ofNat? c.significand
  if 0 ≤ c.exponent then
    if x.isZero then some x
    -- beyond this the power of ten itself is no binary64 number
    else if c.exponent ≤ 308 then x.mul? (← powerOfTen? c.exponent.toNat)
    else none
  else divPower x (-c.exponent).toNat

/-- The number with a sign in front of it. -/
def signed (negative : Bool) (x : Binary64) : Number :=
  .real (if negative then x.neg else x)

/-- The collected number, or the fault that it is out of range. -/
def finish (negative : Bool) (c : Collected) (cur : Cursor) : Except Error (Number × Cursor) :=
  match c.scale? with
  | some x => .ok (signed negative x, cur)
  | none => cur.fault .numberOutOfRange

/-- The digits ahead. -/
def digitsAhead (c : Cursor) : List Char := c.rest.takeWhile Char.isDigit

/-- Reads an exponent from just after its letter. -/
def readExponent (negative : Bool) (c : Collected) (cur : Cursor) :
    Except Error (Number × Cursor) :=
  let (minus, cur) := match cur.rest with
    | '+' :: _ => (false, cur.next)
    | '-' :: _ => (true, cur.next)
    | _ => (false, cur)
  match cur.rest with
  | [] => cur.fault .endInValue
  | d :: _ =>
    if !d.isDigit then cur.faultNext .invalidNumber
    else
      let ds := digitsAhead cur
      match collectExponent 0 ds with
      | .inl e =>
        let shift : Int := if minus then -e else e
        finish negative ⟨c.significand, c.exponent + shift⟩ (cur.skip ds.length)
      | .inr left =>
        -- no number is as large as this, and none as small but zero
        if c.significand ≠ 0 ∧ minus = false then
          (cur.skip (ds.length - left.length)).fault .numberOutOfRange
        else .ok (signed negative (Binary64.zero false), cur.skip ds.length)

/-- Reads what may follow the digits of a number with a point or with lost digits. -/
def readTail (negative : Bool) (c : Collected) (cur : Cursor) : Except Error (Number × Cursor) :=
  match cur.rest with
  | 'e' :: _ | 'E' :: _ => readExponent negative c cur.next
  | _ => finish negative c cur

/-- A whole number: an integer if it fits, else the nearest binary64 number. -/
def wholeNumber (negative : Bool) (m : Nat) : Number :=
  if !negative then .int m
  -- minus zero is no integer
  else if m ≠ 0 ∧ m ≤ 2 ^ 63 then .int (-m)
  else signed true ((Binary64.ofNat? m).getD (Binary64.zero false))

/-- Reads a number from its first digit; the sign has been read. -/
def readNumber (negative : Bool) (cur : Cursor) : Except Error (Number × Cursor) :=
  match cur.rest with
  | [] => cur.fault .endInValue
  | d :: _ =>
    if !d.isDigit then cur.faultNext .invalidNumber
    else
      let ds := if d = '0' then ['0'] else digitsAhead cur
      let cur := cur.skip ds.length
      let c := collectWhole 0 ds
      match cur.rest with
      | '.' :: _ =>
        let cur := cur.next
        let fs := digitsAhead cur
        if fs.isEmpty then
          if cur.rest.isEmpty then cur.fault .endInValue else cur.faultNext .invalidNumber
        else readTail negative (collectFraction c fs) (cur.skip fs.length)
      | 'e' :: _ | 'E' :: _ => readExponent negative c cur.next
      | x :: _ =>
        -- no digits behind a leading zero
        if d = '0' ∧ x.isDigit then cur.faultNext .invalidNumber
        else if c.exponent = 0 then .ok (wholeNumber negative c.significand, cur)
        else finish negative c cur
      | [] =>
        if c.exponent = 0 then .ok (wholeNumber negative c.significand, cur)
        else finish negative c cur

/-- Skips an exponent from just after its letter. -/
def skipExponent (cur : Cursor) : Except Error Cursor :=
  let cur := match cur.rest with
    | '+' :: _ | '-' :: _ => cur.next
    | _ => cur
  match cur.rest with
  | [] => cur.fault .invalidNumber
  | d :: _ =>
    if d.isDigit then .ok (cur.skip (digitsAhead cur).length) else cur.faultNext .invalidNumber

/-- Skips a number from its first digit. -/
def skipNumber (cur : Cursor) : Except Error Cursor :=
  match cur.rest with
  | [] => cur.fault .invalidNumber
  | d :: _ =>
    if !d.isDigit then cur.faultNext .invalidNumber
    else
      let cur := cur.skip (if d = '0' then 1 else (digitsAhead cur).length)
      match cur.rest with
      | '.' :: _ =>
        let cur := cur.next
        let n := (digitsAhead cur).length
        if n = 0 then cur.faultNext .invalidNumber
        else
          let cur := cur.skip n
          match cur.rest with
          | 'e' :: _ | 'E' :: _ => skipExponent cur.next
          | _ => .ok cur
      | 'e' :: _ | 'E' :: _ => skipExponent cur.next
      | x :: _ => if d = '0' ∧ x.isDigit then cur.faultNext .invalidNumber else .ok cur
      | [] => .ok cur

end LiveLink.Json
