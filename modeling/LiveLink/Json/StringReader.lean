import LiveLink.Json.Cursor

/-!
# Reading strings

A string is read from just after its opening quote. Escapes are decoded; a code
point beyond the first plane is written as two escapes, which must follow each
other. `skipString` checks the grammar only and lets unpaired halves pass.
-/

namespace LiveLink.Json

/-- The character that a one-letter escape stands for. -/
def plainEscape (c : Char) : Option Char :=
  if c = '"' then some '"'
  else if c = '\\' then some '\\'
  else if c = '/' then some '/'
  else if c = 'b' then some '\x08'
  else if c = 'f' then some '\x0c'
  else if c = 'n' then some '\n'
  else if c = 'r' then some '\r'
  else if c = 't' then some '\t'
  else none

/-- The value of a hexadecimal digit. -/
def hexValue (c : Char) : Option Nat :=
  if '0' ≤ c ∧ c ≤ '9' then some (c.toNat - 48)
  else if 'a' ≤ c ∧ c ≤ 'f' then some (c.toNat - 87)
  else if 'A' ≤ c ∧ c ≤ 'F' then some (c.toNat - 55)
  else none

/-- The number that four hexadecimal digits write. -/
def hexFour (a b c d : Char) : Option Nat :=
  match hexValue a, hexValue b, hexValue c, hexValue d with
  | some a, some b, some c, some d => some (((a * 16 + b) * 16 + c) * 16 + d)
  | _, _, _, _ => none

/-- Whether at least four bytes are left. -/
def fourBytesLeft (cs : List Char) : Bool :=
  4 ≤ (cs.take 4).foldl (fun n c => n + c.utf8Size) 0

/-- Why four characters after `\u` are not a code: too few, or not hexadecimal. -/
def hexFault {α : Type} (p : Position) (cs : List Char) : Except Error α :=
  if fourBytesLeft cs then .error (.fault .invalidEscape (p.pastBytes 4 cs))
  else .error (.fault .endInString (p.pastAll cs))

/-- The first half of a pair of escapes. -/
def isLeading (n : Nat) : Bool := 0xd800 ≤ n && n ≤ 0xdbff

/-- The second half of a pair of escapes. -/
def isTrailing (n : Nat) : Bool := 0xdc00 ≤ n && n ≤ 0xdfff

/-- The character a pair of halves stands for. -/
def pairChar (n m : Nat) : Char := Char.ofNat ((n - 0xd800) * 1024 + (m - 0xdc00) + 0x10000)

/-- A text ends, or some other character stands, where `expected` of a second escape should be. -/
def halfFault {α : Type} (p : Position) : List Char → Except Error α
  | [] => .error (.fault .endInString p)
  | c :: cs => .error (.fault .unexpectedEndOfHexEscape (p.pastBytes 1 (c :: cs)))

/-- Reads the characters of a string up to its closing quote; `acc` holds those before, last
first. -/
def readChars (p : Position) (acc : List Char) : List Char → Except Error (String × Cursor)
  | [] => .error (.fault .endInString p)
  | c :: r =>
    if c = '"' then .ok (String.ofList acc.reverse, ⟨r, p.past c⟩)
    else if c = '\\' then
      match r with
      | [] => .error (.fault .endInString (p.past c))
      | e :: r =>
        if e = 'u' then
          match r with
          | a :: b :: c' :: d :: r =>
            match hexFour a b c' d with
            | none => hexFault ((p.past c).past e) (a :: b :: c' :: d :: r)
            | some n =>
              let q := p.pastAll [c, e, a, b, c', d]
              -- a second half may not come first
              if isTrailing n then .error (.fault .loneSurrogate q)
              else if isLeading n then
                match r with
                -- the other half has to follow at once
                | '\\' :: 'u' :: r =>
                  let q := (q.past '\\').past 'u'
                  match r with
                  | a :: b :: c' :: d :: r =>
                    match hexFour a b c' d with
                    | none => hexFault q (a :: b :: c' :: d :: r)
                    | some m =>
                      let q := q.pastAll [a, b, c', d]
                      if isTrailing m then readChars q (pairChar n m :: acc) r
                      else .error (.fault .loneSurrogate q)
                  | short => hexFault q short
                | '\\' :: rest => halfFault (q.past '\\') rest
                | rest => halfFault q rest
              else readChars q (Char.ofNat n :: acc) r
          | short => hexFault ((p.past c).past e) short
        else
          match plainEscape e with
          | some x => readChars ((p.past c).past e) (x :: acc) r
          | none => .error (.fault .invalidEscape ((p.past c).pastBytes 1 (e :: r)))
    -- the fault is placed behind the character here, and before it when a string is skipped
    else if c.toNat < 0x20 then .error (.fault .controlCharacter (p.past c))
    else readChars (p.past c) (c :: acc) r

/-- Reads a string from just after its opening quote. -/
def readString (c : Cursor) : Except Error (String × Cursor) := readChars c.place [] c.rest

/-- Skips the characters of a string up to its closing quote. -/
def skipChars (p : Position) : List Char → Except Error Cursor
  | [] => .error (.fault .endInString p)
  | c :: r =>
    if c = '"' then .ok ⟨r, p.past c⟩
    else if c = '\\' then
      match r with
      | [] => .error (.fault .endInString (p.past c))
      | e :: r =>
        if e = 'u' then
          match r with
          | a :: b :: c' :: d :: r =>
            match hexFour a b c' d with
            | none => hexFault ((p.past c).past e) (a :: b :: c' :: d :: r)
            | some _ => skipChars (p.pastAll [c, e, a, b, c', d]) r
          | short => hexFault ((p.past c).past e) short
        else
          match plainEscape e with
          | some _ => skipChars ((p.past c).past e) r
          | none => .error (.fault .invalidEscape ((p.past c).pastBytes 1 (e :: r)))
    else if c.toNat < 0x20 then .error (.fault .controlCharacter p)
    else skipChars (p.past c) r

/-- Skips a string from just after its opening quote. -/
def skipString (c : Cursor) : Except Error Cursor := skipChars c.place c.rest

end LiveLink.Json
