import LiveLink.Json.Error

/-!
# Walking through JSON text

A cursor is what is left of a text and the place reached. Columns count bytes, so
a fault that strikes after one byte of the next character is placed inside that
character (`Cursor.after`).
-/

namespace LiveLink.Json

/-- The place after one character. -/
def Position.past (p : Position) (c : Char) : Position :=
  if c = '\n' then ⟨p.line + 1, 0⟩ else ⟨p.line, p.column + c.utf8Size⟩

/-- The place after `n` bytes of the given characters, or after all of them. -/
def Position.pastBytes (p : Position) : Nat → List Char → Position
  | _, [] => p
  | n, c :: cs =>
    if c.utf8Size ≤ n then Position.pastBytes (p.past c) (n - c.utf8Size) cs
    else ⟨p.line, p.column + n⟩

/-- The place after all of the given characters. -/
def Position.pastAll (p : Position) (cs : List Char) : Position := cs.foldl Position.past p

/-- What is left of a text, and the place reached. -/
structure Cursor where
  rest : List Char
  place : Position

namespace Cursor

/-- The start of a text. -/
def ofText (s : String) : Cursor := ⟨s.toList, ⟨1, 0⟩⟩

/-- The place one byte further, or this place at the end of the text. -/
def after (c : Cursor) : Position := c.place.pastBytes 1 c.rest

/-- A fault at this place. -/
def fault {α : Type} (c : Cursor) (f : Fault) : Except Error α := .error (.fault f c.place)

/-- A fault at the next byte. -/
def faultNext {α : Type} (c : Cursor) (f : Fault) : Except Error α := .error (.fault f c.after)

/-- Blanks between tokens. -/
def isBlank (c : Char) : Bool := c = ' ' || c = '\n' || c = '\t' || c = '\r'

/-- Skips blanks from a place. -/
def skipFrom (p : Position) : List Char → Cursor
  | [] => ⟨[], p⟩
  | c :: cs => if isBlank c then skipFrom (p.past c) cs else ⟨c :: cs, p⟩

/-- Skips blanks. -/
def skipBlanks (c : Cursor) : Cursor := skipFrom c.place c.rest

/-- One character further; stays at the end of the text. -/
def next (c : Cursor) : Cursor :=
  match c.rest with
  | [] => c
  | x :: xs => ⟨xs, c.place.past x⟩

/-- `n` characters further. -/
def skip : Nat → Cursor → Cursor
  | 0, c => c
  | n + 1, c => skip n c.next

/-- Requires the characters of a word that has begun. -/
def expectWord : List Char → Cursor → Except Error Cursor
  | [], c => .ok c
  | w :: ws, c =>
    match c.rest with
    | [] => c.fault .endInValue
    | x :: _ => if x = w then expectWord ws c.next else c.faultNext .expectedLiteral

end Cursor

end LiveLink.Json
