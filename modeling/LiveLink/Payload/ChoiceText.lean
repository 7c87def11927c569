import LiveLink.Json.Expect
import LiveLink.Payload.Chat

/-!
# Choices read from text

A choice that is a whole text, not part of a payload: a name in quotes, or an
object whose one member has the name and is null.
-/

namespace LiveLink

open Json

namespace Codec

/-- What a name stands for; a name that is not known is a mismatch at the place given. -/
def Names.findAt {α : Type} (ns : Names α) (name : String) (place : Position) :
    Except Json.Error α :=
  match ns.find name with
  | .ok a => .ok a
  | .error m => .error (.mismatch m place)

/-- A name in quotes, from after its opening quote. -/
def Names.bare {α : Type} (ns : Names α) (c : Cursor) : Except Json.Error (α × Cursor) := do
  let (name, c) ← readString c
  return (← ns.findAt name c.place, c)

/-- The name that stands for the choice in an object, from after its brace. -/
def readChoiceName (c : Cursor) : Except Json.Error (String × Cursor) :=
  let c := c.skipBlanks
  match c.rest with
  | [] => c.faultNext .endInObject
  | x :: _ =>
    if x = '"' then readString c.next
    else if x = '}' then c.faultNext .expectedValue
    else c.faultNext .keyNotString

/-- An object with a name and null, from after its brace. -/
def Names.braced {α : Type} (ns : Names α) (c : Cursor) : Except Json.Error (α × Cursor) := do
  let (name, c) ← readChoiceName c
  let a ← ns.findAt name c.place
  let c := (← expectNull "unit" (← readColon c)).skipBlanks
  match c.rest with
  | [] => c.fault .endInObject
  | x :: _ => if x = '}' then return (a, c.next) else c.fault .expectedValue

/-- The choice that a text holds. -/
def Names.ofText {α : Type} (ns : Names α) (s : String) : Except Json.Error α := do
  let c := (Cursor.ofText s).skipBlanks
  let (a, c) ← match c.rest with
    | [] => c.faultNext .endInValue
    | x :: _ =>
      if x = '"' then ns.bare c.next
      else if x = '{' then ns.braced c.next
      else c.faultNext .expectedValue
  readEnd c
  return a

end Codec

/-- The moderation action that a text holds. -/
def ModerationAction.ofText (s : String) : Except Json.Error ModerationAction :=
  ModerationAction.names.ofText s

end LiveLink
