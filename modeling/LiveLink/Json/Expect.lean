import LiveLink.Json.Reader

/-!
# Expecting one type of value

Where a text must hold a value of one type and holds another, the message names
what was found. A scalar is read to its end for that, a container is not entered.
-/

namespace LiveLink.Json

/-- The mismatch of what stands at the cursor with what was expected there. -/
def unexpected {α : Type} (expected : String) (c : Cursor) : Except Error α :=
  let mismatch := fun (f : Found) (c : Cursor) =>
    Except.error (Error.mismatch (.invalidType f expected) c.place)
  match c.rest with
  | [] => c.faultNext .expectedValue
  | x :: _ =>
    if x = '[' then mismatch .array c
    else if x = '{' then mismatch .object c
    else
      match readValue 1 c with
      | .error e => .error e
      | .ok (v, c) => mismatch v.found c

/-- A text. -/
def expectString (expected : String) (c : Cursor) : Except Error (String × Cursor) :=
  let c := c.skipBlanks
  match c.rest with
  | [] => c.faultNext .endInValue
  | x :: _ => if x = '"' then readString c.next else unexpected expected c

/-- Nothing but null. -/
def expectNull (expected : String) (c : Cursor) : Except Error Cursor :=
  let c := c.skipBlanks
  match c.rest with
  | [] => c.faultNext .endInValue
  | x :: _ => if x = 'n' then c.next.expectWord ['u', 'l', 'l'] else unexpected expected c

/-- The place after a closing bracket, if that is what comes next; else the place before what does.
A mismatch of a whole container is reported there. -/
def placeAfterClosing (bracket : Char) (c : Cursor) : Position :=
  let c := c.skipBlanks
  match c.rest with
  | x :: _ => if x = bracket then c.next.place else c.place
  | [] => c.place

end LiveLink.Json
