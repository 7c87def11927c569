import LiveLink.Json.Expect
import LiveLink.Payload.Kind

/-!
# Wire envelopes

Every frame on the socket is one envelope: a topic, a payload that only handlers
look into, an id and a time. A frame is an object with these members, or an array
of them in this order with any number left out at the end. The topic may not be
left out and may not be empty; a frame without id or time is stamped when it
arrives.

* `Draft.read` is what the frame itself says, `Draft.stamped` completes it.
* `Envelope.encode` writes all four members, in order.
-/

namespace LiveLink

open Json

/-- An id and a time for an envelope that has none of its own. -/
structure Stamp where
  id : String
  time : Instant
  deriving DecidableEq

/-- One message on the socket. -/
structure Envelope where
  topic : String
  payload : Json
  id : String
  timestamp : Instant

instance : Inhabited Envelope := ⟨⟨"", .null, "", .epoch⟩⟩

/-- What a frame says: an envelope that may lack its id and its time. -/
structure Draft where
  topic : String
  payload : Json
  id : Option String
  timestamp : Option Instant

/-- Why a frame is not an envelope. -/
inductive DecodeError where
  | json (cause : Json.Error)
  | emptyTopic

/-- The wording of an error. -/
def DecodeError.message : DecodeError → String
  | .json e => "failed to decode envelope: " ++ e.message
  | .emptyTopic => "envelope has an empty topic"

namespace Draft

/-- The members of a frame read so far. -/
structure Slots where
  topic : Option String
  payload : Option Json
  id : Option String
  timestamp : Option Instant

/-- Nothing read yet. -/
def Slots.empty : Slots := ⟨none, none, none, none⟩

/-- A time, as text. -/
def readTime (c : Cursor) : Except Json.Error (Instant × Cursor) := do
  let (s, c) ← expectString "an RFC 3339 formatted date and time string" c
  match Instant.read s with
  | .ok t => return (t, c)
  | .error f => throw (.mismatch (.refused f.message) c.place)

/-- The depth left inside the container that is the frame. -/
def innerDepth : Nat := depthLimit - 1

/-- A member occurs a second time. -/
def duplicate {α : Type} (name : String) (c : Cursor) : Except Json.Error α :=
  .error (.mismatch (.duplicateField name) (placeAfterClosing '}' c))

/-- Takes one member in, its name read and its colon not. -/
def member (s : Slots) (name : String) (c : Cursor) : Except Json.Error (Slots × Cursor) :=
  if name = "type" then
    if s.topic.isSome then duplicate name c
    else do
      let (t, c) ← expectString "a string" (← readColon c)
      return ({ s with topic := some t }, c)
  else if name = "payload" then
    if s.payload.isSome then duplicate name c
    else do
      let (v, c) ← readValue innerDepth (← readColon c)
      return ({ s with payload := some v }, c)
  else if name = "id" then
    if s.id.isSome then duplicate name c
    else do
      let (t, c) ← expectString "a string" (← readColon c)
      return ({ s with id := some t }, c)
  else if name = "timestamp" then
    if s.timestamp.isSome then duplicate name c
    else do
      let (t, c) ← readTime (← readColon c)
      return ({ s with timestamp := some t }, c)
  else do
    -- of other members only the grammar is looked at, to any depth
    let c ← skipValue (← readColon c)
    return (s, c)

/-- A frame that is an object, from after its brace. -/
def readObject (c : Cursor) : Except Json.Error (Draft × Cursor) := do
  let (s, c) ← readMembers member (c.rest.length + 1) true .empty c
  match s.topic with
  | none => throw (.mismatch (.missingField "type") (placeAfterClosing '}' c))
  -- a missing payload is null; what else is missing is stamped later
  | some topic => return (⟨topic, s.payload.getD .null, s.id, s.timestamp⟩, c.skipBlanks.next)

/-- The next item of an array, if there is one. -/
def item {α : Type} (first : Bool) (read : Cursor → Except Json.Error (α × Cursor)) (c : Cursor) :
    Except Json.Error (Option α × Cursor) := do
  match ← nextItem first c with
  | (false, c) => return (none, c)
  | (true, c) => do
    let (a, c) ← read c
    return (some a, c)

/-- Requires the end of an array. -/
def closeArray (c : Cursor) : Except Json.Error Cursor :=
  let c := c.skipBlanks
  match c.rest with
  | [] => c.faultNext .endInArray
  | x :: _ =>
    if x = ']' then .ok c.next
    else if x = ',' then
      let c := c.next.skipBlanks
      match c.rest with
      | ']' :: _ => c.faultNext .trailingComma
      | _ => c.faultNext .trailingCharacters
    else c.faultNext .trailingCharacters

/-- A frame that is an array, from after its bracket. -/
def readArray (c : Cursor) : Except Json.Error (Draft × Cursor) := do
  match ← item true (expectString "a string") c with
  | (none, c) =>
    throw (.mismatch (.invalidLength 0 "struct Envelope with 4 elements") (placeAfterClosing ']' c))
  | (some topic, c) => do
    -- where the array ends, this item and all after it are missing
    let (payload, c) ← item false (readValue innerDepth) c
    let (id, c) ← item false (expectString "a string") c
    let (time, c) ← item false readTime c
    let c ← closeArray c
    return (⟨topic, payload.getD .null, id, time⟩, c)

/-- What a frame says. -/
def readFrame (s : String) : Except Json.Error Draft := do
  let c := (Cursor.ofText s).skipBlanks
  let (d, c) ← match c.rest with
    | [] => c.faultNext .endInValue
    | x :: _ =>
      if x = '{' then readObject c.next
      else if x = '[' then readArray c.next
      else unexpected "struct Envelope" c
  readEnd c
  return d

/-- What a frame says, if it has a topic. -/
def read (s : String) : Except DecodeError Draft :=
  match readFrame s with
  | .error e => .error (.json e)
  -- only here, so a frame that breaks the grammar is refused for that
  | .ok d => if d.topic = "" then .error .emptyTopic else .ok d

/-- The envelope of a draft, stamped where the draft is silent. -/
def stamped (d : Draft) (s : Stamp) : Envelope :=
  ⟨d.topic, d.payload, d.id.getD s.id, d.timestamp.getD s.time⟩

end Draft

namespace Envelope

/-- A new envelope for a topic. -/
def ofPayload (s : Stamp) (topic : String) (payload : Json) : Envelope :=
  ⟨topic, payload, s.id, s.time⟩

/-- The envelope in a frame, stamped where the frame is silent. -/
def decode (s : Stamp) (frame : String) : Except DecodeError Envelope :=
  (Draft.read frame).map (·.stamped s)

/-- The members of an envelope in the order they are written. -/
def members (e : Envelope) : List (String × Json) :=
  [("type", .string e.topic), ("payload", e.payload), ("id", .string e.id),
    ("timestamp", .string e.timestamp.write)]

/-- The frame of an envelope. -/
def encode (e : Envelope) : String := (Json.object e.members).write

/-- Why a payload is not of the type a subscriber asked for. -/
def mismatchMessage (m : Mismatch) : String := "failed to decode envelope: " ++ m.message

/-- The payload of an envelope, read with a codec. -/
def typed {α : Type} (c : Codec α) (e : Envelope) : Except Mismatch α := c.read e.payload

end Envelope

end LiveLink
