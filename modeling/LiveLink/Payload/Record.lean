import LiveLink.Payload.Codec

/-!
# Records

A record has fields with names, in an order. It is read from an object by name
or from an array by position, and written as an object with every field present.

* In an object each field may occur once, under its name or its other name;
  members with other names are ignored. Members are looked at in the order of
  the object; fields that are missing are noticed last.
* In an array, fields with a default may be missing at the end; there may be no
  further items.
-/

namespace LiveLink

open Json (Mismatch)

/-- One field of a record. -/
structure Field (α : Type) where
  name : String
  otherName : Option String
  codec : Codec α
  /-- What a record without the field has, if the field may be missing. -/
  default : Option α

namespace Field

/-- A field that must be present. -/
def required {α : Type} (name : String) (c : Codec α) : Field α := ⟨name, none, c, none⟩

/-- A field that is nothing when it is missing or null. -/
def optional {α : Type} (name : String) (c : Codec α) : Field (Option α) :=
  ⟨name, none, c.optional, some none⟩

/-- A field that has a value of its own when it is missing. -/
def withDefault {α : Type} (name : String) (c : Codec α) (a : α) : Field α :=
  ⟨name, none, c, some a⟩

/-- The same field with another name that is also accepted. -/
def orNamed {α : Type} (f : Field α) (other : String) : Field α := { f with otherName := some other }

/-- Whether a member's name means this field. -/
def isNamed {α : Type} (f : Field α) (name : String) : Bool :=
  name == f.name || f.otherName == some name

end Field

/-- The fields of a record in order. The first index is the product of their types, the second
the product of what may have been read of each. -/
inductive Fields : Type → Type → Type 1 where
  | nil : Fields Unit Unit
  | cons {α β σ : Type} (f : Field α) (rest : Fields β σ) : Fields (α × β) (Option α × σ)

namespace Fields

/-- Nothing read yet. -/
def empty : {ρ σ : Type} → Fields ρ σ → σ
  | _, _, .nil => ()
  | _, _, .cons _ rest => (none, rest.empty)

/-- How many fields there are. -/
def count : {ρ σ : Type} → Fields ρ σ → Nat
  | _, _, .nil => 0
  | _, _, .cons _ rest => rest.count + 1

/-- Takes one member of an object in. -/
def take : {ρ σ : Type} → Fields ρ σ → σ → String → Json → Except Mismatch σ
  | _, _, .nil, s, _, _ => .ok s
  | _, _, .cons f rest, (slot, slots), name, v =>
    if f.isNamed name then
      match slot with
      -- also when the two names of a field occur once each
      | some _ => .error (.duplicateField f.name)
      | none => do return (some (← f.codec.read v), slots)
    else do return (slot, ← rest.take slots name v)

/-- Takes the members of an object in, in order. -/
def takeAll {ρ σ : Type} (fs : Fields ρ σ) (s : σ) : List (String × Json) → Except Mismatch σ
  | [] => .ok s
  | (name, v) :: ms => do fs.takeAll (← fs.take s name v) ms

/-- The record, with defaults for what was not read. -/
def complete : {ρ σ : Type} → Fields ρ σ → σ → Except Mismatch ρ
  | _, _, .nil, _ => .ok ()
  | _, _, .cons f rest, (slot, slots) => do
    let a ← match slot, f.default with
      | some a, _ => pure a
      | none, some d => pure d
      | none, none => throw (.missingField f.name)
    return (a, ← rest.complete slots)

/-- Reads items by position, from field number `at` on; gives the record and what is left. -/
def readItems (expected : String) : {ρ σ : Type} → Fields ρ σ → Nat → List Json →
    Except Mismatch (ρ × List Json)
  | _, _, .nil, _, items => .ok ((), items)
  | _, _, .cons f rest, n, v :: items => do
    let a ← f.codec.read v
    let (r, left) ← rest.readItems expected (n + 1) items
    return ((a, r), left)
  | _, _, .cons f rest, n, [] =>
    match f.default with
    -- the length that a message names is where the items end
    | none => .error (.invalidLength n expected)
    | some d => do
      let (r, left) ← rest.readItems expected (n + 1) []
      return ((d, r), left)

/-- The members of a written record, in order. -/
def members : {ρ σ : Type} → Fields ρ σ → ρ → List (String × Json)
  | _, _, .nil, _ => []
  | _, _, .cons f rest, (a, r) => (f.name, f.codec.write a) :: rest.members r

end Fields

/-- A record type: its name in messages, its fields, and how it is built from them. -/
structure Record (τ : Type) where
  name : String
  Row : Type
  Slots : Type
  fields : Fields Row Slots
  ofRow : Row → τ
  toRow : τ → Row

namespace Record

variable {τ : Type}

/-- What a message says was expected of an array that is too short. -/
def expectedItems (r : Record τ) : String :=
  "struct " ++ r.name ++ " with " ++ toString r.fields.count ++
    (if r.fields.count = 1 then " element" else " elements")

/-- Reads a record from an object or an array. -/
def read (r : Record τ) : Json → Except Mismatch τ
  | .object members => do
    let slots ← r.fields.takeAll r.fields.empty members
    return r.ofRow (← r.fields.complete slots)
  | .array items => do
    let (row, left) ← r.fields.readItems r.expectedItems 0 items
    if left.isEmpty then return r.ofRow row
    else throw (.invalidLength items.length "fewer elements in array")
  | v => Codec.wrongType v ("struct " ++ r.name)

/-- Writes a record as an object with every field, in order. -/
def write (r : Record τ) (t : τ) : Json := .object (r.fields.members (r.toRow t))

/-- A record type as a codec. -/
def codec (r : Record τ) : Codec τ := ⟨r.read, r.write⟩

end Record

end LiveLink
