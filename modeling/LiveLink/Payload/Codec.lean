import LiveLink.Json.Error
import LiveLink.Calendar.InstantReader

/-!
# Reading and writing payload fields

A `Codec α` reads a JSON value as an `α` and writes it back. Reading is the more
liberal of the two: integers stand for real numbers, a choice may be written as
an object with one member, instants in any accepted notation. Whatever was read,
writing it gives a value that reads as the same `α`.
-/

namespace LiveLink

open Json (Mismatch)

/-- A way to read a value of a type from JSON, and to write it. -/
structure Codec (α : Type) where
  read : Json → Except Mismatch α
  write : α → Json

namespace Codec

/-- The value is of another type. -/
def wrongType {α : Type} (v : Json) (expected : String) : Except Mismatch α :=
  .error (.invalidType v.found expected)

/-- A text. -/
def text : Codec String where
  read
    | .string s => .ok s
    | v => wrongType v "a string"
  write := .string

/-- A truth value. -/
def flag : Codec Bool where
  read
    | .bool b => .ok b
    | v => wrongType v "a boolean"
  write := .bool

/-- An integer from zero up to a bound, which has a name in messages. -/
def readBounded (bound : Nat) (name : String) : Json → Except Mismatch Nat
  | .number (.int i) =>
    if 0 ≤ i ∧ i < bound then .ok i.toNat else .error (.invalidValue (.number (.int i)) name)
  | v => wrongType v name

/-- An unsigned 32-bit integer. -/
def word32 : Codec UInt32 where
  read v := (readBounded (2 ^ 32) "u32" v).map UInt32.ofNat
  write n := .nat n.toNat

/-- An unsigned 64-bit integer. -/
def word64 : Codec UInt64 where
  read v := (readBounded (2 ^ 64) "u64" v).map UInt64.ofNat
  write n := .nat n.toNat

/-- A real number; an integer is read as the nearest one. -/
def real : Codec Binary64 where
  read
    | .number (.real x) => .ok x
    | .number (.int i) => .ok ((Binary64.ofInt? i).getD (Binary64.zero false))
    | v => wrongType v "f64"
  write x := .number (.real x)

/-- An instant, written as text. -/
def instant : Codec Instant where
  read
    | .string s =>
      match Instant.read s with
      | .ok t => .ok t
      | .error f => .error (.refused f.message)
    | v => wrongType v "an RFC 3339 formatted date and time string"
  write t := .string t.write

/-- Null, or a value. -/
def optional {α : Type} (c : Codec α) : Codec (Option α) where
  read
    | .null => .ok none
    | v => (c.read v).map some
  write
    | none => .null
    | some a => c.write a

/-- An array of values. -/
def list {α : Type} (c : Codec α) : Codec (List α) where
  read
    | .array items => items.mapM c.read
    | v => wrongType v "a sequence"
  write items := .array (items.map c.write)

/-- The names of a choice and what each stands for; `other` is what any further name stands for,
if it is allowed. -/
structure Names (α : Type) where
  known : List (String × α)
  other : Option α
  nameOf : α → String

/-- What a name stands for. -/
def Names.find {α : Type} (ns : Names α) (name : String) : Except Mismatch α :=
  match Table.get? name ns.known, ns.other with
  | some a, _ => .ok a
  | none, some a => .ok a
  | none, none => .error (.unknownVariant name (ns.known.map (·.1)))

/-- One of several names, alone or as the only name of an object that gives it null. -/
def choice {α : Type} (ns : Names α) : Codec α where
  read
    | .string s => ns.find s
    | .object [(name, v)] =>
      match ns.find name with
      | .error e => .error e
      | .ok a =>
        match v with
        | .null => .ok a
        | v => wrongType v "unit"
    | .object members => .error (.invalidValue (Json.object members).found "map with a single key")
    | v => wrongType v "string or map"
  write a := .string (ns.nameOf a)

end Codec

end LiveLink
