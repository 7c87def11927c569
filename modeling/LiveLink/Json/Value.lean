import LiveLink.Decimal.Binary64
import LiveLink.Table

/-!
# JSON values

A value is held the way readers and handlers see it. Integers that fit 64 bits
stay integers; every other number is a finite binary64 number. The members of an
object stand in increasing order of their names, and a name that occurs again
replaces the earlier member.
-/

namespace LiveLink

/-- A number: an integer that fits 64 bits, signed or unsigned, or a finite binary64 number. -/
inductive Json.Number where
  | int (i : Int)
  | real (x : Binary64)
  deriving DecidableEq

/-- A JSON value. -/
inductive Json where
  | null
  | bool (b : Bool)
  | number (n : Json.Number)
  | string (s : String)
  | array (items : List Json)
  | object (members : List (String × Json))

namespace Json

instance : Inhabited Json := ⟨null⟩

/-- Whether an integer fits 64 bits, signed or unsigned. -/
def Fits (i : Int) : Prop := -(2 ^ 63) ≤ i ∧ i < 2 ^ 64

instance (i : Int) : Decidable (Fits i) := inferInstanceAs (Decidable (_ ∧ _))

/-- An integer value. -/
def int (i : Int) : Json := .number (.int i)

/-- A natural number as a value. -/
def nat (n : Nat) : Json := .number (.int n)

/-- A text, or null when there is none. -/
def ofText? : Option String → Json
  | some s => .string s
  | none => .null

/-- An object with its members in order. -/
def ofMembers (members : List (String × Json)) : Json := .object (Table.ofList members)

/-- The member of a name, for an object that has one. -/
def get? (name : String) : Json → Option Json
  | .object members => Table.get? name members
  | _ => none

mutual

/-- The same value with the members of every object in order. -/
def sorted : Json → Json
  | .array items => .array (sortedItems items)
  | .object members => .object (Table.ofList (sortedMembers members))
  | v => v

/-- `sorted` on every item. -/
def sortedItems : List Json → List Json
  | [] => []
  | v :: rest => v.sorted :: sortedItems rest

/-- `sorted` on the value of every member. -/
def sortedMembers : List (String × Json) → List (String × Json)
  | [] => []
  | (n, v) :: rest => (n, v.sorted) :: sortedMembers rest

end

end Json

end LiveLink
