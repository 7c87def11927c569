import LiveLink.Config.Layer
import LiveLink.Decimal.Reading
import LiveLink.Text.Quoted

/-!
# Converting values

Settings are texts and counts, and values of other types stand for them: any
single value has a text, and a truth value, a number or a suitable text counts as
a number. Sections are tables of settings, or arrays of them in their order.
-/

namespace LiveLink.Config

/-- Why a value is refused. -/
inductive Cause where
  | invalidType (found expected : String)
  | invalidLength (length : Nat) (expected : String)
  deriving DecidableEq, Repr

/-- A refused value: why, under which key, and where it came from. -/
structure Error where
  cause : Cause
  key : String
  source : Option Source
  deriving DecidableEq, Repr

/-- The wording of a cause. -/
def Cause.message : Cause → String
  | invalidType found expected => "invalid type: " ++ found ++ ", expected " ++ expected
  | invalidLength n expected => "invalid length " ++ Layout.digits n ++ ", expected " ++ expected

/-- The wording of an error. -/
def Error.message (e : Error) : String :=
  e.cause.message ++ " for key `" ++ e.key ++ "`" ++
    (match e.source with
    | some s => " in " ++ s.name
    | none => "")

/-- The text of a truth value. -/
def boolText (b : Bool) : String := if b then "true" else "false"

/-- The text of an integer. -/
def intText (i : Int) : String := Layout.sign (i < 0) ++ Layout.digits i.natAbs

/-- A single value as text. -/
def Scalar.toText : Scalar → String
  | text s => s
  | int i => intText i
  | real x => x.write
  | bool b => boolText b

/-- What a text that is no number counts as. -/
def countOfWord? (s : String) : Option UInt64 :=
  -- these count in letters of any case
  let word := s.toList.map Char.toLower
  if word = "true".toList || word = "on".toList || word = "yes".toList then some 1
  else if word = "false".toList || word = "off".toList || word = "no".toList then some 0
  else Words.unsigned? s

/-- What a single value counts as. -/
def Scalar.toCount : Scalar → Except Cause UInt64
  | text s =>
    match countOfWord? s with
    | some n => .ok n
    | none => .error (.invalidType ("string " ++ Text.quoted s) "an integer")
  | int i =>
    if 0 ≤ i then .ok (.ofNat i.toNat)
    else .error (.invalidType ("64-bit integer `" ++ intText i ++ "`")
      "an unsigned 64 bit or less integer")
  | real x => .ok x.toCount
  | bool b => .ok (if b then 1 else 0)

/-- How messages name a single value that should have been a section. -/
def Scalar.found : Scalar → String
  | text s => "string " ++ Text.quoted s
  | int i => "integer `" ++ intText i ++ "`"
  | real x => "floating point `" ++ x.writePointed ++ "`"
  | bool b => "boolean `" ++ boolText b ++ "`"

/-- A value as a setting; nothing if there is no value. -/
def Node.read {α : Type} (convert : Scalar → Except Cause α) (expected key : String) :
    Node → Except Error (Option α)
  | absent => .ok none
  | scalar source v =>
    match convert v with
    | .ok a => .ok (some a)
    | .error cause => .error ⟨cause, key, some source⟩
  | array source _ => .error ⟨.invalidType "sequence" expected, key, source⟩
  | table source _ => .error ⟨.invalidType "map" expected, key, source⟩

/-- A value as a text. -/
def Node.readText : String → Node → Except Error (Option String) :=
  Node.read (fun v => .ok v.toText) "a string"

/-- A value as a count. -/
def Node.readCount : String → Node → Except Error (Option UInt64) :=
  Node.read Scalar.toCount "an integer"

/-- The value of a setting in a section, with its key, or that the section has no place for it. -/
inductive Slot where
  | given (key : String) (v : Node)
  | tooShort (e : Error)

/-- The settings of a section: `names` in their order. A section may be missing. -/
def Node.slots (expected : String) (names : List String) (key : String) :
    Option Node → Except Error (List Slot)
  | none | some absent => .ok (names.map fun name => .given name .absent)
  | some (scalar _ v) => .error ⟨.invalidType v.found ("struct " ++ expected), key, none⟩
  | some (table _ members) => .ok (names.map fun name =>
      .given (key ++ "." ++ name) ((Table.get? name members).getD absent))
  | some (array _ items) => .ok (names.zipIdx.map fun (_, i) =>
      match items[i]? with
      | some v => .given (key ++ "[" ++ Layout.digits i ++ "]") v
      | none =>
        let elements := Layout.digits names.length ++ (if names.length = 1 then " element" else " elements")
        .tooShort ⟨.invalidLength i ("struct " ++ expected ++ " with " ++ elements), key, none⟩)

/-- The setting at a place of a section, or what holds without it. -/
def Slot.read {α : Type} (convert : String → Node → Except Error (Option α)) (standard : α) :
    Slot → Except Error α
  | given key v => (convert key v).map (·.getD standard)
  | tooShort e => .error e

/-- The text at a place of a section. -/
def Slot.text : String → Slot → Except Error String := Slot.read Node.readText

/-- The count at a place of a section. -/
def Slot.count : UInt64 → Slot → Except Error UInt64 := Slot.read Node.readCount

end LiveLink.Config
