import LiveLink.Json.Value

/-!
# Replies

What a command gives back.
-/

namespace LiveLink

/-- The answer to a command. -/
inductive Reply where
  | none
  | flag (b : Bool)
  | count (n : Nat)
  | text (s : String)
  | value (v : Json)
  /-- The command names something that does not exist. -/
  | missing
  /-- There is no such command. -/
  | unknown

/-- A reply as a value. -/
def Reply.json : Reply → Json
  | none => .null
  | flag b => .bool b
  | count n => .nat n
  | text s => .string s
  | value v => v
  | missing => .string "no such object"
  | unknown => .string "unknown step"

end LiveLink
