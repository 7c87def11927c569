import LiveLink.Json.Value
import LiveLink.Decimal.Layout
import LiveLink.Text.Quoted

/-!
# Writing JSON

A value is written without blanks. Characters beyond ASCII stand for themselves;
only the quote, the backslash and the characters below the space are escaped.
-/

namespace LiveLink.Json

/-- One character as it stands inside a written string. -/
def escape (c : Char) : List Char :=
  if c = '"' then ['\\', '"']
  else if c = '\\' then ['\\', '\\']
  else if c = '\n' then ['\\', 'n']
  else if c = '\r' then ['\\', 'r']
  else if c = '\t' then ['\\', 't']
  else if c = '\x08' then ['\\', 'b']
  else if c = '\x0c' then ['\\', 'f']
  else if c.toNat < 0x20 then
    ['\\', 'u', '0', '0', Nat.digitChar (c.toNat / 16), Nat.digitChar (c.toNat % 16)]
  else [c]

/-- A text as a written string, quotes included. -/
def writeString (s : String) : String :=
  String.ofList ('"' :: s.toList.foldr (fun c acc => escape c ++ acc) ['"'])

/-- A number: integers without a point, all others with a point or an exponent. -/
def Number.write : Number → String
  | .int i => toString i
  | .real x => Layout.compact x

mutual

/-- A value as text. -/
def write : Json → String
  | .null => "null"
  | .bool true => "true"
  | .bool false => "false"
  | .number n => n.write
  | .string s => writeString s
  | .array items => "[" ++ writeItems items ++ "]"
  | .object members => "\x7b" ++ writeMembers members ++ "\x7d"

/-- Items with commas between them. -/
def writeItems : List Json → String
  | [] => ""
  | [v] => v.write
  | v :: rest => v.write ++ "," ++ writeItems rest

/-- Members with commas between them, in the order of the list. -/
def writeMembers : List (String × Json) → String
  | [] => ""
  | [(n, v)] => writeString n ++ ":" ++ v.write
  | (n, v) :: rest => writeString n ++ ":" ++ v.write ++ "," ++ writeMembers rest

end

end LiveLink.Json
