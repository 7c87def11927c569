import LiveLink.Json.Printer

/-!
# Why reading JSON fails

Two kinds of causes: the text breaks the grammar (`Fault`), or a well-formed
value is not of the expected shape (`Mismatch`). A cause found in text carries
the place up to which the text was consumed; one found in a value has none.
-/

namespace LiveLink.Json

/-- A place in a text: the line, counted from 1, and the bytes consumed on it. -/
structure Position where
  line : Nat
  column : Nat
  deriving DecidableEq, Repr

/-- What was found where something else was expected. -/
inductive Found where
  | null
  | bool (b : Bool)
  | number (n : Number)
  | string (s : String)
  | array
  | object

/-- What a value is, for a message. -/
def found : Json → Found
  | .null => .null
  | .bool b => .bool b
  | .number n => .number n
  | .string s => .string s
  | .array _ => .array
  | .object _ => .object

/-- The wording of what was found. -/
def Found.message : Found → String
  | .null => "null"
  | .bool b => "boolean `" ++ toString b ++ "`"
  | .number (.int i) => "integer `" ++ toString i ++ "`"
  | .number (.real x) => "floating point `" ++ Layout.compact x ++ "`"
  | .string s => "string " ++ Text.quoted s
  | .array => "sequence"
  | .object => "map"

/-- A value that does not have the expected shape. -/
inductive Mismatch where
  /-- The value is of another type. -/
  | invalidType (found : Found) (expected : String)
  /-- The type is right but the value is not allowed. -/
  | invalidValue (found : Found) (expected : String)
  /-- An array has too few or too many items. -/
  | invalidLength (length : Nat) (expected : String)
  | missingField (name : String)
  | duplicateField (name : String)
  | unknownVariant (name : String) (known : List String)
  /-- A text that a stricter format refuses, with that format's own message. -/
  | refused (message : String)

/-- Names in the way a message lists them. -/
def oneOf : List String → String
  | [] => "there are no variants"
  | [a] => "expected `" ++ a ++ "`"
  | [a, b] => "expected `" ++ a ++ "` or `" ++ b ++ "`"
  | names => "expected one of " ++ ", ".intercalate (names.map fun n => "`" ++ n ++ "`")

/-- The wording of a mismatch. -/
def Mismatch.message : Mismatch → String
  | .invalidType f e => "invalid type: " ++ f.message ++ ", expected " ++ e
  | .invalidValue f e => "invalid value: " ++ f.message ++ ", expected " ++ e
  | .invalidLength n e => "invalid length " ++ toString n ++ ", expected " ++ e
  | .missingField n => "missing field `" ++ n ++ "`"
  | .duplicateField n => "duplicate field `" ++ n ++ "`"
  | .unknownVariant n known => "unknown variant `" ++ n ++ "`, " ++ oneOf known
  | .refused m => m

/-- A break of the grammar. -/
inductive Fault where
  | endInArray
  | endInObject
  | endInString
  | endInValue
  | expectedColon
  | expectedCommaOrBracket
  | expectedCommaOrBrace
  | expectedLiteral
  | expectedValue
  | invalidEscape
  | invalidNumber
  | numberOutOfRange
  | controlCharacter
  | keyNotString
  | loneSurrogate
  | trailingComma
  | trailingCharacters
  | unexpectedEndOfHexEscape
  | tooDeep
  deriving DecidableEq

/-- The wording of a break of the grammar. -/
def Fault.message : Fault → String
  | .endInArray => "EOF while parsing a list"
  | .endInObject => "EOF while parsing an object"
  | .endInString => "EOF while parsing a string"
  | .endInValue => "EOF while parsing a value"
  | .expectedColon => "expected `:`"
  | .expectedCommaOrBracket => "expected `,` or `]`"
  | .expectedCommaOrBrace => "expected `,` or `\x7d`"
  | .expectedLiteral => "expected ident"
  | .expectedValue => "expected value"
  | .invalidEscape => "invalid escape"
  | .invalidNumber => "invalid number"
  | .numberOutOfRange => "number out of range"
  | .controlCharacter =>
    "control character (\\u0000-\\u001F) found while parsing a string"
  | .keyNotString => "key must be a string"
  | .loneSurrogate => "lone leading surrogate in hex escape"
  | .trailingComma => "trailing comma"
  | .trailingCharacters => "trailing characters"
  | .unexpectedEndOfHexEscape => "unexpected end of hex escape"
  | .tooDeep => "recursion limit exceeded"

/-- Why text was not read, and how far it was consumed by then. -/
inductive Error where
  | fault (cause : Fault) (place : Position)
  | mismatch (cause : Mismatch) (place : Position)

/-- The wording of an error, place included. -/
def Error.message : Error → String
  | .fault c p => c.message ++ " at line " ++ toString p.line ++ " column " ++ toString p.column
  | .mismatch c p => c.message ++ " at line " ++ toString p.line ++ " column " ++ toString p.column

end LiveLink.Json
