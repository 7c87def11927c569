import LiveLink.Toml.Number
import LiveLink.Toml.Tables
import LiveLink.Toml.Time

/-!
# Reading a TOML file

A file is a list of lines: headers, and keys with values. Values may hold arrays
and inline tables, up to eighty inside each other, and a key has up to eighty
parts. Inside brackets and braces, line breaks and comments may stand around
keys, values and commas. Why a file is refused is not told.
-/

namespace LiveLink.Toml

/-- How many arrays and inline tables may stand inside each other, and how many parts a key may
have. -/
def depthLimit : Nat := 80

/-! ## Blank space -/

/-- What follows a comment, if one starts here. -/
def skipComment? : List Char → Option (List Char)
  | '#' :: cs =>
    let rest := cs.dropWhile isPlain
    if rest.isEmpty || (lineBreak? rest).isSome then some rest else none
  | cs => some cs

/-- What follows the end of a line. -/
def endLine? (cs : List Char) : Option (List Char) := do
  match ← skipComment? (skipBlanks cs) with
  | [] => some []
  | rest => lineBreak? rest

/-- What follows blanks, line breaks and comments, at most so many. -/
def skipFiller? : Nat → List Char → Option (List Char)
  | 0, cs => some cs
  | n + 1, cs => do
    let cs ← skipComment? (skipSpace cs)
    match lineBreak? cs with
    | some cs => skipFiller? n cs
    | none => some cs

/-- What follows all filler. -/
def skipAll? (cs : List Char) : Option (List Char) := skipFiller? (cs.length + 1) cs

/-! ## Keys -/

/-- A character of a key without quotes. -/
def isBare (c : Char) : Bool := c.isAlphanum || c = '_' || c = '-'

/-- One part of a key. -/
def readPart (cs : List Char) : Option (String × List Char) :=
  let bare := cs.takeWhile isBare
  if bare.isEmpty then readText false cs else some (String.ofList bare, cs.drop bare.length)

/-- The parts of a key between dots, at most so many, and what follows the blanks behind it. -/
def readParts : Nat → List Char → Option (List String × List Char)
  | 0, _ => none
  | n + 1, cs => do
    let (part, cs) ← readPart (skipBlanks cs)
    match skipBlanks cs with
    | '.' :: cs => (readParts n cs).map fun (parts, cs) => (part :: parts, cs)
    | cs => some ([part], cs)

/-- A key: the path to its table, its own name, and what follows it. -/
def readKey (cs : List Char) : Option (List String × String × List Char) := do
  let (parts, cs) ← readParts depthLimit cs
  let key ← parts.getLast?
  return (parts.dropLast, key, cs)

/-! ## Values -/

/-- A reader of one value. -/
abbrev ValueReader := List Char → Option (Toml × List Char)

/-- The items of an array, from after its bracket or a comma, at most so many. -/
def readItems (item : ValueReader) : Nat → List Char → Option (List Toml × List Char)
  | 0, _ => none
  | n + 1, cs => do
    match ← skipAll? cs with
    | ']' :: cs => return ([], cs)
    | cs =>
      let (v, cs) ← item cs
      match ← skipAll? cs with
      | ']' :: cs => return ([v], cs)
      | ',' :: cs =>
        let (vs, cs) ← readItems item n cs
        return (v :: vs, cs)
      | _ => none

/-- A key with its value, put into a table. The first argument skips what may stand around the
equals sign. -/
def readMember (skip : List Char → Option (List Char)) (item : ValueReader)
    (put : List String → String → Toml → Members → Option Members)
    (members : Members) (cs : List Char) : Option (Members × List Char) := do
  let (path, key, cs) ← readKey cs
  let cs ← sign? '=' (← skip cs)
  let (v, cs) ← item (← skip cs)
  return (← put path key v members, cs)

/-- The members of an inline table, from after its brace or a comma, at most so many. -/
def readMembers (item : ValueReader) : Nat → Members → List Char → Option (Members × List Char)
  | 0, _, _ => none
  | n + 1, members, cs => do
    match ← skipAll? cs with
    | '}' :: cs => return (members, cs)
    | cs =>
      let (members, cs) ← readMember skipAll? item put members cs
      match ← skipAll? cs with
      | '}' :: cs => return (members, cs)
      | ',' :: cs => readMembers item n members cs
      | _ => none

/-- An inline table, from after its brace. -/
def readInline (item : ValueReader) (cs : List Char) : Option (Toml × List Char) :=
  (readMembers item (cs.length + 1) [] cs).map fun (members, cs) =>
    (.table (closeMembers members), cs)

/-- A character of a word. -/
def isWordChar (c : Char) : Bool := isBare c || c = '+' || c = '.' || c = ':'

/-- A word, with what follows one blank if both together are a date and a time. -/
def cutWord (cs : List Char) : List Char × List Char :=
  let word := cs.takeWhile isWordChar
  let rest := cs.drop word.length
  match rest with
  | ' ' :: more =>
    let next := more.takeWhile isWordChar
    -- a blank may stand in place of the `T` between a date and a time
    if (date? word).any (·.2.isEmpty) && (next.head?.map Char.isDigit).getD false then
      (word ++ ' ' :: next, more.drop next.length)
    else (word, rest)
  | _ => (word, rest)

/-- A truth value, a number or a point in time. -/
def readWord (cs : List Char) : Option (Toml × List Char) :=
  let (word, rest) := cutWord cs
  let v := if looksLikeTime word then (time? word).map Toml.time else scalar? word
  v.map fun v => (v, rest)

/-- A value that is no array and no table. -/
def readSingle : ValueReader
  | '"' :: cs => (readText true ('"' :: cs)).map fun (s, rest) => (.text s, rest)
  | '\'' :: cs => (readText true ('\'' :: cs)).map fun (s, rest) => (.text s, rest)
  | cs => readWord cs

/-- A value, with at most so many arrays and tables inside each other. -/
def readValue : Nat → ValueReader
  | 0, cs => readSingle cs
  | depth + 1, cs =>
    match cs with
    | '[' :: rest => (readItems (readValue depth) (rest.length + 1) rest).map fun (vs, rest) =>
      (.array vs, rest)
    | '{' :: rest => readInline (readValue depth) rest
    | cs => readSingle cs

/-! ## Lines -/

/-- A file that is being read: its members, and the table that the last header named. -/
structure State where
  members : Members
  header : List String

/-- A header, from after its bracket. -/
def readHeader (st : State) (cs : List Char) : Option (State × List Char) := do
  let (path, key, cs) ← readKey cs
  let cs ← sign? ']' cs
  return (⟨← openTable path key st.members, path ++ [key]⟩, cs)

/-- A header of an array, from after its brackets. -/
def readItemHeader (st : State) (cs : List Char) : Option (State × List Char) := do
  let (path, key, cs) ← readKey cs
  let cs ← sign? ']' (← sign? ']' cs)
  return (⟨← openItem path key st.members, path ++ [key]⟩, cs)

/-- What stands on one line. -/
def readLine (st : State) (cs : List Char) : Option (State × List Char) :=
  match cs with
  | '[' :: '[' :: rest => readItemHeader st rest
  | '[' :: rest => readHeader st rest
  | cs =>
    (readMember (some ∘ skipBlanks) (readValue depthLimit) (putInto st.header) st.members cs).map
      fun (members, cs) => ({ st with members := members }, cs)

/-- All lines, at most so many. -/
def readFile : Nat → State → List Char → Option State
  | 0, _, _ => none
  | n + 1, st, cs => do
    match ← skipAll? cs with
    | [] => return st
    | cs =>
      let (st, cs) ← readLine st cs
      readFile n st (← endLine? cs)

/-- The members of a file. -/
def read (s : String) : Option (List (String × Toml)) :=
  -- a mark of the byte order does not count
  let cs := match s.toList with
    | '\ufeff' :: cs => cs
    | cs => cs
  (readFile (cs.length + 1) ⟨[], []⟩ cs).map fun st => closeMembers st.members

end LiveLink.Toml
