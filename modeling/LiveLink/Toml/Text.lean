/-!
# Texts of a TOML file

Texts stand in double quotes, where a backslash starts an escape, or in single
quotes, where nothing does. Three quotes start a text of several lines; a line
break right after them does not count, and a backslash at the end of a line takes
all blank space after it away.
-/

namespace LiveLink.Toml

/-- A blank on one line. -/
def isBlank (c : Char) : Bool := c = ' ' || c = '\t'

/-- What follows blanks. -/
def skipBlanks (cs : List Char) : List Char := cs.dropWhile isBlank

/-- What follows a line break. -/
def lineBreak? : List Char → Option (List Char)
  | '\n' :: cs => some cs
  | '\r' :: '\n' :: cs => some cs
  | _ => none

/-- A character that may stand for itself: no control character but the tab. -/
def isPlain (c : Char) : Bool := (0x20 ≤ c.toNat && c.toNat ≠ 0x7f) || c = '\t'

/-- The value of a hexadecimal digit. -/
def hexDigit? (c : Char) : Option Nat :=
  if '0' ≤ c ∧ c ≤ '9' then some (c.toNat - 48)
  else if 'a' ≤ c ∧ c ≤ 'f' then some (c.toNat - 87)
  else if 'A' ≤ c ∧ c ≤ 'F' then some (c.toNat - 55)
  else none

/-- The character whose code point is written with so many hexadecimal digits. -/
def codePoint? (width : Nat) (cs : List Char) : Option (Char × List Char) := do
  let ds ← (cs.take width).mapM hexDigit?
  if ds.length < width then none
  let n := ds.foldl (fun n d => n * 16 + d) 0
  if h : n.isValidChar then some (Char.ofNatAux n h, cs.drop width) else none

/-- The character of an escape, from after its backslash. -/
def escape? : List Char → Option (Char × List Char)
  | 'b' :: cs => some ('\x08', cs)
  | 't' :: cs => some ('\t', cs)
  | 'n' :: cs => some ('\n', cs)
  | 'f' :: cs => some ('\x0c', cs)
  | 'r' :: cs => some ('\r', cs)
  | 'e' :: cs => some ('\x1b', cs)
  | '"' :: cs => some ('"', cs)
  | '\\' :: cs => some ('\\', cs)
  | 'x' :: cs => codePoint? 2 cs
  | 'u' :: cs => codePoint? 4 cs
  | 'U' :: cs => codePoint? 8 cs
  | _ => none

/-- A text in double quotes, from after the first of them. The first argument bounds its
length. -/
def readBasic : Nat → List Char → Option (List Char × List Char)
  | 0, _ => none
  | _ + 1, [] => none
  | n + 1, c :: cs =>
    if c = '"' then some ([], cs)
    else if c = '\\' then do
      let (x, cs) ← escape? cs
      let (s, cs) ← readBasic n cs
      return (x :: s, cs)
    else if isPlain c then (readBasic n cs).map fun (s, cs) => (c :: s, cs)
    else none

/-- A text in single quotes, from after the first of them. -/
def readLiteral (cs : List Char) : Option (List Char × List Char) :=
  let s := cs.takeWhile fun c => c ≠ '\'' && isPlain c
  match cs.drop s.length with
  | '\'' :: rest => some (s, rest)
  | _ => none

/-- What follows blanks and line breaks. -/
def skipSpace : List Char → List Char
  | [] => []
  | '\r' :: '\n' :: cs => skipSpace cs
  | c :: cs => if isBlank c || c = '\n' then skipSpace cs else c :: cs

/-- What follows the blank space after a backslash at the end of a line. -/
def continuation? (cs : List Char) : Option (List Char) :=
  (lineBreak? (skipBlanks cs)).map skipSpace

/-- The end of a text of several lines: three quotes, with up to two before them that belong to
the text. -/
def longEnd? (quote : Char) (cs : List Char) : Option (List Char × List Char) :=
  let quotes := cs.takeWhile (· = quote)
  if quotes.length < 3 then none
  else
    -- up to five quotes in a row; the last three end the text
    let inside := min (quotes.length - 3) 2
    some (List.replicate inside quote, cs.drop (inside + 3))

/-- A text of several lines, from after its first line break. Escapes count if the quotes are
double ones. -/
def readLong (quote : Char) : Nat → List Char → Option (List Char × List Char)
  | 0, _ => none
  | _ + 1, [] => none
  | n + 1, c :: cs =>
    match longEnd? quote (c :: cs) with
    | some done => some done
    | none =>
      if c = '\\' && quote = '"' then
        match continuation? cs with
        | some cs => readLong quote n cs
        | none => do
          let (x, cs) ← escape? cs
          let (s, cs) ← readLong quote n cs
          return (x :: s, cs)
      else if isPlain c || (lineBreak? (c :: cs)).isSome then
        (readLong quote n cs).map fun (s, cs) => (c :: s, cs)
      else none

/-- A text of several lines, from after its three quotes. -/
def readLines (quote : Char) (cs : List Char) : Option (List Char × List Char) :=
  readLong quote (cs.length + 1) ((lineBreak? cs).getD cs)

/-- A text in quotes. Texts of several lines may be refused. -/
def readText (long : Bool) (cs : List Char) : Option (String × List Char) :=
  let text := match cs with
    | '"' :: '"' :: '"' :: rest => if long then readLines '"' rest else some ([], '"' :: rest)
    | '\'' :: '\'' :: '\'' :: rest => if long then readLines '\'' rest else some ([], '\'' :: rest)
    | '"' :: rest => readBasic (rest.length + 1) rest
    | '\'' :: rest => readLiteral rest
    | _ => none
  text.map fun (s, rest) => (String.ofList s, rest)

end LiveLink.Toml
