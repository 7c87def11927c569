import LiveLink.Json.StringReader
import LiveLink.Json.NumberReader

/-!
# Reading values

`readValue` reads one value, `readDocument` a text that holds one value and
nothing else. Containers may nest to a fixed depth. The loops over items and
members are written once (`readItems`, `readMembers`) and serve every reader of
an array or an object: the step they repeat is a parameter, and so is what is
accumulated.
-/

namespace LiveLink.Json

/-- How many containers may be open at once, plus one. -/
def depthLimit : Nat := 128

/-- Whether another item follows in an array; leaves the cursor at it. -/
def nextItem (first : Bool) (c : Cursor) : Except Error (Bool × Cursor) :=
  let c := c.skipBlanks
  match c.rest with
  | [] => c.faultNext .endInArray
  | x :: _ =>
    if x = ']' then .ok (false, c)
    else if first then .ok (true, c)
    else if x = ',' then
      let c := c.next.skipBlanks
      match c.rest with
      | [] => c.faultNext .endInValue
      | y :: _ => if y = ']' then c.faultNext .trailingComma else .ok (true, c)
    else c.faultNext .expectedCommaOrBracket

/-- Whether another member follows in an object; leaves the cursor after its opening quote. -/
def nextMember (first : Bool) (c : Cursor) : Except Error (Bool × Cursor) :=
  let c := c.skipBlanks
  match c.rest with
  | [] => c.faultNext .endInObject
  | x :: _ =>
    if x = '}' then .ok (false, c)
    else if first then
      if x = '"' then .ok (true, c.next) else c.faultNext .keyNotString
    else if x = ',' then
      let c := c.next.skipBlanks
      match c.rest with
      | [] => c.faultNext .endInValue
      | y :: _ =>
        if y = '"' then .ok (true, c.next)
        else if y = '}' then c.faultNext .trailingComma
        else c.faultNext .keyNotString
    else c.faultNext .expectedCommaOrBrace

/-- Requires the colon between a name and its value. -/
def readColon (c : Cursor) : Except Error Cursor :=
  let c := c.skipBlanks
  match c.rest with
  | [] => c.faultNext .endInObject
  | x :: _ => if x = ':' then .ok c.next else c.faultNext .expectedColon

/-- Repeats a reader over the items of an array, from after its opening bracket to before the
closing one. The first argument bounds the number of items; the length of the text does. -/
def readItems {α : Type} (item : α → Cursor → Except Error (α × Cursor)) :
    Nat → Bool → α → Cursor → Except Error (α × Cursor)
  | 0, _, _, c => c.faultNext .endInArray
  | n + 1, first, acc, c =>
    match nextItem first c with
    | .error e => .error e
    | .ok (false, c) => .ok (acc, c)
    | .ok (true, c) =>
      match item acc c with
      | .error e => .error e
      | .ok (acc, c) => readItems item n false acc c

/-- Repeats a reader over the members of an object, from after its opening brace to before the
closing one. The reader gets the name and a cursor before the colon. -/
def readMembers {α : Type} (member : α → String → Cursor → Except Error (α × Cursor)) :
    Nat → Bool → α → Cursor → Except Error (α × Cursor)
  | 0, _, _, c => c.faultNext .endInObject
  | n + 1, first, acc, c =>
    match nextMember first c with
    | .error e => .error e
    | .ok (false, c) => .ok (acc, c)
    | .ok (true, c) =>
      match readString c with
      | .error e => .error e
      | .ok (name, c) =>
        match member acc name c with
        | .error e => .error e
        | .ok (acc, c) => readMembers member n false acc c

/-- Reads a value; the first argument is the number of containers that may still be opened, plus
one. -/
def readValue : Nat → Cursor → Except Error (Json × Cursor)
  | depth, c =>
    let c := c.skipBlanks
    match c.rest with
    | [] => c.faultNext .endInValue
    | x :: _ =>
      if x = 'n' then do return (.null, ← c.next.expectWord ['u', 'l', 'l'])
      else if x = 't' then do return (.bool true, ← c.next.expectWord ['r', 'u', 'e'])
      else if x = 'f' then do return (.bool false, ← c.next.expectWord ['a', 'l', 's', 'e'])
      else if x = '-' then do
        let (n, c) ← readNumber true c.next
        return (.number n, c)
      else if x.isDigit then do
        let (n, c) ← readNumber false c
        return (.number n, c)
      else if x = '"' then do
        let (s, c) ← readString c.next
        return (.string s, c)
      else if x = '[' then
        match depth with
        | 0 | 1 => c.faultNext .tooDeep
        | depth + 1 => do
          let item := fun (acc : List Json) c => do
            let (v, c) ← readValue depth c
            return (v :: acc, c)
          let (items, c) ← readItems item c.rest.length true [] c.next
          return (.array items.reverse, c.next)
      else if x = '{' then
        match depth with
        | 0 | 1 => c.faultNext .tooDeep
        | depth + 1 => do
          let member := fun (acc : List (String × Json)) name c => do
            let (v, c) ← readValue depth (← readColon c)
            -- of members with one name the last one counts
            return (Table.insert name v acc, c)
          let (members, c) ← readMembers member c.rest.length true [] c.next
          return (.object members, c.next)
      else c.faultNext .expectedValue

/-- Requires that only blanks are left. -/
def readEnd (c : Cursor) : Except Error Unit :=
  let c := c.skipBlanks
  if c.rest.isEmpty then .ok () else c.faultNext .trailingCharacters

/-- The value that a text holds. -/
def readDocument (s : String) : Except Error Json := do
  let (v, c) ← readValue depthLimit (.ofText s)
  readEnd c
  return v

/-- The containers a skipped value has open. -/
inductive Opened where
  | array
  | object

/-- The brackets and commas after a skipped value. `fresh` says that the innermost container has
just been opened. Ends in the containers still open, none when the value is complete. -/
def skipBetween : Nat → Bool → List Opened → Cursor → Except Error (List Opened × Cursor)
  | 0, _, opened, c => .ok (opened, c)
  | _ + 1, _, [], c => .ok ([], c)
  | n + 1, fresh, .array :: outer, c =>
    let c := c.skipBlanks
    match c.rest with
    | [] => c.faultNext .endInArray
    | x :: _ =>
      if x = ',' ∧ fresh = false then .ok (.array :: outer, c.next)
      else if x = ']' then skipBetween n false outer c.next
      else if fresh then .ok (.array :: outer, c)
      else c.faultNext .expectedCommaOrBracket
  | n + 1, fresh, .object :: outer, c =>
    let c := c.skipBlanks
    match c.rest with
    | [] => c.faultNext .endInObject
    | x :: _ =>
      if x = ',' ∧ fresh = false then .ok (.object :: outer, c.next)
      else if x = '}' then skipBetween n false outer c.next
      else if fresh then .ok (.object :: outer, c)
      else c.faultNext .expectedCommaOrBrace

/-- The name and colon of a skipped member. -/
def skipName (c : Cursor) : Except Error Cursor :=
  let c := c.skipBlanks
  match c.rest with
  | [] => c.faultNext .endInObject
  | x :: _ => if x = '"' then skipString c.next >>= readColon else c.faultNext .keyNotString

/-- Skips the rest of a value whose open containers are given, of any depth. The first argument
bounds the number of values in it; the length of the text does. -/
def skipOpened : Nat → List Opened → Cursor → Except Error Cursor
  | 0, _, c => .ok c
  | n + 1, opened, c =>
    let c := c.skipBlanks
    let between := fun (fresh : Bool) (opened : List Opened) (c : Cursor) =>
      match skipBetween (c.rest.length + 1) fresh opened c with
      | .error e => .error e
      | .ok ([], c) => .ok c
      | .ok (.array :: outer, c) => skipOpened n (.array :: outer) c
      | .ok (.object :: outer, c) =>
        match skipName c with
        | .error e => .error e
        | .ok c => skipOpened n (.object :: outer) c
    match c.rest with
    | [] => c.faultNext .endInValue
    | x :: _ =>
      if x = 'n' then c.next.expectWord ['u', 'l', 'l'] >>= between false opened
      else if x = 't' then c.next.expectWord ['r', 'u', 'e'] >>= between false opened
      else if x = 'f' then c.next.expectWord ['a', 'l', 's', 'e'] >>= between false opened
      else if x = '-' then skipNumber c.next >>= between false opened
      else if x.isDigit then skipNumber c >>= between false opened
      else if x = '"' then skipString c.next >>= between false opened
      else if x = '[' then between true (.array :: opened) c.next
      else if x = '{' then between true (.object :: opened) c.next
      else c.faultNext .expectedValue

/-- Skips a value of any depth. -/
def skipValue (c : Cursor) : Except Error Cursor := skipOpened (c.rest.length + 1) [] c

end LiveLink.Json
