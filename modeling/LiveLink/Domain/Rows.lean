import LiveLink.Domain.CombiningRows
import LiveLink.Domain.CompositionRows
import LiveLink.Domain.DirectionRows
import LiveLink.Domain.JoiningRows
import LiveLink.Domain.MappingRows
import LiveLink.Domain.MarkRows
import LiveLink.Text.Split

/-!
# Tables of characters

The properties of characters that domain names depend on. Each table is a list of
ranges of code points with a value, in increasing order; a range goes on until
the next one starts.
-/

namespace LiveLink.Domain

/-- The value of a digit in base 36. -/
def digit? (c : Char) : Option Nat :=
  if '0' ≤ c ∧ c ≤ '9' then some (c.toNat - 48)
  else if 'a' ≤ c ∧ c ≤ 'z' then some (c.toNat - 87)
  else none

/-- A number in base 36 at the start of a word, and the rest of the word. -/
def number (cs : List Char) : Nat × List Char :=
  let ds := cs.takeWhile fun c => (digit? c).isSome
  (ds.foldl (fun n c => n * 36 + (digit? c).getD 0) 0, cs.drop ds.length)

/-- The numbers of a word between commas. -/
def numbers (cs : List Char) : List Nat := (Text.splitAt ',' cs).map fun p => (number p).1

/-- The words of a table. -/
def words (rows : List String) : List (List Char) :=
  rows.flatMap fun row => Text.splitAt ' ' row.toList

/-- Ranges of code points: where each starts, and its value. -/
abbrev Ranges (α : Type) := List (Nat × α)

/-- The ranges of a table, its words read with `f`: the step to the next start is first. -/
def readRanges {α : Type} (f : List Char → α) (rows : List String) : Ranges α :=
  ((words rows).foldl (fun (acc, last) word =>
    let (step, rest) := number word
    ((last + step, f rest) :: acc, last + step)) (([] : Ranges α), 0)).1.reverse

/-- The value of a code point. -/
def Ranges.at {α : Type} (t : Ranges α) (standard : α) (n : Nat) : α :=
  match t with
  | [] => standard
  | (start, a) :: rest => if start ≤ n then Ranges.at rest a n else standard

/-- What becomes of a character. -/
inductive Fate where
  | kept
  | refused
  | leftOut
  | shifted (target : Nat)
  | replaced (targets : List Nat)

/-- A fate in a table. -/
def readFate : List Char → Fate
  | 'V' :: _ => .kept
  | 'I' :: _ => .leftOut
  | 'S' :: cs => .shifted (number cs).1
  | 'M' :: cs => .replaced (numbers cs)
  | _ => .refused

/-- What becomes of characters, with the start of each range. -/
def fates : Ranges (Nat × Fate) :=
  (readRanges readFate mappingRows).map fun (start, fate) => (start, start, fate)

/-- The combining classes. -/
def combiningClasses : Ranges Nat := readRanges (fun cs => (number (cs.drop 1)).1) combiningRows

/-- The combining marks. -/
def marks : Ranges Bool :=
  (readRanges id markRows).zipIdx.map fun ((start, _), i) => (start, i % 2 = 1)

/-- The directions, as letters. -/
def directions : Ranges Char := readRanges (fun cs => cs.headD 'L') directionRows

/-- The joining types, as letters. -/
def joiningTypes : Ranges Char := readRanges (fun cs => cs.headD 'U') joiningRows

/-- The composed characters: each with its two parts. -/
def compositions : Ranges (Nat × Nat) :=
  readRanges (fun cs =>
    match numbers (cs.drop 1) with
    | [a, b] => (a, b)
    | _ => (0, 0)) compositionRows

/-- The combining class of a character. -/
def combiningClass (c : Char) : Nat :=
  if c.toNat < 0x300 then 0 else combiningClasses.at 0 c.toNat

/-- Whether a character is a combining mark. -/
def isMark (c : Char) : Bool := 0x300 ≤ c.toNat && marks.at false c.toNat

end LiveLink.Domain
