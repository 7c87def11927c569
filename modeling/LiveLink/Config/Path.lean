import LiveLink.Config.Layer
import LiveLink.Decimal.Reading

/-!
# Paths

A key names a place in the tree of values: names behind dots and indices in
brackets. A key that is no path stands for itself.
-/

namespace LiveLink.Config

/-- A character of a name. -/
def isNameChar (c : Char) : Bool := c.isAlphanum || c = '_' || c = '-'

/-- A name, at the start of a text. -/
def readName (cs : List Char) : Option (String × List Char) :=
  let name := cs.takeWhile isNameChar
  if name.isEmpty then none else some (String.ofList name, cs.drop name.length)

/-- Text without the blanks at its start. -/
def skipBlanks (cs : List Char) : List Char := cs.dropWhile fun c => c = ' ' || c = '\t'

/-- An index and its closing bracket, with blanks around the index. -/
def readIndex (cs : List Char) : Option (Int × List Char) :=
  let cs := skipBlanks cs
  let word := cs.takeWhile fun c => c.isDigit || c = '-'
  match skipBlanks (cs.drop word.length) with
  | ']' :: rest => (Words.signed? (String.ofList word)).map fun i => (i, rest)
  | _ => none

/-- The steps behind the first name, at most so many. -/
def readSteps : Nat → List Char → Option (List Step)
  | _, [] => some []
  | 0, _ => none
  | n + 1, '.' :: cs => do
    let (name, cs) ← readName cs
    return .key name :: (← readSteps n cs)
  | n + 1, '[' :: cs => do
    let (i, cs) ← readIndex cs
    return .index i :: (← readSteps n cs)
  | _, _ => none

/-- The steps that a key stands for. -/
def stepsOf (key : String) : List Step :=
  let path := do
    let (name, cs) ← readName key.toList
    return Step.key name :: (← readSteps (cs.length + 1) cs)
  path.getD [.key key]

/-- Lays a value over a tree at the place of a key. -/
def Node.lay (root : Node) (key : String) (v : Node) : Node := root.change (Node.layOver v) (stepsOf key)

end LiveLink.Config
