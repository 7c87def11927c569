import LiveLink.Config.Path

/-!
# Settings from the environment

A variable counts if its name starts with the name of the program and two
underscores, in letters of any case. In what follows, two underscores separate
the names of a path. Its text is taken as a truth value, an integer or a real
number, whichever it can be.
-/

namespace LiveLink.Config

/-- A letter in lower case. One letter beyond ASCII has a lower case within it. -/
def lowerChar (c : Char) : Char := if c = '\u212a' then 'k' else c.toLower

/-- What variables that count start with. -/
def variableStart : List Char := "realtime__".toList

/-- The name behind another at the start of a text. -/
def behind? : List Char → List Char → Option (List Char)
  | [], cs => some cs
  | a :: as, c :: cs => if a = c then behind? as cs else none
  | _ :: _, [] => none

/-- A name with a dot for every two underscores. -/
def dotted : List Char → List Char
  | '_' :: '_' :: cs => '.' :: dotted cs
  | c :: cs => c :: dotted cs
  | [] => []

/-- The key of a variable, if it counts. -/
def variableKey? (name : String) : Option String :=
  (behind? variableStart (name.toList.map lowerChar)).map fun cs => String.ofList (dotted cs)

/-- The value that the text of a variable stands for. -/
def ofVariable (s : String) : Scalar :=
  let word := s.toList.map Char.toLower
  if word = "true".toList then .bool true
  else if word = "false".toList then .bool false
  else
    -- every integer could be read as a real number too
    match Words.signed? s, Words.real? s with
    | some i, _ => .int i
    | none, some x => .real x
    | none, none => .text s

/-- Lays variables over a tree. -/
def layVariables (root : Node) (vars : List (String × String)) : Node :=
  vars.foldl (fun root v =>
    match variableKey? v.1 with
    | some key => root.lay key (.scalar .environment (ofVariable v.2))
    | none => root) root

end LiveLink.Config
