import LiveLink.Decimal.Extended
import LiveLink.Table

/-!
# Layers of configuration

Values come from a file and from the environment. They are merged key by key
into one tree, in which a later value takes the place of an earlier one. Every
value remembers where it came from; a table that was merged comes from nowhere in
particular.
-/

namespace LiveLink.Config

/-- Where a value comes from. -/
inductive Source where
  | file
  | environment
  deriving DecidableEq, Repr

/-- How messages name a source. -/
def Source.name : Source → String
  | file => "config/default.toml"
  | environment => "the environment"

/-- A single value. -/
inductive Scalar where
  | text (s : String)
  | int (i : Int)
  | real (x : Extended)
  | bool (b : Bool)
  deriving DecidableEq

/-- A tree of values. -/
inductive Node where
  /-- Nothing, where an array was made longer. -/
  | absent
  | scalar (source : Source) (v : Scalar)
  | array (source : Option Source) (items : List Node)
  | table (source : Option Source) (members : List (String × Node))

instance : Inhabited Node := ⟨.absent⟩

/-- No values. -/
def Node.empty : Node := .table none []

/-- A step from a value to one inside it. Indices below zero count from the end. -/
inductive Step where
  | key (name : String)
  | index (i : Int)
  deriving DecidableEq

namespace Node

/-- Changes the member of a name. What is no table becomes one. -/
def changeMember (name : String) (f : Node → Node) : Node → Node
  | table source members =>
    table source (Table.insert name (f ((Table.get? name members).getD absent)) members)
  | _ => table none [(name, f absent)]

/-- A list made long enough for an index, and the place of the index in it. -/
def stretch (i : Int) (items : List Node) : List Node × Nat :=
  if 0 ≤ i then (items ++ List.replicate (i.toNat + 1 - items.length) absent, i.toNat)
  else if i.natAbs ≤ items.length then (items, items.length - i.natAbs)
  -- beyond the start: the array grows at its front
  else (List.replicate (i.natAbs - items.length) absent ++ items, 0)

/-- Changes the item at an index. What is no array becomes one. -/
def changeItem (i : Int) (f : Node → Node) : Node → Node
  | array source items =>
    let (items, at') := stretch i items
    array source (items.modify at' f)
  | _ =>
    let (items, at') := stretch i []
    array none (items.modify at' f)

/-- Changes the value that steps lead to. -/
def change (f : Node → Node) : List Step → Node → Node
  | [], n => f n
  | .key name :: steps, n => n.changeMember name (change f steps)
  | .index i :: steps, n => n.changeItem i (change f steps)

mutual

/-- Lays a value over another. Tables are merged, and anything else takes the place of what was
there. -/
def layOver : Node → Node → Node
  | table _ members, old =>
    match old with
    -- the table keeps the members that the new one does not name
    | table source known => layMembersOver members (table source known)
    | _ => layMembersOver members empty
  | new, _ => new

/-- Lays members over a table. -/
def layMembersOver : List (String × Node) → Node → Node
  | [], old => old
  | (name, v) :: rest, old => layMembersOver rest (old.changeMember name (layOver v))

end

end Node

end LiveLink.Config
