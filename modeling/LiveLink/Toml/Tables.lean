import LiveLink.Toml.Value

/-!
# How tables come about

A table may be defined once. A header names a table, and every table on the way
to it comes about with it, to be named by a header of its own later on; a dotted
key makes tables that no header may name. A key of an inline table or an array
is a value, and closed.
-/

namespace LiveLink.Toml

/-- How a table came about. -/
inductive Origin where
  /-- Named by a header. -/
  | header
  /-- On the way to a table that a header names. -/
  | way
  /-- By a dotted key. -/
  | dotted
  deriving DecidableEq

/-- What a key stands for while a file is read. -/
inductive Node where
  | value (v : Toml)
  | table (origin : Origin) (members : List (String × Node))
  /-- An array of tables, the last one first. -/
  | tables (list : List (List (String × Node)))

/-- The members of a table that is being read. -/
abbrev Members := List (String × Node)

/-- Changes the table at the end of a path. Tables that are not there come about on the way: by a
dotted key, or by a header. A dotted key does not go through tables that a header has named. -/
def change (dotted : Bool) (f : Origin → Members → Option Members) :
    List String → Origin → Members → Option Members
  | [], origin, members => f origin members
  | key :: path, _, members =>
    match Table.get? key members with
    | none =>
      let origin := if dotted then Origin.dotted else .way
      (change dotted f path origin []).map fun inner =>
        Table.insert key (.table origin inner) members
    | some (.value _) => none
    | some (.tables []) => none
    | some (.tables (last :: before)) =>
      -- a path through an array of tables leads to the last of them
      (change dotted f path .header last).map fun last =>
        Table.insert key (.tables (last :: before)) members
    | some (.table origin inner) =>
      -- the table of a header takes keys only on the lines below the header
      if dotted && origin = .header then none
      else
        (change dotted f path origin inner).map fun inner =>
          Table.insert key (.table origin inner) members

/-- Puts a value under a dotted key. The table it goes to was made by a dotted key, unless the key
has a single part. -/
def put (path : List String) (key : String) (v : Toml) (members : Members) : Option Members :=
  change true (fun origin inner =>
    -- no key twice, and no key for a table that came about in another way
    if (origin = .dotted) = (path ≠ []) ∧ (Table.get? key inner).isNone then
      some (Table.insert key (.value v) inner)
    else none) path .header members

/-- A header names a table. -/
def openTable (path : List String) (key : String) (members : Members) : Option Members :=
  change false (fun _ inner =>
    match Table.get? key inner with
    | none => some (Table.insert key (.table .header []) inner)
    -- a table met on the way may be named once
    | some (.table .way known) => some (Table.insert key (.table .header known) inner)
    | some _ => none) path .header members

/-- A header names one more table of an array. -/
def openItem (path : List String) (key : String) (members : Members) : Option Members :=
  change false (fun _ inner =>
    match Table.get? key inner with
    | none => some (Table.insert key (.tables [[]]) inner)
    | some (.tables list) => some (Table.insert key (.tables ([] :: list)) inner)
    | some _ => none) path .header members

/-- Puts a value into the table that the last header named. -/
def putInto (header path : List String) (key : String) (v : Toml) (members : Members) :
    Option Members :=
  change false (fun _ inner => put path key v inner) header .header members

mutual

/-- What a key stands for in the end. -/
def Node.close : Node → Toml
  | .value v => v
  | .table _ members => .table (closeMembers members)
  | .tables list => .array (closeItems list).reverse

/-- `Node.close` on every member. -/
def closeMembers : List (String × Node) → List (String × Toml)
  | [] => []
  | (key, n) :: rest => (key, n.close) :: closeMembers rest

/-- `closeMembers` on every table of an array. -/
def closeItems : List (List (String × Node)) → List Toml
  | [] => []
  | members :: rest => .table (closeMembers members) :: closeItems rest

end

end LiveLink.Toml
