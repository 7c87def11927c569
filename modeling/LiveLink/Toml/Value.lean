import LiveLink.Decimal.Extended
import LiveLink.Table

/-!
# TOML values

A configuration file is a table of values. A point in time is kept as the text
it stands for.
-/

namespace LiveLink

/-- A value of a configuration file. -/
inductive Toml where
  | text (s : String)
  | int (i : Int)
  | real (x : Extended)
  | bool (b : Bool)
  | time (written : String)
  | array (items : List Toml)
  | table (members : List (String × Toml))

instance : Inhabited Toml := ⟨.table []⟩

end LiveLink
