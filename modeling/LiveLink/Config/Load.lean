import LiveLink.Config.Convert
import LiveLink.Config.Environment
import LiveLink.Config.Settings
import LiveLink.Toml.Reader

/-!
# Loading the settings

Settings are taken from the environment, else from the file, else they are the
standard ones, each by itself.
-/

namespace LiveLink.Config

/-- Why settings cannot be loaded. -/
inductive LoadError where
  /-- The file is no TOML file. -/
  | unreadable
  | refused (e : Error)

/-- The wording of an error. -/
def LoadError.message : LoadError → Option String
  | unreadable => none
  | refused e => some ("configuration error: " ++ e.message)

mutual

/-- A value of a file. -/
def ofToml : Toml → Node
  | .text s => .scalar .file (.text s)
  | .int i => .scalar .file (.int i)
  | .real x => .scalar .file (.real x)
  | .bool b => .scalar .file (.bool b)
  | .time s => .scalar .file (.text s)
  | .array items => .array (some .file) (ofItems items)
  | .table members => .table (some .file) (ofMembers members)

/-- `ofToml` on every item. -/
def ofItems : List Toml → List Node
  | [] => []
  | v :: rest => ofToml v :: ofItems rest

/-- `ofToml` on every member. -/
def ofMembers : List (String × Toml) → List (String × Node)
  | [] => []
  | (name, v) :: rest => (name, ofToml v) :: ofMembers rest

end

/-- Lays the members of a file over a tree, in the order of their keys. The program takes them from
a hash map, in an order that may differ from run to run. That shows only where two keys of the top
level conflict as paths, as a quoted `connection.url` does beside a table `connection`. -/
def layFile (root : Node) (members : List (String × Toml)) : Node :=
  members.foldl (fun root m => root.lay m.1 (ofToml m.2)) root

/-- The tree of all values. -/
def tree (file : List (String × Toml)) (vars : List (String × String)) : Node :=
  layVariables (layFile .empty file) vars

/-- A section of a tree. -/
def Node.section? (name : String) : Node → Option Node
  | table _ members => Table.get? name members
  | _ => none

/-- The settings of the connection. -/
def readConnection (root : Node) (d : ConnectionSettings) : Except Error ConnectionSettings := do
  match ← Node.slots "PartialConnectionSettings"
      ["url", "token_param", "base_delay_ms", "max_delay_ms"] "connection"
      (root.section? "connection") with
  | [url, param, base, longest] =>
    return ⟨← url.text d.url, ← param.text d.tokenParam,
      ← base.count d.baseDelay, ← longest.count d.maxDelay⟩
  | _ => return d

/-- The settings of the views. -/
def readViews (root : Node) (d : ViewSettings) : Except Error ViewSettings := do
  match ← Node.slots "PartialAdapterSettings"
      ["chat_history_limit", "notification_limit", "alert_limit"] "adapters"
      (root.section? "adapters") with
  | [chat, notifications, alerts] =>
    return ⟨← chat.count d.chatHistory, ← notifications.count d.notifications,
      ← alerts.count d.alerts⟩
  | _ => return d

/-- The level of the log. -/
def readLevel (root : Node) (d : String) : Except Error String := do
  match ← Node.slots "PartialLoggingSettings" ["level"] "logging" (root.section? "logging") with
  | [level] => level.text d
  | _ => return d

/-- The settings in a tree of values. -/
def Node.settings (root : Node) : Except Error Settings := do
  let d := Settings.standard
  return ⟨← readConnection root d.connection, ← readViews root d.views, ← readLevel root d.logLevel⟩

/-- The settings from a file, if there is one, and from variables of the environment. -/
def load (file : Option String) (vars : List (String × String)) : Except LoadError Settings :=
  match file.map Toml.read with
  | some none => .error .unreadable
  | some (some members) => (tree members vars).settings.mapError .refused
  | none => (tree [] vars).settings.mapError .refused

end LiveLink.Config
