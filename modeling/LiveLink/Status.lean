/-!
# Connection status

The four states of the connection, as an application sees them.
-/

namespace LiveLink

/-- The state of the connection. -/
inductive Status where
  | disconnected
  | connecting
  | connected
  | reconnecting
  deriving DecidableEq, Repr

namespace Status

/-- A client that was never told to connect is disconnected. -/
def initial : Status := disconnected

instance : Inhabited Status := ⟨initial⟩

/-- Every status. -/
def all : List Status := [disconnected, connecting, connected, reconnecting]

/-- The name of a status. -/
def name : Status → String
  | disconnected => "disconnected"
  | connecting => "connecting"
  | connected => "connected"
  | reconnecting => "reconnecting"

/-- The name of a status with a capital letter. -/
def title : Status → String
  | disconnected => "Disconnected"
  | connecting => "Connecting"
  | connected => "Connected"
  | reconnecting => "Reconnecting"

/-- The status of a name. -/
def ofName? (s : String) : Option Status := all.find? (·.name = s)

end Status

end LiveLink
