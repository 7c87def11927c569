import LiveLink.Table
import LiveLink.View.Bounded
import LiveLink.Payload.Health

/-!
# A view of stream health

For every watched stream the last snapshot and the last alerts, oldest first. A
stream that is no longer watched is forgotten.
-/

namespace LiveLink

/-- The watched streams, and what is known about streams. -/
structure HealthView where
  alertLimit : Nat
  watched : TextSet
  latest : Table HealthSnapshot
  recent : Table (List HealthAlert)
  deriving DecidableEq

/-- How many watched streams there are of each status. -/
structure HealthSummary where
  healthy : Nat
  warning : Nat
  critical : Nat
  offline : Nat
  unknown : Nat
  deriving DecidableEq

/-- The number of streams counted. -/
def HealthSummary.total (s : HealthSummary) : Nat :=
  s.healthy + s.warning + s.critical + s.offline + s.unknown

/-- One more stream of a status. -/
def HealthSummary.add (s : HealthSummary) : HealthStatus → HealthSummary
  | .healthy => { s with healthy := s.healthy + 1 }
  | .warning => { s with warning := s.warning + 1 }
  | .critical => { s with critical := s.critical + 1 }
  | .offline => { s with offline := s.offline + 1 }
  | .unknown => { s with unknown := s.unknown + 1 }

namespace HealthView

/-- Some streams are watched and nothing is known about them. -/
def watching (alertLimit : Nat) (streams : List String) : HealthView :=
  ⟨alertLimit, Table.ofList (streams.map fun s => (s, ())), [], []⟩

/-- Whether a stream is watched. -/
def watches (v : HealthView) (stream : String) : Bool := v.watched.contains stream

/-- The last snapshot of a stream. -/
def snapshot (v : HealthView) (stream : String) : Option HealthSnapshot := v.latest.get? stream

/-- The last alerts of a stream, oldest first. -/
def alerts (v : HealthView) (stream : String) : List HealthAlert := (v.recent.get? stream).getD []

/-- A snapshot arrives. -/
def receive (v : HealthView) (s : HealthSnapshot) : HealthView :=
  if v.watches s.streamId then { v with latest := v.latest.insert s.streamId s } else v

/-- An alert arrives. -/
def alert (v : HealthView) (a : HealthAlert) : HealthView :=
  if v.watches a.streamId then
    { v with
      recent := v.recent.insert a.streamId (pushBounded v.alertLimit (v.alerts a.streamId) a) }
  else v

/-- One more stream is watched. -/
def add (v : HealthView) (stream : String) : HealthView :=
  if v.watches stream then v else { v with watched := v.watched.insert stream () }

/-- A stream is watched no longer. -/
def remove (v : HealthView) (stream : String) : HealthView :=
  if v.watches stream then
    { v with
      watched := v.watched.erase stream
      -- a stream that is watched again starts with nothing
      latest := v.latest.erase stream
      recent := v.recent.erase stream }
  else v

/-- The watched streams, in order. -/
def streamIds (v : HealthView) : List String := v.watched.keys

/-- The status of a stream, as far as it is known. -/
def statusOf (v : HealthView) (stream : String) : HealthStatus :=
  ((v.snapshot stream).map (·.status)).getD .unknown

/-- How many watched streams there are of each status. -/
def summary (v : HealthView) : HealthSummary :=
  v.streamIds.foldl (fun s stream => s.add (v.statusOf stream)) ⟨0, 0, 0, 0, 0⟩

end HealthView

end LiveLink
