import LiveLink.Payload.Record

/-!
# Stream health payloads

What travels on the stream health topics: snapshots and alerts. A stream is named
by `streamId`, or by `eventId` in older senders.
-/

namespace LiveLink

/-- How a stream is doing. -/
inductive HealthStatus where
  | healthy
  | warning
  | critical
  | offline
  /-- Any status with a name of its own that is not listed here. -/
  | unknown
  deriving DecidableEq

namespace HealthStatus

/-- The name of a status. -/
def name : HealthStatus → String
  | healthy => "healthy"
  | warning => "warning"
  | critical => "critical"
  | offline => "offline"
  | unknown => "unknown"

/-- The names of the statuses. -/
def names : Codec.Names HealthStatus where
  known := [("healthy", healthy), ("warning", warning), ("critical", critical),
    ("offline", offline)]
  other := some unknown
  nameOf := name

/-- A status in a payload. -/
def codec : Codec HealthStatus := .choice names

end HealthStatus

/-- The measurements of one stream at a time. -/
structure HealthSnapshot where
  streamId : String
  status : HealthStatus
  bitrateKbps : Option Binary64
  fps : Option Binary64
  droppedFrames : Option UInt64
  viewerCount : Option UInt64
  updatedAt : Option Instant
  deriving DecidableEq

/-- The fields of a snapshot. -/
def HealthSnapshot.record : Record HealthSnapshot where
  name := "HealthSnapshot"
  Row := _
  Slots := _
  fields := .cons ((Field.required "streamId" .text).orNamed "eventId") <|
    .cons (.required "status" HealthStatus.codec) <| .cons (.optional "bitrateKbps" .real) <|
    .cons (.optional "fps" .real) <| .cons (.optional "droppedFrames" .word64) <|
    .cons (.optional "viewerCount" .word64) <| .cons (.optional "updatedAt" .instant) .nil
  ofRow := fun (streamId, status, bitrateKbps, fps, droppedFrames, viewerCount, updatedAt, _) =>
    ⟨streamId, status, bitrateKbps, fps, droppedFrames, viewerCount, updatedAt⟩
  toRow s := (s.streamId, s.status, s.bitrateKbps, s.fps, s.droppedFrames, s.viewerCount,
    s.updatedAt, ())

/-- How serious an alert is. -/
inductive AlertSeverity where
  | info
  | warning
  | critical
  deriving DecidableEq

namespace AlertSeverity

/-- The name of a severity. -/
def name : AlertSeverity → String
  | info => "info"
  | warning => "warning"
  | critical => "critical"

/-- The names of the severities; there are no others. -/
def names : Codec.Names AlertSeverity where
  known := [("info", info), ("warning", warning), ("critical", critical)]
  other := none
  nameOf := name

/-- A severity in a payload. -/
def codec : Codec AlertSeverity := .choice names

end AlertSeverity

/-- Something is wrong with a stream. -/
structure HealthAlert where
  streamId : String
  alertId : Option String
  severity : AlertSeverity
  message : String
  raisedAt : Option Instant
  deriving DecidableEq

/-- The fields of an alert. -/
def HealthAlert.record : Record HealthAlert where
  name := "HealthAlert"
  Row := _
  Slots := _
  fields := .cons ((Field.required "streamId" .text).orNamed "eventId") <|
    .cons (.optional "alertId" .text) <| .cons (.required "severity" AlertSeverity.codec) <|
    .cons (.required "message" .text) <| .cons (.optional "raisedAt" .instant) .nil
  ofRow := fun (streamId, alertId, severity, message, raisedAt, _) =>
    ⟨streamId, alertId, severity, message, raisedAt⟩
  toRow a := (a.streamId, a.alertId, a.severity, a.message, a.raisedAt, ())

end LiveLink
