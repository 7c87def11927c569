import LiveLink.Payload.Chat
import LiveLink.Payload.Notification
import LiveLink.Payload.Health

/-!
# Kinds of payload

Every payload type has a name, by which a subscriber asks for it, and a written
form that shows what was read. The two types that only ever arrive are shown as
arrays of their fields.
-/

namespace LiveLink

open Json (Mismatch)

/-- The payload types that can be asked for. -/
inductive PayloadKind where
  | chatMessage
  | moderationEvent
  | moderationAction
  | chatStatus
  | notification
  | notificationUpdate
  | bulkRead
  | healthSnapshot
  | healthStatus
  | healthAlert
  | alertSeverity
  deriving DecidableEq

namespace PayloadKind

/-- All kinds with their names. -/
def named : List (String × PayloadKind) := [
  ("chat_message", chatMessage), ("moderation_event", moderationEvent),
  ("moderation_action", moderationAction), ("chat_status", chatStatus),
  ("notification", notification), ("notification_update", notificationUpdate),
  ("bulk_read", bulkRead), ("health_snapshot", healthSnapshot),
  ("health_status", healthStatus), ("health_alert", healthAlert),
  ("alert_severity", alertSeverity)]

/-- The kind of a name. -/
def ofName? (name : String) : Option PayloadKind := Table.get? name named

/-- Reads with a codec and writes what was read. -/
def display {α : Type} (c : Codec α) (v : Json) : Except Mismatch Json := (c.read v).map c.write

/-- An optional value as it is shown in an array of fields. -/
def shown {α : Type} (c : Codec α) (a : Option α) : Json := c.optional.write a

/-- Reads a payload as this kind, and shows what was read. -/
def reread : PayloadKind → Json → Except Mismatch Json
  | chatMessage => display ChatMessage.record.codec
  | moderationEvent => display ModerationEvent.record.codec
  | moderationAction => display ModerationAction.codec
  | chatStatus => display ChatStatus.record.codec
  | notification => display Notification.record.codec
  | notificationUpdate => fun v =>
    (NotificationUpdate.record.read v).map fun u =>
      .array [.string u.id, shown .flag u.read, shown .text u.title, shown .text u.body]
  | bulkRead => fun v => (BulkRead.record.read v).map fun b => .array [shown (.list .text) b.ids]
  | healthSnapshot => display HealthSnapshot.record.codec
  | healthStatus => display HealthStatus.codec
  | healthAlert => display HealthAlert.record.codec
  | alertSeverity => display AlertSeverity.codec

end PayloadKind

end LiveLink
