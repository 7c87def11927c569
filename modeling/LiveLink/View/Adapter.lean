import LiveLink.Envelope
import LiveLink.View.Chat
import LiveLink.View.Notices
import LiveLink.View.Health

/-!
# Views that feed on envelopes

A view names the topics it wants to hear, reads what arrives on them, and says
what to tell the server when it starts and when it ends.
-/

namespace LiveLink

open Json (Mismatch)

/-- What is told to the server: a topic and a payload. -/
abbrev Notice := String × Json

/-- A view of one of the three kinds. -/
inductive View where
  | chat (v : ChatView)
  | notices (v : NoticeView)
  | health (v : HealthView)
  deriving DecidableEq

namespace View

/-- The topics a view hears, in the order it asks for them. -/
def topics : View → List String
  | chat _ => ["chat.message", "chat.moderation", "chat.status"]
  | notices _ => ["notification.new", "notification.update", "notification.bulk_read"]
  | health _ => ["stream.health.update", "stream.health.alert"]

/-- An envelope arrives on one of the topics of the view. -/
def receive (view : View) (e : Envelope) : Except Mismatch View :=
  match view with
  | chat v =>
    if e.topic = "chat.message" then
      (e.typed ChatMessage.record.codec).map fun m => chat (v.receive m)
    else if e.topic = "chat.moderation" then
      (e.typed ModerationEvent.record.codec).map fun a => chat (v.moderate a)
    else if e.topic = "chat.status" then
      (e.typed ChatStatus.record.codec).map fun s => chat (v.update s)
    else .ok view
  | notices v =>
    if e.topic = "notification.new" then
      (e.typed Notification.record.codec).map fun n => notices (v.receive n)
    else if e.topic = "notification.update" then
      (e.typed NotificationUpdate.record.codec).map fun u => notices (v.update u)
    else if e.topic = "notification.bulk_read" then
      (e.typed BulkRead.record.codec).map fun b => notices (v.bulkRead b)
    else .ok view
  | health v =>
    if e.topic = "stream.health.update" then
      (e.typed HealthSnapshot.record.codec).map fun s => health (v.receive s)
    else if e.topic = "stream.health.alert" then
      (e.typed HealthAlert.record.codec).map fun a => health (v.alert a)
    else .ok view

/-- A payload that names one thing. -/
def named (key name : String) : Json := .object [(key, .string name)]

/-- What is told to the server on every connection. -/
def announcements : View → List Notice
  | chat v => [("chat.join", named "eventId" v.eventId)]
  | notices _ => [("notification.subscribe", .object [])]
  | health v => v.streamIds.map fun s => ("stream.health.subscribe", named "streamId" s)

/-- What is told to the server at the end. The server goes on sending notifications for as long
as anyone else listens to them. -/
def farewells (otherListeners : Bool) : View → List Notice
  | chat v => [("chat.leave", named "eventId" v.eventId)]
  | notices _ => if otherListeners then [] else [("notification.unsubscribe", .object [])]
  | health v => v.streamIds.map fun s => ("stream.health.unsubscribe", named "streamId" s)

end View

end LiveLink
