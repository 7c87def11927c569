import LiveLink.Payload.Record

/-!
# Chat payloads

What travels on the chat topics: messages, moderation events and the state of a
chat.
-/

namespace LiveLink

/-- A chat message of one live event. -/
structure ChatMessage where
  id : String
  eventId : String
  message : String
  authorId : Option String
  authorName : Option String
  sentAt : Option Instant
  deleted : Bool
  deriving DecidableEq

/-- The fields of a chat message. -/
def ChatMessage.record : Record ChatMessage where
  name := "ChatMessage"
  Row := _
  Slots := _
  fields := .cons (.required "id" .text) <| .cons (.required "eventId" .text) <|
    .cons (.required "message" .text) <| .cons (.optional "authorId" .text) <|
    .cons (.optional "authorName" .text) <| .cons (.optional "sentAt" .instant) <|
    .cons (.withDefault "deleted" .flag false) .nil
  ofRow := fun (id, eventId, message, authorId, authorName, sentAt, deleted, _) =>
    ⟨id, eventId, message, authorId, authorName, sentAt, deleted⟩
  toRow m := (m.id, m.eventId, m.message, m.authorId, m.authorName, m.sentAt, m.deleted, ())

/-- What a moderator did about a message or its author. -/
inductive ModerationAction where
  | delete
  | hide
  | timeout
  | ban
  /-- Any action with a name of its own that is not listed here. -/
  | unknown
  deriving DecidableEq

namespace ModerationAction

/-- The name of an action. -/
def name : ModerationAction → String
  | delete => "delete"
  | hide => "hide"
  | timeout => "timeout"
  | ban => "ban"
  | unknown => "unknown"

/-- The names of the actions. -/
def names : Codec.Names ModerationAction where
  known := [("delete", delete), ("hide", hide), ("timeout", timeout), ("ban", ban)]
  other := some unknown
  nameOf := name

/-- The action that a name stands for. -/
def ofName (s : String) : ModerationAction := (Table.get? s names.known).getD unknown

/-- An action in a payload. -/
def codec : Codec ModerationAction := .choice names

/-- Whether the message is to be marked as deleted. -/
def removesMessage : ModerationAction → Bool
  | delete | hide => true
  | timeout | ban | unknown => false

end ModerationAction

/-- A moderator acted on a message of one live event. -/
structure ModerationEvent where
  eventId : String
  messageId : String
  action : ModerationAction
  moderatorId : Option String
  reason : Option String
  deriving DecidableEq

/-- The fields of a moderation event. -/
def ModerationEvent.record : Record ModerationEvent where
  name := "ModerationEvent"
  Row := _
  Slots := _
  fields := .cons (.required "eventId" .text) <| .cons (.required "messageId" .text) <|
    .cons (.required "action" ModerationAction.codec) <| .cons (.optional "moderatorId" .text) <|
    .cons (.optional "reason" .text) .nil
  ofRow := fun (eventId, messageId, action, moderatorId, reason, _) =>
    ⟨eventId, messageId, action, moderatorId, reason⟩
  toRow e := (e.eventId, e.messageId, e.action, e.moderatorId, e.reason, ())

/-- The state of the chat of one live event. -/
structure ChatStatus where
  eventId : String
  status : String
  slowModeSecs : Option UInt32
  participantCount : Option UInt64
  deriving DecidableEq

/-- The fields of a chat status. -/
def ChatStatus.record : Record ChatStatus where
  name := "ChatStatus"
  Row := _
  Slots := _
  fields := .cons (.required "eventId" .text) <| .cons (.required "status" .text) <|
    .cons (.optional "slowModeSecs" .word32) <| .cons (.optional "participantCount" .word64) .nil
  ofRow := fun (eventId, status, slowModeSecs, participantCount, _) =>
    ⟨eventId, status, slowModeSecs, participantCount⟩
  toRow s := (s.eventId, s.status, s.slowModeSecs, s.participantCount, ())

end LiveLink
