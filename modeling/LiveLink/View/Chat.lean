import LiveLink.Payload.Chat
import LiveLink.View.Bounded

/-!
# A view of one chat

The last messages of one live event, oldest first, and the last known state of
its chat. A message that a moderator removed stays in the view, marked as
deleted.
-/

namespace LiveLink

/-- The chat of one live event, as far as it is kept. -/
structure ChatView where
  eventId : String
  limit : Nat
  messages : List ChatMessage
  status : Option ChatStatus
  deriving DecidableEq

namespace ChatView

/-- Nothing received yet. -/
def empty (eventId : String) (limit : Nat) : ChatView := ⟨eventId, limit, [], none⟩

/-- A message arrives. -/
def receive (v : ChatView) (m : ChatMessage) : ChatView :=
  if m.eventId = v.eventId then { v with messages := pushBounded v.limit v.messages m } else v

/-- Marks a message as deleted. -/
def tombstone (v : ChatView) (messageId : String) : ChatView :=
  { v with messages := modifyFirst (·.id = messageId) ({ · with deleted := true }) v.messages }

/-- A moderator acts. -/
def moderate (v : ChatView) (e : ModerationEvent) : ChatView :=
  if e.eventId = v.eventId ∧ e.action.removesMessage then v.tombstone e.messageId else v

/-- The state of the chat arrives. -/
def update (v : ChatView) (s : ChatStatus) : ChatView :=
  if s.eventId = v.eventId then { v with status := some s } else v

end ChatView

end LiveLink
