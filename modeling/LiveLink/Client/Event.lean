import LiveLink.Client.Command
import LiveLink.Client.Reply
import LiveLink.Client.Supervisor
import LiveLink.Board

/-!
# Events

What happens, in the order it happens: what handlers note down, what the client
warns about, and the steps from which a run can be told.
-/

namespace LiveLink

/-- What a handler notes down. -/
inductive Note where
  /-- It was called with an envelope; the stamp is there if it was asked for. -/
  | got (name topic : String) (payload : Json) (stamp : Option Stamp)
  /-- It was called with a payload read as its type. -/
  | typed (name topic text : String)
  /-- It was called with a status. -/
  | status (name : String) (status : Status)
  /-- A command of its own is done. -/
  | did (name verb : String) (reply : Reply)

/-- How serious a warning is. -/
inductive Level where
  | warning
  | error
  deriving DecidableEq

/-- The name of a level. -/
def Level.name : Level → String
  | warning => "WARN"
  | error => "ERROR"

/-- Where a subscription is registered: with the router or with the status board. -/
inductive Place where
  | router (scope : Scope)
  | board
  deriving DecidableEq

/-- One thing that happens. -/
inductive Event where
  | noted (n : Note)
  | warned (level : Level) (topic : Option String) (message : String)
  /-- A handler or a listener is registered. -/
  | subscribed (place : Place) (id : Nat)
  | unsubscribed (place : Place) (id : Nat)
  /-- A delivery of an envelope begins, to the handlers of these numbers. -/
  | began (delivery : Nat) (topic : String) (audience : List Nat)
  /-- A delivery calls a handler. -/
  | called (delivery id : Nat)
  /-- The handler that a delivery has called last fails. -/
  | crashed (delivery : Nat)
  /-- A delivery is over; so many handlers came to their end. -/
  | ended (delivery completed : Nat)
  /-- The status changes. -/
  | changed (c : Change)
  /-- A change is put on the queue. -/
  | posted (c : Change)
  /-- A change is delivered, to the listeners of these numbers. -/
  | announced (c : Change) (audience : List Nat)
  /-- A change is dropped. -/
  | skipped (c : Change)
  /-- A listener is called. -/
  | heard (c : Change) (id : Nat)
  /-- A supervisor asks for a socket. -/
  | dialled (supervisor generation : Nat) (url : Url)
  /-- A session starts on a socket. -/
  | opened (supervisor socket : Nat)
  /-- A failure is counted, and the next attempt is to come after a wait. -/
  | failed (attempts : UInt32) (wait : Span)
  /-- An envelope is accepted for a socket. -/
  | queued (socket : Nat) (e : Envelope)
  /-- An envelope is written to a socket. -/
  | wrote (socket : Nat) (e : Envelope)
  /-- A close frame is written to a socket. -/
  | wroteClose (socket : Nat)
  | read (socket : Nat) (i : Incoming)
  /-- A socket is given up. -/
  | dropped (socket : Nat)
  /-- A supervisor comes to its end. -/
  | finished (supervisor : Nat)

end LiveLink
