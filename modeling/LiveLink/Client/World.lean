import LiveLink.Client.Event
import LiveLink.Client.Link
import LiveLink.Client.Setup
import LiveLink.View.Adapter

/-!
# The client and those who use it

A `World` holds a client and everything that goes on around it: the handlers
that were registered, the views, the supervisors, and the code that runs at the
moment. That code is a stack of frames, since a handler may call the client,
which may call handlers again. Whatever happens between two rests of a
supervisor, or during one command, happens on the stack; nothing else moves
until the stack is empty.
-/

namespace LiveLink

/-- What is registered with the router. -/
inductive Handler where
  /-- A handler of the application. It reads payloads as one type, if a type is given. -/
  | app (name : String) (full : Bool) (kind : Option PayloadKind) (script : Script)
  /-- The handler of a view. -/
  | view (adapter : Nat)

/-- What is registered for changes of the status. -/
inductive Listener where
  | app (name : String) (only : Option Status) (script : Script)
  /-- The announcement of a view. -/
  | view (adapter : Nat)

/-- A subscription as its owner holds it. -/
structure Subscription where
  id : Nat
  place : Place
  active : Bool
  deriving DecidableEq

/-- A view together with its registrations. -/
structure Adapter where
  view : View
  handlers : List (String × Nat)
  listener : Nat
  live : Bool

/-- The parts that commands can reach. -/
structure Parts where
  router : Bool
  /-- A status board of its own, without a client. -/
  board : Bool
  client : Bool

/-- What a supervisor goes on with when the listeners have been told. -/
inductive Resumption where
  | session (socket : Nat)
  | sleep (wait : Span)
  | dial

/-- One piece of code that has begun and is not done. -/
inductive Frame where
  /-- A handler has commands left. It may be waiting for the reply to one, with this verb. -/
  | script (owner : String) (rest : List Command) (awaited : Option String)
  /-- An envelope is on its way to handlers. -/
  | delivery (number : Nat) (e : Envelope) (rest : List (Entry Handler)) (completed : Nat)
  /-- A change of the status is on its way to listeners. -/
  | announcement (c : Change) (rest : List (Entry Listener))
  /-- `connect` has told the listeners and is to start the supervisor. -/
  | connecting (generation : Nat) (previous : Option Nat)
  /-- A supervisor has told the listeners and is to go on. -/
  | supervisor (id : Nat) (next : Resumption)

/-- A client and what goes on around it. -/
structure World where
  parts : Parts
  setup : Setup
  /-- Whether there is anything to run supervisors. -/
  hasRuntime : Bool
  /-- The stamps of new envelopes, and how many have been used. -/
  stamps : Nat → Stamp
  stamped : Nat
  router : Registry Handler
  board : Board Listener
  link : Link
  adapters : List Adapter
  subscriptions : Table Subscription
  rooms : Table Nat
  feeds : Table Nat
  monitors : Table Nat
  /-- How often each handler and each listener has run. -/
  handlerRuns : Nat → Nat
  listenerRuns : Nat → Nat
  supervisors : List Supervisor
  sockets : List Socket
  /-- The time, in nanoseconds. -/
  clock : Nat
  /-- How many deliveries have begun. -/
  deliveries : Nat
  /-- The code that runs, innermost first. -/
  stack : List Frame
  /-- The reply to the last command from outside. -/
  reply : Option Reply
  /-- What has happened, the last first. -/
  history : List Event

namespace World

/-- Nothing has happened yet. -/
def initial (parts : Parts) (setup : Setup) (hasRuntime : Bool) (stamps : Nat → Stamp) : World where
  parts := parts
  setup := setup
  hasRuntime := hasRuntime
  stamps := stamps
  stamped := 0
  router := .empty
  board := .empty
  link := .initial
  adapters := []
  subscriptions := []
  rooms := []
  feeds := []
  monitors := []
  handlerRuns := fun _ => 0
  listenerRuns := fun _ => 0
  supervisors := []
  sockets := []
  clock := 0
  deliveries := 0
  stack := []
  reply := none
  history := []

/-- One more thing has happened. -/
def happen (w : World) (e : Event) : World := { w with history := e :: w.history }

/-- A handler notes something down. -/
def note (w : World) (n : Note) : World := w.happen (.noted n)

/-- The client warns. -/
def warn (w : World) (topic : Option String) (message : String) : World :=
  w.happen (.warned .warning topic message)

/-- Puts a frame on the stack. -/
def push (w : World) (f : Frame) : World := { w with stack := f :: w.stack }

/-- Gives the reply to a command: to the handler that waits for it, or to the outside. -/
def answer (w : World) (r : Reply) : World :=
  match w.stack with
  | [] => { w with reply := some r }
  -- the innermost code is what waits for it
  | .script owner rest (some verb) :: stack =>
    { w with stack := .script owner rest none :: stack }.note (.did owner verb r)
  | _ => w

/-- An envelope with the next stamp. -/
def newEnvelope (w : World) (topic : String) (payload : Json) : World × Envelope :=
  ({ w with stamped := w.stamped + 1 }, .ofPayload (w.stamps w.stamped) topic payload)

/-- The next run of a counter. -/
def bump (runs : Nat → Nat) (id : Nat) : Nat → Nat := fun i => if i = id then runs i + 1 else runs i

end World

end LiveLink
