import LiveLink.Client.Finish
import LiveLink.Exchange.Server

/-!
# Coming to rest

A client and a server move each other on until both are at rest: no code runs,
every request that can be decided is, and all frames have been handled. Only
supervisors that wait for the time to pass are left then.
-/

namespace LiveLink

/-- A client and the server it talks to. -/
structure Exchange where
  world : World
  server : Server

namespace Exchange

/-- A supervisor moves by an action, and the server changes with it. -/
def move (x : Exchange) (a : Action) (server : Server) : Option Exchange :=
  (x.world.act a).map fun w => ⟨w, server⟩

/-- A stopped supervisor is dropped; its request with it. -/
def halt (x : Exchange) (id : Nat) : Option Exchange :=
  let server := match x.server.callOf? id with
    | some (n, c) =>
      let s := x.server.hang n c
      -- a request that was answered is not given up any more
      if c.state = .held then s.see n .gone else s
    | none => x.server
  x.move (.halt id) server

/-- A supervisor that asks for a socket: its request comes to the server, or is answered. -/
def answer (x : Exchange) (id : Nat) (url : Url) : Option Exchange :=
  if !x.server.reachable then x.move (.answered id false) x.server
  else
    match x.server.callOf? id with
    | none => some { x with server := x.server.ring id url.target }
    | some (n, c) =>
      match c.state with
      | .answering true => x.move (.answered id true) (x.server.setCall n { c with state := .running })
      | .answering false => x.move (.answered id false) (x.server.hang n c)
      | _ => none

/-- Whether a session is over once something has been read. -/
def endsSession : Incoming → Bool
  | .close | .ended | .broken => true
  | _ => false

/-- A session writes what it can, and reads what there is. -/
def converse (x : Exchange) (id socket : Nat) : Option Exchange :=
  match x.server.callOf? id with
  | none => none
  | some (n, c) =>
    let seen := match (x.world.sockets[socket]?).bind (·.queue.head?) with
      | some e => Sight.frame e
      | none => .close
    -- writing comes first, as long as there is something to write
    match x.move (.write id) (x.server.see n seen) with
    | some x => some x
    | none =>
      match c.inbox with
      | [] => none
      | i :: rest =>
        let server := if endsSession i then x.server.hang n c
          else x.server.setCall n { c with inbox := rest }
        x.move (.read id i) server

/-- A session that is closing is over. -/
def close (x : Exchange) (id : Nat) : Option Exchange :=
  let server := match x.server.callOf? id with
    | some (n, c) => x.server.hang n c
    | none => x.server
  x.move (.closed id) server

/-- The next move of a supervisor, if it can move. -/
def moveSupervisor (x : Exchange) (id : Nat) (s : Supervisor) : Option Exchange :=
  if s.stopped then x.halt id
  else
    match s.phase with
    | .opening url => x.answer id url
    | .inSession socket => x.converse id socket
    | .closing _ => x.close id
    | _ => x.move (.wake id) x.server

/-- The next move: of the code that runs, else of the first supervisor that can move. -/
def next (x : Exchange) : Option Exchange :=
  match x.move .go x.server with
  | some x => some x
  | none => x.world.supervisors.zipIdx.findSome? fun s => x.moveSupervisor s.2 s.1

/-- Moves on until both sides are at rest, at most so many moves. -/
def settleWithin : Nat → Exchange → Exchange
  | 0, x => x
  | n + 1, x =>
    match x.next with
    | none => x
    | some y => settleWithin n y

/-- Moves on until both sides are at rest. -/
def settle (x : Exchange) : Exchange := settleWithin World.patience x

/-- The application asks for something, and no supervisor moves. -/
def run (x : Exchange) (c : Command) : Exchange := { x with world := x.world.run c }

/-- Time passes, and no supervisor moves. -/
def pass (x : Exchange) (d : Span) : Exchange :=
  match x.world.act (.pass d.nanos) with
  | some w => { x with world := w }
  | none => x

end Exchange

end LiveLink
