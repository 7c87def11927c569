import LiveLink.Client.Perform

/-!
# The steps of a supervisor

What a supervisor does from one rest to the next, and what the code on the stack
does next.
-/

namespace LiveLink.World

/-- A supervisor rests in a phase. -/
def rest (w : World) (id : Nat) (p : Phase) : World :=
  { w with supervisors := w.supervisors.modify id ({ · with phase := p }) }

/-- A supervisor comes to its end. -/
def finish (w : World) (id : Nat) : World := (w.rest id .finished).happen (.finished id)

/-- The URL of an attempt that starts now. -/
def endpoint (w : World) : Url := w.setup.url.withToken w.setup.tokenParam w.link.token

/-- A supervisor asks for a socket. -/
def dial (w : World) (id : Nat) (s : Supervisor) : World :=
  let url := w.endpoint
  (w.rest id (.opening url)).happen (.dialled id s.generation url)

/-- A supervisor goes on once the listeners have been told. -/
def resume (w : World) (id : Nat) (next : Resumption) : World :=
  match w.supervisors[id]?, next with
  | some _, .session socket => w.rest id (.inSession socket)
  | some _, .sleep wait => w.rest id (.sleeping (w.clock + wait.nanos))
  | some s, .dial => w.dial id s
  | none, _ => w

/-- The attempt or the session of a supervisor has failed. It tries again later, unless its
generation has passed. -/
def tryLater (w : World) (id : Nat) (s : Supervisor) : World :=
  match w.link.fail s.generation with
  | none => w.finish id
  | some t =>
    -- the count before this failure: the first wait is the base
    let wait := w.setup.backoff.delay w.link.attempts
    ((w.happen (.failed t.1.attempts wait)).push (.supervisor id (.sleep wait))).turn t

/-- The session of a supervisor is over. -/
def sessionOver (w : World) (id : Nat) (s : Supervisor) (socket : Nat) : World :=
  let w := w.happen (.dropped socket)
  -- a session that was told to close ends without a warning
  if w.link.generation = s.generation then
    (w.warn none "realtime session ended").tryLater id s
  else w.finish id

/-- Whether a supervisor has come to its end. -/
def isFinished (w : World) (id : Nat) : Bool :=
  (w.supervisors[id]?).all (·.phase = .finished)

/-- A supervisor whose wait is over goes on. -/
def wake (w : World) (id : Nat) (s : Supervisor) : Option World :=
  match s.phase with
  | .fresh none => some (w.dial id s)
  -- the session before may still be flushing what was queued
  | .fresh (some previous) =>
    if w.isFinished previous then some (w.dial id s)
    else some (w.rest id (.waiting previous (w.clock + closeGrace.nanos)))
  | .waiting previous deadline =>
    if w.isFinished previous then some (w.dial id s)
    else if deadline ≤ w.clock then
      -- the grace is over: the old socket is dropped before a new one is asked for
      some (((w.warn none "previous session did not close in time").stopSupervisor
        (some previous)).dial id s)
    else none
  | .sleeping deadline =>
    if deadline ≤ w.clock then
      -- another supervisor may be in charge by now
      match w.link.retry s.generation with
      | none => some (w.finish id)
      | some t => some ((w.push (.supervisor id .dial)).turn t)
    else none
  | _ => none

/-- A stopped supervisor is dropped where it rests, and its socket with it. -/
def halt (w : World) (id : Nat) (s : Supervisor) : Option World :=
  match s.phase with
  | .finished => none
  | .inSession socket | .closing socket => some ((w.happen (.dropped socket)).finish id)
  | _ => some (w.finish id)

/-- The request of a supervisor is answered: there is a socket, or there is none. -/
def answered (w : World) (id : Nat) (s : Supervisor) (accepted : Bool) : Option World :=
  match s.phase with
  | .opening _ =>
    if accepted then
      let socket := w.sockets.length
      match w.link.startSession s.generation socket with
      -- it comes for a generation that has passed, and is given up unused
      | none => some (w.finish id)
      | some t =>
        let w := { w with sockets := w.sockets ++ [Socket.mk []] }.rest id (.inSession socket)
        some (((w.happen (.opened id socket)).push (.supervisor id (.session socket))).turn t)
    else some ((w.warn none "connect attempt failed").tryLater id s)
  | _ => none

/-- A session writes the next envelope, or the close frame when there is no queue any more. -/
def write (w : World) (id : Nat) (s : Supervisor) : Option World :=
  match s.phase with
  | .inSession socket =>
    match w.sockets[socket]? with
    | some ⟨e :: queue⟩ =>
      some ({ w with sockets := w.sockets.set socket ⟨queue⟩ }.happen (.wrote socket e))
    | _ =>
      -- nothing to write: for now, or for good once the client sends elsewhere
      if w.link.outbound = some socket then none
      else some ((w.rest id (.closing socket)).happen (.wroteClose socket))
  | _ => none

/-- A session cannot write what it has taken off its queue. -/
def breakWrite (w : World) (id : Nat) (s : Supervisor) : Option World :=
  match s.phase with
  | .inSession socket =>
    match w.sockets[socket]? with
    | some ⟨_ :: queue⟩ =>
      -- the envelope is off its queue already, and is lost with the socket
      some ({ w with sockets := w.sockets.set socket ⟨queue⟩ }.sessionOver id s socket)
    | _ => none
  | _ => none

/-- A session delivers a frame that it has read. -/
def deliverFrame (w : World) (id socket : Nat) (text : String) : World :=
  (w.push (.supervisor id (.session socket))).dispatchFrame text

/-- A session reads from its socket. -/
def read (w : World) (id : Nat) (s : Supervisor) (i : Incoming) : Option World :=
  match s.phase with
  | .inSession socket =>
    let w := w.happen (.read socket i)
    match i with
    | .text t => some (w.deliverFrame id socket t)
    | .binary bytes =>
      match Text.Utf8.decode? bytes with
      | some t => some (w.deliverFrame id socket t)
      | none => some (w.warn none "dropping non UTF-8 binary frame")
    -- pings and pongs are the business of the socket
    | .control => some w
    | .close | .ended | .broken => some (w.sessionOver id s socket)
  | _ => none

/-- The other side has seen the close frame. -/
def closed (w : World) (id : Nat) (s : Supervisor) : Option World :=
  match s.phase with
  | .closing socket => some (w.sessionOver id s socket)
  | _ => none

/-- The next step of the code that runs. -/
def go (w : World) : Option World :=
  match w.stack with
  | [] => none
  | .script _ [] _ :: stack => some { w with stack := stack }.complete
  | .script owner (c :: rest) _ :: stack =>
    some ({ w with stack := .script owner rest (some c.verb) :: stack }.perform c)
  | .delivery n _ [] completed :: stack =>
    some (({ w with stack := stack }.happen (.ended n completed)).answer (.count completed))
  | .delivery n e (h :: rest) completed :: stack =>
    -- off the list before the call, since the handler may call the client
    let w := { w with stack := .delivery n e rest completed :: stack }
    some ((w.happen (.called n h.id)).callHandler h e)
  | .announcement c [] :: stack => some ({ w with stack := stack }.nextChange c)
  | .announcement c (l :: rest) :: stack =>
    let w := { w with stack := .announcement c rest :: stack }
    some ((w.happen (.heard c l.id)).callListener l c.status)
  | .connecting generation previous :: stack =>
    some (({ w with stack := stack }.startSupervisor generation previous).answer .none)
  | .supervisor id next :: stack => some ({ w with stack := stack }.resume id next)

end LiveLink.World
