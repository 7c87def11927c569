import LiveLink.Client.Adapting

/-!
# Delivery

An envelope goes to everyone who is registered when its delivery begins, and to
no one else; the handlers are called one after another. A handler that fails ends
there, keeps what it has done, and is not counted; the others are called all the
same. Changes of the status go to listeners in the same way, one change after
another.
-/

namespace LiveLink.World

/-- The call of a handler or a listener comes to its end. -/
def complete (w : World) : World :=
  match w.stack with
  | .delivery n e rest completed :: stack =>
    { w with stack := .delivery n e rest (completed + 1) :: stack }
  | _ => w

/-- What failed calls are reported under. -/
def failureTopic (w : World) : String :=
  match w.stack with
  | .delivery _ e _ _ :: _ => e.topic
  | _ => "connection.status"

/-- The call of a handler or a listener fails. -/
def failCall (w : World) (message : Option String) : World :=
  let failed := w.happen (.warned .error (some w.failureTopic)
    ("subscriber panicked: " ++ message.getD "non-string panic payload"))
  -- listeners that fail are reported, but nobody counts them
  match w.stack with
  | .delivery n _ _ _ :: _ => failed.happen (.crashed n)
  | _ => failed

/-- Begins the delivery of an envelope. -/
def dispatch (w : World) (e : Envelope) : World :=
  -- fixed from here on: registering and withdrawing count for later deliveries
  let audience := w.router.audience e.topic
  ({ w with deliveries := w.deliveries + 1 }.happen
    (.began w.deliveries e.topic (audience.map Entry.id))).push (.delivery w.deliveries e audience 0)

/-- Begins the delivery of the envelope in a frame. A frame that holds none is dropped. -/
def dispatchFrame (w : World) (frame : String) : World :=
  match Envelope.decode (w.stamps w.stamped) frame with
  | .ok e => { w with stamped := w.stamped + 1 }.dispatch e
  | .error e =>
    (w.warn none ("dropping undecodable frame: " ++ e.message ++ " | " ++
      String.ofList (frame.toList.take 100))).answer (.count 0)

/-- Delivers a change of the status, unless a delivery is under way that will do so. -/
def announceChange (w : World) (c : Change) : World :=
  let posted := { w with board := w.board.post c }.happen (.posted c)
  -- the delivery under way finds it on the queue, and the caller goes on at once
  if w.board.draining then posted.answer .none else posted.push (.announcement c [])

/-- The connection changes, and the listeners are told if the status does. -/
def turn (w : World) (t : Link × Option Change) : World :=
  let w := { w with link := t.1 }
  match t.2 with
  | some c => (w.happen (.changed c)).announceChange c
  | none => w.answer .none

/-- A payload is not what a handler reads; the handler has nothing to do. -/
def skipPayload (w : World) (e : Envelope) (m : Json.Mismatch) : World :=
  (w.warn (some e.topic)
    ("payload does not match subscriber type: " ++ Envelope.mismatchMessage m)).complete

/-- A handler of the application notes what it was called with and starts on its commands. -/
def runHandler (w : World) (id : Nat) (owner : String) (n : Note) (script : Script) : World :=
  ({ w with handlerRuns := bump w.handlerRuns id }.note n).push
    (.script owner (script (w.handlerRuns id)) none)

/-- Calls a handler with an envelope. -/
def callHandler (w : World) (h : Entry Handler) (e : Envelope) : World :=
  match h.handler with
  | .app name full none script =>
    let stamp := if full then some ⟨e.id, e.timestamp⟩ else none
    w.runHandler h.id name (.got name e.topic e.payload stamp) script
  | .app name _ (some kind) script =>
    match kind.reread e.payload with
    | .ok shown => w.runHandler h.id name (.typed name e.topic shown.write) script
    | .error m => w.skipPayload e m
  | .view adapter =>
    match w.viewOf? adapter with
    | none => w.complete
    | some v =>
      match v.receive e with
      | .ok v => (w.setView adapter v).complete
      | .error m => w.skipPayload e m

/-- Calls a listener with a status. -/
def callListener (w : World) (l : Entry Listener) (s : Status) : World :=
  match l.handler with
  | .app name only script =>
    -- a call is noted even if it is not one that the script waits for
    let noted := w.note (.status name s)
    if only.all (· = s) then
      { noted with listenerRuns := bump w.listenerRuns l.id }.push
        (.script name (script (w.listenerRuns l.id)) none)
    else noted
  | .view adapter => if s = .connected then w.announce adapter else w

/-- Goes on with a delivery of changes: takes the next one off the queue, or ends. -/
def nextChange (w : World) (c : Change) : World :=
  let (board, next) := w.board.take
  let w := { w with board := board }
  match next with
  | .idle => w.answer .none
  | .stale old => (w.happen (.skipped old)).push (.announcement c [])
  | .deliver new listeners =>
    (w.happen (.announced new (listeners.map Entry.id))).push (.announcement new listeners)

end LiveLink.World
