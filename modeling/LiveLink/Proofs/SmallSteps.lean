import LiveLink.Proofs.Operations

/-!
# The small steps of actions

One action may run through a handler, a view, a command and a change of the
connection. This file takes every action apart, once, into small steps of the
world that each say under what condition they happen. `act_steps` is the result:
whatever holds at first and is kept by each small step holds after every action,
so the invariants of the other files look at these steps only.

Most of them are **data steps**: they leave the connection, the supervisors and
the delivery of status changes as they are. The others are the steps of the
connection itself, of the status board and of the supervisors.
-/

namespace LiveLink.Proofs

open LiveLink Relation

/-! ## Data steps -/

/-- Code that may ask for something: a handler or a supervisor. -/
def acts : Frame → Bool
  | .script .. | .supervisor .. => true
  | _ => false

/-- The code that runs, if any does, is a handler or a supervisor. -/
def Acting (w : World) : Prop := ∀ f ∈ w.stack.head?, acts f

/-- A handler that asks for something is code that acts. -/
theorem Asking.acting {w : World} (h : Asking w) : Acting w := by
  intro f hf
  have hscript := h f hf
  cases f with
  | script o cs a => rfl
  | _ => exact absurd hscript (by simp [isScript])

/-- What an action is: a command, from outside or of the handler that runs; the step of a
supervisor; or anything else. -/
inductive Cause where
  | asked (c : Command)
  | supervisor (id : Nat)
  | other

/-- The cause of what an action does in a world. -/
def cause (w : World) : Action → Cause
  | .command c => .asked c
  | .go =>
    match w.stack with
    | .script _ (c :: _) _ :: _ => .asked c
    | _ => .other
  | .wake id | .halt id | .answered id _ | .write id | .breakWrite id | .read id _ | .closed id =>
    .supervisor id
  | .pass _ => .other

/-- An action carries out a command of some kind. -/
def Commanded (kind : Command → Bool) (u : World) (act : Action) : Prop :=
  ∃ c, cause u act = .asked c ∧ kind c = true

/-- The text in what a session reads. -/
def textOf : Incoming → Option String
  | .text t => some t
  | .binary bytes => Text.Utf8.decode? bytes
  | _ => none

/-- The envelope in what an action reads. -/
def arrival (w : World) : Action → Option Envelope
  | .read _ i => (textOf i).bind fun t => (Envelope.decode (w.stamps w.stamped) t).toOption
  | _ => none

/-- The supervisor whose attempt or session fails. -/
def failing : Action → Option Nat
  | .answered id false | .breakWrite id | .closed id => some id
  | .read id .close | .read id .ended | .read id .broken => some id
  | _ => none

/-- The view that an action calls with an envelope. -/
def CallsView (n : Nat) (u : World) (act : Action) : Prop :=
  act = .go ∧ ∃ k e l rest done tail,
    u.stack = .delivery k e (l :: rest) done :: tail ∧ l.handler = .view n

/-- An action may queue messages: it is a command that tells the server something or that begins or
ends a view, or it calls a view that listens with *connected*. -/
inductive MayTell (u : World) (act : Action) : Prop where
  | tellsServer (h : Commanded tellsServer u act)
  | registers (h : Commanded registers u act)
  | heard {c : Change} {l : Entry Listener} {rest : List (Entry Listener)} {tail : List Frame}
      {n : Nat} (ha : act = .go) (hs : u.stack = .announcement c (l :: rest) :: tail)
      (hl : l.handler = .view n) (hc : c.status = .connected) : MayTell u act

/-- Two worlds that differ at most in counters of runs and stamps, in the reply, and in which parts
can be reached. -/
structure Alike (w w' : World) : Prop where
  setup : w'.setup = w.setup
  hasRuntime : w'.hasRuntime = w.hasRuntime
  stamps : w'.stamps = w.stamps
  router : w'.router = w.router
  board : w'.board = w.board
  link : w'.link = w.link
  adapters : w'.adapters = w.adapters
  subscriptions : w'.subscriptions = w.subscriptions
  rooms : w'.rooms = w.rooms
  feeds : w'.feeds = w.feeds
  monitors : w'.monitors = w.monitors
  supervisors : w'.supervisors = w.supervisors
  sockets : w'.sockets = w.sockets
  clock : w'.clock = w.clock
  deliveries : w'.deliveries = w.deliveries
  stack : w'.stack = w.stack
  history : w'.history = w.history
  /-- A board of its own is never gained. -/
  parts : w'.parts.board = true → w.parts.board = true

/-- A world with the counters and the reply of another. -/
def withCounters (w v : World) : World :=
  { w with
    stamped := v.stamped
    handlerRuns := v.handlerRuns
    listenerRuns := v.listenerRuns
    reply := v.reply }

/-- Counting a run, using a stamp up or replying makes a world that is alike. -/
theorem alike_withCounters (w v : World) : Alike w (withCounters w v) :=
  ⟨rfl, rfl, rfl, rfl, rfl, rfl, rfl, rfl, rfl, rfl, rfl, rfl, rfl, rfl, rfl, rfl, rfl, fun h => h⟩

/-- So does dropping a part, since a board is never gained. -/
theorem alike_parts (w : World) (p : Parts) (hp : p.board = true → w.parts.board = true) :
    Alike w { w with parts := p } :=
  ⟨rfl, rfl, rfl, rfl, rfl, rfl, rfl, rfl, rfl, rfl, rfl, rfl, rfl, rfl, rfl, rfl, rfl, hp⟩

/-- A change that leaves the connection, the supervisors and the status changes as they are, while
an action is carried out that was taken in a world `u`. Where only some actions make such a change,
it says which. -/
inductive DataStep (u : World) (act : Action) (w : World) : World → Prop where
  | counters {w' : World} (h : Alike w w') : DataStep u act w w'
  | handles (t : Table Subscription) (hy : Commanded registers u act) :
      DataStep u act w { w with subscriptions := t }
  | names (rooms feeds monitors : Table Nat) (hy : Commanded registers u act) :
      DataStep u act w { w with rooms := rooms, feeds := feeds, monitors := monitors }
  /-- A view begins or ends. -/
  | adapters (l : List Adapter) (hy : Commanded registers u act) :
      DataStep u act w { w with adapters := l }
  /-- A view shows something else. -/
  | setView (n : Nat) (v : View) (hy : Commanded tellsServer u act ∨ CallsView n u act) :
      DataStep u act w (w.setView n v)
  | report (e : Event) (he : isReport e = true) : DataStep u act w (w.happen e)
  | token (t : Option String) (hy : cause u act = .asked (.setToken t)) :
      DataStep u act w { w with link := { w.link with token := t } }
  | addHandler (s : Scope) (h : Handler) (hy : Commanded registers u act) :
      DataStep u act w (w.addHandler s h).1
  | addListener (l : Listener) (hy : Commanded registers u act) :
      DataStep u act w (w.addListener l).1
  | withdraw (p : Place) (id : Nat) (hy : Commanded registers u act) :
      DataStep u act w (w.withdraw p id)
  | enqueue {socket : Nat} (e : Envelope) (hs : w.link.sendsTo = some socket)
      (hy : MayTell u act) : DataStep u act w (w.enqueue socket e)
  /-- A handler takes its next command up, or gets the reply to one. -/
  | script {o : String} {cs : List Command} {a : Option String} {tail : List Frame}
      (cs' : List Command) (a' : Option String) (hs : w.stack = .script o cs a :: tail) :
      DataStep u act w { w with stack := .script o cs' a' :: tail }
  /-- A handler comes to its end. -/
  | returned {o : String} {a : Option String} {tail : List Frame}
      (hs : w.stack = .script o [] a :: tail) (hu : act = .go ∧ w = u) :
      DataStep u act w { w with stack := tail }.complete
  /-- A handler fails. -/
  | failed {o : String} {cs : List Command} {a : Option String} {tail : List Frame}
      (m : Option String) (hs : w.stack = .script o cs a :: tail) :
      DataStep u act w ({ w with stack := tail }.failCall m)
  /-- A delivery begins, for whoever asks for one or for a session that has read the envelope. -/
  | dispatch (e : Envelope) (hw : Acting w)
      (hy : (Commanded dispatches u act ∧ Asking w) ∨ arrival u act = some e) :
      DataStep u act w (w.dispatch e)
  /-- A delivery calls a handler of the application, before anything else happens. -/
  | called {n k : Nat} {e : Envelope} {h : Entry Handler} {rest : List (Entry Handler)}
      {tail : List Frame} (o : String) (cs : List Command)
      (hs : w.stack = .delivery n e (h :: rest) k :: tail) (hu : act = .go ∧ w = u) :
      DataStep u act w ({ w with stack := .script o cs none :: .delivery n e rest k :: tail }.happen
        (.called n h.id))
  /-- A delivery calls a handler that comes to its end at once. -/
  | calledOnce {n k : Nat} {e : Envelope} {h : Entry Handler} {rest : List (Entry Handler)}
      {tail : List Frame} (hs : w.stack = .delivery n e (h :: rest) k :: tail)
      (hu : act = .go ∧ w = u) :
      DataStep u act w
        ({ w with stack := .delivery n e rest (k + 1) :: tail }.happen (.called n h.id))
  | ended {n k : Nat} {e : Envelope} {tail : List Frame}
      (hs : w.stack = .delivery n e [] k :: tail) (hu : act = .go ∧ w = u) :
      DataStep u act w ({ w with stack := tail }.happen (.ended n k))

/-! ## Moves of the connection -/

/-- Puts a change on the queue; who finds no delivery under way begins one. -/
def offer (w : World) (c : Change) : World :=
  { w with
    board := w.board.post c
    history := .posted c :: w.history
    stack := (if w.board.draining then [] else [.announcement c []]) ++ w.stack }

/-- The connection changes, and a change of the status is offered to the listeners. -/
def shift (w : World) (t : Link × Option Change) : World :=
  match t.2 with
  | some c => offer ({ w with link := t.1 }.happen (.changed c)) c
  | none => { w with link := t.1 }

/-- No code runs, and a supervisor stands as given. -/
structure AtRest (w : World) (id : Nat) (s : Supervisor) : Prop where
  stack : w.stack = []
  supervisor : w.supervisors[id]? = some s

/-- The sockets that a supervisor leaves when its attempt or its session ends. -/
inductive Leftover (w : World) (s : Supervisor) : List Socket → Prop where
  | whole : Leftover w s w.sockets
  /-- A session loses what it was about to write. -/
  | short {socket : Nat} {e : Envelope} {queue : List Envelope} (hp : s.phase = .inSession socket)
      (hq : w.sockets[socket]? = some ⟨e :: queue⟩) :
      Leftover w s (w.sockets.set socket ⟨queue⟩)

/-- What a supervisor leaves depends on the sockets only. -/
theorem Leftover.congr {w w' : World} {s : Supervisor} {sockets : List Socket}
    (h : Leftover w s sockets) (hw : w'.sockets = w.sockets) : Leftover w' s sockets := by
  cases h with
  | whole => rw [← hw]; exact .whole
  | short hp hq => rw [← hw]; exact .short hp (hw ▸ hq)

/-- One small change of a world, while an action is carried out that was taken in a world `u`. -/
inductive SmallStep (u : World) (act : Action) (w : World) : World → Prop where
  | data {w' : World} (h : DataStep u act w w') : SmallStep u act w w'
  | pass (nanos : Nat) (hs : w.stack = []) : SmallStep u act w { w with clock := w.clock + nanos }
  /-- Someone who has the board for himself announces a change. -/
  | announce (c : Change) (hw : Acting w) (hb : w.parts.board = true) :
      SmallStep u act w (offer w c)
  /-- A listener is called and has nothing to do, or does it at once. -/
  | heardOnce {c : Change} {l : Entry Listener} {rest : List (Entry Listener)} {tail : List Frame}
      (hs : w.stack = .announcement c (l :: rest) :: tail) (hu : act = .go ∧ w = u) :
      SmallStep u act w ({ w with stack := .announcement c rest :: tail }.happen (.heard c l.id))
  | heard {c : Change} {l : Entry Listener} {rest : List (Entry Listener)} {tail : List Frame}
      (o : String) (cs : List Command) (hs : w.stack = .announcement c (l :: rest) :: tail)
      (hu : act = .go ∧ w = u) :
      SmallStep u act w
        ({ w with stack := .script o cs none :: .announcement c rest :: tail }.happen
        (.heard c l.id))
  | drained {c : Change} {tail : List Frame} (hs : w.stack = .announcement c [] :: tail)
      (hp : w.board.pending = []) (hu : act = .go ∧ w = u) :
      SmallStep u act w { w with stack := tail, board := { w.board with draining := false } }
  | skipped {c old : Change} {rest : List Change} {tail : List Frame}
      (hs : w.stack = .announcement c [] :: tail) (hp : w.board.pending = old :: rest)
      (hd : old.number ≤ w.board.delivered) (hu : act = .go ∧ w = u) :
      SmallStep u act w ({ w with board := { w.board with pending := rest } }.happen (.skipped old))
  | announced {c new : Change} {rest : List Change} {tail : List Frame}
      (hs : w.stack = .announcement c [] :: tail) (hp : w.board.pending = new :: rest)
      (hd : w.board.delivered < new.number) (hu : act = .go ∧ w = u) :
      SmallStep u act w ({ w with
        stack := .announcement new w.board.listeners :: tail
        board := { w.board with pending := rest, delivered := new.number } }.happen
          (.announced new (w.board.listeners.map Entry.id)))
  | connect (hy : cause u act = .asked .connect) (hw : Acting w) (hr : w.hasRuntime = true)
      (hm : w.link.mayConnect = true) :
      SmallStep u act w (shift ((w.stopSupervisor w.link.supervisor).push
        (.connecting w.link.startConnecting.1.generation w.link.closing)) w.link.startConnecting)
  | disconnect (hy : cause u act = .asked .disconnect) (hw : Acting w) :
      SmallStep u act w (shift (w.stopSupervisor w.link.idleSupervisor) w.link.stop)
  | start {g : Nat} {previous : Option Nat} {tail : List Frame}
      (hs : w.stack = .connecting g previous :: tail) (hu : act = .go ∧ w = u) :
      SmallStep u act w ({ w with stack := tail }.startSupervisor g previous)
  | resume {id : Nat} {next : Resumption} {tail : List Frame}
      (hs : w.stack = .supervisor id next :: tail) (hu : act = .go ∧ w = u) :
      SmallStep u act w ({ w with stack := tail }.resume id next)
  | dial {id : Nat} {s : Supervisor} (hr : AtRest w id s) (hs : s.stopped = false)
      (hp : s.phase = .fresh none ∨ ∃ p, w.isFinished p = true ∧
        (s.phase = .fresh (some p) ∨ ∃ d, s.phase = .waiting p d)) (ha : act = .wake id) :
      SmallStep u act w (w.dial id s)
  | wait {id p : Nat} {s : Supervisor} (hr : AtRest w id s) (hs : s.stopped = false)
      (hp : s.phase = .fresh (some p)) (hf : w.isFinished p = false) (ha : act = .wake id) :
      SmallStep u act w (w.rest id (.waiting p (w.clock + closeGrace.nanos)))
  | giveUp {id p d : Nat} {s : Supervisor} (hr : AtRest w id s) (hs : s.stopped = false)
      (hp : s.phase = .waiting p d) (hf : w.isFinished p = false) (hd : d ≤ w.clock)
      (ha : act = .wake id) :
      SmallStep u act w ((w.stopSupervisor (some p)).dial id s)
  | retry {id d : Nat} {s : Supervisor} {t : Link × Option Change}
      (hy : cause u act = .supervisor id)
      (hr : AtRest w id s)
      (hs : s.stopped = false) (hp : s.phase = .sleeping d) (hd : d ≤ w.clock)
      (ht : w.link.retry s.generation = some t) (ha : act = .wake id) :
      SmallStep u act w (shift (w.push (.supervisor id .dial)) t)
  /-- A supervisor of an earlier generation ends. -/
  | leave {id : Nat} {s : Supervisor} {sockets : List Socket} (hr : AtRest w id s)
      (hs : s.stopped = false) (hg : w.link.generation ≠ s.generation)
      (hl : Leftover w s sockets) : SmallStep u act w ({ w with sockets := sockets }.finish id)
  | halt {id : Nat} {s : Supervisor} (hr : AtRest w id s) (hs : s.stopped = true)
      (hp : s.phase ≠ .finished) : SmallStep u act w (w.finish id)
  | opened {id : Nat} {s : Supervisor} {url : Url} {t : Link × Option Change}
      (hy : cause u act = .supervisor id) (hr : AtRest w id s)
      (hs : s.stopped = false) (hp : s.phase = .opening url)
      (ht : w.link.startSession s.generation w.sockets.length = some t)
      (ha : act = .answered id true) :
      SmallStep u act w (shift ((({ w with sockets := w.sockets ++ [Socket.mk []] }.rest id
        (.inSession w.sockets.length)).happen (.opened id w.sockets.length)).push
          (.supervisor id (.session w.sockets.length))) t)
  /-- An attempt or a session has failed. -/
  | failed {id : Nat} {s : Supervisor} {t : Link × Option Change} {sockets : List Socket}
      (hy : cause u act = .supervisor id) (hr : AtRest w id s) (hs : s.stopped = false)
      (hp : (∃ url, s.phase = .opening url) ∨
        ∃ socket, s.phase = .inSession socket ∨ s.phase = .closing socket)
      (ht : w.link.fail s.generation = some t) (hl : Leftover w s sockets)
      (ha : failing act = some id) :
      SmallStep u act w (shift (({ w with sockets := sockets }.happen
        (.failed t.1.attempts (w.setup.backoff.delay w.link.attempts))).push
          (.supervisor id (.sleep (w.setup.backoff.delay w.link.attempts)))) t)
  | dropped {id socket : Nat} {s : Supervisor} (hr : AtRest w id s)
      (hp : s.phase = .inSession socket ∨ s.phase = .closing socket) :
      SmallStep u act w (w.happen (.dropped socket))
  | wrote {id socket : Nat} {s : Supervisor} {e : Envelope} {queue : List Envelope}
      (hr : AtRest w id s) (hs : s.stopped = false) (hp : s.phase = .inSession socket)
      (hq : w.sockets[socket]? = some ⟨e :: queue⟩) :
      SmallStep u act w
        ({ w with sockets := w.sockets.set socket ⟨queue⟩ }.happen (.wrote socket e))
  | wroteClose {id socket : Nat} {s : Supervisor} (hr : AtRest w id s) (hs : s.stopped = false)
      (hp : s.phase = .inSession socket)
      (hq : ∀ e queue, w.sockets[socket]? ≠ some ⟨e :: queue⟩)
      (ho : w.link.outbound ≠ some socket) :
      SmallStep u act w ((w.rest id (.closing socket)).happen (.wroteClose socket))
  | read {id socket : Nat} {s : Supervisor} (i : Incoming) (hr : AtRest w id s)
      (hs : s.stopped = false) (hp : s.phase = .inSession socket) :
      SmallStep u act w (w.happen (.read socket i))
  /-- A session hands a frame over, and is to go on afterwards. -/
  | enter {id socket : Nat} {s : Supervisor} (hr : AtRest w id s) (hs : s.stopped = false)
      (hp : s.phase = .inSession socket) :
      SmallStep u act w (w.push (.supervisor id (.session socket)))

/-- Any number of small changes in the course of one action. -/
abbrev SmallSteps (u : World) (act : Action) : World → World → Prop :=
  ReflTransGen (SmallStep u act)

variable {u : World} {act : Action}

theorem SmallSteps.data {w w' : World} (h : DataStep u act w w') : SmallSteps u act w w' :=
  .single (.data h)

/-- To count, to use a stamp up or to reply to the outside is a data step. -/
theorem SmallSteps.counters {w w' : World} (h : w' = withCounters w w') :
    SmallSteps u act w w' := by
  rw [h]
  exact .data (.counters (alike_withCounters w w'))

/-- So is a report for a reader of the history. -/
theorem SmallSteps.report (w : World) {e : Event} (he : isReport e = true) :
    SmallSteps u act w (w.happen e) :=
  .data (.report e he)

theorem SmallSteps.note (w : World) (n : Note) : SmallSteps u act w (w.note n) :=
  SmallSteps.report w rfl

theorem SmallSteps.warn (w : World) (topic : Option String) (message : String) :
    SmallSteps u act w (w.warn topic message) := SmallSteps.report w rfl

/-! ## Answers, registrations, sending -/

/-- A reply goes to the outside, or to the handler that awaits it, which notes it. -/
theorem answer_steps (w : World) (r : Reply) : SmallSteps u act w (w.answer r) := by
  unfold World.answer
  split
  · exact SmallSteps.counters rfl
  · rename_i owner rest verb tail hs
    exact (SmallSteps.data (.script rest none hs)).trans (SmallSteps.report _ rfl)
  · exact .refl

theorem keep_steps (hy : Commanded registers u act) (w : World) (name : String) (p : Place)
    (id : Nat) : SmallSteps u act w (w.keep name p id) := SmallSteps.data (.handles _ hy)

theorem subscribe_steps (hy : Commanded registers u act) (w : World) (name : String) (s : Scope)
    (h : Handler) : SmallSteps u act w (w.subscribe name s h).1 :=
  (SmallSteps.data (.addHandler s h hy)).trans (keep_steps hy _ name _ _)

theorem listen_steps (hy : Commanded registers u act) (w : World) (name : String) (l : Listener) :
    SmallSteps u act w (w.listen name l).1 :=
  (SmallSteps.data (.addListener l hy)).trans (keep_steps hy _ name _ _)

theorem unsubscribe_steps (hy : Commanded registers u act) (w : World) (name : String)
    (s : Subscription) : SmallSteps u act w (w.unsubscribe name s) := by
  unfold World.unsubscribe
  split
  · exact (SmallSteps.data (.handles _ hy)).trans (SmallSteps.data (.withdraw s.place s.id hy))
  · exact .refl

theorem newEnvelope_steps (w : World) (topic : String) (payload : Json) :
    SmallSteps u act w (w.newEnvelope topic payload).1 := SmallSteps.counters rfl

/-- A message uses a stamp up in any case, and is queued if there is a session. -/
theorem sendPayload_steps (hy : MayTell u act) (w : World) (topic : String) (payload : Json) :
    SmallSteps u act w (w.sendPayload topic payload).1 := by
  unfold World.sendPayload
  dsimp only
  split
  · rename_i socket hs
    exact (newEnvelope_steps w topic payload).trans (SmallSteps.data (.enqueue _ hs hy))
  · exact newEnvelope_steps w topic payload

theorem sendAll_steps (hy : MayTell u act) (w : World) (notices : List Notice) :
    SmallSteps u act w (w.sendAll notices) := by
  unfold World.sendAll
  induction notices generalizing w with
  | nil => exact .refl
  | cons n rest ih => exact (sendPayload_steps hy w n.1 n.2).trans (ih _)

/-! ## Views -/

theorem announce_steps (hy : MayTell u act) (w : World) (adapter : Nat) :
    SmallSteps u act w (w.announce adapter) := by
  unfold World.announce
  split
  · exact sendAll_steps hy w _
  · exact .refl

theorem addHandlers_steps (hy : Commanded registers u act) (w : World) (h : Handler)
    (topics : List String) : SmallSteps u act w (w.addHandlers h topics).1 := by
  induction topics generalizing w with
  | nil => exact .refl
  | cons topic rest ih => exact (SmallSteps.data (.addHandler (.topic topic) h hy)).trans (ih _)

/-- A view starts with its handlers, announces itself if there is a session, and only then listens
to the status. -/
theorem startView_steps (hy : Commanded registers u act) (w : World) (v : View) :
    SmallSteps u act w (w.startView v).1 := by
  unfold World.startView
  dsimp only
  refine (addHandlers_steps hy w (.view w.adapters.length) v.topics).trans ?_
  -- the numbers of the handlers do not matter here
  generalize (w.addHandlers (.view w.adapters.length) v.topics) = p
  refine ReflTransGen.trans (b := { p.1 with adapters := p.1.adapters ++ [⟨v, p.2, 0, true⟩] })
    (SmallSteps.data (.adapters _ hy)) ?_
  -- the announcement is that of `announce`, and needs a session
  have announced : ∀ x : World, SmallSteps u act x
      (if x.link.status = .connected then x.announce w.adapters.length else x) := by
    intro x
    split
    · exact announce_steps (.registers hy) x _
    · exact .refl
  refine (announced _).trans ?_
  exact (SmallSteps.data (.addListener (.view w.adapters.length) hy)).trans
    (SmallSteps.data (.adapters _ hy))

theorem withdrawAll_steps (hy : Commanded registers u act) (w : World)
    (handlers : List (String × Nat)) :
    SmallSteps u act w (handlers.foldl (fun w h => w.withdraw (.router (.topic h.1)) h.2) w) := by
  induction handlers generalizing w with
  | nil => exact .refl
  | cons h rest ih => exact (SmallSteps.data (.withdraw (.router (.topic h.1)) h.2 hy)).trans (ih _)

/-- A view ends with its handlers and its listener before it says so. -/
theorem endView_steps (hy : Commanded registers u act) (w : World) (number : Nat) :
    SmallSteps u act w (w.endView number) := by
  unfold World.endView
  split
  · exact .refl
  · rename_i a ha
    refine ReflTransGen.trans
      (b := { w with adapters := w.adapters.modify number ({ · with live := false }) })
      (SmallSteps.data (.adapters _ hy)) ?_
    refine (withdrawAll_steps hy _ a.handlers).trans ?_
    exact (SmallSteps.data (.withdraw .board a.listener hy)).trans
      (sendAll_steps (.registers hy) _ _)

/-! ## Delivery -/

/-- The envelope of a frame is delivered for a command, or because a session has read it. -/
theorem dispatchFrame_steps {w : World} (hw : Acting w) (frame : String)
    (hy : ∀ e, Envelope.decode (w.stamps w.stamped) frame = .ok e →
      (Commanded dispatches u act ∧ Asking w) ∨ arrival u act = some e) :
    SmallSteps u act w (w.dispatchFrame frame) := by
  unfold World.dispatchFrame
  split
  · rename_i e he
    have hw' : Acting { w with stamped := w.stamped + 1 } := hw
    exact (SmallSteps.counters rfl).trans (SmallSteps.data (.dispatch e hw' (hy e he)))
  · exact (SmallSteps.report w rfl).trans (answer_steps _ _)

/-- Whoever finds a delivery of changes under way leaves the change to it and is answered at
once. -/
theorem announceChange_eq (w : World) (c : Change) :
    w.announceChange c = if w.board.draining then (offer w c).answer .none else offer w c := by
  unfold World.announceChange offer
  cases hd : w.board.draining with
  | true => rfl
  | false => rfl

theorem offer_announceChange (w : World) (c : Change) :
    SmallSteps u act (offer w c) (w.announceChange c) := by
  rw [announceChange_eq]
  split
  · exact answer_steps _ _
  · exact .refl

/-- A reply to whoever asked is all that `World.turn` adds to a shift. -/
theorem shift_turn (w : World) (t : Link × Option Change) :
    SmallSteps u act (shift w t) (w.turn t) := by
  obtain ⟨l, change⟩ := t
  cases change with
  | some c => exact offer_announceChange _ c
  | none => exact answer_steps { w with link := l } .none

/-! ## Commands -/

/-- To tell a supervisor to stop touches nothing but the supervisors. -/
@[simp] theorem stopSupervisor_link (w : World) (id : Option Nat) :
    (w.stopSupervisor id).link = w.link := by
  cases id <;> rfl

@[simp] theorem stopSupervisor_stack (w : World) (id : Option Nat) :
    (w.stopSupervisor id).stack = w.stack := by
  cases id <;> rfl

theorem stopSupervisor_router (w : World) (id : Option Nat) :
    (w.stopSupervisor id).router = w.router := by
  cases id <;> rfl

theorem stopSupervisor_board (w : World) (id : Option Nat) :
    (w.stopSupervisor id).board = w.board := by
  cases id <;> rfl

theorem stopSupervisor_history (w : World) (id : Option Nat) :
    (w.stopSupervisor id).history = w.history := by
  cases id <;> rfl

/-- `connect` changes the connection if there is a runtime and the client is not connected already;
otherwise it only replies. -/
theorem connect_steps {w : World} (hy : cause u act = .asked .connect) (hw : Acting w) :
    SmallSteps u act w w.connect := by
  unfold World.connect
  split
  · exact (SmallSteps.report w rfl).trans (answer_steps _ _)
  · rename_i hr
    split
    · rename_i hm
      have hr : w.hasRuntime = true := by simpa using hr
      -- the supervisor that is told to stop does not change the connection that starts anew
      simp only [stopSupervisor_link]
      exact (ReflTransGen.single (.connect hy hw hr hm)).trans (shift_turn _ _)
    · exact answer_steps w _

theorem disconnect_steps {w : World} (hy : cause u act = .asked .disconnect) (hw : Acting w) :
    SmallSteps u act w w.disconnect :=
  (ReflTransGen.single (.disconnect hy hw)).trans (shift_turn _ _)

/-- An operation of a command is made of small steps. -/
theorem operation_steps {c : Command} {w w' : World} (hy : cause u act = .asked c)
    (h : Operation c w w') : SmallSteps u act w w' := by
  have ofKind : ∀ {kind : Command → Bool}, kind c = true → Commanded kind u act :=
    fun hc => ⟨c, hy, hc⟩
  cases h with
  | answer r => exact answer_steps w r
  | report e he => exact SmallSteps.report w he
  | stamp => exact SmallSteps.counters rfl
  | token t hc => exact SmallSteps.data (.token t (hc ▸ hy))
  | dropRouter =>
      exact SmallSteps.data (.counters (alike_parts w { w.parts with router := false } fun h => h))
  | dropBoard =>
      -- the board goes; a part that was missing is still missing
      have less := alike_parts w { w.parts with board := false }
        fun h => absurd h Bool.false_ne_true
      exact SmallSteps.data (.counters less)
  | subscribe hc name s h => exact subscribe_steps (ofKind hc) w name s h
  | listen hc name l => exact listen_steps (ofKind hc) w name l
  | unsubscribe hc hs => exact unsubscribe_steps (ofKind hc) w _ _
  | forget hc name => exact SmallSteps.data (.handles _ (ofKind hc))
  | names hc rooms feeds monitors =>
      exact SmallSteps.data (.names rooms feeds monitors (ofKind hc))
  | startView hc v => exact startView_steps (ofKind hc) w v
  | endView hc number => exact endView_steps (ofKind hc) w number
  | setView hc number v => exact SmallSteps.data (.setView number v (.inl (ofKind hc)))
  | send hc topic payload => exact sendPayload_steps (.tellsServer (ofKind hc)) w topic payload
  | dispatch hc hw e => exact SmallSteps.data (.dispatch e hw.acting (.inl ⟨ofKind hc, hw⟩))
  | announce hw hb change =>
      exact (ReflTransGen.single (.announce _ hw.acting hb)).trans (offer_announceChange w _)
  | connect hc hw => exact connect_steps (hc ▸ hy) hw.acting
  | disconnect hc hw => exact disconnect_steps (hc ▸ hy) hw.acting
  | fail m hs => exact SmallSteps.data (.failed m hs)

/-- **A command is carried out by small changes.** -/
theorem perform_steps {w : World} {c : Command} (hy : cause u act = .asked c) (hw : Asking w) :
    SmallSteps u act w (w.perform c) := by
  have h := perform_operations hw c
  generalize w.perform c = w' at h
  induction h with
  | refl => exact .refl
  | tail _ he ih => exact ih.trans (operation_steps hy he)

/-! ## Supervisors -/

/-- A supervisor of the current generation counts the failure and is to wait; any other one ends. -/
theorem tryLater_steps {w : World} {id : Nat} {s : Supervisor} {sockets : List Socket}
    (hy : cause u act = .supervisor id) (ha : failing act = some id) (hr : AtRest w id s)
    (hs : s.stopped = false)
    (hp : (∃ url, s.phase = .opening url) ∨
      ∃ socket, s.phase = .inSession socket ∨ s.phase = .closing socket)
    (hl : Leftover w s sockets) :
    SmallSteps u act w ({ w with sockets := sockets }.tryLater id s) := by
  unfold World.tryLater
  split
  · rename_i hf
    -- only the current generation may fail
    have hg : w.link.generation ≠ s.generation := by
      intro hg
      rw [Link.fail, if_pos hg] at hf
      exact Option.some_ne_none _ hf
    exact .single (.leave hr hs hg hl)
  · rename_i t ht
    exact (ReflTransGen.single (.failed hy hr hs hp ht hl ha)).trans (shift_turn _ t)

/-- The socket is dropped before anything else. -/
theorem sessionOver_steps {w : World} {id socket : Nat} {s : Supervisor} {sockets : List Socket}
    (hy : cause u act = .supervisor id) (ha : failing act = some id) (hr : AtRest w id s)
    (hs : s.stopped = false) (hp : s.phase = .inSession socket ∨ s.phase = .closing socket)
    (hl : Leftover w s sockets) :
    SmallSteps u act w ({ w with sockets := sockets }.sessionOver id s socket) := by
  have hd : SmallSteps u act w (w.happen (.dropped socket)) := .single (.dropped hr hp)
  unfold World.sessionOver
  dsimp only
  split
  · have hw := hd.trans (SmallSteps.warn _ none "realtime session ended")
    refine hw.trans (tryLater_steps hy ha ⟨hr.stack, hr.supervisor⟩ hs (.inr ⟨socket, hp⟩) ?_)
    exact hl.congr rfl
  · rename_i hg
    exact hd.tail (.leave ⟨hr.stack, hr.supervisor⟩ hs hg (hl.congr rfl))

/-- A supervisor that goes on waits for the session before, tries at once, gives that session up, or
retries after its wait. -/
theorem wake_steps {w w' : World} {id : Nat} {s : Supervisor} (hr : AtRest w id s)
    (hs : s.stopped = false) (h : w.wake id s = some w') : SmallSteps w (.wake id) w w' := by
  unfold World.wake at h
  split at h
  · rename_i hp
    obtain rfl := Option.some.inj h
    exact .single (.dial hr hs (.inl hp) rfl)
  · -- a supervisor that has not begun waits for the one before it, if that has not ended
    rename_i p hp
    split at h <;> obtain rfl := Option.some.inj h
    · rename_i hf
      exact .single (.dial hr hs (.inr ⟨p, hf, .inl hp⟩) rfl)
    · rename_i hf
      exact .single (.wait hr hs hp (by simpa using hf) rfl)
  · -- one that waits goes on if the one before it has ended or the grace is over
    rename_i p d hp
    split at h
    · rename_i hf
      obtain rfl := Option.some.inj h
      exact .single (.dial hr hs (.inr ⟨p, hf, .inr ⟨d, hp⟩⟩) rfl)
    · rename_i hf
      have hf : w.isFinished p = false := by simpa using hf
      split at h
      · rename_i hd
        obtain rfl := Option.some.inj h
        have hw : SmallSteps w (.wake id) w _ :=
          SmallSteps.warn w none "previous session did not close in time"
        exact hw.tail (.giveUp ⟨hr.stack, hr.supervisor⟩ hs hp hf hd rfl)
      · exact absurd h (by simp)
  · -- one that sleeps retries when its wait is over
    rename_i d hp
    split at h
    · rename_i hd
      split at h <;> obtain rfl := Option.some.inj h
      · rename_i ht
        exact .single (.leave hr hs (Link.retry_eq_none ht) .whole)
      · rename_i t ht
        exact (ReflTransGen.single (.retry rfl hr hs hp hd ht rfl)).trans (shift_turn _ t)
    · exact absurd h (by simp)
  · exact absurd h (by simp)

/-- A stopped supervisor ends wherever it rests, and its socket with it. -/
theorem halt_steps {w w' : World} {id : Nat} {s : Supervisor} (hr : AtRest w id s)
    (hs : s.stopped = true) (h : w.halt id s = some w') : SmallSteps w (.halt id) w w' := by
  -- with a session or a closing one the socket goes too
  have gone : ∀ socket, s.phase = .inSession socket ∨ s.phase = .closing socket →
      SmallSteps w (.halt id) w ((w.happen (.dropped socket)).finish id) := by
    intro socket hp
    refine (ReflTransGen.single (.dropped hr hp)).tail (.halt ⟨hr.stack, hr.supervisor⟩ hs ?_)
    rcases hp with hp | hp <;> simp [hp]
  unfold World.halt at h
  split at h
  · exact absurd h (by simp)
  · rename_i socket hp
    obtain rfl := Option.some.inj h
    exact gone socket (.inl hp)
  · rename_i socket hp
    obtain rfl := Option.some.inj h
    exact gone socket (.inr hp)
  · rename_i hp _ _
    obtain rfl := Option.some.inj h
    exact .single (.halt hr hs hp)

/-- A socket that comes too late, for an earlier generation, is left at once. -/
theorem answered_steps {w w' : World} {id : Nat} {s : Supervisor} {accepted : Bool}
    (hr : AtRest w id s) (hs : s.stopped = false) (h : w.answered id s accepted = some w') :
    SmallSteps w (.answered id accepted) w w' := by
  unfold World.answered at h
  split at h
  · rename_i url hp
    cases accepted with
    | true =>
        simp only [if_true] at h
        split at h <;> obtain rfl := Option.some.inj h
        · rename_i ht
          exact .single (.leave hr hs (Link.startSession_eq_none ht) .whole)
        · rename_i t ht
          exact (ReflTransGen.single (.opened rfl hr hs hp ht rfl)).trans (shift_turn _ t)
    | false =>
        obtain rfl := Option.some.inj h
        have hw : SmallSteps w (.answered id false) w _ :=
          SmallSteps.warn w none "connect attempt failed"
        exact hw.trans (tryLater_steps rfl rfl ⟨hr.stack, hr.supervisor⟩ hs (.inl ⟨url, hp⟩) .whole)
  · exact absurd h (by simp)

/-- A session writes what is queued; it closes only when nothing is, and only if it is not the
live one any more. -/
theorem write_steps {w w' : World} {id : Nat} {s : Supervisor} (hr : AtRest w id s)
    (hs : s.stopped = false) (h : w.write id s = some w') : SmallSteps w (.write id) w w' := by
  unfold World.write at h
  split at h
  · rename_i socket hp
    split at h
    · rename_i e queue hq
      obtain rfl := Option.some.inj h
      exact .single (.wrote hr hs hp hq)
    · rename_i hq
      split at h
      · exact absurd h (by simp)
      · rename_i ho
        obtain rfl := Option.some.inj h
        exact .single (.wroteClose hr hs hp hq ho)
  · exact absurd h (by simp)

/-- The envelope that could not be written is lost with the session. -/
theorem breakWrite_steps {w w' : World} {id : Nat} {s : Supervisor} (hr : AtRest w id s)
    (hs : s.stopped = false) (h : w.breakWrite id s = some w') :
    SmallSteps w (.breakWrite id) w w' := by
  unfold World.breakWrite at h
  split at h
  · rename_i socket hp
    split at h
    · rename_i e queue hq
      obtain rfl := Option.some.inj h
      exact sessionOver_steps rfl rfl hr hs (.inl hp) (.short hp hq)
    · exact absurd h (by simp)
  · exact absurd h (by simp)

/-- A session hands a frame over and goes on only when the delivery is done. -/
theorem deliverFrame_steps {w : World} {id socket : Nat} {s : Supervisor} (hr : AtRest w id s)
    (hs : s.stopped = false) (hp : s.phase = .inSession socket) (text : String)
    (hy : ∀ e, Envelope.decode (w.stamps w.stamped) text = .ok e → arrival u act = some e) :
    SmallSteps u act w (w.deliverFrame id socket text) := by
  refine (ReflTransGen.single (.enter hr hs hp)).trans
    (dispatchFrame_steps ?_ text fun e he => .inr (hy e he))
  intro f hf
  obtain rfl := Option.some.inj hf
  rfl

/-- A frame that can be read is delivered, a control frame is passed over, and everything else ends
the session. -/
theorem read_steps {w w' : World} {id : Nat} {s : Supervisor} {i : Incoming} (hr : AtRest w id s)
    (hs : s.stopped = false) (h : w.read id s i = some w') : SmallSteps w (.read id i) w w' := by
  unfold World.read at h
  split at h
  · rename_i socket hp
    have hread : SmallSteps w (.read id i) w (w.happen (.read socket i)) :=
      .single (.read i hr hs hp)
    have hr' : AtRest (w.happen (.read socket i)) id s := ⟨hr.stack, hr.supervisor⟩
    -- text is delivered as it is, bytes if they are text
    have frame : ∀ t, textOf i = some t → SmallSteps w (.read id i) (w.happen (.read socket i))
        ((w.happen (.read socket i)).deliverFrame id socket t) := by
      intro t ht
      refine deliverFrame_steps hr' hs hp t fun e he => ?_
      rw [arrival, ht, Option.bind_some]
      exact congrArg Except.toOption he
    refine hread.trans ?_
    dsimp only at h
    split at h
    · obtain rfl := Option.some.inj h
      exact frame _ rfl
    · split at h <;> obtain rfl := Option.some.inj h
      · rename_i t ht
        exact frame t ht
      · exact SmallSteps.report _ rfl
    · obtain rfl := Option.some.inj h
      exact .refl
    all_goals
      obtain rfl := Option.some.inj h
      exact sessionOver_steps rfl rfl hr' hs (.inl hp) .whole
  · exact absurd h (by simp)

/-- A session that was closing is over. -/
theorem closed_steps {w w' : World} {id : Nat} {s : Supervisor} (hr : AtRest w id s)
    (hs : s.stopped = false) (h : w.closed id s = some w') : SmallSteps w (.closed id) w w' := by
  unfold World.closed at h
  split at h
  · rename_i socket hp
    obtain rfl := Option.some.inj h
    exact sessionOver_steps rfl rfl hr hs (.inr hp) .whole
  · exact absurd h (by simp)

/-! ## The code on the stack -/

/-- A delivery calls a handler: one of the application begins its script, a view is done at once,
and a payload that does not fit is only reported. -/
theorem callHandler_steps {w : World} {n k : Nat} {e : Envelope} {h : Entry Handler}
    {rest : List (Entry Handler)} {tail : List Frame}
    (hs : w.stack = .delivery n e (h :: rest) k :: tail) :
    SmallSteps w .go w (({ w with stack := .delivery n e rest k :: tail }.happen
      (.called n h.id)).callHandler h e) := by
  -- the call is marked first; what follows depends on who is called
  have once : SmallSteps w .go w ({ w with stack := .delivery n e rest (k + 1) :: tail }.happen
      (.called n h.id)) := SmallSteps.data (.calledOnce hs ⟨rfl, rfl⟩)
  have begun : ∀ o cs, SmallSteps w .go w ({ w with
      stack := .script o cs none :: .delivery n e rest k :: tail }.happen (.called n h.id)) :=
    fun o cs => SmallSteps.data (.called o cs hs ⟨rfl, rfl⟩)
  unfold World.callHandler
  split
  · rename_i name full script hh
    exact ((begun name _).trans (SmallSteps.note _ _)).trans (SmallSteps.counters rfl)
  · rename_i name full kind script hh
    split
    · exact ((begun name _).trans (SmallSteps.note _ _)).trans (SmallSteps.counters rfl)
    · rename_i m hm
      refine once.trans ?_
      exact SmallSteps.warn _ (some e.topic) _
  · rename_i number hh
    split
    · exact once
    · split
      · refine once.trans (SmallSteps.data (.setView number _ (.inr ⟨rfl, ?_⟩)))
        exact ⟨n, e, h, rest, k, tail, hs, hh⟩
      · exact once.trans (SmallSteps.warn _ (some e.topic) _)

/-- A delivery of a change calls a listener, and a view that hears *connected* announces itself. -/
theorem callListener_steps {w : World} {c : Change} {l : Entry Listener}
    {rest : List (Entry Listener)} {tail : List Frame}
    (hs : w.stack = .announcement c (l :: rest) :: tail) :
    SmallSteps w .go w (({ w with stack := .announcement c rest :: tail }.happen
      (.heard c l.id)).callListener l c.status) := by
  have once : SmallSteps w .go w ({ w with stack := .announcement c rest :: tail }.happen
      (.heard c l.id)) := .single (.heardOnce hs ⟨rfl, rfl⟩)
  have begun : ∀ o cs, SmallSteps w .go w ({ w with
      stack := .script o cs none :: .announcement c rest :: tail }.happen (.heard c l.id)) :=
    fun o cs => .single (.heard o cs hs ⟨rfl, rfl⟩)
  unfold World.callListener
  split
  · rename_i name only script hl
    dsimp only
    split
    · exact ((begun name _).trans (SmallSteps.note _ _)).trans (SmallSteps.counters rfl)
    · exact once.trans (SmallSteps.note _ _)
  · rename_i n hl
    split
    · rename_i hc
      exact once.trans (announce_steps (.heard rfl hs hl hc) _ _)
    · exact once

/-- Behind the last listener the next change is taken off the queue, if there is one and it is not
out of date. -/
theorem nextChange_steps {w : World} {c : Change} {tail : List Frame}
    (hs : w.stack = .announcement c [] :: tail) :
    SmallSteps w .go w ({ w with stack := tail }.nextChange c) := by
  unfold World.nextChange
  rcases hp : w.board.pending with _ | ⟨new, rest⟩
  · rw [Board.take_of_nil hp]
    exact (ReflTransGen.single (.drained hs hp ⟨rfl, rfl⟩)).trans (answer_steps _ _)
  · rcases Nat.lt_or_ge w.board.delivered new.number with hd | hd
    · rw [Board.take_of_lt hp hd]
      exact .single (.announced hs hp hd ⟨rfl, rfl⟩)
    · rw [Board.take_of_le hp hd]
      have h : SmallStep w .go w _ := .skipped hs hp hd ⟨rfl, rfl⟩
      -- the step is about the world before, whose stack still has the delivery
      rw [hs] at h
      exact .single h

/-- **The code that runs goes on by small changes.** -/
theorem go_steps {w w' : World} (h : w.go = some w') : SmallSteps w .go w w' := by
  unfold World.go at h
  split at h
  · exact absurd h (by simp)
  · rename_i o a tail hs
    obtain rfl := Option.some.inj h
    exact SmallSteps.data (.returned hs ⟨rfl, rfl⟩)
  · rename_i o c rest a tail hs
    obtain rfl := Option.some.inj h
    -- the innermost script asks for its next command
    have hc : cause w .go = .asked c := by simp [cause, hs]
    exact (SmallSteps.data (.script rest (some c.verb) hs)).trans
      (perform_steps hc (asking_script rfl))
  · rename_i n e k tail hs
    obtain rfl := Option.some.inj h
    exact (SmallSteps.data (.ended hs ⟨rfl, rfl⟩)).trans (answer_steps _ _)
  · rename_i n e l rest k tail hs
    obtain rfl := Option.some.inj h
    exact callHandler_steps hs
  · rename_i c tail hs
    obtain rfl := Option.some.inj h
    exact nextChange_steps hs
  · rename_i c l rest tail hs
    obtain rfl := Option.some.inj h
    exact callListener_steps hs
  · rename_i g previous tail hs
    obtain rfl := Option.some.inj h
    exact (ReflTransGen.single (.start hs ⟨rfl, rfl⟩)).trans (answer_steps _ _)
  · rename_i id next tail hs
    obtain rfl := Option.some.inj h
    exact .single (.resume hs ⟨rfl, rfl⟩)

/-! ## Actions -/

/-- A supervisor moves only while no code runs. -/
theorem atRest_of_supervisorStep {w w' : World} {id : Nat} {stopped : Bool}
    {step : World → Nat → Supervisor → Option World}
    (h : w.supervisorStep id stopped step = some w') :
    ∃ s, AtRest w id s ∧ s.stopped = stopped ∧ step w id s = some w' := by
  unfold World.supervisorStep at h
  split at h
  · rename_i s hs hid
    split at h
    · rename_i hst
      exact ⟨s, ⟨hs, hid⟩, hst, h⟩
    · exact absurd h (by simp)
  · exact absurd h (by simp)

/-- Nothing begins from outside while code runs. -/
theorem stack_of_act {w w' : World} {a : Action} (h : w.act a = some w') (ha : a ≠ .go) :
    w.stack = [] := by
  have of_step : ∀ {id stopped} {step : World → Nat → Supervisor → Option World},
      w.supervisorStep id stopped step = some w' → w.stack = [] := by
    intro id stopped step hstep
    obtain ⟨s, hr, -, -⟩ := atRest_of_supervisorStep hstep
    exact hr.stack
  cases a with
  | go => exact absurd rfl ha
  | command c =>
      simp only [World.act] at h
      split at h
      · rename_i hs
        simpa using hs
      · exact absurd h (by simp)
  | pass nanos =>
      simp only [World.act] at h
      split at h
      · rename_i hs
        simpa using hs
      · exact absurd h (by simp)
  | answered id accepted =>
      simp only [World.act] at h
      exact of_step h
  | read id i =>
      simp only [World.act] at h
      exact of_step h
  | _ => exact of_step h

/-- **Every action is made of small changes.** -/
theorem act_steps {w w' : World} {a : Action} (h : w.act a = some w') : SmallSteps w a w w' := by
  cases a with
  | command c =>
      simp only [World.act] at h
      split at h
      · rename_i hs
        obtain rfl := Option.some.inj h
        have hs : w.stack = [] := by simpa using hs
        -- the old reply is forgotten first
        refine ReflTransGen.trans (b := { w with reply := none }) (SmallSteps.counters rfl) ?_
        exact perform_steps (w := { w with reply := none }) rfl (asking_nil hs)
      · exact absurd h (by simp)
  | go => exact go_steps h
  | wake id =>
      obtain ⟨s, hr, hs, h⟩ := atRest_of_supervisorStep h
      exact wake_steps hr hs h
  | halt id =>
      obtain ⟨s, hr, hs, h⟩ := atRest_of_supervisorStep h
      exact halt_steps hr hs h
  | answered id accepted =>
      simp only [World.act] at h
      obtain ⟨s, hr, hs, h⟩ := atRest_of_supervisorStep h
      exact answered_steps hr hs h
  | write id =>
      obtain ⟨s, hr, hs, h⟩ := atRest_of_supervisorStep h
      exact write_steps hr hs h
  | breakWrite id =>
      obtain ⟨s, hr, hs, h⟩ := atRest_of_supervisorStep h
      exact breakWrite_steps hr hs h
  | read id i =>
      simp only [World.act] at h
      obtain ⟨s, hr, hs, h⟩ := atRest_of_supervisorStep h
      exact read_steps hr hs h
  | closed id =>
      obtain ⟨s, hr, hs, h⟩ := atRest_of_supervisorStep h
      exact closed_steps hr hs h
  | pass nanos =>
      simp only [World.act] at h
      split at h
      · rename_i hs
        obtain rfl := Option.some.inj h
        exact .single (.pass nanos (by simpa using hs))
      · exact absurd h (by simp)

/-- What is asked for is carried out in a world that differs at most in the reply to the outside and
in the handler that asks, which has taken the command up. -/
theorem act_asked {w w' : World} {a : Action} {c : Command} (hc : cause w a = .asked c)
    (h : w.act a = some w') :
    ∃ r stack, w' = { w with reply := r, stack := stack }.perform c
      ∧ (w.stack = [] ∧ stack = [] ∨ ∃ o rest verb tail,
          w.stack = .script o (c :: rest) verb :: tail
            ∧ stack = .script o rest (some c.verb) :: tail) := by
  cases a with
  -- from outside: no code runs, and the reply is cleared
  | command c' =>
      obtain rfl : c' = c := Cause.asked.inj hc
      simp only [World.act] at h
      split at h
      · rename_i hs
        obtain rfl := Option.some.inj h
        have hs : w.stack = [] := by simpa using hs
        exact ⟨none, w.stack, rfl, .inl ⟨hs, hs⟩⟩
      · exact absurd h (by simp)
  -- by the handler on top of the stack, which awaits the reply then
  | go =>
      simp only [cause] at hc
      split at hc
      · rename_i o c' rest verb tail hs
        obtain rfl : c' = c := Cause.asked.inj hc
        simp only [World.act, World.go, hs] at h
        obtain rfl := Option.some.inj h
        exact ⟨w.reply, _, rfl, .inr ⟨o, rest, verb, tail, hs, rfl⟩⟩
      · exact absurd hc (by simp)
  | _ => exact absurd hc (by simp [cause])

/-- Any number of small changes, whatever their causes. -/
abbrev Runs : World → World → Prop := ReflTransGen fun w w' => ∃ u act, SmallStep u act w w'

/-- What an action does is part of a run. -/
theorem SmallSteps.runs {w w' : World} (h : SmallSteps u act w w') : Runs w w' :=
  ReflTransGen.mono (fun _ _ hd => ⟨u, act, hd⟩) _ _ h

/-- **So is every run.** -/
theorem actAll_runs {w w' : World} {as : List Action} (h : w.actAll as = some w') :
    Runs w w' := by
  induction as generalizing w with
  | nil =>
      obtain rfl := Option.some.inj h
      exact .refl
  | cons a rest ih =>
      obtain ⟨v, hv, hrest⟩ := Option.bind_eq_some_iff.mp h
      exact (act_steps hv).runs.trans (ih hrest)

/-- What a look at single actions finds along a run. -/
def observed {β : Type} (look : World → Action → List β) (w : World) : List Action → List β
  | [] => []
  | a :: rest => look w a ++ (w.act a).elim [] fun w' => observed look w' rest

theorem observed_cons {β : Type} {look : World → Action → List β} {w w' : World} {a : Action}
    (h : w.act a = some w') (as : List Action) :
    observed look w (a :: as) = look w a ++ observed look w' as := by
  rw [observed, h]
  rfl

/-- What every small change keeps holds after every run. -/
theorem runs_keep {P : World → Prop}
    (hstep : ∀ {u : World} {act : Action} {w w' : World}, P w → SmallStep u act w w' → P w')
    {w w' : World} (h : P w) (hd : Runs w w') : P w' := by
  induction hd with
  | refl => exact h
  | tail _ hs ih => exact hstep ih hs.choose_spec.choose_spec

/-! ## Lists of which one element changes -/

/-- What is seen of a changed element is a change of what is seen of the element. -/
theorem map_modify_comm {α β : Type} {f : α → α} {h : α → β} {k : β → β}
    (hk : ∀ a, h (f a) = k (h a)) (l : List α) (n : Nat) :
    (l.modify n f).map h = (l.map h).modify n k := by
  refine List.ext_getElem? fun j => ?_
  simp only [List.getElem?_map, List.getElem?_modify, Option.map_eq_map, Option.map_map]
  refine congrArg (fun t => Option.map t l[j]?) (funext fun a => ?_)
  simp only [Function.comp_apply]
  split
  · exact hk a
  · rfl

/-- What a change keeps of every element it keeps of the list. -/
theorem map_modify {α β : Type} {f : α → α} {g : α → β} (l : List α) (i : Nat)
    (hf : ∀ a, g (f a) = g a) : (l.modify i f).map g = l.map g := by
  rw [map_modify_comm (k := id) hf, List.modify_id]

/-- A change that leaves the element as it is leaves the list as it is. -/
theorem modify_of_same {α : Type} {l : List α} {n : Nat} {f : α → α}
    (h : ∀ a, l[n]? = some a → f a = a) : l.modify n f = l := by
  refine List.ext_getElem? fun m => ?_
  rw [List.getElem?_modify]
  -- only the place of the change matters, and only if there is an element
  cases ha : l[m]? with
  | none => rfl
  | some a =>
      by_cases hn : n = m
      · subst hn
        simp [h a ha]
      · simp [hn]

/-! ## What data steps leave as it is -/

/-- A look at frames that sees neither handlers nor deliveries. -/
structure Overlooks {β : Type} (f : Frame → Option β) : Prop where
  script : ∀ o cs a, f (.script o cs a) = none
  delivery : ∀ n e rest k, f (.delivery n e rest k) = none

/-- To count a call changes only the delivery that has made it. -/
theorem complete_filterMap {β : Type} {f : Frame → Option β} (hf : Overlooks f) (w : World) :
    w.complete.stack.filterMap f = w.stack.filterMap f := by
  unfold World.complete
  split
  · rename_i n e rest k tail hs
    simp [hs, hf.delivery]
  · rfl

/-- A failure is reported and leaves the stack as it is. -/
theorem failCall_stack (w : World) (m : Option String) : (w.failCall m).stack = w.stack := by
  unfold World.failCall
  split <;> rfl

/-- A data step leaves in place every frame that is neither a handler nor a delivery. -/
theorem data_filterMap {β : Type} {f : Frame → Option β} (hf : Overlooks f) {w w' : World}
    (h : DataStep u act w w') : w'.stack.filterMap f = w.stack.filterMap f := by
  cases h with
  | counters h => rw [h.stack]
  | withdraw p id => cases p <;> rfl
  | script cs' a' hs => simp [hs, hf.script]
  | returned hs => rw [complete_filterMap hf]; simp [hs, hf.script]
  | failed m hs => rw [failCall_stack]; simp [hs, hf.script]
  | dispatch e hw =>
      simp [World.dispatch, World.push, World.happen, hf.delivery]
  | called o cs hs =>
      simp [World.happen, hs, hf.script, hf.delivery]
  | calledOnce hs => simp [World.happen, hs, hf.delivery]
  | ended hs => simp [World.happen, hs, hf.delivery]
  | _ => rfl

/-- No data step moves a supervisor. -/
theorem data_supervisors {w w' : World} (h : DataStep u act w w') :
    w'.supervisors = w.supervisors := by
  cases h with
  | counters h => exact h.supervisors
  | withdraw p id => cases p <;> rfl
  | returned hs => unfold World.complete; split <;> rfl
  | failed m hs => unfold World.failCall; split <;> rfl
  | _ => rfl

/-- A data step changes nothing about the connection but the token. -/
theorem data_link {w w' : World} (h : DataStep u act w w') :
    ∃ t, w'.link = { w.link with token := t } := by
  cases h with
  | counters h => exact ⟨w.link.token, h.link⟩
  | token t => exact ⟨t, rfl⟩
  | withdraw p id => exact ⟨w.link.token, by cases p <;> rfl⟩
  | returned hs => exact ⟨w.link.token, by unfold World.complete; split <;> rfl⟩
  | failed m hs => exact ⟨w.link.token, by unfold World.failCall; split <;> rfl⟩
  | _ => exact ⟨w.link.token, rfl⟩

/-! ## What supervisors leave as it is -/

@[simp] theorem startSupervisor_stack (w : World) (g : Nat) (previous : Option Nat) :
    (w.startSupervisor g previous).stack = w.stack := by
  unfold World.startSupervisor
  dsimp only
  split <;> rfl

@[simp] theorem resume_stack (w : World) (id : Nat) (next : Resumption) :
    (w.resume id next).stack = w.stack := by
  unfold World.resume
  split <;> rfl

/-! ## What a shift leaves as it is -/

section Shift

variable (w : World) (t : Link × Option Change)

/-- A shift changes the connection as given, and no supervisor. -/
@[simp] theorem shift_link : (shift w t).link = t.1 := by
  unfold shift
  split <;> rfl

@[simp] theorem shift_supervisors : (shift w t).supervisors = w.supervisors := by
  unfold shift
  split <;> rfl

/-- A change that is offered puts nothing but its own delivery on the stack. -/
@[simp] theorem offer_filterMap {β : Type} {f : Frame → Option β}
    (hf : ∀ c rest, f (.announcement c rest) = none) (c : Change) :
    (offer w c).stack.filterMap f = w.stack.filterMap f := by
  unfold offer
  cases w.board.draining with
  | true => rfl
  | false => simp [hf]

theorem shift_filterMap {β : Type} {f : Frame → Option β}
    (hf : ∀ c rest, f (.announcement c rest) = none) :
    (shift w t).stack.filterMap f = w.stack.filterMap f := by
  unfold shift
  split
  · exact offer_filterMap _ hf _
  · rfl

end Shift

end LiveLink.Proofs
