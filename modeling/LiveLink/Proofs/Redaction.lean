import LiveLink.Proofs.Endpoints

/-!
# Redaction

To redact a world is to take the tokens out of it: the one that is stored, those in the commands
that handlers have still to carry out, those in the URLs of attempts, and those that were told to
whoever asked. What is left is a world again, in which every token is absent. The client does in it
what it does in the world with the tokens: each of its functions, applied to a redacted world, gives
the redacted result (`redact_dial` for an attempt, and one lemma for each of the others). So the
token is looked at nowhere but where an attempt is made and where the token is asked for.
-/

namespace LiveLink

/-! ## Maps over registrations -/

namespace Entry

/-- Another handler under the same number. -/
def map {α β : Type} (f : α → β) (e : Entry α) : Entry β := ⟨e.id, f e.handler⟩

end Entry

section Map

variable {α β : Type} (f : α → β)

namespace Table

/-- Keys decide what is found, so other values change nothing but what is found. -/
theorem get?_map (t : Table α) (key : String) :
    get? key (t.map fun p => (p.1, f p.2)) = (get? key t).map f := by
  induction t with
  | nil => rfl
  | cons p rest ih =>
      rw [List.map_cons, get?, get?]
      split
      · rfl
      · exact ih

theorem map_insert (t : Table α) (key : String) (value : α) :
    (insert key value t).map (fun p => (p.1, f p.2))
      = insert key (f value) (t.map fun p => (p.1, f p.2)) := by
  induction t with
  | nil => rfl
  | cons p rest ih =>
      rw [insert, List.map_cons, insert]
      split
      · rfl
      · split
        · rfl
        · rw [List.map_cons, ih]

theorem map_erase (t : Table α) (key : String) :
    (erase key t).map (fun p => (p.1, f p.2)) = erase key (t.map fun p => (p.1, f p.2)) := by
  rw [erase, erase, List.filter_map]
  rfl

end Table

namespace Registry

/-- Other handlers under the same registrations. -/
def map (r : Registry α) : Registry β :=
  ⟨r.nextId, r.topics.map fun p => (p.1, p.2.map (Entry.map f)), r.all.map (Entry.map f)⟩

variable (r : Registry α)

theorem forTopic_map (topic : String) :
    (r.map f).forTopic topic = (r.forTopic topic).map (Entry.map f) := by
  rw [forTopic, map, Table.get?_map (List.map (Entry.map f)), forTopic]
  cases Table.get? topic r.topics <;> rfl

theorem without_map (id : Nat) (l : List (Entry α)) :
    without id (l.map (Entry.map f)) = (without id l).map (Entry.map f) := by
  rw [without, without, List.filter_map]
  rfl

/-- Numbers and places are given out without a look at the handler. -/
theorem map_register (s : Scope) (h : α) : (r.register s h).map f = (r.map f).register s (f h) := by
  cases s with
  | topic name =>
      simp only [register, forTopic_map]
      simp [map, Table.map_insert (List.map (Entry.map f)), Entry.map]
  | all => simp [register, map, Entry.map]

/-- An entry is taken out by its number. A topic loses its line with its last entry, whatever the
entries are. -/
theorem map_withdraw (s : Scope) (id : Nat) :
    (r.withdraw s id).map f = (r.map f).withdraw s id := by
  cases s with
  | topic name =>
      simp only [withdraw, forTopic_map, without_map]
      cases without id (r.forTopic name) with
      | nil => simp only [map, List.map_nil, Table.map_erase (List.map (Entry.map f))]
      | cons e rest =>
          simp only [map, List.map_cons, Table.map_insert (List.map (Entry.map f))]
  | all => simp only [withdraw, map, without_map]

theorem audience_map (topic : String) :
    (r.map f).audience topic = (r.audience topic).map (Entry.map f) := by
  rw [audience, forTopic_map, audience, List.map_append]
  rfl

/-- The list of topics does not depend on the handlers. -/
theorem topicNames_map : (r.map f).topicNames = r.topicNames := by
  simp [topicNames, map, Table.keys]

end Registry

namespace Board

/-- Other listeners under the same registrations. -/
def map (b : Board α) : Board β := { b with listeners := b.listeners.map (Entry.map f) }

/-- What a delivery finds, with other listeners. -/
def Next.map : Next α → Next β
  | .idle => .idle
  | .stale c => .stale c
  | .deliver c listeners => .deliver c (listeners.map (Entry.map f))

variable (b : Board α)

theorem map_register (h : α) : (b.register h).map f = (b.map f).register (f h) := by
  simp [map, register, Entry.map]

theorem map_withdraw (id : Nat) : (b.withdraw id).map f = (b.map f).withdraw id := by
  simp only [map, withdraw, Registry.without_map]

/-- Which change is delivered next is decided by the numbers of the changes alone. -/
theorem take_map : (b.map f).take = (b.take.1.map f, b.take.2.map f) := by
  rw [take, take, map]
  dsimp only
  split
  · rfl
  · split <;> rfl

end Board

end Map

/-! ## Redaction -/

mutual

/-- A command without the token in it. -/
def Command.redact : Command → Command
  | .subscribe onClient name topic full script =>
    .subscribe onClient name topic full fun run => Command.redactAll (script run)
  | .subscribeTyped name topic kind script =>
    .subscribeTyped name topic kind fun run => Command.redactAll (script run)
  | .listen name only script => .listen name only fun run => Command.redactAll (script run)
  | .setToken _ => .setToken none
  | c => c

/-- Commands without the tokens in them. -/
def Command.redactAll : List Command → List Command
  | [] => []
  | c :: rest => c.redact :: Command.redactAll rest

end

/-- A handler without tokens. -/
def Handler.redact : Handler → Handler
  | .app name full kind script => .app name full kind fun run => Command.redactAll (script run)
  | .view adapter => .view adapter

/-- A listener without tokens. -/
def Listener.redact : Listener → Listener
  | .app name only script => .app name only fun run => Command.redactAll (script run)
  | .view adapter => .view adapter

/-- Code that runs, without tokens. -/
def Frame.redact : Frame → Frame
  | .script owner rest awaited => .script owner (Command.redactAll rest) awaited
  | .delivery number e rest completed =>
    .delivery number e (rest.map (Entry.map Handler.redact)) completed
  | .announcement c rest => .announcement c (rest.map (Entry.map Listener.redact))
  | f => f

/-- A connection without a token. -/
def Link.redact (l : Link) : Link := { l with token := none }

/-- A reply that does not tell the token. -/
def Reply.redact : Reply → Reply
  | .value _ => .value .null
  | r => r

/-- A note that does not tell the token. -/
def Note.redact : Note → Note
  | .did name verb reply =>
    .did name verb (if verb = Command.token.verb then reply.redact else reply)
  | n => n

/-- What happens, with another URL in the place of that of an attempt. -/
def Event.redact (url : Url) : Event → Event
  | .noted n => .noted n.redact
  | .dialled supervisor generation _ => .dialled supervisor generation url
  | e => e

/-- A phase, with another URL in the place of that of an attempt. -/
def Phase.redact (url : Url) : Phase → Phase
  | .opening _ => .opening url
  | p => p

/-- A supervisor, with another URL in the place of that of its attempt. -/
def Supervisor.redact (url : Url) (s : Supervisor) : Supervisor :=
  { s with phase := s.phase.redact url }

/-- A world without tokens: none is stored and none is to be stored, every attempt goes to the URL
without a token, and no reply tells one. The flag tells whether the last reply to the outside was to
the question for the token. -/
def World.redact (told : Bool) (w : World) : World :=
  { w with
    router := w.router.map Handler.redact
    board := w.board.map Listener.redact
    link := w.link.redact
    supervisors := w.supervisors.map (Supervisor.redact w.setup.url)
    stack := w.stack.map Frame.redact
    reply := if told then w.reply.map Reply.redact else w.reply
    history := w.history.map (Event.redact w.setup.url) }

/-- An action without the token in it. -/
def Action.redact : Action → Action
  | .command c => .command c.redact
  | a => a

/-! ## What it is to redact -/

namespace Command

/-- Under its verb a command is reported, so the reports of a redacted world have the same verbs. -/
@[simp] theorem verb_redact (c : Command) : c.redact.verb = c.verb := by
  cases c <;> rfl

end Command

namespace Link

variable (l : Link) (g socket : Nat)

/-- A connection and a change of its status, without a token. -/
def redactTurn (t : Link × Option Change) : Link × Option Change := (t.1.redact, t.2)

/-- A status is compared with the one before; the token is not looked at. -/
theorem redact_setStatus (s : Status) : l.redact.setStatus s = redactTurn (l.setStatus s) := by
  unfold setStatus redactTurn redact
  dsimp only
  split <;> rfl

theorem redact_startConnecting : l.redact.startConnecting = redactTurn l.startConnecting :=
  redact_setStatus { l with
    outbound := none, generation := l.generation + 1, supervisor := none, closing := none } _

/-- To disconnect keeps the token. -/
theorem redact_stop : l.redact.stop = redactTurn l.stop :=
  redact_setStatus { l with
    outbound := none, attempts := 0, generation := l.generation + 1, supervisor := none,
    closing := if l.outbound.isSome ∧ l.supervisor.isSome then l.supervisor else l.closing } _

/-- A supervisor is accepted by its generation. -/
theorem redact_adopt (supervisor : Nat) :
    l.redact.adopt g supervisor = (l.adopt g supervisor).map redact := by
  unfold adopt redact
  dsimp only
  split <;> rfl

/-- A change that only the current generation makes. -/
theorem redact_guarded (changed : Link) (s : Status) :
    (if l.redact.generation = g then some (changed.redact.setStatus s) else none)
      = (if l.generation = g then some (changed.setStatus s) else none).map redactTurn := by
  change (if l.generation = g then some (changed.redact.setStatus s) else none) = _
  split
  · exact congrArg some (redact_setStatus changed s)
  · rfl

theorem redact_startSession :
    l.redact.startSession g socket = (l.startSession g socket).map redactTurn :=
  redact_guarded l g { l with outbound := some socket, attempts := 0 } .connected

theorem redact_fail : l.redact.fail g = (l.fail g).map redactTurn :=
  redact_guarded l g { l with outbound := none, attempts := succ l.attempts } .reconnecting

theorem redact_retry : l.redact.retry g = (l.retry g).map redactTurn :=
  redact_guarded l g l .connecting

end Link

namespace World

variable (told : Bool) (w : World)

/-- To redact a world is to redact each of its events, so an event more makes no difference. -/
@[simp] theorem redact_happen (e : Event) :
    (w.happen e).redact told = (w.redact told).happen (e.redact w.setup.url) := rfl

@[simp] theorem redact_warn (topic : Option String) (message : String) :
    (w.warn topic message).redact told = (w.redact told).warn topic message := rfl

@[simp] theorem redact_push (f : Frame) :
    (w.push f).redact told = (w.redact told).push f.redact := rfl

/-! ### Replies -/

/-- The reply that is awaited is that to the question for the token, from outside or by the handler
that runs. -/
def AsksToken : Prop :=
  match w.stack with
  | [] => told = true
  | .script _ _ awaited :: _ => awaited = some Command.token.verb
  | _ => False

variable {told w}

/-- A reply tells the token only to whoever has asked for it. -/
theorem redact_answer_of {r r' : Reply} (htold : w.AsksToken told → r' = r.redact)
    (hother : ¬w.AsksToken told → r' = r) :
    (w.answer r).redact told = (w.redact told).answer r' := by
  have hstack : (w.redact told).stack = w.stack.map Frame.redact := rfl
  unfold AsksToken at htold hother
  -- a reply goes to the outside or to a script that awaits it; nobody else takes one
  cases hs : w.stack with
  | nil =>
      rw [hs] at htold hother hstack
      simp only [answer, hs, hstack, List.map_nil]
      cases told with
      | true => rw [htold rfl]; rfl
      | false => rw [hother Bool.false_ne_true]; rfl
  | cons f tail =>
      rw [hs] at htold hother hstack
      cases f with
      | script owner rest awaited =>
          cases awaited with
          | none => simp only [answer, hs, hstack, List.map_cons, Frame.redact]
          | some verb =>
              have hreply : r' = if verb = Command.token.verb then r.redact else r := by
                split
                · rename_i hverb
                  exact htold (congrArg some hverb)
                · rename_i hverb
                  exact hother fun h => hverb (Option.some.inj h)
              simp only [answer, hs, hstack, List.map_cons, Frame.redact, hreply]
              rfl
      | _ => simp only [answer, hs, hstack, List.map_cons, Frame.redact]

/-- A reply that tells no token stays as it is. -/
theorem redact_answer {r : Reply} (hr : r.redact = r) (told : Bool) (w : World) :
    (w.answer r).redact told = (w.redact told).answer r :=
  redact_answer_of (fun _ => hr.symm) fun _ => rfl

variable (told w)

/-! ### Registrations -/

theorem redact_addHandler (s : Scope) (h : Handler) :
    (w.addHandler s h).1.redact told = ((w.redact told).addHandler s h.redact).1 := by
  simp only [addHandler, redact_happen]
  simp only [redact, Registry.map_register]
  rfl

theorem redact_addListener (l : Listener) :
    (w.addListener l).1.redact told = ((w.redact told).addListener l.redact).1 := by
  simp only [addListener, redact_happen]
  simp only [redact, Board.map_register]
  rfl

theorem redact_withdraw (p : Place) (id : Nat) :
    (w.withdraw p id).redact told = (w.redact told).withdraw p id := by
  cases p with
  | router s =>
      simp only [withdraw, redact, Registry.map_withdraw]
      rfl
  | board =>
      simp only [withdraw, redact, Board.map_withdraw]
      rfl

/-- The number under which a subscription is kept is the same in both worlds. -/
theorem redact_subscribe (name : String) (s : Scope) (h : Handler) :
    (w.subscribe name s h).1.redact told = ((w.redact told).subscribe name s h.redact).1 := by
  have hadded := redact_addHandler told w s h
  simp only [subscribe, keep]
  rw [← hadded]
  rfl

theorem redact_listen (name : String) (l : Listener) :
    (w.listen name l).1.redact told = ((w.redact told).listen name l.redact).1 := by
  have hadded := redact_addListener told w l
  simp only [listen, keep]
  rw [← hadded]
  rfl

theorem redact_unsubscribe (name : String) (s : Subscription) :
    (w.unsubscribe name s).redact told = (w.redact told).unsubscribe name s := by
  unfold unsubscribe
  split
  · exact redact_withdraw ..
  · rfl

/-! ### Sending -/

/-- What is sent, and whether it is accepted, depends on the session and the stamps. -/
theorem redact_sendPayload (topic : String) (payload : Json) :
    (w.sendPayload topic payload).1.redact told
      = ((w.redact told).sendPayload topic payload).1 := by
  have hsends : (w.redact told).link.sendsTo = w.link.sendsTo := rfl
  unfold sendPayload newEnvelope
  dsimp only
  rw [hsends]
  split <;> rfl

/-- The sender is told the same. -/
theorem sendPayload_redact_snd (topic : String) (payload : Json) :
    ((w.redact told).sendPayload topic payload).2 = (w.sendPayload topic payload).2 := by
  have hsends : (w.redact told).link.sendsTo = w.link.sendsTo := rfl
  unfold sendPayload newEnvelope
  dsimp only
  rw [hsends]
  split <;> rfl

theorem redact_sendAll (notices : List Notice) :
    (w.sendAll notices).redact told = (w.redact told).sendAll notices := by
  unfold sendAll
  induction notices generalizing w with
  | nil => rfl
  | cons n rest ih => rw [List.foldl_cons, List.foldl_cons, ih, redact_sendPayload]

theorem redact_sendReplying (topic : String) (payload : Json) :
    (w.sendReplying topic payload).redact told
      = (w.redact told).sendReplying topic payload := by
  unfold sendReplying
  dsimp only
  rw [redact_answer rfl, redact_sendPayload, sendPayload_redact_snd]

/-! ### Views -/

theorem redact_announce (adapter : Nat) :
    (w.announce adapter).redact told = (w.redact told).announce adapter := by
  have hview : (w.redact told).viewOf? adapter = w.viewOf? adapter := rfl
  unfold announce
  rw [hview]
  split
  · exact redact_sendAll ..
  · rfl

theorem redact_addHandlers (h : Handler) (topics : List String) :
    (w.addHandlers h topics).1.redact told = ((w.redact told).addHandlers h.redact topics).1 := by
  induction topics generalizing w with
  | nil => rfl
  | cons topic rest ih =>
      simp only [addHandlers]
      rw [ih, redact_addHandler]

/-- The numbers that a view holds of its handlers are the same. -/
theorem addHandlers_redact_snd (h : Handler) (topics : List String) :
    ((w.redact told).addHandlers h.redact topics).2 = (w.addHandlers h topics).2 := by
  induction topics generalizing w with
  | nil => rfl
  | cons topic rest ih =>
      simp only [addHandlers]
      rw [← redact_addHandler, ih]
      rfl

/-- A view that has just been started takes its number, and is announced if there is a
connection. -/
def numberView (v : View) (handlers : List (String × Nat)) (number : Nat) : World :=
  let listed := { w with adapters := w.adapters ++ [Adapter.mk v handlers 0 true] }
  if w.link.status = .connected then listed.announce number else listed

/-- A view gets its listener. -/
def listenView (number : Nat) : World :=
  let (w, listener) := w.addListener (.view number)
  { w with adapters := w.adapters.modify number ({ · with listener := listener }) }

/-- A view is started in three steps: its handlers, its number, its listener. -/
theorem startView_eq (v : View) : (w.startView v).1 =
    ((w.addHandlers (.view w.adapters.length) v.topics).1.numberView v
      (w.addHandlers (.view w.adapters.length) v.topics).2 w.adapters.length).listenView
      w.adapters.length := rfl

theorem redact_numberView (v : View) (handlers : List (String × Nat)) (number : Nat) :
    (w.numberView v handlers number).redact told
      = (w.redact told).numberView v handlers number := by
  have hstatus : (w.redact told).link.status = w.link.status := rfl
  unfold numberView
  rw [hstatus]
  split
  · exact redact_announce ..
  · rfl

theorem redact_listenView (number : Nat) :
    (w.listenView number).redact told = (w.redact told).listenView number := by
  have hadded : (w.addListener (.view number)).1.redact told
      = ((w.redact told).addListener (.view number)).1 := redact_addListener ..
  unfold listenView
  dsimp only
  rw [← hadded]
  rfl

theorem redact_startView (v : View) :
    (w.startView v).1.redact told = ((w.redact told).startView v).1 := by
  have hadded := redact_addHandlers told w (.view w.adapters.length) v.topics
  have hnumbers := addHandlers_redact_snd told w (.view w.adapters.length) v.topics
  rw [startView_eq, redact_listenView, redact_numberView, hadded, ← hnumbers]
  rfl

theorem redact_withdrawAll (handlers : List (String × Nat)) :
    (handlers.foldl (fun w h => w.withdraw (.router (.topic h.1)) h.2) w).redact told
      = handlers.foldl (fun w h => w.withdraw (.router (.topic h.1)) h.2) (w.redact told) := by
  induction handlers generalizing w with
  | nil => rfl
  | cons h rest ih => rw [List.foldl_cons, List.foldl_cons, ih, redact_withdraw]

/-- The view of a number is not in use any more. -/
def retireView (number : Nat) : World :=
  { w with adapters := w.adapters.modify number ({ · with live := false }) }

/-- A view that is not in use any more is withdrawn from everything, and the server is told. -/
def withdrawView (a : Adapter) : World :=
  let w := a.handlers.foldl (fun w h => w.withdraw (.router (.topic h.1)) h.2) w
  let w := w.withdraw .board a.listener
  w.sendAll (a.view.farewells !(w.router.forTopic "notification.new").isEmpty)

/-- Whether another feed still wants the notifications is read off the registrations of a topic, of
which redaction changes no number. -/
theorem redact_withdrawView (a : Adapter) :
    (w.withdrawView a).redact told = (w.redact told).withdrawView a := by
  have hothers : ∀ v : World, ((v.redact told).router.forTopic "notification.new").isEmpty
      = (v.router.forTopic "notification.new").isEmpty := by
    intro v
    change ((v.router.map Handler.redact).forTopic "notification.new").isEmpty = _
    rw [Registry.forTopic_map, List.isEmpty_map]
  unfold withdrawView
  dsimp only
  rw [redact_sendAll, ← redact_withdrawAll, ← redact_withdraw, hothers]

theorem redact_endView (number : Nat) :
    (w.endView number).redact told = (w.redact told).endView number := by
  have hadapters : (w.redact told).adapters = w.adapters := rfl
  unfold endView
  rw [hadapters]
  split
  · rfl
  · exact redact_withdrawView told (w.retireView number) _

theorem redact_endFormer (former : Option Nat) :
    (w.endFormer former).redact told = (w.redact told).endFormer former := by
  cases former with
  | none => rfl
  | some number => exact redact_endView told w number

/-! ### Deliveries -/

theorem redact_complete : w.complete.redact told = (w.redact told).complete := by
  have hstack : (w.redact told).stack = w.stack.map Frame.redact := rfl
  unfold complete
  cases hs : w.stack with
  | nil => simp only [hstack, hs, List.map_nil]
  | cons f tail =>
      cases f with
      | delivery n e rest completed =>
          simp only [hstack, hs, List.map_cons, Frame.redact]
          rfl
      | _ => simp only [hstack, hs, List.map_cons, Frame.redact]

/-- The message of a failure is the handler's own; no token gets into it. -/
theorem redact_failCall (message : Option String) :
    (w.failCall message).redact told = (w.redact told).failCall message := by
  have hstack : (w.redact told).stack = w.stack.map Frame.redact := rfl
  unfold failCall failureTopic
  cases hs : w.stack with
  | nil =>
      simp only [hstack, hs, List.map_nil]
      rfl
  | cons f tail =>
      cases f with
      | _ =>
          simp only [hstack, hs, List.map_cons, Frame.redact]
          rfl

/-- The audience is the same, handler by handler. -/
theorem redact_dispatch (e : Envelope) :
    (w.dispatch e).redact told = (w.redact told).dispatch e := by
  have haudience : (w.redact told).router.audience e.topic
      = (w.router.audience e.topic).map (Entry.map Handler.redact) := Registry.audience_map ..
  unfold dispatch
  dsimp only
  -- the names that are noted are of the handlers, which keep them
  rw [haudience, List.map_map]
  rfl

/-- A frame that cannot be read is answered with the error, which is about the frame. -/
theorem redact_dispatchFrame (frame : String) :
    (w.dispatchFrame frame).redact told = (w.redact told).dispatchFrame frame := by
  have hstamp : (w.redact told).stamps (w.redact told).stamped = w.stamps w.stamped := rfl
  unfold dispatchFrame
  rw [hstamp]
  split
  · exact redact_dispatch ..
  · rw [redact_answer rfl, redact_warn]

theorem redact_announceChange (c : Change) :
    (w.announceChange c).redact told = (w.redact told).announceChange c := by
  have hdraining : (w.redact told).board.draining = w.board.draining := rfl
  unfold announceChange
  dsimp only
  rw [hdraining]
  split
  · exact redact_answer rfl ..
  · rfl

/-- A change of the status is put on the queue with its number, and neither shows the token. -/
theorem redact_turn (t : Link × Option Change) :
    (w.turn t).redact told = (w.redact told).turn (Link.redactTurn t) := by
  obtain ⟨l, change⟩ := t
  cases change with
  | none => exact redact_answer rfl ..
  | some c => exact redact_announceChange ..

theorem redact_skipPayload (e : Envelope) (m : Json.Mismatch) :
    (w.skipPayload e m).redact told = (w.redact told).skipPayload e m := by
  rw [skipPayload, redact_complete, redact_warn, skipPayload]

/-- A handler writes what it got before it runs; the note is about the message. -/
theorem redact_runHandler (id : Nat) (owner : String) (n : Note) (hn : n.redact = n)
    (script : Script) : (w.runHandler id owner n script).redact told
      = (w.redact told).runHandler id owner n fun run => Command.redactAll (script run) := by
  unfold runHandler note
  rw [redact_push, redact_happen, Event.redact, hn]
  rfl

/-- A handler that wants a payload of a kind is skipped in both worlds or in neither. -/
theorem redact_callHandler (h : Entry Handler) (e : Envelope) :
    (w.callHandler h e).redact told
      = (w.redact told).callHandler (h.map Handler.redact) e := by
  obtain ⟨id, h⟩ := h
  cases h with
  | app name full kind script =>
      cases kind with
      | none => exact redact_runHandler told w id name _ rfl script
      | some kind =>
          simp only [callHandler, Entry.map, Handler.redact]
          split
          · exact redact_runHandler told w id name _ rfl script
          · exact redact_skipPayload ..
  | view adapter =>
      -- views hold no token, so both worlds show the same
      have hview : (w.redact told).viewOf? adapter = w.viewOf? adapter := rfl
      simp only [callHandler, Entry.map, Handler.redact, hview]
      split
      · exact redact_complete ..
      · split
        · exact redact_complete told (w.setView adapter _)
        · exact redact_skipPayload ..

/-- An application's listener looks at the status it is called with, a view's at what the view
wants. -/
theorem redact_callListener (l : Entry Listener) (s : Status) :
    (w.callListener l s).redact told
      = (w.redact told).callListener (l.map Listener.redact) s := by
  obtain ⟨id, l⟩ := l
  cases l with
  | app name only script =>
      simp only [callListener, Entry.map, Listener.redact]
      split <;> rfl
  | view adapter =>
      simp only [callListener, Entry.map, Listener.redact]
      split
      · exact redact_announce ..
      · rfl

theorem redact_nextChange (c : Change) :
    (w.nextChange c).redact told = (w.redact told).nextChange c := by
  have htake : (w.redact told).board.take
      = (w.board.take.1.map Listener.redact, w.board.take.2.map Listener.redact) :=
    Board.take_map Listener.redact w.board
  unfold nextChange
  rw [htake]
  generalize w.board.take = taken
  obtain ⟨board, next⟩ := taken
  cases next with
  | idle => exact redact_answer rfl ..
  | stale old => rfl
  | deliver new listeners =>
      simp only [Board.Next.map, List.map_map]
      rfl

/-! ### Supervisors -/

theorem supervisor_redact (id : Nat) : (w.redact told).supervisors[id]?
    = (w.supervisors[id]?).map (Supervisor.redact w.setup.url) := List.getElem?_map ..

theorem redact_stopSupervisor (o : Option Nat) :
    (w.stopSupervisor o).redact told = (w.redact told).stopSupervisor o := by
  cases o with
  | none => rfl
  | some id =>
      have hstopped := Proofs.map_modify_comm (f := ({ · with stopped := true }))
        (h := Supervisor.redact w.setup.url) (k := ({ · with stopped := true }))
        (fun _ => rfl) w.supervisors id
      simp only [stopSupervisor, redact, hstopped]

/-- Phases differ only in the URL of an attempt. -/
theorem redact_rest (id : Nat) (ph : Phase) :
    (w.rest id ph).redact told = (w.redact told).rest id (ph.redact w.setup.url) := by
  have hrested := Proofs.map_modify_comm (f := ({ · with phase := ph }))
    (h := Supervisor.redact w.setup.url) (k := ({ · with phase := ph.redact w.setup.url }))
    (fun _ => rfl) w.supervisors id
  simp only [rest, redact, hrested]

theorem redact_finish (id : Nat) : (w.finish id).redact told = (w.redact told).finish id := by
  rw [finish, redact_happen, redact_rest]
  rfl

/-- Without a token an attempt goes to the URL of the client as it is. -/
theorem redact_dial (id : Nat) (s : Supervisor) :
    (w.dial id s).redact told = (w.redact told).dial id (s.redact w.setup.url) := by
  unfold dial
  dsimp only
  rw [redact_happen, redact_rest]
  rfl

/-- To connect needs no token: it is read when the supervisor makes its attempt. -/
theorem redact_connect : w.connect.redact told = (w.redact told).connect := by
  have hruntime : (w.redact told).hasRuntime = w.hasRuntime := rfl
  have hmay : (w.redact told).link.mayConnect = w.link.mayConnect := rfl
  have hstart : (w.redact told).link.startConnecting = Link.redactTurn w.link.startConnecting :=
    Link.redact_startConnecting w.link
  unfold connect
  rw [hruntime, hmay]
  split
  · exact redact_answer rfl ..
  · split
    · dsimp only
      rw [Proofs.stopSupervisor_link, Proofs.stopSupervisor_link, hstart, redact_turn, redact_push,
        redact_stopSupervisor]
      rfl
    · exact redact_answer rfl ..

theorem redact_disconnect : w.disconnect.redact told = (w.redact told).disconnect := by
  have hidle : (w.redact told).link.idleSupervisor = w.link.idleSupervisor := rfl
  have hstop : (w.redact told).link.stop = Link.redactTurn w.link.stop :=
    Link.redact_stop w.link
  rw [disconnect, disconnect, redact_turn, redact_stopSupervisor, hidle, hstop]

/-- A supervisor is numbered by how many there were before, and stores no token. -/
theorem redact_startSupervisor (g : Nat) (previous : Option Nat) :
    (w.startSupervisor g previous).redact told
      = (w.redact told).startSupervisor g previous := by
  -- the new supervisor gets the same number in both worlds
  have hlength : (w.redact told).supervisors.length = w.supervisors.length := List.length_map ..
  have hstarted : { w with
      supervisors := w.supervisors ++ [Supervisor.mk g (.fresh previous) false] }.redact told
      = { w.redact told with
        supervisors := (w.redact told).supervisors ++ [⟨g, .fresh previous, false⟩] } := by
    simp only [redact, List.map_append]
    rfl
  have hadopt : (w.redact told).link.adopt g w.supervisors.length
      = (w.link.adopt g w.supervisors.length).map Link.redact := Link.redact_adopt ..
  unfold startSupervisor
  dsimp only
  rw [hlength, hadopt, ← hstarted]
  cases w.link.adopt g w.supervisors.length with
  | none => exact redact_stopSupervisor ..
  | some l => exact congrArg (fun v : World => { v with link := l.redact }) hstarted

/-- Of the three ways to go on only a new attempt makes a URL, and that is redacted. -/
theorem redact_resume (id : Nat) (next : Resumption) :
    (w.resume id next).redact told = (w.redact told).resume id next := by
  unfold resume
  rw [supervisor_redact]
  cases w.supervisors[id]? with
  | none => rfl
  | some s =>
      cases next with
      | session socket => exact redact_rest ..
      | sleep wait => exact redact_rest ..
      | dial => exact redact_dial ..

/-- The wait before a retry depends on the failures so far. -/
theorem redact_tryLater (id : Nat) (s : Supervisor) :
    (w.tryLater id s).redact told = (w.redact told).tryLater id (s.redact w.setup.url) := by
  have hfail : (w.redact told).link.fail s.generation
      = (w.link.fail s.generation).map Link.redactTurn := Link.redact_fail ..
  have hgeneration : (s.redact w.setup.url).generation = s.generation := rfl
  unfold tryLater
  rw [hgeneration, hfail]
  cases w.link.fail s.generation with
  | none => exact redact_finish ..
  | some t => exact redact_turn ..

theorem redact_sessionOver (id : Nat) (s : Supervisor) (socket : Nat) :
    (w.sessionOver id s socket).redact told
      = (w.redact told).sessionOver id (s.redact w.setup.url) socket := by
  unfold sessionOver
  change (if w.link.generation = s.generation then _ else _ : World).redact told
    = if w.link.generation = s.generation then _ else _
  split
  · exact redact_tryLater told
      ((w.happen (.dropped socket)).warn none "realtime session ended") id s
  · exact redact_finish told (w.happen (.dropped socket)) id

/-- Whether a supervisor has ended is not changed with the URL of its phase. -/
theorem isFinished_redact (id : Nat) : (w.redact told).isFinished id = w.isFinished id := by
  unfold isFinished
  rw [supervisor_redact]
  cases w.supervisors[id]? with
  | none => rfl
  | some s =>
      obtain ⟨g, ph, stopped⟩ := s
      cases ph <;> rfl

/-- A supervisor goes on by the clock, by the end of its predecessor and by its generation. -/
theorem redact_wake (id : Nat) (s : Supervisor) :
    (w.wake id s).map (redact told) = (w.redact told).wake id (s.redact w.setup.url) := by
  have hclock : (w.redact told).clock = w.clock := rfl
  obtain ⟨g, ph, stopped⟩ := s
  cases ph with
  | fresh previous =>
      cases previous with
      | none => exact congrArg some (redact_dial ..)
      | some previous =>
          simp only [wake, Supervisor.redact, Phase.redact, isFinished_redact]
          split
          · exact congrArg some (redact_dial ..)
          · -- the predecessor is still there: the supervisor waits for it
            exact congrArg some (redact_rest ..)
  | waiting previous deadline =>
      simp only [wake, Supervisor.redact, Phase.redact, isFinished_redact, hclock]
      split
      · exact congrArg some (redact_dial ..)
      · split
        · refine congrArg some ((redact_dial ..).trans ?_)
          rw [redact_stopSupervisor, redact_warn]
          rfl
        · rfl
  | sleeping deadline =>
      have hretry : (w.redact told).link.retry g = (w.link.retry g).map Link.redactTurn :=
        Link.redact_retry ..
      simp only [wake, Supervisor.redact, Phase.redact, hclock, hretry]
      split
      · cases w.link.retry g with
        | none => exact congrArg some (redact_finish ..)
        | some t => exact congrArg some (redact_turn ..)
      · rfl
  | _ => rfl

/-- A supervisor that is stopped ends in the same way in every phase, whatever URL it was
opening. -/
theorem redact_halt (id : Nat) (s : Supervisor) :
    (w.halt id s).map (redact told) = (w.redact told).halt id (s.redact w.setup.url) := by
  obtain ⟨g, ph, stopped⟩ := s
  cases ph with
  | finished => rfl
  | inSession socket => exact congrArg some (redact_finish told (w.happen (.dropped socket)) id)
  | closing socket => exact congrArg some (redact_finish told (w.happen (.dropped socket)) id)
  | _ => exact congrArg some (redact_finish ..)

/-- The server's answer is all that decides what becomes of an attempt; the URL has done its
part. -/
theorem redact_answered (id : Nat) (s : Supervisor) (accepted : Bool) :
    (w.answered id s accepted).map (redact told)
      = (w.redact told).answered id (s.redact w.setup.url) accepted := by
  obtain ⟨g, ph, stopped⟩ := s
  cases ph with
  | opening url =>
      -- a refused attempt is a failure, an accepted one a session
      cases accepted with
      | true =>
          have hsession : (w.redact told).link.startSession g w.sockets.length
              = (w.link.startSession g w.sockets.length).map Link.redactTurn :=
            Link.redact_startSession ..
          have hsockets : (w.redact told).sockets = w.sockets := rfl
          simp only [answered, Supervisor.redact, Phase.redact, if_true, hsockets, hsession]
          cases w.link.startSession g w.sockets.length with
          | none => exact congrArg some (redact_finish ..)
          | some t =>
              refine congrArg some ((redact_turn ..).trans ?_)
              rw [redact_push, redact_happen, redact_rest]
              rfl
      | false =>
          exact congrArg some (redact_tryLater told (w.warn none _) id ⟨g, .opening url, stopped⟩)
  | _ => rfl

theorem redact_write (id : Nat) (s : Supervisor) :
    (w.write id s).map (redact told) = (w.redact told).write id (s.redact w.setup.url) := by
  have hsockets : (w.redact told).sockets = w.sockets := rfl
  have houtbound : (w.redact told).link.outbound = w.link.outbound := rfl
  obtain ⟨g, ph, stopped⟩ := s
  cases ph with
  | inSession socket =>
      simp only [write, Supervisor.redact, Phase.redact, hsockets, houtbound]
      split
      · rfl
      · split
        · rfl
        · refine congrArg some ((redact_happen ..).trans ?_)
          rw [redact_rest]
          rfl
  | _ => rfl

theorem redact_breakWrite (id : Nat) (s : Supervisor) :
    (w.breakWrite id s).map (redact told)
      = (w.redact told).breakWrite id (s.redact w.setup.url) := by
  have hsockets : (w.redact told).sockets = w.sockets := rfl
  obtain ⟨g, ph, stopped⟩ := s
  cases ph with
  | inSession socket =>
      simp only [breakWrite, Supervisor.redact, Phase.redact, hsockets]
      split
      · exact congrArg some (redact_sessionOver told { w with sockets := _ } id _ socket)
      · rfl
  | _ => rfl

theorem redact_deliverFrame (id socket : Nat) (text : String) :
    (w.deliverFrame id socket text).redact told
      = (w.redact told).deliverFrame id socket text := by
  rw [deliverFrame, redact_dispatchFrame]
  rfl

theorem redact_read (id : Nat) (s : Supervisor) (i : Incoming) :
    (w.read id s i).map (redact told) = (w.redact told).read id (s.redact w.setup.url) i := by
  obtain ⟨g, ph, stopped⟩ := s
  cases ph with
  | inSession socket =>
      -- only a text and readable bytes are frames; the end of the stream and an error end the
      -- session
      cases i with
      | text t => exact congrArg some (redact_deliverFrame told (w.happen _) id socket t)
      | binary bytes =>
          simp only [read, Supervisor.redact, Phase.redact]
          split
          · exact congrArg some (redact_deliverFrame told (w.happen _) id socket _)
          · rfl
      | control => rfl
      | _ =>
          exact congrArg some (redact_sessionOver told (w.happen (.read socket _)) id
            ⟨g, .inSession socket, stopped⟩ socket)
  | _ => rfl

theorem redact_closed (id : Nat) (s : Supervisor) :
    (w.closed id s).map (redact told) = (w.redact told).closed id (s.redact w.setup.url) := by
  obtain ⟨g, ph, stopped⟩ := s
  cases ph with
  | closing socket => exact congrArg some (redact_sessionOver ..)
  | _ => rfl

end World

end LiveLink
