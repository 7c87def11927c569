import LiveLink.Proofs.Callers
import LiveLink.Proofs.Outcomes
import Mathlib.Data.Finset.Basic

/-!
# Messages and the views they are sent for

Every message that the client accepts for a session is said for someone. A view asks
for what it wants when it starts and whenever it is told that the client is connected;
it says what changes, if it changes what it wants; and it takes back what it wanted
when it ends. Everything else the application says for itself.

The history tells what was accepted, and the action that is under way tells for whom.
`messagesAlong` puts both together: every message accepted in a run, in order, with the
session and with the view it was said for. Nothing is left out, and nothing is made up
(`messagesAlong_queued`).
-/

namespace LiveLink.Proofs

open LiveLink Relation

/-! ## Messages along a run -/

/-- A message accepted for a socket, and the view it was said for, if it was said for one. -/
structure ViewMessage where
  socket : Nat
  sender : Option Nat
  notice : Notice

/-- What was accepted, and the socket for which it was. -/
def queued? : Event → Option (Nat × Notice)
  | .queued socket e => some (socket, e.topic, e.payload)
  | _ => none

/-- Whether a message on a topic asks for something that views want. -/
def asks (topic : String) : Bool :=
  topic = "chat.join" || topic = "notification.subscribe" || topic = "stream.health.subscribe"

/-- The view for which a command says something on a topic. A view that starts asks for what it
wants; the one that had the name before takes back what it wanted. -/
def commandSender (w : World) (topic : String) : Command → Option Nat
  | .joinChat name _ => if asks topic then some w.adapters.length else w.rooms.get? name
  | .openFeed name => if asks topic then some w.adapters.length else w.feeds.get? name
  | .watch name _ => if asks topic then some w.adapters.length else w.monitors.get? name
  | .leaveChat name => w.rooms.get? name
  | .closeFeed name => w.feeds.get? name
  | .closeMonitor name | .addStream name _ | .removeStream name _ => w.monitors.get? name
  | _ => none

/-- The view whose announcement a listener is. -/
def callee : Listener → Option Nat
  | .view n => some n
  | .app .. => none

/-- The view for which an action says something on a topic. -/
def sender (w : World) (a : Action) (topic : String) : Option Nat :=
  match cause w a, w.stack with
  | .asked c, _ => commandSender w topic c
  | .other, .announcement _ (l :: _) :: _ => callee l.handler
  | _, _ => none

/-- What was accepted in an action that has led to a world. -/
def saidUntil (w : World) (a : Action) (w' : World) : List ViewMessage :=
  ((inOrder queued? w'.history).drop (inOrder queued? w.history).length).map fun p =>
    ⟨p.1, sender w a p.2.1, p.2⟩

/-- What is accepted in an action. -/
def said (w : World) (a : Action) : List ViewMessage := (w.act a).elim [] (saidUntil w a)

/-- What is accepted along a run. -/
def messagesAlong (w : World) (as : List Action) : List ViewMessage := observed said w as

section Minutes

variable {w w' : World} {a : Action} {as : List Action}

/-- An action that is possible says what was queued on the way to the next world. -/
theorem said_of_act (h : w.act a = some w') : said w a = saidUntil w a w' := by
  rw [said, h]
  rfl

/-- What is accepted comes behind what was accepted before. -/
theorem act_queued (h : w.act a = some w') : ∃ new : List (Nat × Notice),
    inOrder queued? w'.history = inOrder queued? w.history ++ new
      ∧ said w a = new.map fun p => ⟨p.1, sender w a p.2.1, p.2⟩ := by
  obtain ⟨later, hlater⟩ := (runs_leads (act_steps h).runs).history
  have hgrown : inOrder queued? w'.history
      = inOrder queued? w.history ++ inOrder queued? later := by
    rw [show w'.history = later ++ w.history from hlater, inOrder_append]
  refine ⟨inOrder queued? later, hgrown, ?_⟩
  rw [said_of_act h, saidUntil, hgrown, List.drop_left]

theorem messagesAlong_cons (h : w.act a = some w') (as : List Action) :
    messagesAlong w (a :: as) = said w a ++ messagesAlong w' as := observed_cons h as

/-- **These are the messages that were accepted**, word for word. -/
theorem messagesAlong_queued (h : w.actAll as = some w') :
    inOrder queued? w'.history
      = inOrder queued? w.history ++ (messagesAlong w as).map fun u => (u.socket, u.notice) := by
  induction as generalizing w with
  | nil =>
      obtain rfl := Option.some.inj h
      simp [messagesAlong, observed]
  | cons a rest ih =>
      obtain ⟨v, hv, hrest⟩ := Option.bind_eq_some_iff.mp h
      obtain ⟨new, hnew, hsaid⟩ := act_queued hv
      -- word for word, the messages of an action are what it queued
      have hwords : (said w a).map (fun u => (u.socket, u.notice)) = new := by
        rw [hsaid, List.map_map]
        exact List.map_id new
      rw [ih hrest, hnew, messagesAlong_cons hv, List.map_append, hwords, List.append_assoc]

end Minutes

/-! ## What views want -/

/-- What a view wants from the server. -/
inductive Interest where
  | chat (eventId : String)
  | notices
  | health (streams : List String)

/-- What a view wants, as long as it shows what it shows. -/
def interest : View → Interest
  | .chat v => .chat v.eventId
  | .notices _ => .notices
  | .health v => .health v.streamIds

namespace Interest

/-- How a view asks for it. -/
def announcements : Interest → List Notice
  | chat eventId => [("chat.join", View.named "eventId" eventId)]
  | notices => [("notification.subscribe", .object [])]
  | health streams => streams.map fun s => ("stream.health.subscribe", View.named "streamId" s)

/-- How a view takes it back. -/
def farewells (otherListeners : Bool) : Interest → List Notice
  | chat eventId => [("chat.leave", View.named "eventId" eventId)]
  | notices => if otherListeners then [] else [("notification.unsubscribe", .object [])]
  | health streams => streams.map fun s => ("stream.health.unsubscribe", View.named "streamId" s)

end Interest

/-- What a view announces depends on what it wants, and on nothing else that it shows. -/
theorem announcements_interest (v : View) : v.announcements = (interest v).announcements := by
  cases v <;> rfl

/-- So does what it takes back. -/
theorem farewells_interest (others : Bool) (v : View) :
    v.farewells others = (interest v).farewells others := by
  cases v <;> rfl

/-- Announcements are on the topics that ask, farewells on those that do not; so the topic alone
tells one from the other. -/
theorem asks_announcements {v : View} {n : Notice} (h : n ∈ v.announcements) :
    asks n.1 = true := by
  cases v with
  | chat v =>
      obtain rfl := List.mem_singleton.mp h
      rfl
  | notices v =>
      obtain rfl := List.mem_singleton.mp h
      rfl
  | health v =>
      obtain ⟨s, -, rfl⟩ := List.mem_map.mp h
      rfl

theorem asks_farewells {v : View} {others : Bool} {n : Notice} (h : n ∈ v.farewells others) :
    asks n.1 = false := by
  cases v with
  | chat v =>
      obtain rfl := List.mem_singleton.mp h
      rfl
  | notices v =>
      cases others with
      | true => exact absurd h List.not_mem_nil
      | false =>
          obtain rfl := List.mem_singleton.mp h
          rfl
  | health v =>
      obtain ⟨s, -, rfl⟩ := List.mem_map.mp h
      rfl

/-! ### What views show does not change what they want -/

/-- To change what stands under a key changes no key. -/
theorem keys_modify {α : Type} (t : Table α) (key : String) (f : α → α) :
    (t.modify key f).keys = t.keys := by
  unfold Table.modify Table.keys
  rw [List.map_map]
  refine List.map_congr_left fun p _ => ?_
  simp only [Function.comp_apply]
  split <;> rfl

/-- A chat stays with its event whatever arrives. -/
theorem eventId_receive (v : ChatView) (m : ChatMessage) :
    (v.receive m).eventId = v.eventId := by
  unfold ChatView.receive
  split <;> rfl

theorem eventId_moderate (v : ChatView) (e : ModerationEvent) :
    (v.moderate e).eventId = v.eventId := by
  unfold ChatView.moderate
  split <;> rfl

theorem eventId_update (v : ChatView) (s : ChatStatus) :
    (v.update s).eventId = v.eventId := by
  unfold ChatView.update
  split <;> rfl

/-- A monitor goes on watching the same streams whatever arrives. -/
theorem streamIds_receive (v : HealthView) (s : HealthSnapshot) :
    (v.receive s).streamIds = v.streamIds := by
  unfold HealthView.receive
  split <;> rfl

theorem streamIds_alert (v : HealthView) (a : HealthAlert) :
    (v.alert a).streamIds = v.streamIds := by
  unfold HealthView.alert
  split <;> rfl

/-- An envelope that arrives does not change what a view wants. -/
theorem interest_receive {v v' : View} {e : Envelope} (h : v.receive e = .ok v') :
    interest v' = interest v := by
  cases v with
  | chat v =>
      simp only [View.receive] at h
      split at h
      · obtain ⟨m, -, rfl⟩ := ok_of_map h
        exact congrArg Interest.chat (eventId_receive v m)
      · split at h
        · obtain ⟨a, -, rfl⟩ := ok_of_map h
          exact congrArg Interest.chat (eventId_moderate v a)
        · split at h
          · obtain ⟨s, -, rfl⟩ := ok_of_map h
            exact congrArg Interest.chat (eventId_update v s)
          · rw [← Except.ok.inj h]
  | notices v =>
      simp only [View.receive] at h
      split at h
      · obtain ⟨n, -, rfl⟩ := ok_of_map h
        rfl
      · split at h
        · obtain ⟨u, -, rfl⟩ := ok_of_map h
          rfl
        · split at h
          · obtain ⟨b, -, rfl⟩ := ok_of_map h
            rfl
          · rw [← Except.ok.inj h]
  | health v =>
      simp only [View.receive] at h
      split at h
      · obtain ⟨s, -, rfl⟩ := ok_of_map h
        exact congrArg Interest.health (streamIds_receive v s)
      · split at h
        · obtain ⟨a, -, rfl⟩ := ok_of_map h
          exact congrArg Interest.health (streamIds_alert v a)
        · rw [← Except.ok.inj h]

/-! ## What the server makes of it -/

/-- What is asked for or taken back with the server: an event or a stream. -/
inductive Want where
  | event (id : String)
  | stream (id : String)
  deriving DecidableEq

/-- What a message asks for, or takes back. -/
def request? : Notice → Option (Want × Bool)
  | (topic, .object [(key, .string name)]) =>
    if key = "eventId" then
      if topic = "chat.join" then some (.event name, true)
      else if topic = "chat.leave" then some (.event name, false)
      else none
    else if key = "streamId" then
      if topic = "stream.health.subscribe" then some (.stream name, true)
      else if topic = "stream.health.unsubscribe" then some (.stream name, false)
      else none
    else none
  | _ => none

/-- The four messages about events and streams, and what the server reads in them. -/
theorem request?_join (eventId : String) :
    request? ("chat.join", View.named "eventId" eventId) = some (.event eventId, true) := rfl

theorem request?_leave (eventId : String) :
    request? ("chat.leave", View.named "eventId" eventId) = some (.event eventId, false) := rfl

theorem request?_watch (stream : String) :
    request? ("stream.health.subscribe", View.named "streamId" stream)
      = some (.stream stream, true) := rfl

theorem request?_unwatch (stream : String) :
    request? ("stream.health.unsubscribe", View.named "streamId" stream)
      = some (.stream stream, false) := rfl

/-- The streams that a server sends to whom has said all this, in order. -/
def replay (notices : List Notice) : Finset String :=
  notices.foldl (fun streams n =>
    match request? n with
    | some (.stream s, true) => insert s streams
    | some (.stream s, false) => streams.erase s
    | _ => streams) ∅

end LiveLink.Proofs
