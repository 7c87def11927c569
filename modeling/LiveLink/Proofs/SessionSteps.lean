import LiveLink.Proofs.ViewListeners
import LiveLink.Proofs.StatusHistory

/-!
# Steps of a session

What is said for views is the output of a small transition system with few kinds of
steps: a session begins, a view starts or ends, one asks for a stream more or less, a
view is called with *connected*, the application says something for itself. Its state
is a `ViewSession`: what the views want and which of them live, the session that takes
what is sent, and the views that are still to be called.

`ViewsInv.act` is the simulation: every action of the client, its handlers and its
supervisors is a `SessionStep`, and the step says what the action says. What is to be
proved about announcements and withdrawals is proved about session steps.
-/

namespace LiveLink.Proofs

open LiveLink Relation

/-! ## States and steps -/

/-- A view as far as it matters for what is said. -/
structure Member where
  interest : Interest
  live : Bool

/-- The views and the session. -/
structure ViewSession where
  members : List Member
  /-- The socket that takes what is sent now. -/
  socket : Option Nat
  sockets : Nat
  /-- The views that are still to be called with *connected*. -/
  uncalled : List Nat

namespace ViewSession

variable (s : ViewSession)

/-- The view of a number lives. -/
def Lives (n : Nat) : Prop := ∃ m, s.members[n]? = some m ∧ m.live = true

/-- Something is said for somebody. -/
def sayFor (sender : Option Nat) (notices : List Notice) : List ViewMessage :=
  (addressed s.socket notices).map fun p => ⟨p.1, sender, p.2⟩

/-- A view asks for what it wants. -/
def announcement (n : Nat) : List ViewMessage :=
  s.sayFor (some n) ((s.members[n]?).elim [] (·.interest.announcements))

/-- A view takes back what it wanted. -/
def farewell (n : Nat) (others : Bool) : List ViewMessage :=
  s.sayFor (some n) ((s.members[n]?).elim [] (·.interest.farewells others))

/-- There is one more view. -/
def addView (i : Interest) : ViewSession := { s with members := s.members ++ [⟨i, true⟩] }

/-- A view does not live any more. -/
def endView (n : Nat) : ViewSession :=
  { s with members := s.members.modify n ({ · with live := false }) }

/-- A view wants something else. -/
def setInterest (n : Nat) (i : Interest) : ViewSession :=
  { s with members := s.members.modify n ({ · with interest := i }) }

end ViewSession

/-- One step: what is said in it, and the state that it leaves. -/
inductive SessionStep (s : ViewSession) : List ViewMessage → ViewSession → Prop where
  | pass : SessionStep s [] s
  /-- There is no session any more. -/
  | lost : SessionStep s [] { s with socket := none }
  /-- A session begins; the views that live are to be called, each once. -/
  | opened {listening : List Nat} (hs : s.socket = none) (hu : s.uncalled = [])
      (hnodup : listening.Nodup) (hlive : ∀ n, n ∈ listening ↔ s.Lives n) :
      SessionStep s []
        { s with socket := some s.sockets, sockets := s.sockets + 1, uncalled := listening }
  /-- The application says something for itself. -/
  | tell (notice : Notice) : SessionStep s (s.sayFor none [notice]) s
  | addView (i : Interest) :
      SessionStep s (s.sayFor (some s.members.length) i.announcements) (s.addView i)
  /-- A view takes the place of another. -/
  | replace (i : Interest) {former : Nat} (others : Bool) (hlive : s.Lives former) :
      SessionStep s (s.sayFor (some s.members.length) i.announcements ++ s.farewell former others)
        ((s.addView i).endView former)
  | endView {n : Nat} (others : Bool) (hlive : s.Lives n) :
      SessionStep s (s.farewell n others) (s.endView n)
  /-- A view asks for a stream more. -/
  | widen {n : Nat} {streams streams' : List String} {stream : String}
      (hn : s.members[n]? = some ⟨.health streams, true⟩)
      (hs : ∀ x, x ∈ streams' ↔ x = stream ∨ x ∈ streams) :
      SessionStep s
        (s.sayFor (some n) [("stream.health.subscribe", View.named "streamId" stream)])
        (s.setInterest n (.health streams'))
  /-- A view takes a stream back. -/
  | narrow {n : Nat} {streams streams' : List String} {stream : String}
      (hn : s.members[n]? = some ⟨.health streams, true⟩) (hstream : stream ∈ streams)
      (hs : ∀ x, x ∈ streams' ↔ x ≠ stream ∧ x ∈ streams) :
      SessionStep s
        (s.sayFor (some n) [("stream.health.unsubscribe", View.named "streamId" stream)])
        (s.setInterest n (.health streams'))
  /-- A view is called with *connected*, whether it lives or not. -/
  | call {n : Nat} {rest : List Nat} (hu : s.uncalled = n :: rest) :
      SessionStep s (s.announcement n) { s with uncalled := rest }

/-- The state of what is seen of the views. While a *connected* waits to be delivered, those who
listen are those who will be called. -/
def ViewWorld.viewSession (g : ViewWorld) : ViewSession where
  members := g.adapters.map fun a => ⟨interest a.view, a.live⟩
  socket := g.socket
  sockets := g.sockets
  uncalled := g.calling ++ if g.due then callees g.listeners else []

def viewSession (w : World) : ViewSession := (viewWorld w).viewSession

section ViewSessions

variable {g : ViewWorld}

theorem lives_viewSession {n : Nat} : g.viewSession.Lives n ↔ g.Lives n := by
  constructor
  · rintro ⟨m, hm, hlive⟩
    obtain ⟨a, ha, rfl⟩ := Option.map_eq_some_iff.mp ((List.getElem?_map ..).symm.trans hm)
    exact ⟨a, ha, hlive⟩
  · rintro ⟨a, ha, hlive⟩
    exact ⟨_, (List.getElem?_map ..).trans (congrArg _ ha), hlive⟩

theorem member_viewSession {n : Nat} {a : Adapter} (ha : g.adapters[n]? = some a) :
    g.viewSession.members[n]? = some ⟨interest a.view, a.live⟩ :=
  (List.getElem?_map ..).trans (congrArg _ ha)

theorem viewSession_setView (n : Nat) (v : View) :
    (g.setView n v).viewSession = g.viewSession.setInterest n (interest v) := by
  have hmembers : (g.adapters.modify n ({ · with view := v })).map
      (fun a => (⟨interest a.view, a.live⟩ : Member)) =
      (g.adapters.map fun a => ⟨interest a.view, a.live⟩).modify n
        ({ · with interest := interest v }) := by
    refine map_modify_comm ?_ g.adapters n
    exact fun _ => rfl
  unfold ViewWorld.viewSession ViewSession.setInterest
  rw [← hmembers]
  rfl

/-- A view that wants what it wanted leaves the state as it is. -/
theorem viewSession_setView_same {n : Nat} {a : Adapter} {v : View} (ha : g.adapters[n]? = some a)
    (hv : interest v = interest a.view) : (g.setView n v).viewSession = g.viewSession := by
  have hmembers : (g.adapters.modify n ({ · with view := v })).map
      (fun a => (⟨interest a.view, a.live⟩ : Member)) =
      g.adapters.map fun a => ⟨interest a.view, a.live⟩ := by
    refine List.ext_getElem? fun j => ?_
    rw [List.getElem?_map, List.getElem?_map, List.getElem?_modify]
    by_cases hj : n = j
    · subst hj
      simp [ha, hv]
    · simp [hj]
  unfold ViewWorld.viewSession
  rw [← hmembers]
  rfl

theorem uncalled_viewSession (hd : g.due = false) : g.viewSession.uncalled = g.calling := by
  simp [ViewWorld.viewSession, hd]

theorem viewSession_start (hd : g.due = false) (v : View) (handlers : List (String × Nat)) :
    (g.start v handlers).viewSession = g.viewSession.addView (interest v) := by
  have hdue : (g.start v handlers).due = false := hd
  simp only [ViewWorld.viewSession, ViewSession.addView, hd, hdue]
  simp [ViewWorld.start, ViewWorld.listen, ViewWorld.say]

theorem viewSession_finish (hd : g.due = false) {n : Nat} {a : Adapter}
    (ha : g.adapters[n]? = some a) (others : Bool) :
    (g.finish n others).viewSession = g.viewSession.endView n := by
  have hmembers : (g.adapters.modify n ({ · with live := false })).map
      (fun a => (⟨interest a.view, a.live⟩ : Member)) =
      (g.adapters.map fun a => ⟨interest a.view, a.live⟩).modify n ({ · with live := false }) := by
    refine map_modify_comm ?_ g.adapters n
    exact fun _ => rfl
  have huncalled := uncalled_viewSession hd
  unfold ViewSession.endView
  simp only [ViewWorld.finish, ha]
  unfold ViewWorld.viewSession at huncalled ⊢
  rw [← hmembers, huncalled]
  simp [ViewWorld.say, ViewWorld.leave, hd]

end ViewSessions

/-! ## Simulation -/

/-- What is seen of the views changes as in a session step. Whom something is said for depends on
its topic. -/
structure Simulates (g : ViewWorld) (commandSender : String → Option Nat) (g' : ViewWorld) :
    Prop where
  listeners : ListenerInv g'
  due : g'.due = g.due
  told : ∃ notices, g'.queued = g.queued ++ addressed g.socket notices
    ∧ SessionStep g.viewSession
      ((addressed g.socket notices).map fun p => ⟨p.1, commandSender p.2.1, p.2⟩)
      g'.viewSession

section Going

variable {g g' : ViewWorld} {commandSender : String → Option Nat}

theorem words_sayFor (commandSender : String → Option Nat) (notices : List Notice)
    {sender : Option Nat} (h : ∀ n ∈ notices, commandSender n.1 = sender) :
    ((addressed g.socket notices).map fun p => (⟨p.1, commandSender p.2.1, p.2⟩ : ViewMessage))
      = g.viewSession.sayFor sender notices := by
  refine List.map_congr_left fun p hp => ?_
  have hmem : p.2 ∈ notices := by
    cases hg : g.socket with
    | none => exact absurd (hg ▸ hp) List.not_mem_nil
    | some k =>
        obtain ⟨n, hn, rfl⟩ := List.mem_map.mp (hg ▸ hp : p ∈ addressed (some k) notices)
        exact hn
  rw [h _ hmem]

/-- Something is said for one. -/
theorem Simulates.spoken (notices : List Notice) (sender : Option Nat) (hlisteners : ListenerInv g')
    (hdue : g'.due = g.due) (hqueued : g'.queued = g.queued ++ addressed g.socket notices)
    (hsender : ∀ n ∈ notices, commandSender n.1 = sender)
    (h : SessionStep g.viewSession (g.viewSession.sayFor sender notices) g'.viewSession) :
    Simulates g commandSender g' :=
  ⟨hlisteners, hdue, notices, hqueued, words_sayFor commandSender notices hsender ▸ h⟩

/-- Nothing is said. -/
theorem Simulates.silent (hlisteners : ListenerInv g') (hdue : g'.due = g.due)
    (hqueued : g'.queued = g.queued) (h : SessionStep g.viewSession [] g'.viewSession) :
    Simulates g commandSender g' :=
  ⟨hlisteners, hdue, [], by simp [hqueued], by simpa using h⟩

theorem Simulates.same (h : ListenerInv g) : Simulates g commandSender g := .silent h rfl rfl .pass

theorem Simulates.keepsViews {w w' : World} (h : ListenerInv (viewWorld w)) (hl : KeepsViews w w') :
    Simulates (viewWorld w) commandSender (viewWorld w') := by
  cases hl with
  | still hl =>
      rw [hl]
      exact .same h
  | cut hl =>
      rw [hl]
      exact .silent (h.congr rfl rfl rfl rfl rfl) rfl rfl .lost

/-- Who listens, and what the application holds, is no part of the state. -/
theorem Simulates.listening (hd : g.due = false) (hlisteners : ListenerInv g')
    (hg' : g' = { g with
      names := g'.names, handles := g'.handles, listeners := g'.listeners, nextId := g'.nextId }) :
    Simulates g commandSender g' := by
  have hsession : g'.viewSession = g.viewSession := by
    rw [hg']
    simp [ViewWorld.viewSession, hd]
  refine .silent hlisteners ?_ ?_ (hsession ▸ .pass)
  · rw [hg']
  · rw [hg']

end Going

/-! ## Commands -/

section Commands

variable {w w' : World} {c : Command}

/-- A command that neither changes registrations nor tells the server anything changes nothing but
the session. -/
theorem perform_keepsViews (hw : Asking w) (hb : w.parts.board = false) (ht : registers c = false)
    (hs : tellsServer c = false) : KeepsViews w (w.perform c) :=
  steps_keepsViews hb (perform_steps (u := w) rfl hw) (viewless_command ht hs)

/-! ### Subscriptions -/

/-- The application registers somebody, withdraws him, or forgets him. -/
theorem subscribe_simulates {commandSender : String → Option Nat}
    (hlisteners : ListenerInv (viewWorld w)) (hd : (viewWorld w).due = false) (name : String)
    (s : Scope) (h : Handler) (r : Reply) :
    Simulates (viewWorld w) commandSender (viewWorld ((w.subscribe name s h).1.answer r)) := by
  rw [viewWorld_answer, viewWorld_subscribe]
  refine .listening hd (hlisteners.keep name ?_) rfl
  exact fun hplace => absurd hplace (by simp)

theorem listen_simulates {commandSender : String → Option Nat}
    (hlisteners : ListenerInv (viewWorld w)) (hd : (viewWorld w).due = false) (name owner : String)
    (only : Option Status) (script : Script) (r : Reply) :
    Simulates (viewWorld w) commandSender
      (viewWorld ((w.listen name (.app owner only script)).1.answer r)) := by
  rw [viewWorld_answer, viewWorld_listen]
  have hlisten := hlisteners.listen (l := .app owner only script) rfl
  refine .listening hd (hlisten.keep name fun _ => ⟨Nat.lt_succ_self _, ?_⟩) rfl
  -- the number of the listener is a new one
  intro l hl hid
  rcases List.mem_append.mp hl with hl | hl
  · exact absurd hid (Nat.ne_of_lt (hlisteners.fresh l hl))
  · obtain rfl := List.mem_singleton.mp hl
    rfl

theorem unsubscribe_simulates {commandSender : String → Option Nat}
    (hlisteners : ListenerInv (viewWorld w)) (hd : (viewWorld w).due = false) {name : String}
    {s : Subscription} (hs : w.subscriptions.get? name = some s) (r : Reply) :
    Simulates (viewWorld w) commandSender (viewWorld ((w.unsubscribe name s).answer r)) := by
  rw [viewWorld_answer]
  unfold World.unsubscribe
  split
  · obtain ⟨id, place, active⟩ := s
    have hplace : place = .board → id < (viewWorld w).nextId ∧ (viewWorld w).Spare id :=
      hlisteners.handles name _ hs
    have hheld := hlisteners.keep name (c := ⟨id, place, false⟩) hplace
    cases place with
    | router scope =>
        rw [viewWorld_withdraw_router]
        exact .listening hd hheld rfl
    | board =>
        rw [viewWorld_withdraw_board]
        exact .listening hd (hheld.leave (hplace rfl).2) rfl
  · exact .same hlisteners

/-! ### Views that start and end -/

/-- A view starts under a name, and the one that had the name ends. What is asked for is said for
the new one, what is taken back for the other. -/
theorem startNamed_simulates (s : ViewKind) (hlisteners : ListenerInv (viewWorld w))
    (hd : (viewWorld w).due = false)
    (name : String) {v : View} (hv : viewKind (interest v) = s) :
    Simulates (viewWorld w)
      (fun topic => if asks topic then some w.adapters.length else (names w s).get? name)
      (viewWorld (w.startNamed ((names w s).get? name) v
        fun x n => withNames x s ((names x s).insert name n))) := by
  obtain ⟨handlers, hviewWorld⟩ := viewWorld_startNamed w s name v
  have hentitled : ListenerInv (((viewWorld w).start v handlers).assign s name w.adapters.length) :=
    hlisteners.start_assign name handlers hv
  have hsession := viewSession_start hd v handlers
  have hlength : (viewWorld w).viewSession.members.length = w.adapters.length := List.length_map ..
  rw [hviewWorld]
  generalize hasNoticeHandlers _ = others
  cases hformer : (names w s).get? name with
  | none =>
      refine .spoken v.announcements (some w.adapters.length) hentitled rfl rfl
        (fun n hn => if_pos (asks_announcements hn)) ?_
      rw [announcements_interest, ← hlength]
      exact hsession ▸ .addView (interest v)
  | some former =>
      rw [ViewWorld.finishFormer, Option.elim_some]
      obtain ⟨a, ha, hlive, hkind⟩ := hlisteners.named s name former hformer
      have ha' :
          (((viewWorld w).start v handlers).assign s name w.adapters.length).adapters[former]?
          = some a := started_before ha v handlers
      have hlt := (List.getElem?_eq_some_iff.mp ha).1
      have hunnamed := (hlisteners.start v handlers).assign_unnamed (m := w.adapters.length) hformer
        (Nat.ne_of_lt hlt)
      have hann := words_sayFor (g := viewWorld w)
        (fun topic => if asks topic then some w.adapters.length else some former)
        v.announcements fun n hn => if_pos (asks_announcements hn)
      have hfare := words_sayFor (g := viewWorld w)
        (fun topic => if asks topic then some w.adapters.length else some former)
        (a.view.farewells others) fun n hn => if_neg (by simp [asks_farewells hn])
      have hreplace := SessionStep.replace (s := (viewWorld w).viewSession) (interest v) others
        (lives_viewSession.mpr ⟨a, ha, hlive⟩)
      -- the new view is there already when the one before it leaves
      have hleft : ((((viewWorld w).start v handlers).assign s name w.adapters.length).finish former
          others).viewSession = ((viewWorld w).viewSession.addView (interest v)).endView former :=
        (viewSession_finish (g := ((viewWorld w).start v handlers).assign s name w.adapters.length)
          hd ha' others).trans (congrArg (ViewSession.endView · former) hsession)
      refine ⟨hentitled.finish hunnamed ⟨a, ha', hlive⟩ others, finish_due ha' others,
        v.announcements ++ a.view.farewells others, ?_, ?_⟩
      · rw [finish_queued ha', addressed_append, ← List.append_assoc]
        rfl
      · rw [addressed_append, List.map_append, hann, hfare, hleft, announcements_interest,
          farewells_interest, ← hlength]
        rw [ViewSession.farewell, member_viewSession ha] at hreplace
        exact hreplace

/-- The view of a name ends. -/
theorem endNamed_simulates (s : ViewKind) (hlisteners : ListenerInv (viewWorld w))
    (hd : (viewWorld w).due = false) (name : String) :
    Simulates (viewWorld w) (fun _ => (names w s).get? name)
      (viewWorld
        (w.endNamed (names w s) name fun x => withNames x s ((names x s).erase name))) := by
  rw [viewWorld_endNamed]
  generalize hasNoticeHandlers _ = others
  cases hn : (names w s).get? name with
  | none => exact .same hlisteners
  | some n =>
      rw [Option.elim_some]
      obtain ⟨a, ha, hlive, hkind⟩ := hlisteners.named s name n hn
      have ha' : ((viewWorld w).unassign s name).adapters[n]? = some a := ha
      have hleft : (((viewWorld w).unassign s name).finish n others).viewSession
          = (viewWorld w).viewSession.endView n :=
        viewSession_finish (g := (viewWorld w).unassign s name) hd ha' others
      refine .spoken (a.view.farewells others) (some n)
        ((hlisteners.unassign s name).finish (hlisteners.unassign_unnamed hn) ⟨a, ha', hlive⟩
          others)
        (finish_due ha' others) (finish_queued ha' others) (fun _ _ => rfl) ?_
      have hend := SessionStep.endView (s := (viewWorld w).viewSession) others
        (lives_viewSession.mpr ⟨a, ha, hlive⟩)
      rw [ViewSession.farewell, member_viewSession ha, Option.elim_some,
        ← farewells_interest] at hend
      rw [hleft]
      exact hend

/-! ### What is said -/

/-- The application says something for itself, in which a view may have had a part that wants what
it wanted. -/
theorem sendReplying_simulates {commandSender : String → Option Nat}
    (hlisteners : ListenerInv (viewWorld w)) (topic : String) (payload : Json)
    (hs : commandSender topic = none) :
    Simulates (viewWorld w) commandSender (viewWorld (w.sendReplying topic payload)) := by
  rw [viewWorld_answered_send]
  refine .spoken [(topic, payload)] none (hlisteners.say _) rfl rfl ?_ ?_
  · intro n hn
    obtain rfl := List.mem_singleton.mp hn
    exact hs
  · exact .tell (topic, payload)

theorem getElem?_of_viewOf {n : Nat} {v : View} (hv : w.viewOf? n = some v) :
    ∃ a, (viewWorld w).adapters[n]? = some a ∧ a.view = v := by
  obtain ⟨a, ha, rfl⟩ := Option.map_eq_some_iff.mp hv
  exact ⟨a, ha, rfl⟩

/-- A view may show something else meanwhile, if it wants what it wanted. -/
theorem setView_simulates {commandSender : String → Option Nat} {n : Nat} {u v : View} {x : World}
    (hv : w.viewOf? n = some u) (hsame : interest v = interest u)
    (hlisteners : ListenerInv (viewWorld w))
    (h : ListenerInv (viewWorld (w.setView n v)) →
      Simulates (viewWorld (w.setView n v)) commandSender (viewWorld x)) :
    Simulates (viewWorld w) commandSender (viewWorld x) := by
  obtain ⟨a, ha, rfl⟩ := getElem?_of_viewOf hv
  have hsession : (viewWorld (w.setView n v)).viewSession = (viewWorld w).viewSession :=
    viewSession_setView_same ha hsame
  have hset : ListenerInv (viewWorld (w.setView n v)) := by
    refine hlisteners.setView fun b hb => ?_
    obtain rfl := Option.some.inj (ha.symm.trans hb)
    rw [hsame]
  obtain ⟨hlisteners', hdue, notices, hqueued, hep⟩ := h hset
  exact ⟨hlisteners', hdue, notices, hqueued, hsession ▸ hep⟩

/-- A view that has a name changes the streams that it wants, and says so. -/
theorem restream_simulates {commandSender : String → Option Nat}
    (hlisteners : ListenerInv (viewWorld w))
    {name : String} {n : Nat} {u v : HealthView} {topic : String} {payload : Json}
    (hn : w.monitors.get? name = some n)
    (hv : w.viewOf? n = some (.health u)) (hs : commandSender topic = some n) (r : Reply)
    (hep : (viewWorld w).viewSession.members[n]? = some ⟨.health u.streamIds, true⟩ →
      SessionStep (viewWorld w).viewSession
        ((viewWorld w).viewSession.sayFor (some n) [(topic, payload)])
        ((viewWorld w).viewSession.setInterest n (.health v.streamIds))) :
    Simulates (viewWorld w) commandSender
      (viewWorld (((w.setView n (.health v)).sendPayload topic payload).1.answer r)) := by
  obtain ⟨a, ha, hview⟩ := getElem?_of_viewOf hv
  obtain ⟨b, hb, hlive, -⟩ := hlisteners.named .health name n hn
  obtain rfl := Option.some.inj (ha.symm.trans hb)
  have hmember : (viewWorld w).viewSession.members[n]? = some ⟨.health u.streamIds, true⟩ := by
    rw [member_viewSession ha, hview, hlive]
    rfl
  -- the view is still a monitor, so its name still fits it
  have hset : ListenerInv ((viewWorld w).setView n (.health v)) := by
    refine hlisteners.setView fun b hb => ?_
    obtain rfl := Option.some.inj (ha.symm.trans hb)
    rw [hview]
    rfl
  rw [viewWorld_answer, viewWorld_sendPayload, viewWorld_setView]
  refine .spoken [(topic, payload)] (some n) (hset.say _) rfl rfl ?_ ?_
  · intro m hm
    obtain rfl := List.mem_singleton.mp hm
    exact hs
  · have hsession : (((viewWorld w).setView n (.health v)).say [(topic, payload)]).viewSession
        = (viewWorld w).viewSession.setInterest n (.health v.streamIds) :=
          viewSession_setView n (.health v)
    rw [hsession]
    exact hep hmember

/-- **A command is a session step.** -/
theorem perform_simulates (hw : Asking w) (hb : w.parts.board = false)
    (hlisteners : ListenerInv (viewWorld w)) (hd : (viewWorld w).due = false) (c : Command) :
    Simulates (viewWorld w) (fun topic => commandSender w topic c) (viewWorld (w.perform c)) := by
  have hsame : ∀ {commandSender : String → Option Nat} r,
      Simulates (viewWorld w) commandSender (viewWorld (w.answer r)) := by
    intro commandSender r
    rw [viewWorld_answer]
    exact .same hlisteners
  -- the commands that views have no part in, all in one way
  have hquiet : ∀ {c}, registers c = false → tellsServer c = false →
      Simulates (viewWorld w) (fun topic => commandSender w topic c) (viewWorld (w.perform c)) :=
        fun ht hs =>
    .keepsViews hlisteners (perform_keepsViews hw hb ht hs)
  cases c with
  | subscribe onClient name topic full script =>
      exact requiring_cases (P := fun x => Simulates (viewWorld w) _ (viewWorld x)) _ hsame
        fun _ => subscribe_simulates hlisteners hd name _ _ _
  | subscribeTyped name topic kind script =>
      exact requiring_cases (P := fun x => Simulates (viewWorld w) _ (viewWorld x)) _ hsame
        fun _ => subscribe_simulates hlisteners hd name _ _ _
  | listen name only script =>
      exact requiring_cases (P := fun x => Simulates (viewWorld w) _ (viewWorld x)) _ hsame
        fun _ => listen_simulates hlisteners hd name name only script _
  | unsubscribe name =>
      exact withSubscription_cases (P := fun x => Simulates (viewWorld w) _ (viewWorld x)) hsame
        fun s hs => unsubscribe_simulates hlisteners hd hs _
  | forget name =>
      refine withSubscription_cases (P := fun x => Simulates (viewWorld w) _ (viewWorld x)) hsame
        fun s hs => ?_
      rw [viewWorld_answer]
      exact .listening hd (hlisteners.forget name) rfl
  | joinChat name eventId =>
      exact requiring_cases (P := fun x => Simulates (viewWorld w) _ (viewWorld x)) _ hsame
        fun _ => startNamed_simulates .chat hlisteners hd name rfl
  | openFeed name =>
      exact requiring_cases (P := fun x => Simulates (viewWorld w) _ (viewWorld x)) _ hsame
        fun _ => startNamed_simulates .notices hlisteners hd name rfl
  | watch name streams =>
      exact requiring_cases (P := fun x => Simulates (viewWorld w) _ (viewWorld x)) _ hsame
        fun _ => startNamed_simulates .health hlisteners hd name rfl
  | leaveChat name => exact endNamed_simulates .chat hlisteners hd name
  | closeFeed name => exact endNamed_simulates .notices hlisteners hd name
  | closeMonitor name => exact endNamed_simulates .health hlisteners hd name
  | send topic payload =>
      exact requiring_cases (P := fun x => Simulates (viewWorld w) _ (viewWorld x)) _ hsame
        fun _ => sendReplying_simulates hlisteners topic payload rfl
  | say name text =>
      exact withRoom_cases (P := fun x => Simulates (viewWorld w) _ (viewWorld x)) hsame
        fun v => sendReplying_simulates hlisteners _ _ rfl
  | moderate name messageId action reason =>
      exact withRoom_cases (P := fun x => Simulates (viewWorld w) _ (viewWorld x)) hsame
        fun v => sendReplying_simulates hlisteners _ _ rfl
  | markRead name id =>
      refine withFeed_cases (P := fun x => Simulates (viewWorld w) _ (viewWorld x)) hsame
        fun n v hv => ?_
      exact setView_simulates (v := .notices (v.setRead id true)) hv rfl hlisteners
        fun hset => sendReplying_simulates hset _ _ rfl
  | markAllRead name =>
      refine withFeed_cases (P := fun x => Simulates (viewWorld w) _ (viewWorld x)) hsame
        fun n v hv => ?_
      exact setView_simulates (v := .notices v.readAll) hv rfl hlisteners
        fun hset => sendReplying_simulates hset _ _ rfl
  | addStream name stream =>
      refine withMonitor_cases (P := fun x => Simulates (viewWorld w) _ (viewWorld x)) hsame
        fun n v hn hv => ?_
      split
      · exact hsame _
      · rename_i hwatched
        refine restream_simulates hlisteners hn hv hn _ fun hm => .widen hm fun x => ?_
        rw [HealthView.add, if_neg hwatched]
        exact mem_keys_insert
  | removeStream name stream =>
      refine withMonitor_cases (P := fun x => Simulates (viewWorld w) _ (viewWorld x)) hsame
        fun n v hn hv => ?_
      split
      · rename_i hwatched
        refine restream_simulates hlisteners hn hv hn _
          fun hm => .narrow hm (mem_keys.mpr hwatched) fun x => ?_
        rw [HealthView.remove, if_pos hwatched]
        exact mem_keys_erase
      · exact hsame _
  | _ => exact hquiet rfl rfl

end Commands

/-! ## Actions -/

/-- The invariant of the simulation. A *connected* that waits is delivered next. -/
structure ViewsInv (w : World) : Prop where
  status : StatusInv w
  listeners : ListenerInv (viewWorld w)
  prompt : (viewWorld w).due = true → ∃ c new tail, w.stack = .announcement c [] :: tail
    ∧ calling tail = [] ∧ w.board.pending = [new]

section Actions

variable {w w' : World} {a : Action}

theorem viewsInv_initial (router client : Bool) (setup : Setup) (hasRuntime : Bool)
    (stamps : Nat → Stamp) :
    ViewsInv (.initial ⟨router, false, client⟩ setup hasRuntime stamps) where
  status := statusInv_initial router client setup hasRuntime stamps
  listeners := ListenerInv.initial ..
  prompt := fun h => absurd h (by simp [viewWorld, World.initial, Board.empty])

/-- Unless a delivery is about to take the next change, no *connected* waits. -/
theorem ViewsInv.idle (hw : ViewsInv w) (hs : ∀ c tail, w.stack ≠ .announcement c [] :: tail) :
    (viewWorld w).due = false := by
  rw [← Bool.not_eq_true]
  intro hdue
  obtain ⟨c, new, tail, hstack, -⟩ := hw.prompt hdue
  exact hs c tail hstack

theorem ViewsInv.busy (hw : ViewsInv w) {f : Frame} {tail : List Frame} (hs : w.stack = f :: tail)
    (hf : ∀ c, f ≠ .announcement c []) : (viewWorld w).due = false :=
  hw.idle fun c _ hstack => hf c (List.cons.inj (hs.symm.trans hstack)).1

theorem ViewsInv.rest (hw : ViewsInv w) (hs : w.stack = []) : (viewWorld w).due = false :=
  hw.idle fun c tail hstack => absurd (hs.symm.trans hstack) (by simp)

/-- Nobody is to be called when no code runs. -/
theorem ViewsInv.uncalled (hw : ViewsInv w) (hs : w.stack = []) :
    (viewSession w).uncalled = [] := by
  rw [viewSession, uncalled_viewSession (hw.rest hs)]
  simp [viewWorld, hs, calling]

/-- What is queued in an action is what is said in it. -/
theorem said_of_queued (h : w.act a = some w') {new : List (Nat × Notice)}
    (hnew : (viewWorld w').queued = (viewWorld w).queued ++ new) :
    said w a = new.map fun p => ⟨p.1, sender w a p.2.1, p.2⟩ := by
  obtain ⟨new', hqueued, hsaid⟩ := act_queued h
  obtain rfl : new = new' := List.append_cancel_left (hnew.symm.trans hqueued)
  exact hsaid

/-- What simulates an action is the session step of the action. -/
theorem ViewsInv.simulates (hw : ViewsInv w) (h : w.act a = some w')
    (hd : (viewWorld w).due = false) (hgo : Simulates (viewWorld w) (sender w a) (viewWorld w')) :
    ViewsInv w' ∧ SessionStep (viewSession w) (said w a) (viewSession w') := by
  obtain ⟨hlisteners, hdue, notices, hqueued, hep⟩ := hgo
  refine ⟨⟨statusInv_runs hw.status (act_steps h).runs, hlisteners, ?_⟩, ?_⟩
  · -- only the start of a session makes a *connected* due
    intro hdue'
    exact absurd (hdue'.symm.trans (hdue.trans hd)) (by simp)
  · rw [said_of_queued h hqueued]
    exact hep

/-! ### Commands -/

theorem asked_sessionStep (hw : ViewsInv w) {c : Command} (hc : cause w a = .asked c)
    (h : w.act a = some w') :
    ViewsInv w' ∧ SessionStep (viewSession w) (said w a) (viewSession w') := by
  have hact := h
  obtain ⟨r, stack, rfl, hviewWorld, hasking, hidle⟩ := asked_viewWorld hc h
  have hsender : sender w a = fun topic =>
      commandSender { w with reply := r, stack := stack } topic c := by
    funext topic
    rw [sender, hc]
    cases c <;> rfl
  have hd : (viewWorld w).due = false := hw.idle hidle
  refine hw.simulates hact hd ?_
  have hgo := perform_simulates hasking hw.status.own (hviewWorld ▸ hw.listeners)
    (hviewWorld ▸ hd) c
  rw [hsender]
  rwa [hviewWorld] at hgo

/-! ### The code that runs -/

/-- What is seen stays the same. -/
theorem ViewsInv.same (hw : ViewsInv w) (h : w.act a = some w') (hd : (viewWorld w).due = false)
    (hsame : viewWorld w' = viewWorld w) :
    ViewsInv w' ∧ SessionStep (viewSession w) (said w a) (viewSession w') := by
  refine hw.simulates h hd ?_
  rw [hsame]
  exact .same hw.listeners

/-- An action that views have no part in. -/
theorem ViewsInv.keepsViews (hw : ViewsInv w) (h : w.act a = some w')
    (hd : (viewWorld w).due = false) (hu : Viewless w a) :
    ViewsInv w' ∧ SessionStep (viewSession w) (said w a) (viewSession w') :=
  hw.simulates h hd (.keepsViews hw.listeners (steps_keepsViews hw.status.own (act_steps h) hu))

/-- A view that is called with an envelope may want something else from now on. -/
theorem invoked_simulates {commandSender : String → Option Nat}
    (hlisteners : ListenerInv (viewWorld w)) {n k : Nat} {e : Envelope} {l : Entry Handler}
    {rest : List (Entry Handler)} {tail : List Frame}
    (hs : w.stack = .delivery n e (l :: rest) k :: tail) (h : Invoked w n e l rest k tail w') :
    Simulates (viewWorld w) commandSender (viewWorld w') := by
  have hsame : ∀ {x : World}, viewWorld x = viewWorld w →
      Simulates (viewWorld w) commandSender (viewWorld x) := by
    intro x hx
    rw [hx]
    exact .same hlisteners
  have hcalled : viewWorld ({ w with stack := .delivery n e rest (k + 1) :: tail }.happen
      (.called n l.id)) = viewWorld w := (viewWorld_happen _ rfl).trans (viewWorld_replace hs rfl)
  cases h with
  | runs hl hn =>
      refine hsame ?_
      simp [viewWorld, hs, called, queued?]
      rfl
  | mismatched hm => exact hsame ((viewWorld_happen _ rfl).trans hcalled)
  | @received number v v' hl hv hr =>
      refine setView_simulates hv (interest_receive hr) hlisteners fun hset => ?_
      have hshown : viewWorld (({ w with stack := .delivery n e rest (k + 1) :: tail }.happen
          (.called n l.id)).setView number v') = viewWorld (w.setView number v') :=
        congrArg (fun g => ViewWorld.setView g number v') hcalled
      have hsimulates : Simulates (viewWorld (w.setView number v')) commandSender
          (viewWorld (w.setView number v')) :=
        .same hset
      rw [← hshown] at hsimulates ⊢
      exact hsimulates
  | absent hl hv => exact hsame hcalled

/-- Who is called when the next change is delivered was to be called before. -/
theorem ViewsInv.handover (hw : ViewsInv w) {c new : Change} {rest : List Change}
    {tail : List Frame} (hs : w.stack = .announcement c [] :: tail)
    (hp : w.board.pending = new :: rest) :
    rest.any (·.status = .connected) = false
      ∧ called (.announcement new w.board.listeners) ++ (viewWorld w).calling
        = (viewSession w).uncalled := by
  have hcalling : (viewWorld w).calling = calling tail := by
    show calling w.stack = _
    rw [hs, calling_cons, called_nil, List.nil_append]
  have huncalled : (viewSession w).uncalled = (viewWorld w).calling
      ++ if (viewWorld w).due then callees w.board.listeners else [] := rfl
  have hpending := due_pending hp
  rw [huncalled, hcalling]
  -- a *connected* that is due is the only change that waits, and nothing below calls any view
  by_cases hd : (viewWorld w).due = true
  · obtain ⟨c', new', tail', hs', htail, hp'⟩ := hw.prompt hd
    obtain rfl : tail = tail' := (List.cons.inj (hs.symm.trans hs')).2
    obtain rfl : rest = [] := (List.cons.inj (hp.symm.trans hp')).2
    have hconnected : new.status = .connected := by simpa [hd] using hpending.symm
    simp [called, hconnected, hd, htail]
  · rw [Bool.not_eq_true] at hd
    obtain ⟨hnew, hrest⟩ := Bool.or_eq_false_iff.mp (hpending.symm.trans hd)
    refine ⟨hrest, ?_⟩
    rw [called_of_ne (of_decide_eq_false hnew), hd]
    simp

/-- A *connected* that is delivered to the listeners was due to them before. -/
theorem nextChange_sessionStep (hw : ViewsInv w) {c : Change} {tail : List Frame}
    (hs : w.stack = .announcement c [] :: tail)
    (h : w.act .go = some ({ w with stack := tail }.nextChange c)) :
    ViewsInv ({ w with stack := tail }.nextChange c)
      ∧ SessionStep (viewSession w) (said w .go)
        (viewSession ({ w with stack := tail }.nextChange c)) := by
  rcases hp : w.board.pending with _ | ⟨new, rest⟩
  · -- an empty queue: the delivery is over, and nobody is called any more
    have hd : (viewWorld w).due = false := by simp [viewWorld, hp]
    refine hw.same h hd ?_
    unfold World.nextChange
    rw [Board.take_of_nil hp]
    exact (viewWorld_answer _ _).trans (viewWorld_pop hs (called_nil c))
  · have hviewWorld := viewWorld_nextChange hs hp (hw.status.pending_lt hp)
    -- whoever was due is called now: the same views, from the queue to the stack
    obtain ⟨hrest, huncalled⟩ := hw.handover hs hp
    have hsession : viewSession ({ w with stack := tail }.nextChange c) = viewSession w := by
      have hsame : (viewSession w) = { viewSession w with
          uncalled := called (.announcement new w.board.listeners) ++ (viewWorld w).calling } := by
        rw [huncalled]
      rw [hsame, viewSession, hviewWorld]
      simp [viewSession, ViewWorld.viewSession, hrest]
    have hqueued : (viewWorld ({ w with stack := tail }.nextChange c)).queued
        = (viewWorld w).queued ++ [] := by
      rw [hviewWorld, List.append_nil]
    refine ⟨⟨statusInv_runs hw.status (act_steps h).runs, ?_, ?_⟩, ?_⟩
    · rw [hviewWorld]
      exact hw.listeners.congr rfl rfl rfl rfl rfl
    · intro hdue
      rw [hviewWorld] at hdue
      exact absurd (hdue.symm.trans hrest) (by simp)
    · rw [hsession, said_of_queued h hqueued]
      exact .pass

/-- What a view announces is said for it, whether it lives or not. -/
theorem announcement_viewSession (n : Nat) : (viewWorld w).viewSession.announcement n
    = (viewWorld w).viewSession.sayFor (some n)
      ((w.adapters[n]?).elim [] fun a => a.view.announcements) := by
  have hmember : (viewWorld w).viewSession.members[n]?
      = (w.adapters[n]?).map fun a => ⟨interest a.view, a.live⟩ := List.getElem?_map ..
  rw [ViewSession.announcement, hmember]
  cases w.adapters[n]? with
  | none => rfl
  | some a => exact congrArg _ (announcements_interest a.view).symm

section Notified

variable {c : Change} {l : Entry Listener} {rest : List (Entry Listener)} {tail : List Frame}

/-- With the listener off the list, the delivery has the others still to call. -/
theorem viewWorld_heard (w : World) (c : Change) (x : Nat) (rest : List (Entry Listener))
    (tail : List Frame) :
    viewWorld ({ w with stack := .announcement c rest :: tail }.happen (.heard c x))
      = { viewWorld w with calling := called (.announcement c rest) ++ calling tail } := by
  rw [viewWorld_happen _ rfl]
  rfl

theorem calling_announcement (hs : w.stack = .announcement c (l :: rest) :: tail) :
    (viewWorld w).calling = called (.announcement c (l :: rest)) ++ calling tail := by
  show calling w.stack = _
  rw [hs, calling_cons]

/-- Who is called without asking for anything changes nothing that is seen. -/
theorem heard_simulates {commandSender : String → Option Nat}
    (hlisteners : ListenerInv (viewWorld w)) (hs : w.stack = .announcement c (l :: rest) :: tail)
    (hsame : called (.announcement c (l :: rest)) = called (.announcement c rest))
    (hx : viewWorld w'
      = viewWorld ({ w with stack := .announcement c rest :: tail }.happen (.heard c l.id))) :
    Simulates (viewWorld w) commandSender (viewWorld w') := by
  rw [hx, viewWorld_heard, ← hsame, ← calling_announcement hs]
  exact .same hlisteners

/-- A view that is called with *connected* asks for what it wants. -/
theorem announce_simulates {n : Nat} (hlisteners : ListenerInv (viewWorld w))
    (hd : (viewWorld w).due = false) (hs : w.stack = .announcement c (l :: rest) :: tail)
    (hl : callee l.handler = some n) (hconnected : c.status = .connected) :
    Simulates (viewWorld w) (fun _ => callee l.handler)
      (viewWorld (({ w with stack := .announcement c rest :: tail }.happen
        (.heard c l.id)).announce n)) := by
  have huncalled : (viewWorld w).viewSession.uncalled
      = n :: (called (.announcement c rest) ++ calling tail) := by
    rw [uncalled_viewSession hd, calling_announcement hs, called_view hconnected hl,
      List.cons_append]
  -- its turn: what it announces is what the session step says
  have hcall := SessionStep.call huncalled
  rw [announcement_viewSession] at hcall
  have hsession :
      (({ viewWorld w with calling := called (.announcement c rest) ++ calling tail }).say
        ((w.adapters[n]?).elim [] fun a => a.view.announcements)).viewSession
      = { (viewWorld w).viewSession with
          uncalled := called (.announcement c rest) ++ calling tail } := by
    simp [ViewWorld.viewSession, ViewWorld.say, hd]
  have hlisteners' : ListenerInv { viewWorld w with
      calling := called (.announcement c rest) ++ calling tail } :=
    hlisteners.congr rfl rfl rfl rfl rfl
  rw [viewWorld_announce, viewWorld_heard]
  exact .spoken _ (some n) (hlisteners'.say _) rfl rfl (fun _ _ => hl) (hsession ▸ hcall)

/-- A view that is called with *connected* asks for what it wants; nobody else says anything. -/
theorem callListener_simulates (hlisteners : ListenerInv (viewWorld w))
    (hd : (viewWorld w).due = false) (hs : w.stack = .announcement c (l :: rest) :: tail) :
    Simulates (viewWorld w) (fun _ => callee l.handler)
      (viewWorld (({ w with stack := .announcement c rest :: tail }.happen
        (.heard c l.id)).callListener l c.status)) := by
  unfold World.callListener
  split
  · rename_i name only script hl
    have hsame : called (.announcement c (l :: rest)) = called (.announcement c rest) :=
      called_app (by rw [hl]; rfl)
    have hnoted : ∀ x : World, viewWorld (x.note (.status name c.status)) = viewWorld x :=
      fun x => viewWorld_happen x rfl
    dsimp only
    split
    · exact heard_simulates hlisteners hs hsame ((viewWorld_push _ rfl).trans (hnoted _))
    · exact heard_simulates hlisteners hs hsame (hnoted _)
  · rename_i n hl
    split
    · rename_i hconnected
      exact announce_simulates hlisteners hd hs (by rw [hl]; rfl) hconnected
    · rename_i hother
      have hsame : called (.announcement c (l :: rest)) = called (.announcement c rest) :=
        (called_of_ne hother).trans (called_of_ne hother).symm
      exact heard_simulates hlisteners hs hsame rfl

end Notified

/-- What the code that runs does, unless it is a handler that asks for something. -/
theorem go_sessionStep (hw : ViewsInv w) (hc : ∀ c, cause w .go ≠ .asked c)
    (h : w.act .go = some w') :
    ViewsInv w' ∧ SessionStep (viewSession w) (said w .go) (viewSession w') := by
  have hgo : w.go = some w' := h
  -- only a delivery calls anyone, and only one of changes delivers them
  have aside : ∀ {f tail}, w.stack = f :: tail → (∀ n e l rest k, f ≠ .delivery n e (l :: rest) k) →
      (∀ c rest, f ≠ .announcement c rest) →
      ViewsInv w' ∧ SessionStep (viewSession w) (said w .go) (viewSession w') := by
    intro f tail hs hdelivery hannouncement
    refine hw.keepsViews h (hw.busy hs fun c => hannouncement c [])
      (viewless_other hc (by simp) ?_ ?_)
    · exact fun _ n e l rest k tail' hs' =>
        hdelivery n e l rest k (List.cons.inj (hs.symm.trans hs')).1
    · exact fun _ c rest tail' hs' => hannouncement c rest (List.cons.inj (hs.symm.trans hs')).1
  cases hs : w.stack with
  | nil => exact absurd hgo (by simp [World.go, hs])
  | cons f tail =>
      cases f with
      | delivery n e rest k =>
          cases rest with
          | nil => exact aside hs (by simp) (by simp)
          | cons l rest =>
              obtain ⟨v, hv, hinvoked⟩ := go_invokes hs
              obtain rfl : v = w' := Option.some.inj (hv.symm.trans hgo)
              exact hw.simulates h (hw.busy hs (by simp))
                (invoked_simulates hw.listeners hs hinvoked)
      | announcement c rest =>
          cases rest with
          | nil =>
              simp only [World.go, hs] at hgo
              obtain rfl := Option.some.inj hgo
              exact nextChange_sessionStep hw hs h
          | cons l rest =>
              simp only [World.go, hs] at hgo
              obtain rfl := Option.some.inj hgo
              have hd := hw.busy hs (by simp)
              have hsender : sender w .go = fun _ => callee l.handler := by
                funext topic
                simp [sender, cause, hs]
              refine hw.simulates h hd ?_
              rw [hsender]
              exact callListener_simulates hw.listeners hd hs
      | _ => exact aside hs (by simp) (by simp)

/-! ### Supervisors -/

section Supervisors

variable {id : Nat} {s : Supervisor}

/-- A session begins: every view that lives, and no other, is to be called. -/
theorem answered_sessionStep (hw : ViewsInv w) (hr : AtRest w id s)
    (h : w.act (.answered id true) = some w') (hstep : w.answered id s true = some w') :
    ViewsInv w' ∧ SessionStep (viewSession w) (said w (.answered id true)) (viewSession w') := by
  have hopening : ∃ url, s.phase = .opening url := by
    unfold World.answered at hstep
    split at hstep
    · exact ⟨_, by assumption⟩
    · exact absurd hstep (by simp)
  -- an attempt in charge means that the client still connects, by coherence
  have hup : w.link.generation = s.generation → w.link.status ≠ .connected := by
    intro hg hconnected
    obtain ⟨url, hp⟩ := hopening
    have hfits := (hw.status.coherent.current hr.supervisor hg.symm).2.2.2
    rw [resuming_nil hr.stack] at hfits
    have hstarting : Fits w.link (restStage s.phase) := hfits
    rw [hp] at hstarting
    exact absurd (hconnected.symm.trans hstarting.1) (by simp)
  have hrest := settled_of_rest hr.stack
  -- so this change starts a delivery and does not queue behind one
  have hidle : w.board.draining = false := by
    rcases hw.status.orderly.alone with ⟨-, r, hdrainers⟩ | ⟨hd, -, -⟩
    · exact absurd (hrest.drainers.symm.trans hdrainers) (by simp)
    · exact hd
  rcases answered_viewWorld hup hidle hstep with hl | ⟨hdown, hviewWorld, c, hstack, hpending⟩
  · exact hw.simulates h (hw.rest hr.stack) (.keepsViews hw.listeners hl)
  · have hnobody := hw.uncalled hr.stack
    have hqueued : (viewWorld w').queued = (viewWorld w).queued ++ [] := by
      rw [hviewWorld, List.append_nil]
    refine ⟨⟨statusInv_runs hw.status (act_steps h).runs, ?_, fun _ => ?_⟩, ?_⟩
    · rw [hviewWorld]
      exact hw.listeners.congr rfl rfl rfl rfl rfl
    · refine ⟨c, c, _, hstack, ?_, ?_⟩
      · rw [hr.stack]
        rfl
      · rw [hpending, hrest.pending hw.status, List.nil_append]
    · rw [said_of_queued h hqueued]
      have hsocket : (viewSession w).socket = none := if_neg hdown
      have hopened := SessionStep.opened hsocket hnobody hw.listeners.callees_nodup
        fun n => hw.listeners.mem_callees.trans lives_viewSession.symm
      have hcalling : (viewWorld w).calling = [] := by
        rwa [viewSession, uncalled_viewSession (hw.rest hr.stack)] at hnobody
      have hsession : viewSession w' = { viewSession w with
          socket := some (viewSession w).sockets
          sockets := (viewSession w).sockets + 1
          uncalled := callees (viewWorld w).listeners } := by
        unfold viewSession
        rw [hviewWorld]
        simp [ViewWorld.viewSession, hcalling]
        rfl
      exact hsession ▸ hopened

end Supervisors

/-- **Every action is a session step.** -/
theorem ViewsInv.act (hw : ViewsInv w) (h : w.act a = some w') :
    ViewsInv w' ∧ SessionStep (viewSession w) (said w a) (viewSession w') := by
  by_cases hasked : ∃ c, cause w a = .asked c
  · obtain ⟨c, hc⟩ := hasked
    exact asked_sessionStep hw hc h
  -- no command: a step of the code, a new session, or something views have no part in
  have hc : ∀ c, cause w a ≠ .asked c := fun c hc => hasked ⟨c, hc⟩
  by_cases hgo : a = .go
  · subst hgo
    exact go_sessionStep hw hc h
  by_cases hopens : ∃ id, a = .answered id true
  · obtain ⟨id, rfl⟩ := hopens
    have hstep := h
    simp only [World.act] at hstep
    obtain ⟨s, hr, -, hstep⟩ := atRest_of_supervisorStep hstep
    exact answered_sessionStep hw hr h hstep
  · refine hw.keepsViews h (hw.rest (stack_of_act h hgo)) (viewless_other hc ?_ ?_ ?_)
    · exact fun id ha => hopens ⟨id, ha⟩
    · exact fun ha => absurd ha hgo
    · exact fun ha => absurd ha hgo

/-- **What every session step keeps holds along every run**, of the state and of all that was said
so far. -/
theorem ViewsInv.along {I : ViewSession → List ViewMessage → Prop}
    (hstep : ∀ {s s' : ViewSession} {m said : List ViewMessage},
      I s m → SessionStep s said s' → I s' (m ++ said))
    {as : List Action} {m : List ViewMessage} (hw : ViewsInv w) (h : w.actAll as = some w')
    (hI : I (viewSession w) m) : ViewsInv w' ∧ I (viewSession w') (m ++ messagesAlong w as) := by
  induction as generalizing w m with
  | nil =>
      obtain rfl := Option.some.inj h
      rw [messagesAlong, observed, List.append_nil]
      exact ⟨hw, hI⟩
  | cons a rest ih =>
      obtain ⟨v, hv, hrest⟩ := Option.bind_eq_some_iff.mp h
      obtain ⟨hviewsInv, hep⟩ := hw.act hv
      rw [messagesAlong_cons hv, ← List.append_assoc]
      exact ih hviewsInv hrest (hstep hI hep)

end Actions

/-! ## What can have been said -/

/-- What was said was said on sockets that there were, by views that there were. Nobody is called
twice, or who was never there. -/
structure Consistent (s : ViewSession) (m : List ViewMessage) : Prop where
  sockets : ∀ u ∈ m, u.socket < s.sockets
  current : ∀ k, s.socket = some k → k < s.sockets
  senders : ∀ u ∈ m, ∀ n, u.sender = some n → n < s.members.length
  listening : s.uncalled.Nodup
  known : ∀ n ∈ s.uncalled, n < s.members.length

section Story

variable {s s' : ViewSession} {m said : List ViewMessage} {n : Nat}

theorem mem_sayFor {sender : Option Nat} {notices : List Notice} {u : ViewMessage} :
    u ∈ s.sayFor sender notices ↔
      s.socket = some u.socket ∧ u.sender = sender ∧ u.notice ∈ notices := by
  unfold ViewSession.sayFor
  cases s.socket with
  | none => simp
  | some k =>
      simp only [addressed, List.map_map, List.mem_map, Function.comp_apply, Option.some.injEq]
      constructor
      · rintro ⟨notice, hnotice, rfl⟩
        exact ⟨rfl, rfl, hnotice⟩
      · rintro ⟨rfl, rfl, hnotice⟩
        exact ⟨u.notice, hnotice, rfl⟩

theorem ViewSession.Lives.lt (h : s.Lives n) : n < s.members.length := by
  obtain ⟨a, ha, -⟩ := h
  exact (List.getElem?_eq_some_iff.mp ha).1

/-- Who lives after somebody has joined lived before, or has joined. -/
theorem live_addView {i j : Interest} (h : (s.addView j).members[n]? = some ⟨i, true⟩) :
    s.members[n]? = some ⟨i, true⟩ ∨ (n = s.members.length ∧ i = j) := by
  rcases Nat.lt_or_ge n s.members.length with hn | hn
  · exact .inl ((List.getElem?_append_left hn).symm.trans h)
  · rw [ViewSession.addView, List.getElem?_append_right hn, List.getElem?_singleton] at h
    split at h
    · rename_i hzero
      obtain rfl := (Member.mk.inj (Option.some.inj h)).1
      exact .inr ⟨by omega, rfl⟩
    · exact absurd h (by simp)

/-- Who lives after somebody has left is another one. -/
theorem live_endView {d : Nat} {i : Interest} (h : (s.endView d).members[n]? = some ⟨i, true⟩) :
    n ≠ d ∧ s.members[n]? = some ⟨i, true⟩ := by
  rw [ViewSession.endView, List.getElem?_modify, Option.map_eq_map, Option.map_eq_some_iff] at h
  obtain ⟨b, hb, heq⟩ := h
  split at heq
  · exact absurd (Member.mk.inj heq).2 (by simp)
  · rename_i hne
    exact ⟨Ne.symm hne, heq ▸ hb⟩

/-- Who lives wants what he wanted, unless that was revised. -/
theorem live_setInterest {d : Nat} {i j : Interest}
    (h : (s.setInterest d j).members[n]? = some ⟨i, true⟩) :
    (n = d ∧ i = j) ∨ (n ≠ d ∧ s.members[n]? = some ⟨i, true⟩) := by
  rw [ViewSession.setInterest, List.getElem?_modify, Option.map_eq_map, Option.map_eq_some_iff] at h
  obtain ⟨b, hb, heq⟩ := h
  split at heq
  · rename_i hd
    exact .inl ⟨hd.symm, (Member.mk.inj heq).1.symm⟩
  · rename_i hne
    exact .inr ⟨Ne.symm hne, heq ▸ hb⟩

/-- Everything is said to the session that there is. -/
theorem SessionStep.addressed (h : SessionStep s said s') :
    ∀ u ∈ said, s.socket = some u.socket := by
  intro u hu
  cases h with
  | pass | lost | opened => exact absurd hu List.not_mem_nil
  | replace i others hlive =>
      rcases List.mem_append.mp hu with hu | hu
      · exact (mem_sayFor.mp hu).1
      · exact (mem_sayFor.mp hu).1
  | tell | addView | endView | widen | narrow | call => exact (mem_sayFor.mp hu).1

theorem SessionStep.sockets_le (h : SessionStep s said s') : s.sockets ≤ s'.sockets := by
  cases h with
  | opened => exact Nat.le_succ _
  | _ => exact Nat.le_refl _

theorem SessionStep.length_le (h : SessionStep s said s') :
    s.members.length ≤ s'.members.length := by
  cases h with
  | addView | replace => simp [ViewSession.addView, ViewSession.endView]
  | endView | widen | narrow => simp [ViewSession.endView, ViewSession.setInterest]
  | _ => exact Nat.le_refl _

theorem Consistent.initial (parts : Parts) (setup : Setup) (hasRuntime : Bool)
    (stamps : Nat → Stamp) :
    Consistent (viewSession (.initial parts setup hasRuntime stamps)) [] where
  sockets := fun _ h => absurd h List.not_mem_nil
  current := fun k hk => absurd (show (none : Option Nat) = some k from hk) (by simp)
  senders := fun _ h => absurd h List.not_mem_nil
  listening := by
    simp [viewSession, viewWorld, ViewWorld.viewSession, World.initial, Board.empty, calling]
  known := by
    simp [viewSession, viewWorld, ViewWorld.viewSession, World.initial, Board.empty, calling]

theorem Consistent.sessionStep (h : Consistent s m) (he : SessionStep s said s') :
    Consistent s' (m ++ said) where
  sockets := by
    intro u hu
    rcases List.mem_append.mp hu with hu | hu
    · exact Nat.lt_of_lt_of_le (h.sockets u hu) he.sockets_le
    · exact Nat.lt_of_lt_of_le (h.current _ (he.addressed u hu)) he.sockets_le
  current := by
    intro k hk
    cases he with
    | lost => exact absurd hk (by simp)
    | opened =>
        obtain rfl := Option.some.inj hk
        exact Nat.lt_succ_self _
    | _ => exact h.current k hk
  senders := by
    intro u hu n hn
    rcases List.mem_append.mp hu with hu | hu
    · exact Nat.lt_of_lt_of_le (h.senders u hu n hn) he.length_le
    · -- each message names the view it is of, except those of the application
      have said_by : ∀ {sender notices}, u ∈ s.sayFor sender notices → sender = some n :=
        fun hu => (mem_sayFor.mp hu).2.1.symm.trans hn
      cases he with
      | pass | lost | opened => exact absurd hu List.not_mem_nil
      | tell notice => exact absurd (said_by hu) (by simp)
      | addView i =>
          obtain rfl := Option.some.inj (said_by hu)
          simp [ViewSession.addView]
      | replace i others hlive =>
          rcases List.mem_append.mp hu with hu | hu
          · obtain rfl := Option.some.inj (said_by hu)
            simp [ViewSession.addView, ViewSession.endView]
          · obtain rfl := Option.some.inj (said_by hu)
            simpa [ViewSession.addView, ViewSession.endView] using Nat.lt_succ_of_lt hlive.lt
      | endView others hlive =>
          obtain rfl := Option.some.inj (said_by hu)
          simpa [ViewSession.endView] using hlive.lt
      | widen hmember hs =>
          obtain rfl := Option.some.inj (said_by hu)
          simpa [ViewSession.setInterest] using (List.getElem?_eq_some_iff.mp hmember).1
      | narrow hmember hstream hs =>
          obtain rfl := Option.some.inj (said_by hu)
          simpa [ViewSession.setInterest] using (List.getElem?_eq_some_iff.mp hmember).1
      | call hu' =>
          obtain rfl := Option.some.inj (said_by hu)
          exact h.known _ (hu' ▸ List.mem_cons_self)
  listening := by
    cases he with
    | opened hs hu hnodup hlive => exact hnodup
    | call hu =>
        have hlistening := h.listening
        rw [hu] at hlistening
        exact (List.nodup_cons.mp hlistening).2
    | _ => exact h.listening
  known := by
    intro n hn
    refine Nat.lt_of_lt_of_le ?_ he.length_le
    cases he with
    | opened hs hu hnodup hlive => exact ((hlive n).mp hn).lt
    | call hu => exact h.known n (hu ▸ List.mem_cons_of_mem _ hn)
    | _ => exact h.known n hn

theorem consistent_reachable {router client : Bool} {setup : Setup} {hasRuntime : Bool}
    {stamps : Nat → Stamp} {as : List Action} {w : World}
    (h : (World.initial ⟨router, false, client⟩ setup hasRuntime stamps).actAll as = some w) :
    ViewsInv w ∧ Consistent (viewSession w)
      (messagesAlong (.initial ⟨router, false, client⟩ setup hasRuntime stamps) as) :=
  (viewsInv_initial router client setup hasRuntime stamps).along Consistent.sessionStep h
    (Consistent.initial ..)

end Story

end LiveLink.Proofs
