import LiveLink.Proofs.Coherence
import LiveLink.Proofs.Registrations
import LiveLink.Proofs.ViewWorlds

/-!
# The listeners of views

A view that lives listens to the status under a number of its own, and nobody else does
under that number: the application can withdraw its own listeners only, and a number is
given out once. A name that the application holds stands for a view that lives, and no
two names for the same one. `ListenerInv` says so, and each thing that is done to views or
to listeners keeps it.
-/

namespace LiveLink.Proofs

open LiveLink

/-! ## What is done to views -/

/-- What is said to the session there is, if there is one. -/
def addressed (socket : Option Nat) (notices : List Notice) : List (Nat × Notice) :=
  match socket with
  | some k => notices.map fun n => (k, n)
  | none => []

@[simp] theorem addressed_none (notices : List Notice) : addressed none notices = [] := rfl

@[simp] theorem addressed_nil (socket : Option Nat) : addressed socket [] = [] := by
  cases socket <;> rfl

theorem addressed_append (socket : Option Nat) (before after : List Notice) :
    addressed socket (before ++ after) = addressed socket before ++ addressed socket after := by
  cases socket with
  | none => rfl
  | some k => exact List.map_append ..

namespace ViewWorld

variable (g : ViewWorld)

/-- Something is said. -/
def say (notices : List Notice) : ViewWorld :=
  { g with queued := g.queued ++ addressed g.socket notices }

/-- One more listens, under the next number. -/
def listen (l : Listener) : ViewWorld :=
  { g with listeners := g.listeners ++ [⟨g.nextId, l⟩], nextId := g.nextId + 1 }

/-- A listener is withdrawn. -/
def leave (id : Nat) : ViewWorld := { g with listeners := Registry.without id g.listeners }

/-- A view starts, with the numbers of its handlers. -/
def start (v : View) (handlers : List (String × Nat)) : ViewWorld :=
  { (g.say v.announcements).listen (.view g.adapters.length) with
    adapters := g.adapters ++ [⟨v, handlers, g.nextId, true⟩] }

/-- A view ends, which others may listen to the same as. -/
def finish (n : Nat) (others : Bool) : ViewWorld :=
  match g.adapters[n]? with
  | some a =>
    ({ g with adapters := g.adapters.modify n ({ · with live := false }) }.leave a.listener).say
      (a.view.farewells others)
  | none => g

/-- A view shows something else. -/
def setView (n : Nat) (v : View) : ViewWorld :=
  { g with adapters := g.adapters.modify n ({ · with view := v }) }

/-- A name stands for a view. -/
def assign (s : ViewKind) (name : String) (n : Nat) : ViewWorld :=
  { g with names := Function.update g.names s ((g.names s).insert name n) }

/-- A name stands for nothing any more. -/
def unassign (s : ViewKind) (name : String) : ViewWorld :=
  { g with names := Function.update g.names s ((g.names s).erase name) }

end ViewWorld

/-- Whether anybody is registered for new notifications. -/
def hasNoticeHandlers (w : World) : Bool := !(w.router.forTopic "notification.new").isEmpty

theorem hasNoticeHandlers_of_registrations {w w' : World} (h : registrations w' = registrations w) :
    hasNoticeHandlers w' = hasNoticeHandlers w :=
  congrArg (fun o : RegistrationState => !(o.router.forTopic "notification.new").isEmpty) h

section Functions

variable (w : World)

theorem viewWorld_enqueue (k : Nat) (e : Envelope) : viewWorld (w.enqueue k e) =
    { viewWorld w with queued := (viewWorld w).queued ++ [(k, e.topic, e.payload)] } := by
  have hqueued : inOrder queued? (.queued k e :: w.history)
      = inOrder queued? w.history ++ [(k, e.topic, e.payload)] :=
    inOrder_of_some (show queued? (.queued k e) = some (k, e.topic, e.payload) from rfl) w.history
  have hsockets : (w.sockets.modify k fun s => { s with queue := s.queue ++ [e] }).length
      = w.sockets.length := List.length_modify ..
  unfold viewWorld
  rw [← hqueued, ← hsockets]
  rfl

/-- Without a session there is nobody to tell anything. -/
theorem say_unheard {g : ViewWorld} (h : g.socket = none) (notices : List Notice) :
    g.say notices = g := by
  have hnone : addressed g.socket notices = [] := by rw [h]; rfl
  rw [ViewWorld.say, hnone, List.append_nil]

theorem viewWorld_sendPayload (topic : String) (payload : Json) :
    viewWorld (w.sendPayload topic payload).1 = (viewWorld w).say [(topic, payload)] := by
  unfold World.sendPayload
  dsimp only
  split
  · rename_i k hk
    have hsocket : (viewWorld w).socket = some k := hk
    have hqueue : addressed (viewWorld w).socket [(topic, payload)] = [(k, topic, payload)] := by
      rw [hsocket]
      rfl
    rw [viewWorld_enqueue, ViewWorld.say, hqueue]
    rfl
  · rename_i hnone
    exact (say_unheard hnone _).symm

theorem say_say (g : ViewWorld) (before after : List Notice) :
    (g.say before).say after = g.say (before ++ after) := by
  simp [ViewWorld.say, addressed_append]

theorem say_nil (g : ViewWorld) : g.say [] = g := by
  rw [ViewWorld.say, addressed_nil, List.append_nil]

theorem viewWorld_sendAll (notices : List Notice) :
    viewWorld (w.sendAll notices) = (viewWorld w).say notices := by
  induction notices generalizing w with
  | nil => exact (say_nil _).symm
  | cons n rest ih =>
      have hrest := ih (w.sendPayload n.1 n.2).1
      rw [viewWorld_sendPayload, say_say] at hrest
      exact hrest

theorem viewWorld_announce (n : Nat) : viewWorld (w.announce n) =
    (viewWorld w).say ((w.adapters[n]?).elim [] fun a => a.view.announcements) := by
  unfold World.announce World.viewOf?
  cases w.adapters[n]? with
  | none => exact (say_nil _).symm
  | some a => exact viewWorld_sendAll w _

theorem viewWorld_setView (n : Nat) (v : View) :
    viewWorld (w.setView n v) = (viewWorld w).setView n v :=
  rfl

theorem viewWorld_answered_send (topic : String) (payload : Json) :
    viewWorld (w.sendReplying topic payload) = (viewWorld w).say [(topic, payload)] :=
  (viewWorld_answer _ _).trans (viewWorld_sendPayload w topic payload)

theorem viewWorld_addListener (l : Listener) :
    viewWorld (w.addListener l).1 = (viewWorld w).listen l :=
  viewWorld_happen _ rfl

theorem viewWorld_subscribe (name : String) (s : Scope) (h : Handler) :
    viewWorld (w.subscribe name s h).1 = { viewWorld w with
      handles := (viewWorld w).handles.insert name ⟨w.router.nextId, .router s, true⟩ } := by
  have hadd : viewWorld (w.addHandler s h).1 = viewWorld w := viewWorld_happen _ rfl
  rw [← hadd]
  rfl

theorem viewWorld_listen (name : String) (l : Listener) :
    viewWorld (w.listen name l).1 = { (viewWorld w).listen l with
      handles := (viewWorld w).handles.insert name ⟨w.board.nextId, .board, true⟩ } := by
  rw [← viewWorld_addListener]
  rfl

theorem viewWorld_addHandlers (h : Handler) (topics : List String) :
    viewWorld (w.addHandlers h topics).1 = viewWorld w := by
  induction topics generalizing w with
  | nil => rfl
  | cons topic rest ih => exact (ih _).trans (viewWorld_happen _ rfl)

theorem viewWorld_announceNow (n : Nat) :
    viewWorld (if w.link.status = .connected then w.announce n else w) =
      (viewWorld w).say ((w.adapters[n]?).elim [] fun a => a.view.announcements) := by
  split
  · exact viewWorld_announce w n
  · rename_i hdown
    exact (say_unheard (if_neg hdown) _).symm

/-- A view announces itself at once if there is a session to tell it to. -/
theorem viewWorld_startView (v : View) : ∃ handlers,
    viewWorld (w.startView v).1 = (viewWorld w).start v handlers := by
  have hseen := viewWorld_addHandlers w (.view w.adapters.length) v.topics
  have hadapters := (addHandlers_registrations w (.view w.adapters.length) v.topics).2
  unfold World.startView
  dsimp only
  generalize w.addHandlers (.view w.adapters.length) v.topics = p at hseen hadapters
  refine ⟨p.2, ?_⟩
  have hadded : viewWorld { p.1 with adapters := p.1.adapters ++ [⟨v, p.2, 0, true⟩] } =
      { viewWorld w with adapters := w.adapters ++ [⟨v, p.2, 0, true⟩] } := by
    rw [← hseen, ← hadapters]
    rfl
  -- the new view is in its place when it is asked what to announce
  have hview : (p.1.adapters ++ [(⟨v, p.2, 0, true⟩ : Adapter)])[w.adapters.length]?
      = some ⟨v, p.2, 0, true⟩ := by
    rw [hadapters]
    simp
  have hannounced := viewWorld_announceNow
    { p.1 with adapters := p.1.adapters ++ [⟨v, p.2, 0, true⟩] } w.adapters.length
  rw [hview, hadded] at hannounced
  have hseat : ∀ y : World, viewWorld y = { (viewWorld w).say v.announcements with
      adapters := w.adapters ++ [⟨v, p.2, 0, true⟩] } →
      viewWorld { (y.addListener (.view w.adapters.length)).1 with
        adapters := (y.addListener (.view w.adapters.length)).1.adapters.modify
          w.adapters.length
          ({ · with listener := (y.addListener (.view w.adapters.length)).2 }) } =
        (viewWorld w).start v p.2 := by
    intro y hy
    have hlisten := viewWorld_addListener y (.view w.adapters.length)
    have hplaces : y.adapters.modify w.adapters.length ({ · with listener := y.board.nextId })
        = w.adapters ++ [⟨v, p.2, w.board.nextId, true⟩] := by
      have hsame : y.adapters = w.adapters ++ [⟨v, p.2, 0, true⟩] := congrArg ViewWorld.adapters hy
      have hid : y.board.nextId = w.board.nextId := congrArg ViewWorld.nextId hy
      rw [hsame, hid, modify_concat]
    have hlisteners : viewWorld { (y.addListener (.view w.adapters.length)).1 with
        adapters := (y.addListener (.view w.adapters.length)).1.adapters.modify
          w.adapters.length
          ({ · with listener := (y.addListener (.view w.adapters.length)).2 }) } =
        { (viewWorld y).listen (.view w.adapters.length) with
          adapters := w.adapters ++ [⟨v, p.2, w.board.nextId, true⟩] } := by
      rw [← hlisten, ← hplaces]
      rfl
    rw [hlisteners, hy]
    rfl
  exact hseat _ hannounced

theorem viewWorld_withdraw_router (s : Scope) (id : Nat) :
    viewWorld (w.withdraw (.router s) id) = viewWorld w := by
  have h : viewWorld (w.happen (.unsubscribed (.router s) id)) = viewWorld w :=
    viewWorld_happen _ rfl
  exact h

theorem viewWorld_withdraw_board (id : Nat) :
    viewWorld (w.withdraw .board id) = (viewWorld w).leave id := by
  have h : viewWorld (w.happen (.unsubscribed .board id)) = viewWorld w := viewWorld_happen _ rfl
  rw [← h]
  rfl

theorem viewWorld_withdrawAll (handlers : List (String × Nat)) :
    viewWorld (handlers.foldl (fun w h => w.withdraw (.router (.topic h.1)) h.2) w)
      = viewWorld w := by
  induction handlers generalizing w with
  | nil => rfl
  | cons h rest ih => exact (ih _).trans (viewWorld_withdraw_router w _ _)

theorem viewWorld_withdrawn (a : Adapter) :
    viewWorld ((a.handlers.foldl (fun w h => w.withdraw (.router (.topic h.1)) h.2) w).withdraw
      .board a.listener) = (viewWorld w).leave a.listener := by
  rw [viewWorld_withdraw_board, viewWorld_withdrawAll]

/-- A view takes leave of those who are left when it is gone. -/
theorem viewWorld_endView (n : Nat) :
    viewWorld (w.endView n) = (viewWorld w).finish n (hasNoticeHandlers (w.endView n)) := by
  cases ha : w.adapters[n]? with
  | none =>
      have hnone : (viewWorld w).adapters[n]? = none := ha
      simp only [World.endView, ha, ViewWorld.finish, hnone]
  | some a =>
      have hsome : (viewWorld w).adapters[n]? = some a := ha
      simp only [World.endView, ha, ViewWorld.finish, hsome]
      rw [hasNoticeHandlers_of_registrations (sendAll_neutral _ _).registrations]
      exact (viewWorld_sendAll _ _).trans (congrArg (ViewWorld.say · _) (viewWorld_withdrawn _ a))

/-! ### Views that have names -/

/-- The names of a kind are others. -/
def withNames (w : World) (s : ViewKind) (t : Table Nat) : World :=
  match s with
  | .chat => { w with rooms := t }
  | .notices => { w with feeds := t }
  | .health => { w with monitors := t }

theorem viewWorld_withNames (w : World) (s : ViewKind) (t : Table Nat) :
    viewWorld (withNames w s t)
      = { viewWorld w with names := Function.update (viewWorld w).names s t } := by
  have hnames : names (withNames w s t) = Function.update (names w) s t := by
    funext s'
    cases s <;> cases s' <;> rfl
  rw [show Function.update (viewWorld w).names s t = names (withNames w s t) from hnames.symm]
  cases s <;> rfl

/-- The view of a number ends, if there is one to end. -/
def ViewWorld.finishFormer (g : ViewWorld) (former : Option Nat) (others : Bool) : ViewWorld :=
  former.elim g fun n => g.finish n others

theorem viewWorld_endFormer (former : Option Nat) : viewWorld (w.endFormer former) =
    (viewWorld w).finishFormer former (hasNoticeHandlers (w.endFormer former)) := by
  cases former with
  | none => rfl
  | some n => exact viewWorld_endView w n

theorem viewWorld_startNamed (s : ViewKind) (name : String) (v : View) : ∃ handlers,
    viewWorld (w.startNamed ((names w s).get? name) v
        fun x n => withNames x s ((names x s).insert name n)) =
      (((viewWorld w).start v handlers).assign s name w.adapters.length).finishFormer
        ((names w s).get? name)
        (hasNoticeHandlers (w.startNamed ((names w s).get? name) v
          fun x n => withNames x s ((names x s).insert name n))) := by
  obtain ⟨handlers, hstart⟩ := viewWorld_startView w v
  have hkept : viewWorld (withNames (w.startView v).1 s
        ((names (w.startView v).1 s).insert name (w.startView v).2))
      = ((viewWorld w).start v handlers).assign s name w.adapters.length := by
    rw [← hstart]
    exact viewWorld_withNames ..
  refine ⟨handlers, ?_⟩
  unfold World.startNamed
  dsimp only
  rw [viewWorld_answer, hasNoticeHandlers_of_registrations (answer_neutral _ _).registrations,
    viewWorld_endFormer, hkept]

theorem viewWorld_endNamed (s : ViewKind) (name : String) :
    viewWorld (w.endNamed (names w s) name fun x => withNames x s ((names x s).erase name)) =
      ((names w s).get? name).elim (viewWorld w) fun n => ((viewWorld w).unassign s name).finish n
        (hasNoticeHandlers (w.endNamed (names w s) name
          fun x => withNames x s ((names x s).erase name))) := by
  have hstruck : viewWorld (withNames w s ((names w s).erase name))
      = (viewWorld w).unassign s name :=
    viewWorld_withNames ..
  unfold World.endNamed
  cases (names w s).get? name with
  | none => exact viewWorld_answer w _
  | some n =>
      dsimp only
      rw [viewWorld_answer, hasNoticeHandlers_of_registrations (answer_neutral _ _).registrations,
        viewWorld_endView, hstruck]
      rfl

end Functions

/-- A view that is there stays when another starts. -/
theorem started_before {g : ViewWorld} {n : Nat} {a : Adapter} (ha : g.adapters[n]? = some a)
    (v : View) (handlers : List (String × Nat)) : (g.start v handlers).adapters[n]? = some a :=
  (List.getElem?_append_left (List.getElem?_eq_some_iff.mp ha).1).trans ha

section Finish

variable {g : ViewWorld} {n : Nat} {a : Adapter} (ha : g.adapters[n]? = some a) (others : Bool)
include ha

theorem finish_eq : g.finish n others =
    (({ g with adapters := g.adapters.modify n ({ · with live := false }) }).leave a.listener).say
      (a.view.farewells others) := by
  simp only [ViewWorld.finish, ha]

theorem finish_queued : (g.finish n others).queued
    = g.queued ++ addressed g.socket (a.view.farewells others) := by
  rw [finish_eq ha]
  rfl

theorem finish_due : (g.finish n others).due = g.due := by
  rw [finish_eq ha]
  rfl

theorem finish_names : (g.finish n others).names = g.names := by
  rw [finish_eq ha]
  rfl

end Finish

section Names

variable {g : ViewWorld} {s s' : ViewKind} {name other : String} {n m : Nat}

/-- A name stands for what it was given to, or for what it stood for. -/
theorem assign_cases (h : ((g.assign s name n).names s').get? other = some m) :
    (s' = s ∧ other = name ∧ m = n)
      ∨ (s' = s → other ≠ name) ∧ (g.names s').get? other = some m := by
  by_cases hs : s' = s
  · subst hs
    simp only [ViewWorld.assign, Function.update_self] at h
    rcases get?_insert_cases h with ⟨hname, hm⟩ | ⟨hne, hold⟩
    · exact .inl ⟨rfl, hname, hm⟩
    · exact .inr ⟨fun _ => hne, hold⟩
  · simp only [ViewWorld.assign, Function.update_of_ne hs] at h
    exact .inr ⟨fun heq => absurd heq hs, h⟩

/-- A name that was not struck out stands for what it stood for. -/
theorem unassign_cases (h : ((g.unassign s name).names s').get? other = some m) :
    (s' = s → other ≠ name) ∧ (g.names s').get? other = some m := by
  by_cases hs : s' = s
  · subst hs
    simp only [ViewWorld.unassign, Function.update_self] at h
    refine ⟨fun _ hname => ?_, get?_of_erase h⟩
    rw [hname, Table.get?_erase_self] at h
    exact absurd h (by simp)
  · simp only [ViewWorld.unassign, Function.update_of_ne hs] at h
    exact ⟨fun heq => absurd heq hs, h⟩

end Names

/-! ## The invariant -/

/-- The view of a number lives. -/
def ViewWorld.Lives (g : ViewWorld) (n : Nat) : Prop := ∃ a, g.adapters[n]? = some a ∧ a.live = true

/-- The listener of a number is no view's. -/
def ViewWorld.Spare (g : ViewWorld) (id : Nat) : Prop :=
  ∀ l ∈ g.listeners, l.id = id → callee l.handler = none

/-- Views that live listen under their numbers and nobody else does, and names stand for views that
live, one name for one view. -/
structure ListenerInv (g : ViewWorld) : Prop where
  distinct : g.listeners.Pairwise fun l m => l.id ≠ m.id
  fresh : ∀ l ∈ g.listeners, l.id < g.nextId
  present : ∀ n a, g.adapters[n]? = some a → a.live = true → ⟨a.listener, .view n⟩ ∈ g.listeners
  known : ∀ l ∈ g.listeners, ∀ n, callee l.handler = some n →
    ∃ a, g.adapters[n]? = some a ∧ a.live = true ∧ a.listener = l.id
  /-- What the application can withdraw is its own. -/
  handles : ∀ name c, g.handles.get? name = some c → c.place = .board →
    c.id < g.nextId ∧ g.Spare c.id
  named : ∀ s name n, (g.names s).get? name = some n →
    ∃ a, g.adapters[n]? = some a ∧ a.live = true ∧ viewKind (interest a.view) = s
  single : ∀ s name other n, (g.names s).get? name = some n → (g.names s).get? other = some n →
    name = other

namespace ListenerInv

variable {g g' : ViewWorld}

theorem initial (parts : Parts) (setup : Setup) (hasRuntime : Bool) (stamps : Nat → Stamp) :
    ListenerInv (viewWorld (.initial parts setup hasRuntime stamps)) where
  distinct := .nil
  fresh := fun _ h => absurd h List.not_mem_nil
  present := fun _ _ h => absurd h (by simp [viewWorld, World.initial])
  known := fun _ h => absurd h List.not_mem_nil
  handles := fun _ _ h => absurd h (by simp [viewWorld, World.initial, Table.get?])
  named :=
    fun s _ _ h => absurd h (by cases s <;> simp [viewWorld, World.initial, names, Table.get?])
  single := fun s _ _ _ h =>
    absurd h (by cases s <;> simp [viewWorld, World.initial, names, Table.get?])

/-- The session does not matter, nor what is said. -/
theorem congr (h : ListenerInv g) (hadapters : g'.adapters = g.adapters)
    (hnames : g'.names = g.names) (hhandles : g'.handles = g.handles)
    (hlisteners : g'.listeners = g.listeners) (hnext : g'.nextId = g.nextId) : ListenerInv g' := by
  cases g'
  subst hadapters hnames hhandles hlisteners hnext
  exact ⟨h.distinct, h.fresh, h.present, h.known, h.handles, h.named, h.single⟩

theorem say (h : ListenerInv g) (notices : List Notice) : ListenerInv (g.say notices) :=
  h.congr rfl rfl rfl rfl rfl

/-- Two listeners of one number are the same. -/
theorem unique (h : ListenerInv g) {l m : Entry Listener} (hl : l ∈ g.listeners)
    (hm : m ∈ g.listeners) (hid : l.id = m.id) : l = m :=
  List.inj_on_of_nodup_map (List.pairwise_map.mpr h.distinct) hl hm hid

/-- Whoever begins to listen has his number alone. -/
theorem listen_distinct (h : ListenerInv g) (l : Listener) :
    (g.listen l).listeners.Pairwise fun l m => l.id ≠ m.id := by
  refine List.pairwise_append.mpr ⟨h.distinct, List.pairwise_singleton .., ?_⟩
  intro m hm l' hl' hid
  obtain rfl := List.mem_singleton.mp hl'
  exact Nat.ne_of_lt (h.fresh m hm) hid

theorem listen_fresh (h : ListenerInv g) (l : Listener) :
    ∀ m ∈ (g.listen l).listeners, m.id < (g.listen l).nextId := by
  intro m hm
  rcases List.mem_append.mp hm with hm | hm
  · exact Nat.lt_succ_of_lt (h.fresh m hm)
  · obtain rfl := List.mem_singleton.mp hm
    exact Nat.lt_succ_self _

/-- A number that was given before is not the one of the new listener. -/
theorem spare_listen (l : Listener) {id : Nat} (hid : id < g.nextId) (hspare : g.Spare id) :
    (g.listen l).Spare id := by
  intro m hm hmid
  rcases List.mem_append.mp hm with hm | hm
  · exact hspare m hm hmid
  · obtain rfl := List.mem_singleton.mp hm
    exact absurd hmid (Nat.ne_of_gt hid)

/-- Somebody of the application begins to listen. -/
theorem listen (h : ListenerInv g) {l : Listener} (hl : callee l = none) :
    ListenerInv (g.listen l) where
  distinct := h.listen_distinct l
  fresh := h.listen_fresh l
  present := fun n a ha hlive => List.mem_append_left _ (h.present n a ha hlive)
  known := by
    intro m hm n hn
    rcases List.mem_append.mp hm with hm | hm
    · exact h.known m hm n hn
    · obtain rfl := List.mem_singleton.mp hm
      exact absurd (hl.symm.trans hn) (by simp)
  handles := by
    intro name c hc hplace
    obtain ⟨hid, hspare⟩ := h.handles name c hc hplace
    exact ⟨Nat.lt_succ_of_lt hid, spare_listen l hid hspare⟩
  named := h.named
  single := h.single

/-- A listener that is no view's is withdrawn. -/
theorem leave (h : ListenerInv g) {id : Nat} (hid : g.Spare id) : ListenerInv (g.leave id) where
  distinct := h.distinct.filter _
  fresh := fun l hl => h.fresh l (List.mem_filter.mp hl).1
  present := by
    intro n a ha hlive
    have hmem := h.present n a ha hlive
    refine List.mem_filter.mpr ⟨hmem, decide_eq_true ?_⟩
    intro heq
    exact absurd (hid _ hmem heq) (by simp [callee])
  known := fun l hl => h.known l (List.mem_filter.mp hl).1
  handles := fun name c hc hplace =>
    ⟨(h.handles name c hc hplace).1,
      fun l hl => (h.handles name c hc hplace).2 l (List.mem_filter.mp hl).1⟩
  named := h.named
  single := h.single

/-- The application holds something else than before. -/
theorem hold (h : ListenerInv g) {handles : Table Subscription}
    (hh : ∀ name c, handles.get? name = some c → c.place = .board →
      c.id < g.nextId ∧ g.Spare c.id) : ListenerInv { g with handles := handles } :=
  ⟨h.distinct, h.fresh, h.present, h.known, hh, h.named, h.single⟩

theorem keep (h : ListenerInv g) (name : String) {c : Subscription}
    (hc : c.place = .board → c.id < g.nextId ∧ g.Spare c.id) :
    ListenerInv { g with handles := g.handles.insert name c } := by
  refine h.hold fun other c' hc' => ?_
  rcases get?_insert_cases hc' with ⟨-, rfl⟩ | ⟨-, hold⟩
  · exact hc
  · exact h.handles other c' hold

theorem forget (h : ListenerInv g) (name : String) :
    ListenerInv { g with handles := g.handles.erase name } :=
  h.hold fun other c hc => h.handles other c (get?_of_erase hc)

/-- A view shows something else and wants the same kind of thing. -/
theorem setView (h : ListenerInv g) {n : Nat} {v : View}
    (hv : ∀ a, g.adapters[n]? = some a → viewKind (interest v) = viewKind (interest a.view)) :
    ListenerInv (g.setView n v) := by
  -- the views before and after agree in all but what they show
  have hback : ∀ (m : Nat) (b : Adapter), (g.setView n v).adapters[m]? = some b →
      ∃ a, g.adapters[m]? = some a ∧ b.live = a.live ∧ b.listener = a.listener ∧
        viewKind (interest b.view) = viewKind (interest a.view) := by
    intro m b hb
    rw [ViewWorld.setView, List.getElem?_modify, Option.map_eq_map, Option.map_eq_some_iff] at hb
    obtain ⟨a, ha, rfl⟩ := hb
    refine ⟨a, ha, ?_⟩
    split
    · rename_i hnm
      exact ⟨rfl, rfl, hv a (hnm ▸ ha)⟩
    · exact ⟨rfl, rfl, rfl⟩
  have hforth : ∀ (m : Nat) (a : Adapter), g.adapters[m]? = some a →
      ∃ b, (g.setView n v).adapters[m]? = some b ∧ b.live = a.live ∧ b.listener = a.listener ∧
        viewKind (interest b.view) = viewKind (interest a.view) := by
    intro m a ha
    have hsome : ((g.setView n v).adapters[m]?).isSome := by
      rw [ViewWorld.setView, List.getElem?_modify, ha]
      rfl
    obtain ⟨b, hb⟩ := Option.isSome_iff_exists.mp hsome
    obtain ⟨a', ha', hb'⟩ := hback m b hb
    obtain rfl := Option.some.inj (ha.symm.trans ha')
    exact ⟨b, hb, hb'⟩
  refine ⟨h.distinct, h.fresh, ?present, ?known, h.handles, ?named, h.single⟩
  case present =>
    intro m b hb hlive
    obtain ⟨a, ha, hblive, hid, -⟩ := hback m b hb
    rw [hid]
    exact h.present m a ha (hblive ▸ hlive)
  case known =>
    intro l hl m hm
    obtain ⟨a, ha, hlive, hid⟩ := h.known l hl m hm
    obtain ⟨b, hb, hblive, hbid, -⟩ := hforth m a ha
    exact ⟨b, hb, hblive.trans hlive, hbid.trans hid⟩
  case named =>
    intro s name m hm
    obtain ⟨a, ha, hlive, hkind⟩ := h.named s name m hm
    obtain ⟨b, hb, hblive, -, hbkind⟩ := hforth m a ha
    exact ⟨b, hb, hblive.trans hlive, hbkind.trans hkind⟩

/-- A view starts and listens. -/
theorem start (h : ListenerInv g) (v : View) (handlers : List (String × Nat)) :
    ListenerInv (g.start v handlers) := by
  have hold : ∀ (n : Nat) (a : Adapter), g.adapters[n]? = some a →
      (g.start v handlers).adapters[n]? = some a := fun n a ha => started_before ha v handlers
  have hnew : (g.start v handlers).adapters[g.adapters.length]?
      = some ⟨v, handlers, g.nextId, true⟩ := by
    simp [ViewWorld.start]
  refine ⟨h.listen_distinct _, h.listen_fresh _, ?present, ?known, ?handles, ?named, h.single⟩
  case present =>
    intro n a ha hlive
    -- a view from before keeps its listener; the new one has the last
    rcases Nat.lt_or_ge n g.adapters.length with hn | hn
    · have ha' : g.adapters[n]? = some a := (List.getElem?_append_left hn).symm.trans ha
      exact List.mem_append_left _ (h.present n a ha' hlive)
    · have hn' := (List.getElem?_eq_some_iff.mp ha).1
      obtain rfl : n = g.adapters.length := by
        simp [ViewWorld.start] at hn'
        omega
      obtain rfl := Option.some.inj (hnew.symm.trans ha)
      exact List.mem_append_right _ List.mem_cons_self
  case known =>
    intro l hl n hn
    rcases List.mem_append.mp hl with hl | hl
    · obtain ⟨a, ha, hlive, hid⟩ := h.known l hl n hn
      exact ⟨a, hold n a ha, hlive, hid⟩
    · obtain rfl := List.mem_singleton.mp hl
      obtain rfl := Option.some.inj hn
      exact ⟨_, hnew, rfl, rfl⟩
  case handles =>
    intro name c hc hplace
    obtain ⟨hid, hspare⟩ := h.handles name c hc hplace
    exact ⟨Nat.lt_succ_of_lt hid, spare_listen (.view g.adapters.length) hid hspare⟩
  case named =>
    intro s name n hn
    obtain ⟨a, ha, hlive, hkind⟩ := h.named s name n hn
    exact ⟨a, hold n a ha, hlive, hkind⟩

/-- A name that stands for no view may stand for one that has no name. -/
theorem assign (h : ListenerInv g) {s : ViewKind} (name : String) {n : Nat} {a : Adapter}
    (ha : g.adapters[n]? = some a) (hlive : a.live = true) (hs : viewKind (interest a.view) = s)
    (hn : ∀ other, (g.names s).get? other ≠ some n) : ListenerInv (g.assign s name n) where
  distinct := h.distinct
  fresh := h.fresh
  present := h.present
  known := h.known
  handles := h.handles
  named := by
    intro s' other m hm
    rcases assign_cases hm with ⟨rfl, -, rfl⟩ | ⟨-, hold⟩
    · exact ⟨a, ha, hlive, hs⟩
    · exact h.named s' other m hold
  single := by
    intro s' one other m hone hother
    rcases assign_cases hone with ⟨rfl, rfl, rfl⟩ | ⟨-, hold⟩
    · rcases assign_cases hother with ⟨-, rfl, -⟩ | ⟨-, hold⟩
      · rfl
      · exact absurd hold (hn other)
    · rcases assign_cases hother with ⟨rfl, -, rfl⟩ | ⟨-, hold'⟩
      · exact absurd hold (hn one)
      · exact h.single s' one other m hold hold'

/-- A view starts and is given a name. -/
theorem start_assign (h : ListenerInv g) {s : ViewKind} (name : String) {v : View}
    (handlers : List (String × Nat)) (hv : viewKind (interest v) = s) :
    ListenerInv ((g.start v handlers).assign s name g.adapters.length) := by
  -- its number is the next one, and its listener is the one that was just registered
  have hnew : (g.start v handlers).adapters[g.adapters.length]?
      = some ⟨v, handlers, g.nextId, true⟩ := by
    simp [ViewWorld.start]
  refine (h.start v handlers).assign name hnew rfl hv fun other hother => ?_
  obtain ⟨a, ha, -, -⟩ := h.named s other _ hother
  exact absurd (List.getElem?_eq_some_iff.mp ha).1 (Nat.lt_irrefl _)

/-- A name may stand for nothing. -/
theorem unassign (h : ListenerInv g) (s : ViewKind) (name : String) :
    ListenerInv (g.unassign s name) where
  distinct := h.distinct
  fresh := h.fresh
  present := h.present
  known := h.known
  handles := h.handles
  named := fun s' other m hm => h.named s' other m (unassign_cases hm).2
  single := fun s' one other m hone hother =>
    h.single s' one other m (unassign_cases hone).2 (unassign_cases hother).2

/-- A view has one name. -/
theorem one_name (h : ListenerInv g) {s s' : ViewKind} {name other : String} {n : Nat}
    (hn : (g.names s).get? name = some n) (ho : (g.names s').get? other = some n) :
    s' = s ∧ other = name := by
  obtain ⟨a, ha, -, hkind⟩ := h.named s name n hn
  obtain ⟨b, hb, -, hkind'⟩ := h.named s' other n ho
  obtain rfl := Option.some.inj (ha.symm.trans hb)
  obtain rfl := hkind'.symm.trans hkind
  exact ⟨rfl, h.single _ other name n ho hn⟩

/-- When its name is struck out a view has none. -/
theorem unassign_unnamed (h : ListenerInv g) {s : ViewKind} {name : String} {n : Nat}
    (hn : (g.names s).get? name = some n) (s' : ViewKind) (other : String) :
    ((g.unassign s name).names s').get? other ≠ some n := by
  intro hother
  obtain ⟨hne, hold⟩ := unassign_cases hother
  obtain ⟨hs, hname⟩ := h.one_name hn hold
  exact hne hs hname

/-- When its name is given to another a view has none. -/
theorem assign_unnamed (h : ListenerInv g) {s : ViewKind} {name : String} {n m : Nat}
    (hn : (g.names s).get? name = some n) (hm : n ≠ m) (s' : ViewKind) (other : String) :
    ((g.assign s name m).names s').get? other ≠ some n := by
  intro hother
  rcases assign_cases hother with ⟨-, -, heq⟩ | ⟨hne, hold⟩
  · exact hm heq
  · obtain ⟨hs, hname⟩ := h.one_name hn hold
    exact hne hs hname

/-- A view that no name stands for ends and does not listen any more. -/
theorem finish (h : ListenerInv g) {n : Nat} (hn : ∀ s name, (g.names s).get? name ≠ some n)
    (hlives : g.Lives n) (others : Bool) : ListenerInv (g.finish n others) := by
  obtain ⟨a, ha, hlive⟩ := hlives
  have hseat := h.present n a ha hlive
  -- other views stay as they are, and this one is not alive any more
  have hother : ∀ m, m ≠ n → (g.finish n others).adapters[m]? = g.adapters[m]? := by
    intro m hm
    rw [finish_eq ha]
    exact List.getElem?_modify_ne _ _ (Ne.symm hm)
  have hself : ∀ b, (g.finish n others).adapters[n]? = some b → b.live = false := by
    intro b hb
    rw [finish_eq ha] at hb
    have hb' : (g.adapters.modify n ({ · with live := false }))[n]? = some b := hb
    rw [List.getElem?_modify_eq, ha] at hb'
    obtain rfl := Option.some.inj hb'
    rfl
  have hlisteners : (g.finish n others).listeners = Registry.without a.listener g.listeners := by
    rw [finish_eq ha]
    rfl
  have hhandles : (g.finish n others).handles = g.handles := by
    rw [finish_eq ha]
    rfl
  have hnames := finish_names ha others
  have hnext : (g.finish n others).nextId = g.nextId := by
    rw [finish_eq ha]
    rfl
  have hmem : ∀ {l}, l ∈ (g.finish n others).listeners ↔ l ∈ g.listeners ∧ l.id ≠ a.listener := by
    intro l
    rw [hlisteners, Registry.without, List.mem_filter, decide_eq_true_iff]
  refine ⟨?distinct, ?fresh, ?present, ?known, ?handles, ?named, ?single⟩
  case distinct =>
    rw [hlisteners]
    exact h.distinct.filter _
  case fresh =>
    intro l hl
    rw [hnext]
    exact h.fresh l (hmem.mp hl).1
  case present =>
    intro m b hb hblive
    rcases eq_or_ne m n with rfl | hm
    · exact absurd ((hself b hb).symm.trans hblive) (by simp)
    · rw [hother m hm] at hb
      have hplace := h.present m b hb hblive
      refine hmem.mpr ⟨hplace, fun hid => hm ?_⟩
      have heq : (⟨b.listener, .view m⟩ : Entry Listener) = ⟨a.listener, .view n⟩ :=
        h.unique hplace hseat hid
      exact Listener.view.inj (Entry.mk.inj heq).2
  case known =>
    intro l hl m hm
    obtain ⟨hl, hid⟩ := hmem.mp hl
    obtain ⟨b, hb, hblive, hbid⟩ := h.known l hl m hm
    have hne : m ≠ n := by
      rintro rfl
      obtain rfl := Option.some.inj (ha.symm.trans hb)
      exact hid hbid.symm
    exact ⟨b, (hother m hne).trans hb, hblive, hbid⟩
  case handles =>
    intro name c hc hplace
    rw [hhandles] at hc
    rw [hnext]
    obtain ⟨hid, hspare⟩ := h.handles name c hc hplace
    exact ⟨hid, fun l hl => hspare l (hmem.mp hl).1⟩
  case named =>
    intro s name m hm
    rw [hnames] at hm
    have hne : m ≠ n := by
      rintro rfl
      exact hn s name hm
    rw [hother m hne]
    exact h.named s name m hm
  case single =>
    rw [hnames]
    exact h.single

/-! ### Who is called -/

theorem callees_nodup (h : ListenerInv g) : (callees g.listeners).Nodup := by
  refine List.pairwise_filterMap.mpr (h.distinct.imp_of_mem ?_)
  intro l m hl hm hne n hn n' hn' heq
  subst heq
  obtain ⟨a, ha, -, hid⟩ := h.known l hl n hn
  obtain ⟨b, hb, -, hid'⟩ := h.known m hm n hn'
  obtain rfl := Option.some.inj (ha.symm.trans hb)
  exact hne (hid.symm.trans hid')

/-- The views that live are those that are called. -/
theorem mem_callees (h : ListenerInv g) {n : Nat} : n ∈ callees g.listeners ↔ g.Lives n := by
  constructor
  · intro hn
    obtain ⟨l, hl, hln⟩ := List.mem_filterMap.mp hn
    obtain ⟨a, ha, hlive, -⟩ := h.known l hl n hln
    exact ⟨a, ha, hlive⟩
  · rintro ⟨a, ha, hlive⟩
    exact List.mem_filterMap.mpr ⟨_, h.present n a ha hlive, rfl⟩

end ListenerInv

end LiveLink.Proofs
