import LiveLink.Proofs.ViewInputs

/-!
# Views leave nothing behind

A view registers for three or four things in two places, and withdraws them one by one
when it ends. The application registers for itself, under the same topics, and withdraws
what it likes when it likes.

A registration goes for one reason only (`endingOf`): that of a view when the view ends,
that of the application when it is withdrawn. Who registers, and what ends, can be told
from the commands; so who is left can be told without looking into any list: those who
registered, numbered in order, without those whose reason to go has come up
(`Reckoned`). What a view told the server at its end depends on who is left then
(`Cleared`).

The router's side rests on the log of registrations: `WithdrawnInv` ties the numbers that the
log has withdrawn to the reasons that have come up. `ListeningInv` does the same for those
who listen to the status.
-/

namespace LiveLink.Proofs

open LiveLink

/-! ## Who registers and what ends -/

/-- What ends: a view, or a registration that the application withdraws. -/
inductive Ending where
  | view (n : Nat)
  | registration (p : Place) (id : Nat)
  deriving DecidableEq

/-- With what a registration goes: that of a view goes with the view. -/
def endingOf (p : Place) (id : Nat) (view : Option Nat) : Ending :=
  view.elim (.registration p id) .view

/-- Those that a command registers with the router, with what they are registered for. -/
def commandHandlers (w : World) : Command → List (Scope × Handler)
  | .subscribe onClient name topic full script =>
    if (if onClient then w.parts.client else w.parts.router) = true then
      [(topic.elim .all .topic, .app name full none script)]
    else []
  | .subscribeTyped name topic kind script =>
    if w.parts.router = true then [(.topic topic, .app name false (some kind) script)] else []
  | c =>
    (opening w c).toList.flatMap fun v => v.topics.map fun t => (.topic t, .view w.adapters.length)

/-- Those that a command lets listen to the status. -/
def commandListeners (w : World) : Command → List Listener
  | .listen name only script =>
    if (w.parts.board || w.parts.client) = true then [.app name only script] else []
  | c => (opening w c).toList.map fun _ => .view w.adapters.length

/-- The view that a command ends: the one that has the name, or had it before. -/
def endedView (w : World) : Command → Option Nat
  | .joinChat name _ => if w.parts.client = true then w.rooms.get? name else none
  | .openFeed name => if w.parts.client = true then w.feeds.get? name else none
  | .watch name _ => if w.parts.client = true then w.monitors.get? name else none
  | .leaveChat name => w.rooms.get? name
  | .closeFeed name => w.feeds.get? name
  | .closeMonitor name => w.monitors.get? name
  | _ => none

/-- What a command ends. -/
def commandEndings (w : World) : Command → List Ending
  | .unsubscribe name =>
    (w.subscriptions.get? name).toList.map fun c => .registration c.place c.id
  | c => (endedView w c).toList.map .view

/-- What is told from the command that an action carries out, if it carries one out. -/
def ofCommand {β : Type} (look : World → Command → List β) (w : World) (a : Action) : List β :=
  match cause w a with
  | .asked c => look w c
  | _ => []

def actionHandlers : World → Action → List (Scope × Handler) := ofCommand commandHandlers

def actionListeners : World → Action → List Listener := ofCommand commandListeners

def actionEndings : World → Action → List Ending := ofCommand commandEndings

/-- Registrations with their numbers, which go on from a first one. -/
def numbered {α : Type} (first : Nat) (l : List α) : List (Entry α) :=
  (l.zipIdx first).map fun p => ⟨p.2, p.1⟩

/-- Those that are registered for a scope. -/
def handlersFor (s : Scope) (es : List (Entry (Scope × Handler))) : List (Entry Handler) :=
  es.filterMap fun e => if e.handler.1 = s then some ⟨e.id, e.handler.2⟩ else none

/-- Those registered with the router who are left when some things have ended. -/
def handlersLeft (added : List (Scope × Handler)) (ended : List Ending) (s : Scope) :
    List (Entry Handler) :=
  handlersFor s ((numbered 1 added).filter fun e =>
    endingOf (.router e.handler.1) e.id (handlerView e.handler.2) ∉ ended)

/-- Those listening to the status who are left. -/
def listenersLeft (listening : List Listener) (ended : List Ending) : List (Entry Listener) :=
  (numbered 1 listening).filter fun e => endingOf .board e.id (callee e.handler) ∉ ended

section Endings

variable {p q : Place} {id id' n : Nat} {view : Option Nat}

theorem endingOf_view : endingOf p id view = .view n ↔ view = some n := by
  cases view <;> simp [endingOf]

theorem endingOf_registration :
    endingOf p id view = .registration q id' ↔ view = none ∧ p = q ∧ id = id' := by
  cases view <;> simp [endingOf]

end Endings

section Numbered

variable {α : Type} {first : Nat} {l l' : List α} {e : Entry α}

theorem numbered_append :
    numbered first (l ++ l') = numbered first l ++ numbered (first + l.length) l' := by
  rw [numbered, List.zipIdx_append, List.map_append]
  rfl

theorem mem_of_numbered (h : e ∈ numbered first l) : e.handler ∈ l := by
  obtain ⟨p, hp, rfl⟩ := List.mem_map.mp h
  exact List.fst_mem_of_mem_zipIdx hp

theorem entries_numbered (l : Log) :
    l.entries = (numbered 1 l.made).map fun e => (e.handler.1, ⟨e.id, e.handler.2⟩) := by
  rw [Log.entries, numbered, List.map_map]
  rfl

end Numbered

/-! ## The router -/

theorem serves_iff {n : Nat} {h : Handler} : serves n h = true ↔ handlerView h = some n := by
  cases h with
  | view m => simp [serves, handlerView]
  | app name full kind script => simp [serves, handlerView]

/-- The numbers that a log has withdrawn are of those whose reason to go has come up. -/
structure WithdrawnInv (l : Log) (ended : List Ending) : Prop where
  withdrawn : ∀ s e, (s, e) ∈ l.entries →
    (e.id ∈ l.withdrawn ↔ endingOf (.router s) e.id (handlerView e.handler) ∈ ended)
  /-- Nobody is withdrawn before he is registered. -/
  past : ∀ s id, .registration (.router s) id ∈ ended → id ≤ l.made.length

section Router

variable {l : Log} {ended : List Ending} {n : Nat}

theorem made_addView (l : Log) (n : Nat) (topics : List String) :
    (l.addView n topics).made = l.made ++ topics.map fun t => (.topic t, .view n) := by
  induction topics generalizing l with
  | nil => exact (List.append_nil _).symm
  | cons t rest ih =>
      refine (ih (l.register (.topic t) (.view n))).trans ?_
      simp [Log.register]

/-- Numbers are withdrawn one after another. -/
theorem withdrawAll_log (l : Log) (ps : List (Scope × Nat)) :
    (ps.foldl (fun l p => l.withdraw p.2) l).made = l.made
      ∧ ∀ id, id ∈ (ps.foldl (fun l p => l.withdraw p.2) l).withdrawn
        ↔ id ∈ l.withdrawn ∨ ∃ s, (s, id) ∈ ps := by
  induction ps generalizing l with
  | nil => exact ⟨rfl, fun id => by simp⟩
  | cons p rest ih =>
      obtain ⟨hmade, hmem⟩ := ih (l.withdraw p.2)
      refine ⟨hmade, fun id => (hmem id).trans ?_⟩
      obtain ⟨s, i⟩ := p
      simp only [Log.withdraw, List.mem_cons, Prod.mk.injEq, exists_or]
      constructor
      · rintro ((rfl | hw) | hrest)
        · exact .inr (.inl ⟨s, rfl, rfl⟩)
        · exact .inl hw
        · exact .inr (.inr hrest)
      · rintro (hw | ⟨s', -, rfl⟩ | hrest)
        · exact .inl (.inr hw)
        · exact .inl (.inl rfl)
        · exact .inr hrest

theorem made_dropFormer (l : Log) (former : Option Nat) :
    (l.dropFormer former).made = l.made := by
  cases former with
  | none => rfl
  | some n => exact (withdrawAll_log l _).1

/-- What is asked of the log is what the command registers. -/
theorem made_ask (l : Log) (w : World) (c : Command) :
    (l.ask w c).made = l.made ++ commandHandlers w c := by
  -- what needs a part of the client is done if that can be reached
  have hpart : ∀ (part : Bool) {l' : Log} {new}, l'.made = l.made ++ new →
      (if part = true then l' else l).made = l.made ++ if part = true then new else [] := by
    intro part l' new h
    split
    · exact h
    · exact (List.append_nil _).symm
  have hview : ∀ (v : View) (former : Option Nat),
      (if w.parts.client = true then
        (l.addView w.adapters.length v.topics).dropFormer former else l).made
      = l.made ++ (if w.parts.client then some v else none).toList.flatMap fun v =>
          v.topics.map fun t => (.topic t, .view w.adapters.length) := by
    intro v former
    split
    · rw [made_dropFormer, made_addView]
      exact congrArg (l.made ++ ·) (List.append_nil _).symm
    · exact (List.append_nil _).symm
  have hsame : l.made = l.made ++ [] := (List.append_nil _).symm
  cases c with
  | subscribe onClient name topic full script =>
      exact hpart (if onClient then w.parts.client else w.parts.router) rfl
  | subscribeTyped name topic kind script => exact hpart w.parts.router rfl
  | unsubscribe name =>
      refine Eq.trans ?_ hsame
      simp only [Log.ask]
      split <;> rfl
  | joinChat name eventId => exact hview _ _
  | openFeed name => exact hview _ _
  | watch name streams => exact hview _ _
  | leaveChat name => exact (made_dropFormer l _).trans hsame
  | closeFeed name => exact (made_dropFormer l _).trans hsame
  | closeMonitor name => exact (made_dropFormer l _).trans hsame
  | _ => exact hsame

namespace WithdrawnInv

theorem empty : WithdrawnInv .empty [] where
  withdrawn := fun _ _ h => absurd h List.not_mem_nil
  past := fun _ _ h => absurd h List.not_mem_nil

theorem register (hp : WithdrawnInv l ended) (hpast : ∀ i ∈ l.withdrawn, i ≤ l.made.length)
    (s : Scope) {h : Handler} (hh : ∀ n, handlerView h = some n → .view n ∉ ended) :
    WithdrawnInv (l.register s h) ended where
  withdrawn := by
    intro s' e he
    rw [Log.entries_register] at he
    rcases List.mem_append.mp he with he | he
    · exact hp.withdrawn s' e he
    · obtain ⟨rfl, rfl⟩ := Prod.mk.inj (List.mem_singleton.mp he)
      -- the number is new, so nobody can have withdrawn it
      have hnot : l.made.length + 1 ∉ l.withdrawn := fun hmem => by
        have hle := hpast _ hmem
        omega
      refine iff_of_false hnot ?_
      show endingOf _ (l.made.length + 1) (handlerView h) ∉ ended
      cases hview : handlerView h with
      | some n => exact hh n hview
      | none =>
          intro hmem
          have hle := hp.past _ _ hmem
          omega
  past := by
    intro s' id hmem
    have hle := hp.past s' id hmem
    simp only [Log.register, List.length_append, List.length_singleton]
    omega

/-- A view that has not ended is registered for its topics. -/
theorem addView (hp : WithdrawnInv l ended) (hpast : ∀ i ∈ l.withdrawn, i ≤ l.made.length)
    (hn : .view n ∉ ended) (topics : List String) :
    WithdrawnInv (l.addView n topics) ended := by
  induction topics generalizing l with
  | nil => exact hp
  | cons t rest ih =>
      refine ih (hp.register hpast (.topic t) fun m hm => ?_) fun i hi => ?_
      · obtain rfl := Option.some.inj hm
        exact hn
      · have hle := hpast i hi
        simp only [Log.register, List.length_append, List.length_singleton]
        omega

/-- **A view ends, and its registrations go, all of them and no others.** -/
theorem dropView (hp : WithdrawnInv l ended) (n : Nat) :
    WithdrawnInv (l.dropView n) (ended ++ [.view n]) := by
  obtain ⟨hmade, hmem⟩ := withdrawAll_log l (l.viewScopes n)
  have hentries : (l.dropView n).entries = l.entries := by
    rw [entries_numbered, entries_numbered]
    exact congrArg (fun made => (numbered 1 made).map _) hmade
  refine ⟨fun s e he => ?_, fun s id h => ?_⟩
  · rw [hentries] at he
    -- numbers tell entries apart, so the numbers of the view are on its entries only
    have hshift : (∃ s', (s', e.id) ∈ l.viewScopes n) ↔ handlerView e.handler = some n := by
      constructor
      · rintro ⟨s', hs'⟩
        obtain ⟨hd, hentry, hserves⟩ := Log.mem_viewScopes hs'
        rw [(Log.unique he hentry rfl).2]
        exact serves_iff.mp hserves
      · intro hview
        refine ⟨s, List.mem_filterMap.mpr ⟨(s, e), he, ?_⟩⟩
        exact if_pos (serves_iff.mpr hview)
    refine (hmem e.id).trans ?_
    rw [hp.withdrawn s e he, hshift, List.mem_append, List.mem_singleton, endingOf_view]
  · rcases List.mem_append.mp h with h | h
    · exact hmade ▸ hp.past s id h
    · exact absurd (List.mem_singleton.mp h) Ending.noConfusion

theorem dropFormer (hp : WithdrawnInv l ended) (former : Option Nat) :
    WithdrawnInv (l.dropFormer former) (ended ++ former.toList.map .view) := by
  cases former with
  | none => exact (List.append_nil ended).symm ▸ hp
  | some n => exact hp.dropView n

/-- The application withdraws one of its own. -/
theorem withdraw (hp : WithdrawnInv l ended) {s : Scope} {id : Nat} {hd : Handler}
    (hmem : (s, ⟨id, hd⟩) ∈ l.entries) (hown : ∀ n, serves n hd = false) :
    WithdrawnInv (l.withdraw id) (ended ++ [.registration (.router s) id]) where
  withdrawn := by
    intro s' e he
    -- a handler of a view ends with its view, so its number is none of the application's
    have hid : e.id = id ↔ endingOf (.router s') e.id (handlerView e.handler)
        = .registration (.router s) id := by
      rw [endingOf_registration]
      constructor
      · intro hid
        obtain ⟨rfl, rfl⟩ := Log.unique he hmem hid
        refine ⟨Option.eq_none_iff_forall_ne_some.mpr fun n hn => ?_, rfl, rfl⟩
        exact absurd ((hown n).symm.trans (serves_iff.mpr hn)) (by simp)
      · exact fun h => h.2.2
    rw [Log.withdraw, List.mem_cons, hid, hp.withdrawn s' e he, List.mem_append,
      List.mem_singleton]
    exact or_comm
  past := by
    intro s' i h
    rcases List.mem_append.mp h with h | h
    · exact hp.past s' i h
    · obtain ⟨-, rfl⟩ := Ending.registration.inj (List.mem_singleton.mp h)
      exact Log.id_le hmem

/-- What ends has nothing to do with the router. -/
theorem elsewhere (hp : WithdrawnInv l ended) (id : Nat) :
    WithdrawnInv l (ended ++ [.registration .board id]) where
  withdrawn := by
    intro s e he
    rw [hp.withdrawn s e he, List.mem_append, List.mem_singleton, endingOf_registration]
    simp
  past := by
    intro s i h
    rcases List.mem_append.mp h with h | h
    · exact hp.past s i h
    · exact absurd (List.mem_singleton.mp h) (by simp)

/-- **What a command asks of the log withdraws those whose reason to go has come up.** -/
theorem ask {w : World} (hp : WithdrawnInv l ended) (hk : Kept (registrations w) l)
    (hnew : .view w.adapters.length ∉ ended) (c : Command) :
    WithdrawnInv (l.ask w c) (ended ++ commandEndings w c) := by
  have hpast := hk.listsInv.past
  have hsame : ∀ {l'}, WithdrawnInv l' ended → WithdrawnInv l' (ended ++ []) :=
    fun h => (List.append_nil ended).symm ▸ h
  have hregister : ∀ (part : Bool) (s : Scope) {h : Handler}, handlerView h = none →
      WithdrawnInv (if part = true then l.register s h else l) (ended ++ []) := by
    intro part s h hh
    split
    · exact hsame (hp.register hpast s fun n hn => absurd (hh.symm.trans hn) (by simp))
    · exact hsame hp
  have hview : ∀ (topics : List String) (former : Option Nat),
      WithdrawnInv (if w.parts.client = true then
          (l.addView w.adapters.length topics).dropFormer former else l)
        (ended ++ (if w.parts.client = true then former else none).toList.map .view) := by
    intro topics former
    split
    · exact (hp.addView hpast hnew topics).dropFormer former
    · exact hsame hp
  cases c with
  | subscribe onClient name topic full script => exact hregister _ _ rfl
  | subscribeTyped name topic kind script => exact hregister _ _ rfl
  | unsubscribe name =>
      simp only [Log.ask, commandEndings]
      cases hget : w.subscriptions.get? name with
      | none => exact hsame hp
      | some c =>
          -- to the log it makes no difference whether the handle was used up before
          obtain ⟨id, place, active⟩ := c
          cases place with
          | board => exact hp.elsewhere id
          | router s =>
              obtain ⟨hd, hmem, hown, -⟩ := hk.handleInv.entered name _ s hget rfl
              exact hp.withdraw hmem hown
  | joinChat name eventId => exact hview _ _
  | openFeed name => exact hview _ _
  | watch name streams => exact hview _ _
  | leaveChat name => exact hp.dropFormer _
  | closeFeed name => exact hp.dropFormer _
  | closeMonitor name => exact hp.dropFormer _
  | _ => exact hsame hp

/-- Who remains in the log is who is left. -/
theorem remaining (hp : WithdrawnInv l ended) (s : Scope) :
    l.remaining s = handlersLeft l.made ended s := by
  unfold Log.remaining handlersLeft handlersFor
  rw [entries_numbered, List.filterMap_map, List.filterMap_filter]
  refine List.filterMap_congr fun e he => ?_
  have hmem : (e.handler.1, (⟨e.id, e.handler.2⟩ : Entry Handler)) ∈ l.entries := by
    rw [entries_numbered]
    exact List.mem_map.mpr ⟨e, he, rfl⟩
  have hgone := hp.withdrawn _ _ hmem
  by_cases hs : e.handler.1 = s
  · by_cases hended : endingOf (.router e.handler.1) e.id (handlerView e.handler.2) ∈ ended
    · simp [hended, hgone.mpr hended]
    · simp [hs, hs ▸ hended, hgone.not.mpr hended]
  · simp [hs]

end WithdrawnInv

end Router

/-! ## Those who listen to the status -/

/-- Those who listen are those who are left, and what the application holds is of its own. -/
structure ListeningInv (g : ViewRecords) (added : List (Scope × Handler))
    (listening : List Listener) (ended : List Ending) : Prop where
  next : g.nextId = listening.length + 1
  left : g.listeners = listenersLeft listening ended
  /-- Nobody stops listening before he has begun. -/
  past : ∀ id, .registration .board id ∈ ended → id < g.nextId
  started : ∀ n, .view n ∈ ended → n < g.adapters.length
  inactive : ∀ name c, g.handles.get? name = some c → c.place = .board → c.active = false →
    .registration .board c.id ∈ ended
  /-- A name stands for what was registered under it. -/
  handlers : ∀ name c s, g.handles.get? name = some c → c.place = .router s →
    ∃ full kind script, ⟨c.id, s, .app name full kind script⟩ ∈ numbered 1 added
  listeners : ∀ name c, g.handles.get? name = some c → c.place = .board →
    ∃ only script, ⟨c.id, .app name only script⟩ ∈ numbered 1 listening

section Board

variable {added : List (Scope × Handler)} {listening : List Listener} {ended : List Ending}

/-- Others begin to listen, whom no ending so far concerns. -/
theorem listenersLeft_append {more : List Listener}
    (hmore : ∀ e ∈ numbered (listening.length + 1) more,
      endingOf .board e.id (callee e.handler) ∉ ended) :
    listenersLeft (listening ++ more) ended
      = listenersLeft listening ended ++ numbered (listening.length + 1) more := by
  unfold listenersLeft
  rw [numbered_append, List.filter_append, Nat.add_comm 1]
  exact congrArg (_ ++ ·) (List.filter_eq_self.mpr fun e he => decide_eq_true (hmore e he))

/-- One more ending takes those away whom it concerns. -/
theorem listenersLeft_concat (p : Ending) :
    listenersLeft listening (ended ++ [p])
      = (listenersLeft listening ended).filter fun e => endingOf .board e.id (callee e.handler)
      ≠ p := by
  unfold listenersLeft
  rw [List.filter_filter]
  refine List.filter_congr fun e _ => ?_
  simp [and_comm]

namespace ListeningInv

variable {g g' : ViewRecords}

theorem initial (parts : Parts) (setup : Setup) (hasRuntime : Bool) (stamps : Nat → Stamp) :
    ListeningInv (viewRecords (.initial parts setup hasRuntime stamps)) [] [] [] where
  next := rfl
  left := rfl
  past := fun _ h => absurd h List.not_mem_nil
  started := fun _ h => absurd h List.not_mem_nil
  inactive := fun _ _ h =>
    absurd h (by simp [viewRecords, viewWorld, ViewWorld.viewRecords, World.initial, Table.get?])
  handlers := fun _ _ _ h =>
    absurd h (by simp [viewRecords, viewWorld, ViewWorld.viewRecords, World.initial, Table.get?])
  listeners := fun _ _ h =>
    absurd h (by simp [viewRecords, viewWorld, ViewWorld.viewRecords, World.initial, Table.get?])

/-- What views show does not matter, nor what they are called, and there may be more of them. -/
theorem congr (h : ListeningInv g added listening ended)
    (hlength : g.adapters.length ≤ g'.adapters.length) (hhandles : g'.handles = g.handles)
    (hlisteners : g'.listeners = g.listeners) (hnext : g'.nextId = g.nextId) :
    ListeningInv g' added listening ended := by
  obtain ⟨adapters, names, handles, listeners, nextId⟩ := g'
  dsimp only at hlength hhandles hlisteners hnext
  subst hhandles hlisteners hnext
  exact ⟨h.next, h.left, h.past, fun n hn => (h.started n hn).trans_le hlength, h.inactive,
    h.handlers,
    h.listeners⟩

theorem receive (h : ListeningInv g added listening ended) (d : Option (Nat × Envelope)) :
    ListeningInv (g.receive d) added listening ended := by
  cases d with
  | none => exact h
  | some p => exact h.congr (Nat.le_of_eq (List.length_modify ..).symm) rfl rfl rfl

/-- More are registered with the router than before. -/
theorem addView (h : ListeningInv g added listening ended) (more : List (Scope × Handler)) :
    ListeningInv g (added ++ more) listening ended :=
  { h with
    handlers := fun name c s hget hplace => by
      obtain ⟨full, kind, script, hmem⟩ := h.handlers name c s hget hplace
      refine ⟨full, kind, script, ?_⟩
      rw [numbered_append]
      exact List.mem_append_left _ hmem }

/-- The application registers somebody under a name. -/
theorem subscribe (h : ListeningInv g added listening ended) (name : String) (s : Scope)
    (full : Bool) (kind : Option PayloadKind) (script : Script) :
    ListeningInv { g with handles := g.handles.insert name ⟨added.length + 1, .router s, true⟩ }
      (added ++ [(s, .app name full kind script)]) listening ended where
  next := h.next
  left := h.left
  past := h.past
  started := h.started
  inactive := by
    intro other c hget hplace
    rcases get?_insert_cases hget with ⟨-, rfl⟩ | ⟨-, hold⟩
    · exact absurd hplace (by simp)
    · exact h.inactive other c hold hplace
  handlers := by
    intro other c s' hget hplace
    rcases get?_insert_cases hget with ⟨rfl, rfl⟩ | ⟨-, hold⟩
    · obtain rfl := Place.router.inj hplace
      refine ⟨full, kind, script, ?_⟩
      rw [numbered_append, Nat.add_comm 1]
      exact List.mem_append_right _ List.mem_cons_self
    · exact (h.addView _).handlers other c s' hold hplace
  listeners := by
    intro other c hget hplace
    rcases get?_insert_cases hget with ⟨-, rfl⟩ | ⟨-, hold⟩
    · exact absurd hplace (by simp)
    · exact h.listeners other c hold hplace

/-- One more listens. -/
theorem addListener (h : ListeningInv g added listening ended) {l : Listener}
    (hl : endingOf .board g.nextId (callee l) ∉ ended) :
    ListeningInv { g with listeners := g.listeners ++ [⟨g.nextId, l⟩], nextId := g.nextId + 1 }
      added (listening ++ [l]) ended where
  next := by
    rw [List.length_append]
    exact congrArg (· + 1) h.next
  left := by
    rw [h.next] at hl ⊢
    rw [listenersLeft_append fun e he => ?_, ← h.left]
    · rfl
    · obtain rfl := List.mem_singleton.mp he
      exact hl
  past := fun id hid => Nat.lt_succ_of_lt (h.past id hid)
  started := h.started
  inactive := h.inactive
  handlers := h.handlers
  listeners := by
    intro name c hget hplace
    obtain ⟨only, script, hmem⟩ := h.listeners name c hget hplace
    refine ⟨only, script, ?_⟩
    rw [numbered_append]
    exact List.mem_append_left _ hmem

/-- The application listens under a name. -/
theorem listen (h : ListeningInv g added listening ended) (name : String) (only : Option Status)
    (script : Script) :
    ListeningInv { g with
        listeners := g.listeners ++ [⟨g.nextId, .app name only script⟩]
        nextId := g.nextId + 1
        handles := g.handles.insert name ⟨g.nextId, .board, true⟩ }
      added (listening ++ [.app name only script]) ended := by
  -- no number that has ended is given out again
  have hlisten := h.addListener (l := .app name only script) fun hmem =>
    Nat.lt_irrefl _ (h.past g.nextId hmem)
  refine ⟨hlisten.next, hlisten.left, hlisten.past, hlisten.started, ?_, ?_, ?_⟩
  · intro other c hget hplace hactive
    rcases get?_insert_cases hget with ⟨-, rfl⟩ | ⟨-, hold⟩
    · exact absurd hactive (by simp)
    · exact h.inactive other c hold hplace hactive
  · intro other c s hget hplace
    rcases get?_insert_cases hget with ⟨-, rfl⟩ | ⟨-, hold⟩
    · exact absurd hplace (by simp)
    · exact h.handlers other c s hold hplace
  · intro other c hget hplace
    rcases get?_insert_cases hget with ⟨rfl, rfl⟩ | ⟨-, hold⟩
    · refine ⟨only, script, ?_⟩
      rw [numbered_append, h.next, Nat.add_comm 1]
      exact List.mem_append_right _ List.mem_cons_self
    · exact hlisten.listeners other c hold hplace

/-- A name stands for nothing any more. -/
theorem forget (h : ListeningInv g added listening ended) (name : String) :
    ListeningInv { g with handles := g.handles.erase name } added listening ended where
  next := h.next
  left := h.left
  past := h.past
  started := h.started
  inactive := fun other c hget => h.inactive other c (get?_of_erase hget)
  handlers := fun other c s hget => h.handlers other c s (get?_of_erase hget)
  listeners := fun other c hget => h.listeners other c (get?_of_erase hget)

/-- A registration is withdrawn or a view ends, and those who listened for it are gone. -/
theorem ending (h : ListeningInv g added listening ended) {p : Ending}
    {rest : List (Entry Listener)}
    (hrest : rest = g.listeners.filter fun e => endingOf .board e.id (callee e.handler) ≠ p)
    (hpast : ∀ id, p = .registration .board id → id < g.nextId)
    (hstarted : ∀ n, p = .view n → n < g.adapters.length) :
    ListeningInv { g with listeners := rest } added listening (ended ++ [p]) where
  next := h.next
  left := by
    rw [listenersLeft_concat, ← h.left]
    exact hrest
  past := by
    intro id hid
    rcases List.mem_append.mp hid with hid | hid
    · exact h.past id hid
    · exact hpast id (List.mem_singleton.mp hid).symm
  started := by
    intro n hn
    rcases List.mem_append.mp hn with hn | hn
    · exact h.started n hn
    · exact hstarted n (List.mem_singleton.mp hn).symm
  inactive := fun name c hget hplace hactive =>
    List.mem_append_left _ (h.inactive name c hget hplace hactive)
  handlers := h.handlers
  listeners := h.listeners

/-- An ending that concerns nobody who listens. -/
theorem keep (h : ListeningInv g added listening ended) {p : Ending}
    (hp : ∀ e ∈ g.listeners, endingOf .board e.id (callee e.handler) ≠ p)
    (hpast : ∀ id, p = .registration .board id → id < g.nextId)
    (hstarted : ∀ n, p = .view n → n < g.adapters.length) :
    ListeningInv g added listening (ended ++ [p]) :=
  h.ending (List.filter_eq_self.mpr fun e he => decide_eq_true (hp e he)).symm hpast hstarted

/-- A handle is inactive once its registration has been withdrawn. -/
theorem deactivate (h : ListeningInv g added listening ended) {name : String} {c : Subscription}
    (hget : g.handles.get? name = some c) (hended : .registration c.place c.id ∈ ended) :
    ListeningInv { g with handles := g.handles.insert name { c with active := false } }
      added listening ended where
  next := h.next
  left := h.left
  past := h.past
  started := h.started
  inactive := by
    intro other c' hget' hplace hactive
    rcases get?_insert_cases hget' with ⟨-, rfl⟩ | ⟨-, hold⟩
    · rw [← hplace]
      exact hended
    · exact h.inactive other c' hold hplace hactive
  handlers := by
    intro other c' s hget' hplace
    rcases get?_insert_cases hget' with ⟨rfl, rfl⟩ | ⟨-, hold⟩
    · exact h.handlers other c s hget hplace
    · exact h.handlers other c' s hold hplace
  listeners := by
    intro other c' hget' hplace
    rcases get?_insert_cases hget' with ⟨rfl, rfl⟩ | ⟨-, hold⟩
    · exact h.listeners other c hget hplace
    · exact h.listeners other c' hold hplace

variable {w w' : World}

/-- **The application withdraws what a name stands for**, if it has not done so before. -/
theorem unsubscribe (h : ListeningInv (viewRecords w) added listening ended)
    (hlisteners : ListenerInv (viewWorld w)) {name : String} {c : Subscription}
    (hget : w.subscriptions.get? name = some c) :
    ListeningInv (viewRecords (w.unsubscribe name c)) added listening
      (ended ++ [.registration c.place c.id]) := by
  obtain ⟨id, place, active⟩ := c
  cases place with
  | router s =>
      have hkept : ListeningInv (viewRecords w) added listening
          (ended ++ [.registration (.router s) id]) :=
        h.keep (fun e _ heq => by simp [endingOf_registration] at heq)
          (fun i hi => absurd hi (by simp)) fun n hn => absurd hn Ending.noConfusion
      cases active with
      | false => exact hkept
      | true => exact hkept.deactivate hget (List.mem_append_right _ List.mem_cons_self)
  | board =>
      obtain ⟨hid, hspare⟩ := hlisteners.handles name _ hget rfl
      have hpast : ∀ i, Ending.registration .board id = .registration .board i →
          i < w.board.nextId :=
        fun i hi => (Ending.registration.inj hi).2 ▸ hid
      cases active with
      | false =>
          -- it was withdrawn before, so nobody listens under this number any more
          have hended := h.inactive name _ hget rfl rfl
          refine h.keep (fun e he heq => ?_) hpast fun n hn => absurd hn Ending.noConfusion
          rw [h.left] at he
          exact absurd (heq ▸ hended) (by simpa using (List.mem_filter.mp he).2)
      | true =>
          have hrest : Registry.without id w.board.listeners = w.board.listeners.filter fun e =>
              endingOf .board e.id (callee e.handler) ≠ .registration .board id := by
            refine List.filter_congr fun e he => decide_eq_decide.mpr (not_congr ?_)
            rw [endingOf_registration]
            exact ⟨fun hid => ⟨hspare e he hid, rfl, hid⟩, fun h => h.2.2⟩
          exact (h.ending hrest hpast fun n hn => absurd hn Ending.noConfusion).deactivate hget
            (List.mem_append_right _ List.mem_cons_self)

/-! ### Views -/

variable {x : ViewWorld}

theorem start (h : ListeningInv x.viewRecords added listening ended) (v : View)
    (handlers : List (String × Nat)) :
    ListeningInv (x.start v handlers).viewRecords added (listening ++ [.view x.adapters.length])
      ended := by
  have hlisten := h.addListener (l := .view x.adapters.length) fun hmem =>
    Nat.lt_irrefl _ (h.started x.adapters.length hmem)
  refine hlisten.congr ?_ rfl rfl rfl
  simp [ViewWorld.viewRecords, ViewWorld.start]

theorem finish (h : ListeningInv x.viewRecords added listening ended) (hlisteners : ListenerInv x)
    {n : Nat} {a : Adapter} (ha : x.adapters[n]? = some a) (hlive : a.live = true) (others : Bool) :
    ListeningInv (x.finish n others).viewRecords added listening (ended ++ [.view n]) := by
  have hrest : Registry.without a.listener x.listeners = x.listeners.filter fun e =>
      endingOf .board e.id (callee e.handler) ≠ .view n := by
    -- the listener that the view has on record is the only one of the view
    refine List.filter_congr fun e he => decide_eq_decide.mpr (not_congr ?_)
    rw [endingOf_view]
    constructor
    · intro hid
      rw [hlisteners.unique he (hlisteners.present n a ha hlive) hid]
      rfl
    · intro hn
      obtain ⟨b, hb, -, hbid⟩ := hlisteners.known e he n hn
      obtain rfl := Option.some.inj (ha.symm.trans hb)
      exact hbid.symm
  have hended := h.ending hrest (fun i hi => absurd hi Ending.noConfusion) fun m hm => by
    obtain rfl := Ending.view.inj hm
    exact (List.getElem?_eq_some_iff.mp ha).1
  rw [finish_eq ha]
  exact hended.congr (Nat.le_of_eq (List.length_modify ..).symm) rfl rfl rfl

/-- A view starts under a name, and the one that had the name ends. -/
theorem startNamed (h : ListeningInv (viewRecords w) added listening ended)
    (hlisteners : ListenerInv (viewWorld w))
    (s : ViewKind) (name : String) {v : View} (hv : viewKind (interest v) = s) :
    ListeningInv (viewRecords (w.startNamed ((names w s).get? name) v
        fun x n => withNames x s ((names x s).insert name n)))
      added (listening ++ [.view w.adapters.length])
      (ended ++ ((names w s).get? name).toList.map .view) := by
  obtain ⟨handlers, hviewWorld⟩ := viewWorld_startNamed w s name v
  have hstarted : ListeningInv
      (((viewWorld w).start v handlers).assign s name w.adapters.length).viewRecords
      added (listening ++ [.view w.adapters.length]) ended :=
    (ListeningInv.start (x := viewWorld w) h v handlers).congr (Nat.le_refl _) rfl rfl rfl
  unfold viewRecords
  rw [hviewWorld]
  cases hformer : (names w s).get? name with
  | none => exact (List.append_nil ended).symm ▸ hstarted
  | some n =>
      -- the view that had the name is live, and is not the one that starts
      obtain ⟨a, ha, hlive, -⟩ := hlisteners.named s name n hformer
      have ha' : (((viewWorld w).start v handlers).assign s name w.adapters.length).adapters[n]?
          = some a := started_before ha v handlers
      exact hstarted.finish (hlisteners.start_assign name handlers hv) ha' hlive _

/-- The view of a name ends. -/
theorem endNamed (h : ListeningInv (viewRecords w) added listening ended)
    (hlisteners : ListenerInv (viewWorld w)) (s : ViewKind) (name : String) :
    ListeningInv
      (viewRecords (w.endNamed (names w s) name fun x => withNames x s ((names x s).erase name)))
      added listening (ended ++ ((names w s).get? name).toList.map .view) := by
  unfold viewRecords
  rw [viewWorld_endNamed]
  cases hnamed : (names w s).get? name with
  | none => exact (List.append_nil ended).symm ▸ h
  | some n =>
      obtain ⟨a, ha, hlive, -⟩ := hlisteners.named s name n hnamed
      have hstruck : ListeningInv ((viewWorld w).unassign s name).viewRecords added listening
          ended :=
        ListeningInv.congr (g := viewRecords w) h (Nat.le_refl _) rfl rfl rfl
      exact hstruck.finish (hlisteners.unassign s name) ha hlive _

/-! ### Commands -/

theorem steps {u : World} {act : Action} (ht : ¬ Commanded registers u act)
    (hd : SmallSteps u act w w') (h : ListeningInv (viewRecords w) added listening ended) :
    ListeningInv (viewRecords w') added listening ended := by
  induction hd with
  | refl => exact h
  | tail _ hd ih =>
      rcases step_shown hd ht with hsame | ⟨n, v, rfl, -⟩
      · exact hsame ▸ ih
      · exact ih.congr (Nat.le_of_eq (List.length_modify ..).symm) rfl rfl rfl

/-- A command that changes no registrations leaves those who listen. -/
theorem command {c : Command} (ht : registers c = false) (hw : Asking w)
    (h : ListeningInv (viewRecords w) added listening ended) :
    ListeningInv (viewRecords (w.perform c)) added listening ended := by
  have hsteps : SmallSteps w (.command c) w (w.perform c) := perform_steps rfl hw
  refine h.steps ?_ hsteps
  rintro ⟨c', hc, hyes⟩
  obtain rfl := Cause.asked.inj hc
  exact absurd (ht.symm.trans hyes) (by simp)

theorem answer (h : ListeningInv (viewRecords w) added listening ended) (r : Reply) :
    ListeningInv (viewRecords (w.answer r)) added listening ended := by
  rwa [viewRecords_of_viewWorld (viewWorld_answer w r)]

theorem requiring {part : Bool} {f : World}
    (hf : part = true → ListeningInv (viewRecords f) added listening ended)
    (hw : ¬ part = true → ListeningInv (viewRecords w) added listening ended) :
    ListeningInv (viewRecords (w.requiring part f)) added listening ended := by
  unfold World.requiring
  split
  · rename_i hp
    exact hf hp
  · rename_i hp
    exact (hw hp).answer _

/-- A handler is registered under a name, and its number is the next one. -/
theorem subscribed (h : ListeningInv (viewRecords w) added listening ended)
    (hnext : w.router.nextId = added.length + 1) (name : String) (s : Scope) (full : Bool)
    (kind : Option PayloadKind) (script : Script) :
    ListeningInv (viewRecords (w.subscribe name s (.app name full kind script)).1)
      (added ++ [(s, .app name full kind script)]) listening ended := by
  have hsubscribed := h.subscribe name s full kind script
  rw [← hnext] at hsubscribed
  unfold viewRecords
  rw [viewWorld_subscribe]
  exact hsubscribed

theorem listened (h : ListeningInv (viewRecords w) added listening ended) (name : String)
    (only : Option Status) (script : Script) :
    ListeningInv (viewRecords (w.listen name (.app name only script)).1) added
      (listening ++ [.app name only script]) ended := by
  unfold viewRecords
  rw [viewWorld_listen]
  exact h.listen name only script

/-- Where nothing is added the lists stay as they are. -/
theorem nothing_new (h : ListeningInv g added listening ended) :
    ListeningInv g (added ++ []) (listening ++ []) (ended ++ []) := by
  rwa [List.append_nil, List.append_nil, List.append_nil]

theorem nobody_new (h : ListeningInv g added listening ended) :
    ListeningInv g (added ++ []) (listening ++ []) ended := by
  rwa [List.append_nil, List.append_nil]

/-- A view starts, if the client can be reached: it is registered for its topics, listens to the
status, and another one may end. -/
theorem opened {f : World} {v : View} {n : Nat} {former : Option Nat}
    (h : ListeningInv (viewRecords w) added listening ended)
    (hf : ListeningInv (viewRecords f) added (listening ++ [.view n])
    (ended ++ former.toList.map .view)) :
    ListeningInv (viewRecords (w.requiring w.parts.client f))
      (added ++ (if w.parts.client = true then some v else none).toList.flatMap fun v =>
        v.topics.map fun t => (.topic t, .view n))
      (listening ++ (if w.parts.client = true then some v else none).toList.map fun _ => .view n)
      (ended ++ (if w.parts.client = true then former else none).toList.map .view) := by
  refine requiring (fun hp => ?_) fun hp => ?_
  · rw [if_pos hp, if_pos hp]
    exact hf.addView _
  · rw [if_neg hp, if_neg hp]
    exact h.nothing_new

/-- **After a command those listen who are left.** -/
theorem perform (h : ListeningInv (viewRecords w) added listening ended) (hw : Asking w)
    (hlisteners : ListenerInv (viewWorld w)) (hnext : w.router.nextId = added.length + 1)
    (c : Command) :
    ListeningInv (viewRecords (w.perform c)) (added ++ commandHandlers w c)
      (listening ++ commandListeners w c) (ended ++ commandEndings w c) := by
  -- whatever it is for, a subscription adds one handler, no listener, and ends nothing
  have hsubscribe : ∀ name s full kind script r,
      ListeningInv (viewRecords ((w.subscribe name s (.app name full kind script)).1.answer r))
        (added ++ [(s, .app name full kind script)]) (listening ++ []) (ended ++ []) := by
    intro name s full kind script r
    rw [List.append_nil, List.append_nil]
    exact (h.subscribed hnext name s full kind script).answer r
  cases c with
  | subscribe onClient name topic full script =>
      rw [commandHandlers]
      refine requiring (fun hp => ?_) fun hp => ?_
      · rw [if_pos hp]
        cases topic with
        | none => exact hsubscribe name .all full none script _
        | some t => exact hsubscribe name (.topic t) full none script _
      · rw [if_neg hp]
        exact h.nothing_new
  | subscribeTyped name topic kind script =>
      rw [commandHandlers]
      refine requiring (fun hp => ?_) fun hp => ?_
      · rw [if_pos hp]
        exact hsubscribe name (.topic topic) false (some kind) script _
      · rw [if_neg hp]
        exact h.nothing_new
  | listen name only script =>
      rw [commandListeners]
      refine requiring (fun hp => ?_) fun hp => ?_
      · have hlistened := ((h.listened name only script).answer
          (.count (w.listen name (.app name only script)).2)).addView []
        rw [← List.append_nil ended] at hlistened
        rw [if_pos hp]
        exact hlistened
      · rw [if_neg hp]
        exact h.nothing_new
  | unsubscribe name =>
      simp only [World.perform, World.withSubscription, commandEndings]
      cases hget : w.subscriptions.get? name with
      | none => exact (h.answer _).nothing_new
      | some c => exact ((h.unsubscribe hlisteners hget).answer _).nobody_new
  | forget name =>
      refine withSubscription_cases (P := fun x => ListeningInv (viewRecords x) _ _ _)
        (fun r => (h.answer r).nothing_new) fun c hc => ?_
      exact (answer (w := { w with subscriptions := w.subscriptions.erase name })
        (h.forget name) _).nothing_new
  | joinChat name eventId => exact h.opened (h.startNamed hlisteners .chat name rfl)
  | openFeed name => exact h.opened (h.startNamed hlisteners .notices name rfl)
  | watch name streams => exact h.opened (h.startNamed hlisteners .health name rfl)
  | leaveChat name => exact (h.endNamed hlisteners .chat name).nobody_new
  | closeFeed name => exact (h.endNamed hlisteners .notices name).nobody_new
  | closeMonitor name => exact (h.endNamed hlisteners .health name).nobody_new
  | _ => exact (h.command rfl hw).nothing_new

end ListeningInv

end Board

/-! ## Runs -/

/-- Both places have those who are left. -/
structure PlacesInv (w : World) (added : List (Scope × Handler)) (listening : List Listener)
    (ended : List Ending) : Prop where
  viewsInv : ViewsInv w
  log : ∃ l, l.made = added ∧ Kept (registrations w) l ∧ WithdrawnInv l ended
  listeningInv : ListeningInv (viewRecords w) added listening ended

section Runs

variable {w w' : World} {a : Action} {added : List (Scope × Handler)} {listening : List Listener}
  {ended : List Ending}

theorem ofCommand_asked {β : Type} (look : World → Command → List β) {c : Command}
    (hc : cause w a = .asked c) : ofCommand look w a = look w c := by
  rw [ofCommand, hc]

theorem ofCommand_none {β : Type} (look : World → Command → List β)
    (hc : ∀ c, cause w a ≠ .asked c) : ofCommand look w a = [] := by
  unfold ofCommand
  split
  · rename_i c hasked
    exact absurd hasked (hc c)
  · rfl

theorem PlacesInv.initial (router client : Bool) (setup : Setup) (hasRuntime : Bool)
    (stamps : Nat → Stamp) :
    PlacesInv (.initial ⟨router, false, client⟩ setup hasRuntime stamps) [] [] [] where
  viewsInv := viewsInv_initial router client setup hasRuntime stamps
  log := ⟨.empty, rfl, kept_initial _ setup hasRuntime stamps, .empty⟩
  listeningInv := .initial _ setup hasRuntime stamps

/-- **In every action, those who are left are still those who are left.** -/
theorem PlacesInv.act (hA : PlacesInv w added listening ended) (h : w.act a = some w') :
    PlacesInv w' (added ++ actionHandlers w a) (listening ++ actionListeners w a)
      (ended ++ actionEndings w a) := by
  obtain ⟨l, hmade, hk, hp⟩ := hA.log
  have hk' := act_kept h hk
  have hviewsInv := (hA.viewsInv.act h).1
  by_cases hc : ∃ c, cause w a = .asked c
  · obtain ⟨c, hc⟩ := hc
    rw [actionHandlers, actionListeners, actionEndings, ofCommand_asked commandHandlers hc,
      ofCommand_asked commandListeners hc,
      ofCommand_asked commandEndings hc]
    have hnew : .view w.adapters.length ∉ ended :=
      fun hmem => Nat.lt_irrefl _ (hA.listeningInv.started _ hmem)
    have hnote : l.note w a = l.ask w c := by rw [Log.note, hc]
    refine ⟨hviewsInv, ⟨l.ask w c, ?_, hnote ▸ hk', hp.ask hk hnew c⟩, ?_⟩
    · rw [made_ask, hmade]
    · obtain ⟨r, stack, rfl, hviewWorld, hw, -⟩ := asked_viewWorld hc h
      have hlisteningInv := hA.listeningInv
      rw [← viewRecords_of_viewWorld hviewWorld] at hlisteningInv
      have hnext : w.router.nextId = added.length + 1 := hmade ▸ hk.listsInv.next
      have hperform := hlisteningInv.perform hw (hviewWorld.symm ▸ hA.viewsInv.listeners) hnext c
      cases c <;> exact hperform
  · -- without a command nobody registers and nothing ends
    have hc : ∀ c, cause w a ≠ .asked c := fun c hasked => hc ⟨c, hasked⟩
    rw [actionHandlers, actionListeners, actionEndings, ofCommand_none commandHandlers hc,
      ofCommand_none commandListeners hc,
      ofCommand_none commandEndings hc, List.append_nil, List.append_nil, List.append_nil]
    rw [Log.note_quiet hc] at hk'
    refine ⟨hviewsInv, ⟨l, hmade, hk', hp⟩, ?_⟩
    rw [act_viewRecords hc h]
    exact hA.listeningInv.receive _

theorem PlacesInv.along {as : List Action} (hA : PlacesInv w added listening ended)
    (h : w.actAll as = some w') :
    PlacesInv w' (added ++ observed actionHandlers w as)
      (listening ++ observed actionListeners w as) (ended ++ observed actionEndings w as) := by
  induction as generalizing w added listening ended with
  | nil =>
      obtain rfl := Option.some.inj h
      simp only [observed, List.append_nil]
      exact hA
  | cons a rest ih =>
      obtain ⟨v, hv, hrest⟩ := Option.bind_eq_some_iff.mp h
      rw [observed_cons hv, observed_cons hv, observed_cons hv, ← List.append_assoc,
        ← List.append_assoc, ← List.append_assoc]
      exact ih (hA.act hv) hrest

theorem PlacesInv.router (hA : PlacesInv w added listening ended) (s : Scope) :
    w.router.inScope s = handlersLeft added ended s := by
  obtain ⟨l, hmade, hk, hp⟩ := hA.log
  rw [← hmade, ← hp.remaining s]
  exact hk.listsInv.stored s

/-! ## Views that end -/

/-- A command that ends a view ends nothing else. -/
theorem endedView_of_ending {n : Nat} (hn : .view n ∈ actionEndings w a) :
    ∃ c, cause w a = .asked c ∧ endedView w c = some n ∧ actionEndings w a = [.view n] := by
  by_cases hc : ∃ c, cause w a = .asked c
  · obtain ⟨c, hc⟩ := hc
    rw [actionEndings, ofCommand_asked commandEndings hc] at hn ⊢
    -- commands end one view at most
    have hleaver : .view n ∈ (endedView w c).toList.map Ending.view →
        endedView w c = some n ∧ (endedView w c).toList.map Ending.view = [.view n] := by
      intro hmem
      cases hl : endedView w c with
      | none =>
          rw [hl] at hmem
          exact absurd hmem List.not_mem_nil
      | some m =>
          rw [hl] at hmem
          obtain rfl := Ending.view.inj (List.mem_singleton.mp hmem)
          exact ⟨rfl, rfl⟩
    cases c with
    | unsubscribe name =>
        obtain ⟨c, -, hsome⟩ := List.mem_map.mp hn
        exact absurd hsome (by simp)
    | _ => exact ⟨_, hc, hleaver hn⟩
  · rw [actionEndings, ofCommand_none commandEndings fun c hasked => hc ⟨c, hasked⟩] at hn
    exact absurd hn List.not_mem_nil

/-- A view ends by the name that it has. -/
theorem named_of_leaver {n : Nat} {c : Command} (hl : endedView w c = some n) :
    ∃ s name, (names w s).get? name = some n := by
  have hpart : ∀ {s name},
      (if w.parts.client = true then (names w s).get? name else none) = some n →
      ∃ s name, (names w s).get? name = some n := by
    intro s name h
    split at h
    · exact ⟨s, name, h⟩
    · exact absurd h (by simp)
  cases c with
  | joinChat name eventId => exact hpart (s := .chat) hl
  | openFeed name => exact hpart (s := .notices) hl
  | watch name streams => exact hpart (s := .health) hl
  | leaveChat name => exact ⟨.chat, name, hl⟩
  | closeFeed name => exact ⟨.notices, name, hl⟩
  | closeMonitor name => exact ⟨.health, name, hl⟩
  | _ => exact absurd hl (by simp [endedView])

/-- What an action registers in which a view ends is of another view, one that starts. -/
theorem actionHandlers_server {n : Nat} (hn : .view n ∈ actionEndings w a) {p : Scope × Handler}
    (hp : p ∈ actionHandlers w a) : handlerView p.2 = some w.adapters.length := by
  obtain ⟨c, hc, hleaver, -⟩ := endedView_of_ending hn
  rw [actionHandlers, ofCommand_asked commandHandlers hc] at hp
  cases c with
  | subscribe onClient name topic full script => exact absurd hleaver (by simp [endedView])
  | subscribeTyped name topic kind script => exact absurd hleaver (by simp [endedView])
  | _ =>
    obtain ⟨v, -, hv⟩ := List.mem_flatMap.mp hp
    obtain ⟨t, -, rfl⟩ := List.mem_map.mp hv
    rfl

theorem actionListeners_callee {n : Nat} (hn : .view n ∈ actionEndings w a) {l : Listener}
    (hl : l ∈ actionListeners w a) : callee l = some w.adapters.length := by
  obtain ⟨c, hc, hleaver, -⟩ := endedView_of_ending hn
  rw [actionListeners, ofCommand_asked commandListeners hc] at hl
  cases c with
  | listen name only script => exact absurd hleaver (by simp [endedView])
  | _ =>
    obtain ⟨v, -, rfl⟩ := List.mem_map.mp hl
    rfl

/-- Others are registered, whose reasons to go have not come up. -/
theorem handlersLeft_append {more : List (Scope × Handler)}
    (hmore : ∀ e ∈ numbered (added.length + 1) more,
      endingOf (.router e.handler.1) e.id (handlerView e.handler.2) ∉ ended) (s : Scope) :
    handlersLeft (added ++ more) ended s
      = handlersLeft added ended s ++ handlersFor s (numbered (added.length + 1) more) := by
  unfold handlersLeft handlersFor
  rw [numbered_append, List.filter_append, Nat.add_comm 1, List.filterMap_append,
    List.filter_eq_self.mpr fun e he => decide_eq_true (hmore e he)]

theorem handlersFor_filter (s : Scope) (es : List (Entry (Scope × Handler)))
    (keep : Handler → Bool) : (handlersFor s es).filter (fun e => keep e.handler)
      = handlersFor s (es.filter fun e => keep e.handler.2) := by
  unfold handlersFor
  rw [List.filter_filterMap, List.filterMap_filter]
  refine List.filterMap_congr fun e _ => ?_
  by_cases hs : e.handler.1 = s
  · simp [hs, Option.filter]
  · simp [hs]

/-- A view ends, and those go whose view it is. -/
theorem handlersLeft_view (n : Nat) (s : Scope) : handlersLeft added (ended ++ [.view n]) s =
    (handlersLeft added ended s).filter fun e => handlerView e.handler ≠ some n := by
  unfold handlersLeft
  rw [handlersFor_filter s _ fun h => handlerView h ≠ some n, List.filter_filter]
  refine congrArg (handlersFor s) (List.filter_congr fun e _ => ?_)
  simp [endingOf_view, and_comm]

/-- What an action leaves in which a view ends. -/
structure Cleared (w : World) (a : Action) (w' : World) (n : Nat) : Prop where
  /-- The router keeps everybody in order who is not of the view. Those who come are of another
  view, which starts under the name of this one. -/
  router : ∀ s, w'.router.inScope s =
    (w.router.inScope s).filter (fun e => handlerView e.handler ≠ some n)
      ++ handlersFor s (numbered w.router.nextId (actionHandlers w a))
  listeners : w'.board.listeners =
    w.board.listeners.filter (fun e => callee e.handler ≠ some n)
      ++ numbered w.board.nextId (actionListeners w a)
  /-- In a session, a feed tells the server that it wants no more notifications, once, if nobody is
  left who is registered for them, and does not otherwise. -/
  withdrawn : ∀ v, w.viewOf? n = some (.notices v) → w.link.status = .connected →
    ∃ k new, w.link.outbound = some k
      ∧ inOrder queued? w'.history = inOrder queued? w.history ++ new
      ∧ new.filter (fun p => p.2.1 = "notification.unsubscribe") =
        if (w'.router.forTopic "notification.new").isEmpty then
          [(k, "notification.unsubscribe", .object [])]
        else []

/-- **A view that ends takes its own registrations with it, and nobody else's.** -/
theorem PlacesInv.cleared (hA : PlacesInv w added listening ended) (h : w.act a = some w') {n : Nat}
    (hn : .view n ∈ actionEndings w a) :
    (∀ s, w'.router.inScope s =
      (w.router.inScope s).filter (fun e => handlerView e.handler ≠ some n)
        ++ handlersFor s (numbered w.router.nextId (actionHandlers w a)))
    ∧ w'.board.listeners = w.board.listeners.filter (fun e => callee e.handler ≠ some n)
        ++ numbered w.board.nextId (actionListeners w a) := by
  obtain ⟨c, hc, hleaver, hendings⟩ := endedView_of_ending hn
  have hA' := hA.act h
  rw [hendings] at hA'
  obtain ⟨l, hmade, hk, -⟩ := hA.log
  have hnext : w.router.nextId = added.length + 1 := hmade ▸ hk.listsInv.next
  have hboard : w.board.nextId = listening.length + 1 := hA.listeningInv.next
  -- the view that starts is not one that has ended
  have hnew : .view w.adapters.length ∉ ended ++ [.view n] := by
    intro hmem
    obtain ⟨s, name, hnamed⟩ := named_of_leaver hleaver
    obtain ⟨x, hx, -⟩ := hA.viewsInv.listeners.named s name n hnamed
    have hlt : n < w.adapters.length := (List.getElem?_eq_some_iff.mp hx).1
    rcases List.mem_append.mp hmem with hmem | hmem
    · exact Nat.lt_irrefl _ (hA.listeningInv.started _ hmem)
    · exact Nat.ne_of_gt hlt (Ending.view.inj (List.mem_singleton.mp hmem))
  refine ⟨fun s => ?_, ?_⟩
  · rw [hA'.router s, hA.router s, ← handlersLeft_view, hnext]
    refine handlersLeft_append (fun e he => ?_) s
    rw [actionHandlers_server hn (mem_of_numbered he)]
    exact hnew
  · have hleft : w'.board.listeners
      = listenersLeft (listening ++ actionListeners w a) (ended ++ [.view n]) :=
      hA'.listeningInv.left
    have hbefore : w.board.listeners = listenersLeft listening ended := hA.listeningInv.left
    have hview : (listenersLeft listening ended).filter (fun e => callee e.handler ≠ some n)
        = listenersLeft listening (ended ++ [.view n]) := by
      rw [listenersLeft_concat]
      exact List.filter_congr fun e _ => decide_eq_decide.mpr (not_congr endingOf_view.symm)
    rw [hleft, hbefore, hview, hboard]
    refine listenersLeft_append fun e he => ?_
    rw [actionListeners_callee hn (mem_of_numbered he)]
    exact hnew

/-! ### What is told the server -/

variable {n : Nat} {x : Adapter}

/-- A view that starts asks for what it wants, then the one before it takes leave. -/
theorem startNamed_queued (s : ViewKind) {name : String} (v : View)
    (hn : (names w s).get? name = some n) (hx : w.adapters[n]? = some x)
    (hw' : w' = w.startNamed ((names w s).get? name) v
      fun x n => withNames x s ((names x s).insert name n)) :
    (viewWorld w').queued = (viewWorld w).queued
      ++ addressed (viewWorld w).socket
        (v.announcements ++ x.view.farewells (hasNoticeHandlers w')) := by
  obtain ⟨handlers, hviewWorld⟩ := viewWorld_startNamed w s name v
  have hx' : (((viewWorld w).start v handlers).assign s name w.adapters.length).adapters[n]?
      = some x :=
    started_before hx v handlers
  rw [← hw', hn] at hviewWorld
  rw [hviewWorld, addressed_append, ← List.append_assoc]
  exact finish_queued hx' _

/-- A view takes leave. -/
theorem endNamed_queued (s : ViewKind) {name : String} (hn : (names w s).get? name = some n)
    (hx : w.adapters[n]? = some x)
    (hw' : w' = w.endNamed (names w s) name fun x => withNames x s ((names x s).erase name)) :
    (viewWorld w').queued = (viewWorld w).queued
      ++ addressed (viewWorld w).socket (x.view.farewells (hasNoticeHandlers w')) := by
  have hviewWorld := viewWorld_endNamed w s name
  rw [← hw', hn] at hviewWorld
  rw [hviewWorld]
  exact finish_queued (g := (viewWorld w).unassign s name) hx _

/-- What a command says in which a view ends. -/
theorem perform_queued {c : Command} (hl : endedView w c = some n) (hx : w.adapters[n]? = some x) :
    (viewWorld (w.perform c)).queued = (viewWorld w).queued
      ++ addressed (viewWorld w).socket
        ((opening w c).elim [] View.announcements
          ++ x.view.farewells (hasNoticeHandlers (w.perform c))) := by
  -- the new view announces itself before the one that had the name ends
  have hstart : ∀ s name v,
      (if w.parts.client = true then (names w s).get? name else none) = some n →
      ∀ u, u = w.requiring w.parts.client (w.startNamed ((names w s).get? name) v
        fun x n => withNames x s ((names x s).insert name n)) →
      (viewWorld u).queued = (viewWorld w).queued ++ addressed (viewWorld w).socket
        ((if w.parts.client = true then some v else none).elim [] View.announcements
          ++ x.view.farewells (hasNoticeHandlers u)) := by
    intro s name v h u hu
    split at h
    · rename_i hp
      rw [World.requiring, if_pos hp] at hu
      rw [if_pos hp]
      exact startNamed_queued s v h hx hu
    · exact absurd h (by simp)
  cases c with
  | joinChat name eventId => exact hstart .chat name _ hl _ rfl
  | openFeed name => exact hstart .notices name _ hl _ rfl
  | watch name streams => exact hstart .health name _ hl _ rfl
  | leaveChat name => exact endNamed_queued .chat hl hx rfl
  | closeFeed name => exact endNamed_queued .notices hl hx rfl
  | closeMonitor name => exact endNamed_queued .health hl hx rfl
  | _ => exact absurd hl (by simp [endedView])

/-- **A feed that ends tells the server that it wants no more notifications if nobody is left who is
registered for them.** -/
theorem feed_withdrawn (hw : CoherentWorld w) (h : w.act a = some w')
    (hn : .view n ∈ actionEndings w a) {v : NoticeView} (hv : w.viewOf? n = some (.notices v))
    (hup : w.link.status = .connected) : ∃ k new, w.link.outbound = some k
      ∧ inOrder queued? w'.history = inOrder queued? w.history ++ new
      ∧ new.filter (fun p => p.2.1 = "notification.unsubscribe") =
        if (w'.router.forTopic "notification.new").isEmpty then
          [(k, "notification.unsubscribe", .object [])]
        else [] := by
  obtain ⟨c, hc, hl, -⟩ := endedView_of_ending hn
  obtain ⟨x, hx, hview⟩ := Option.map_eq_some_iff.mp hv
  obtain ⟨k, hk⟩ : ∃ k, w.link.outbound = some k := by
    refine Option.isSome_iff_exists.mp ?_
    rcases hw.up (by rw [hup]; exact Status.noConfusion) with
      ⟨-, -, hfits⟩ | ⟨_, _, -, -, -, -, hfits⟩ <;> exact hfits.outbound.mpr hup
  have hsocket : (viewWorld w).socket = some k := (if_pos hup).trans hk
  obtain ⟨r, stack, rfl, hviewWorld, -⟩ := asked_viewWorld hc h
  have hqueued := perform_queued (w := { w with reply := r, stack := stack }) (c := c)
    (by cases c <;> exact hl) hx
  rw [hviewWorld, hsocket, hview] at hqueued
  refine ⟨k, _, hk, hqueued, ?_⟩
  rw [addressed_append, List.filter_append, List.filter_eq_nil_iff.mpr, List.nil_append]
  · show List.filter _ (addressed _ (if (!List.isEmpty _) = true then _ else _)) = _
    cases List.isEmpty _ <;> rfl
  · -- what is said at a start is about what is wanted
    intro p hp
    obtain ⟨m, hm, rfl⟩ := List.mem_map.mp hp
    cases hopening : opening { w with reply := r, stack := stack } c with
    | none =>
        rw [hopening] at hm
        exact absurd hm List.not_mem_nil
    | some u =>
        rw [hopening] at hm
        have hasks := asks_announcements (v := u) hm
        refine fun htopic => ?_
        rw [of_decide_eq_true htopic] at hasks
        exact absurd hasks (by decide)

/-! ## No residue -/

/-- Those who are registered, with the router or for the status, are all who registered and whose
reason to go has not come up, in the order in which they did. -/
structure Reckoned (w : World) (added : List (Scope × Handler)) (listening : List Listener)
    (ended : List Ending) : Prop where
  router : ∀ s, w.router.inScope s = handlersLeft added ended s
  /-- A topic is gone when nobody is left who is registered for it. -/
  topics : ∀ t, t ∈ w.router.topicNames ↔ handlersLeft added ended (.topic t) ≠ []
  listeners : w.board.listeners = listenersLeft listening ended
  /-- What the application can withdraw under a name is what it registered under the name. -/
  handlers : ∀ name c s, w.subscriptions.get? name = some c → c.place = .router s →
    ∃ full kind script, ⟨c.id, s, .app name full kind script⟩ ∈ numbered 1 added
  commandListeners : ∀ name c, w.subscriptions.get? name = some c → c.place = .board →
    ∃ only script, ⟨c.id, .app name only script⟩ ∈ numbered 1 listening

theorem PlacesInv.reckoned (hA : PlacesInv w added listening ended) :
    Reckoned w added listening ended where
  router := hA.router
  topics := by
    intro t
    obtain ⟨l, hmade, hk, hp⟩ := hA.log
    rw [← hmade, ← hp.remaining]
    exact hk.listsInv.topics t
  listeners := hA.listeningInv.left
  handlers := hA.listeningInv.handlers
  commandListeners := hA.listeningInv.listeners

/-- **Views leave nothing behind.** After every run those are registered who are left, in order; and
a view that ends takes all of its own registrations with it and no other one, and tells the server
that notifications are not wanted any more exactly if nobody is left to whom they would go. -/
theorem views_leave_no_residue {router client : Bool} {setup : Setup} {hasRuntime : Bool}
    {stamps : Nat → Stamp} {as : List Action} {w : World}
    (h : (World.initial ⟨router, false, client⟩ setup hasRuntime stamps).actAll as = some w) :
    Reckoned w
        (observed actionHandlers (.initial ⟨router, false, client⟩ setup hasRuntime stamps) as)
        (observed actionListeners (.initial ⟨router, false, client⟩ setup hasRuntime stamps) as)
        (observed actionEndings (.initial ⟨router, false, client⟩ setup hasRuntime stamps) as)
      ∧ ∀ a w' n, w.act a = some w' → .view n ∈ actionEndings w a → Cleared w a w' n := by
  have hA := (PlacesInv.initial router client setup hasRuntime stamps).along h
  rw [List.nil_append, List.nil_append, List.nil_append] at hA
  refine ⟨hA.reckoned, fun a w' n ha hn => ?_⟩
  obtain ⟨hrouter, hlisteners⟩ := hA.cleared ha hn
  exact ⟨hrouter, hlisteners,
    fun v hv hup => feed_withdrawn (coherentWorld_reachable h) ha hn hv hup⟩

end Runs

/-- A feed, a chat and a monitor, and a handler for new notifications that withdraws itself and
leaves the chat when the first one comes. -/
def sharedRun : List Action :=
  [.command (.openFeed "feed"), .command (.joinChat "room" "e1"),
    .command (.subscribe false "plain" (some "notification.new") false fun _ =>
      [.unsubscribe "plain", .leaveChat "room"]),
    .command (.listen "ear" none fun _ => []), .command (.watch "board" ["a"]), .command .connect]
    ++ List.replicate 8 .go ++ [.wake 0, .answered 0 true] ++ List.replicate 8 .go
    ++ [.command (.dispatch "notification.new" .null)] ++ List.replicate 6 .go

/-- With the handler gone, the feed that is closed takes the last registrations for notifications
with it and says so; the monitor and the listener of the application stay. -/
theorem views_leave_no_residue_shared :
    let start := World.initial ⟨true, false, true⟩ .standard true fun _ => ⟨"m1", .epoch⟩
    ∃ w w', start.actAll sharedRun = some w ∧ w.act (.command (.closeFeed "feed")) = some w'
      ∧ observed actionEndings start sharedRun
        = [.registration (.router (.topic "notification.new")) 7, .view 1]
      ∧ Reckoned w (observed actionHandlers start sharedRun)
        (observed actionListeners start sharedRun)
        (observed actionEndings start sharedRun)
      ∧ Cleared w (.command (.closeFeed "feed")) w' 0
      ∧ w'.router.topicNames = ["stream.health.alert", "stream.health.update"]
      ∧ w'.board.listeners.map Entry.id = [3, 4]
      ∧ ∃ k new, w.link.outbound = some k
        ∧ inOrder queued? w'.history = inOrder queued? w.history ++ new
        ∧ new.filter (fun p => p.2.1 = "notification.unsubscribe")
          = [(k, "notification.unsubscribe", .object [])] := by
  intro start
  have hended : observed actionEndings start sharedRun
      = [.registration (.router (.topic "notification.new")) 7, .view 1] := by
    decide +kernel
  have hbefore : (start.actAll sharedRun).map (fun w =>
      (actionEndings w (.command (.closeFeed "feed")), w.viewOf? 0, w.link.status))
      = some ([.view 0], some (.notices (.empty Setup.standard.noticeLimit)), .connected) := by
    decide +kernel
  have hafter : ((start.actAll sharedRun).bind fun w =>
      (w.act (.command (.closeFeed "feed"))).map fun w' =>
        (w'.router.topicNames, w'.board.listeners.map Entry.id,
          (w'.router.forTopic "notification.new").isEmpty))
      = some (["stream.health.alert", "stream.health.update"], [3, 4], true) := by
    decide +kernel
  obtain ⟨w, h, hw⟩ := Option.bind_eq_some_iff.mp hafter
  obtain ⟨w', ha, hw'⟩ := Option.map_eq_some_iff.mp hw
  rw [h] at hbefore
  simp only [Option.map_some, Option.some.injEq, Prod.mk.injEq] at hbefore hw'
  obtain ⟨hending, hview, hup⟩ := hbefore
  obtain ⟨hnames, hids, hnobody⟩ := hw'
  obtain ⟨hreckoned, hall⟩ := views_leave_no_residue h
  have hcleared := hall _ w' 0 ha (by rw [hending]; exact List.mem_cons_self)
  obtain ⟨k, new, hk, hqueued, hfarewell⟩ := hcleared.withdrawn _ hview hup
  rw [if_pos hnobody] at hfarewell
  exact ⟨w, w', h, ha, hended, hreckoned, hcleared, hnames, hids, k, new, hk, hqueued, hfarewell⟩

end LiveLink.Proofs
