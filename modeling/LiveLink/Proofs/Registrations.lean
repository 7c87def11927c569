import LiveLink.Proofs.Unaffected
import LiveLink.Proofs.Tables

/-!
# The registry and the log of registrations

Whatever has been asked of the router can be written down without it: a `Log` has
the registrations in the order they were made, and the numbers of those that were
withdrawn. A number is a position in the log, so none is given out twice, and who
is registered for a scope can be read off it.

`registry_refines_log` says that the registry never tells anything else: its lists,
its topics and its counts are those of the log, and a handle is active as long as
its entry stands. The log is kept from the commands alone (`Log.ask`), wherever they
come from, so it does not matter how often or from within which handler someone is
withdrawn.

The registry and the log meet in three facts. `ListsInv` ties the lists to the log,
`HandleInv` the handles of the application, and `ViewScopesInv` the registrations of views.
-/

namespace LiveLink.Proofs

open LiveLink Relation

/-! ## Logs -/

/-- What was asked of a router: the registrations in order, and the numbers withdrawn. -/
structure Log where
  made : List (Scope × Handler)
  withdrawn : List Nat

/-- A handler is the one of a view. -/
def serves (n : Nat) : Handler → Bool
  | .view m => m = n
  | .app .. => false

namespace Log

/-- Nothing was asked yet. -/
def empty : Log := ⟨[], []⟩

/-- Everyone who was ever registered, with his number: they are numbered from one on. -/
def entries (l : Log) : List (Scope × Entry Handler) :=
  (l.made.zipIdx 1).map fun p => (p.1.1, ⟨p.2, p.1.2⟩)

/-- Those registered for a scope whose numbers were not withdrawn, in the order of registration. -/
def remaining (l : Log) (s : Scope) : List (Entry Handler) :=
  l.entries.filterMap fun p => if p.1 = s ∧ p.2.id ∉ l.withdrawn then some p.2 else none

/-- The scopes a view was registered for, with the numbers. -/
def viewScopes (l : Log) (n : Nat) : List (Scope × Nat) :=
  l.entries.filterMap fun p => if serves n p.2.handler then some (p.1, p.2.id) else none

def register (l : Log) (s : Scope) (h : Handler) : Log := { l with made := l.made ++ [(s, h)] }

def withdraw (l : Log) (id : Nat) : Log := { l with withdrawn := id :: l.withdrawn }

/-- A view is registered for its topics, one after another. -/
def addView (l : Log) (n : Nat) (topics : List String) : Log :=
  topics.foldl (fun l t => l.register (.topic t) (.view n)) l

/-- Everything a view was registered for is withdrawn. -/
def dropView (l : Log) (n : Nat) : Log :=
  (l.viewScopes n).foldl (fun l p => l.withdraw p.2) l

/-- The view that had a name before, if there is one, ends. -/
def dropFormer (l : Log) (former : Option Nat) : Log := former.elim l l.dropView

/-- What a command does. The world says which parts can be reached, and what names stand for. -/
def ask (l : Log) (w : World) : Command → Log
  | .subscribe onClient name topic full script =>
    if (if onClient then w.parts.client else w.parts.router) = true then
      l.register (topic.elim .all .topic) (.app name full none script)
    else l
  | .subscribeTyped name topic kind script =>
    if w.parts.router = true then l.register (.topic topic) (.app name false (some kind) script)
    else l
  | .unsubscribe name =>
    match w.subscriptions.get? name with
    | some ⟨id, .router _, _⟩ => l.withdraw id
    | _ => l
  | .joinChat name eventId =>
    if w.parts.client = true then
      (l.addView w.adapters.length (View.chat (.empty eventId w.setup.chatLimit)).topics).dropFormer
        (w.rooms.get? name)
    else l
  | .openFeed name =>
    if w.parts.client = true then
      (l.addView w.adapters.length (View.notices (.empty w.setup.noticeLimit)).topics).dropFormer
        (w.feeds.get? name)
    else l
  | .watch name streams =>
    if w.parts.client = true then
      (l.addView w.adapters.length
        (View.health (.watching w.setup.alertLimit streams)).topics).dropFormer
        (w.monitors.get? name)
    else l
  | .leaveChat name => l.dropFormer (w.rooms.get? name)
  | .closeFeed name => l.dropFormer (w.feeds.get? name)
  | .closeMonitor name => l.dropFormer (w.monitors.get? name)
  | _ => l

/-- What an action does: the command that it carries out, if it carries one out. -/
def note (l : Log) (w : World) (a : Action) : Log :=
  match cause w a with
  | .asked c => l.ask w c
  | _ => l

/-- The log after a run. -/
def along (l : Log) (w : World) : List Action → Log
  | [] => l
  | a :: rest => (w.act a).elim l fun w' => (l.note w a).along w' rest

variable {l : Log} {s s' : Scope} {h : Handler} {id n : Nat} {e : Entry Handler}

/-! ### Numbers -/

/-- A new registration stands at the end, and has the next number. -/
theorem entries_register (l : Log) (s : Scope) (h : Handler) :
    (l.register s h).entries = l.entries ++ [(s, ⟨l.made.length + 1, h⟩)] := by
  simp [entries, register, List.zipIdx_append, Nat.add_comm]

@[simp] theorem entries_withdraw (l : Log) (id : Nat) : (l.withdraw id).entries = l.entries := rfl

/-- A number is a position. -/
theorem mem_entries : (s, e) ∈ l.entries ↔ 1 ≤ e.id ∧ l.made[e.id - 1]? = some (s, e.handler) := by
  unfold entries
  constructor
  · intro hmem
    obtain ⟨⟨⟨s₀, h₀⟩, i⟩, hi, heq⟩ := List.mem_map.mp hmem
    obtain ⟨rfl, rfl⟩ := Prod.mk.inj heq
    exact List.mk_mem_zipIdx_iff_le_and_getElem?_sub.mp hi
  · rintro ⟨hle, hget⟩
    refine List.mem_map.mpr ⟨((s, e.handler), e.id), ?_, rfl⟩
    exact List.mk_mem_zipIdx_iff_le_and_getElem?_sub.mpr ⟨hle, hget⟩

theorem id_le (h : (s, e) ∈ l.entries) : e.id ≤ l.made.length := by
  obtain ⟨hle, hget⟩ := mem_entries.mp h
  have hlt : e.id - 1 < l.made.length := (List.getElem?_eq_some_iff.mp hget).1
  omega

/-- **No number is given out twice.** -/
theorem unique {e' : Entry Handler} (h : (s, e) ∈ l.entries) (h' : (s', e') ∈ l.entries)
    (hid : e.id = e'.id) : s = s' ∧ e = e' := by
  obtain ⟨-, hget⟩ := mem_entries.mp h
  obtain ⟨-, hget'⟩ := mem_entries.mp h'
  rw [hid, hget'] at hget
  obtain ⟨rfl, hh⟩ := Prod.mk.inj (Option.some.inj hget)
  refine ⟨rfl, ?_⟩
  -- the number and the handler are all there is to an entry
  cases e
  cases e'
  simp_all

theorem entries_distinct (l : Log) : l.entries.Pairwise fun p q => p.2.id ≠ q.2.id := by
  have hids : l.entries.map (·.2.id) = List.range' 1 l.made.length := by
    rw [entries, List.map_map]
    exact List.zipIdx_map_snd 1 l.made
  have hnodup : (l.entries.map (·.2.id)).Nodup := by
    rw [hids]
    exact List.nodup_range' 1
  exact List.pairwise_map.mp hnodup

/-- A handler is at most once in a list, since his number is. -/
theorem remaining_distinct (l : Log) (s : Scope) :
    (l.remaining s).Pairwise fun a b => a.id ≠ b.id := by
  have entry : ∀ (p : Scope × Entry Handler) a,
      (if p.1 = s ∧ p.2.id ∉ l.withdrawn then some p.2 else none) = some a → p.2 = a := by
    intro p a hsome
    split at hsome
    · exact Option.some.inj hsome
    · exact absurd hsome (by simp)
  refine l.entries_distinct.filterMap _ fun p q hne a ha b hb => ?_
  rw [← entry p a ha, ← entry q b hb]
  exact hne

/-- Whoever is registered and not withdrawn remains. -/
theorem mem_remaining : e ∈ l.remaining s ↔ (s, e) ∈ l.entries ∧ e.id ∉ l.withdrawn := by
  unfold remaining
  rw [List.mem_filterMap]
  constructor
  · rintro ⟨⟨s', e'⟩, hmem, hsome⟩
    split at hsome
    · rename_i hs
      obtain rfl := Option.some.inj hsome
      obtain ⟨rfl, hid⟩ := hs
      exact ⟨hmem, hid⟩
    · exact absurd hsome (by simp)
  · rintro ⟨hmem, hid⟩
    exact ⟨(s, e), hmem, by simp [hid]⟩

/-! ### Registering and withdrawing -/

/-- Where numbers differ, one entry goes. -/
theorem without_middle {before after : List (Entry Handler)}
    (h : (before ++ e :: after).Pairwise fun a b => a.id ≠ b.id) :
    Registry.without e.id (before ++ e :: after) = before ++ after := by
  obtain ⟨-, hafter, hbefore⟩ := List.pairwise_append.mp h
  obtain ⟨hhead, -⟩ := List.pairwise_cons.mp hafter
  -- nobody in front has the number, and nobody behind
  have hb : before.filter (·.id ≠ e.id) = before := by
    refine List.filter_eq_self.mpr fun a ha => ?_
    simpa using hbefore a ha e List.mem_cons_self
  have ha : after.filter (·.id ≠ e.id) = after := by
    refine List.filter_eq_self.mpr fun a ha => ?_
    simpa using (hhead a ha).symm
  rw [Registry.without, List.filter_append, hb, List.filter_cons_of_neg (by simp), ha]

theorem remaining_register (hpast : ∀ i ∈ l.withdrawn, i ≤ l.made.length) (s s' : Scope)
    (h : Handler) : (l.register s h).remaining s' =
      l.remaining s' ++ if s = s' then [⟨l.made.length + 1, h⟩] else [] := by
  -- what is withdrawn was given out before, so not the next number
  have hnew : l.made.length + 1 ∉ l.withdrawn := by
    intro hmem
    have := hpast _ hmem
    omega
  unfold remaining
  rw [entries_register, List.filterMap_append]
  congr 1
  by_cases hs : s = s'
  · simp [register, hs, hnew]
  · simp [hs]

/-- To withdraw a number takes its entry out, wherever it is. -/
theorem remaining_withdraw (l : Log) (id : Nat) (s : Scope) :
    (l.withdraw id).remaining s = Registry.without id (l.remaining s) := by
  unfold remaining Registry.without
  rw [entries_withdraw, List.filter_filterMap]
  refine List.filterMap_congr fun p hp => ?_
  have hw : (p.1 = s ∧ p.2.id ∉ (l.withdraw id).withdrawn)
      ↔ (p.1 = s ∧ p.2.id ∉ l.withdrawn) ∧ p.2.id ≠ id := by
    simp only [withdraw, List.mem_cons]
    tauto
  -- an entry remains if it did before and its number is another one
  by_cases hs : p.1 = s ∧ p.2.id ∉ l.withdrawn
  · by_cases hid : p.2.id = id
    · rw [if_neg (fun h => (hw.mp h).2 hid), if_pos hs]
      simp [Option.filter, hid]
    · rw [if_pos (hw.mpr ⟨hs, hid⟩), if_pos hs]
      simp [Option.filter, hid]
  · rw [if_neg (fun h => hs (hw.mp h).1), if_neg hs]
    rfl

/-- The entry is in the list of its own scope only. -/
theorem remaining_withdraw_ne (he : (s, e) ∈ l.entries) (hs : s ≠ s') :
    (l.withdraw e.id).remaining s' = l.remaining s' := by
  rw [remaining_withdraw]
  refine List.filter_eq_self.mpr fun e' he' => ?_
  have hmem := (mem_remaining.mp he').1
  simp only [decide_eq_true_eq, ne_eq]
  intro hid
  exact hs (unique hmem he hid).1.symm

/-- A number that was withdrawn is withdrawn for good. -/
theorem remaining_again (hid : id ∈ l.withdrawn) (s : Scope) :
    (l.withdraw id).remaining s = l.remaining s := by
  rw [remaining_withdraw]
  refine List.filter_eq_self.mpr fun e he => ?_
  simp only [decide_eq_true_eq, ne_eq]
  rintro rfl
  exact (mem_remaining.mp he).2 hid

/-! ### Views -/

/-- A registration counts for the view that it is of, and for no other. -/
theorem viewScopes_register (l : Log) (s : Scope) (h : Handler) (n : Nat) :
    (l.register s h).viewScopes n = l.viewScopes n
      ++ if serves n h then [(s, l.made.length + 1)] else [] := by
  unfold viewScopes
  rw [entries_register, List.filterMap_append]
  congr 1
  cases hn : serves n h <;> simp [hn]

theorem mem_viewScopes (h : (s, id) ∈ l.viewScopes n) :
    ∃ hd, (s, ⟨id, hd⟩) ∈ l.entries ∧ serves n hd = true := by
  obtain ⟨⟨s', e⟩, hmem, hsome⟩ := List.mem_filterMap.mp h
  split at hsome
  · rename_i hn
    obtain ⟨rfl, rfl⟩ := Prod.mk.inj (Option.some.inj hsome)
    exact ⟨e.handler, hmem, hn⟩
  · exact absurd hsome (by simp)

end Log

/-! ## The lists of the registry -/

/-- The lists of a registry are those of a log. -/
structure ListsInv (r : Registry Handler) (l : Log) : Prop where
  next : r.nextId = l.made.length + 1
  /-- Nobody is withdrawn before he is registered. -/
  past : ∀ i ∈ l.withdrawn, i ≤ l.made.length
  stored : ∀ s, r.inScope s = l.remaining s
  ordered : Ordered r.topics
  /-- No topic is kept without handlers. -/
  filled : ∀ t, r.topics.get? t ≠ some []

variable {r : Registry Handler} {l : Log} {s s' : Scope} {h : Handler} {e : Entry Handler}

namespace ListsInv

theorem empty : ListsInv .empty .empty where
  next := rfl
  past := by simp [Log.empty]
  stored := by intro s; cases s <;> rfl
  ordered := List.Pairwise.nil
  filled := by intro t; simp [Registry.empty, Table.get?]

/-- **A registration does to the lists what it does to the log.** -/
theorem register (hr : ListsInv r l) (s : Scope) (h : Handler) :
    ListsInv (r.register s h) (l.register s h) where
  next := by
    rw [register_nextId, hr.next]
    simp [Log.register]
  past := by
    intro i hi
    have hle := hr.past i hi
    simp only [Log.register, List.length_append, List.length_singleton]
    omega
  stored := by
    intro s'
    rw [Log.remaining_register hr.past, ← hr.stored]
    -- its own scope gets the entry at the end, any other stays
    by_cases hs : s = s'
    · subst hs
      rw [Registry.inScope_register, if_pos rfl, hr.next]
    · rw [Registry.inScope_register_ne r hs, if_neg hs, List.append_nil]
  ordered := by
    cases s with
    | topic name => exact ordered_insert hr.ordered name _
    | all => exact hr.ordered
  filled := by
    intro t
    cases s with
    | topic name =>
        show (r.topics.insert name _).get? t ≠ some []
        by_cases hname : name = t
        · subst hname
          rw [Table.get?_insert_self]
          simp
        · rw [Table.get?_insert_ne hname]
          exact hr.filled t
    | all => exact hr.filled t

/-- **So does the withdrawal of an entry.** It is in the list of its own scope only. -/
theorem withdraw (hr : ListsInv r l) (he : (s, e) ∈ l.entries) :
    ListsInv (r.withdraw s e.id) (l.withdraw e.id) where
  next := by rw [withdraw_nextId]; exact hr.next
  past := by
    intro i hi
    rcases List.mem_cons.mp hi with rfl | hi
    · exact Log.id_le he
    · exact hr.past i hi
  stored := by
    intro s'
    by_cases hs : s = s'
    · subst hs
      rw [Registry.inScope_withdraw, Log.remaining_withdraw, hr.stored]
    · rw [Registry.inScope_withdraw_ne r hs, Log.remaining_withdraw_ne he hs, hr.stored]
  ordered := by
    cases s with
    | topic name =>
        unfold Registry.withdraw
        dsimp only
        split
        · exact ordered_erase hr.ordered name
        · exact ordered_insert hr.ordered name _
    | all => exact hr.ordered
  filled := by
    intro t
    cases s with
    | topic name =>
        unfold Registry.withdraw
        dsimp only
        -- a topic goes with its last handler
        split
        · by_cases hname : name = t
          · subst hname
            rw [Table.get?_erase_self]
            simp
          · rw [Table.get?_erase_ne hname]
            exact hr.filled t
        · rename_i hne
          by_cases hname : name = t
          · subst hname
            rw [Table.get?_insert_self]
            exact fun h => hne (Option.some.inj h)
          · rw [Table.get?_insert_ne hname]
            exact hr.filled t
    | all => exact hr.filled t

/-- A number is withdrawn once more. -/
theorem again {id : Nat} (hr : ListsInv r l) (hid : id ∈ l.withdrawn) :
    ListsInv r (l.withdraw id) where
  next := hr.next
  past := by
    intro i hi
    rcases List.mem_cons.mp hi with rfl | hi
    · exact hr.past i hid
    · exact hr.past i hi
  stored := by
    intro s
    rw [Log.remaining_again hid]
    exact hr.stored s
  ordered := hr.ordered
  filled := hr.filled

/-- A topic is kept as long as someone is registered for it. -/
theorem topics (hr : ListsInv r l) (t : String) :
    t ∈ r.topicNames ↔ l.remaining (.topic t) ≠ [] := by
  rw [← hr.stored, Registry.topicNames, mem_keys]
  show _ ↔ (r.topics.get? t).getD [] ≠ []
  -- an empty list would be a topic that nobody is registered for
  have hfilled := hr.filled t
  cases hget : r.topics.get? t with
  | none => simp
  | some es =>
      rw [hget] at hfilled
      simpa using hfilled

end ListsInv

/-! ## The handles of the application -/

/-- A handle is registered where it says, and is active as long as it was not withdrawn; and there
is one for each number. -/
structure HandleInv (handles : Table Subscription) (l : Log) : Prop where
  entered : ∀ name c s, handles.get? name = some c → c.place = .router s →
    ∃ hd, (s, ⟨c.id, hd⟩) ∈ l.entries ∧ (∀ n, serves n hd = false)
      ∧ (c.active = true ↔ c.id ∉ l.withdrawn)
  single : ∀ name name' c c' s s', handles.get? name = some c → handles.get? name' = some c' →
    c.place = .router s → c'.place = .router s' → c.id = c'.id → name = name'

namespace HandleInv

variable {handles : Table Subscription}

theorem empty : HandleInv [] .empty where
  entered := by simp [Table.get?]
  single := by simp [Table.get?]

/-- More are registered. -/
theorem register (hh : HandleInv handles l) (s : Scope) (h : Handler) :
    HandleInv handles (l.register s h) where
  entered := by
    intro name c s' hget hplace
    obtain ⟨hd, hmem, hserves, hactive⟩ := hh.entered name c s' hget hplace
    refine ⟨hd, ?_, hserves, hactive⟩
    rw [Log.entries_register]
    exact List.mem_append_left _ hmem
  single := hh.single

/-- Someone else is withdrawn. -/
theorem withdrawOther (hh : HandleInv handles l) (he : (s, e) ∈ l.entries) {n : Nat}
    (hn : serves n e.handler = true) : HandleInv handles (l.withdraw e.id) where
  entered := by
    intro name c s' hget hplace
    obtain ⟨hd, hmem, hserves, hactive⟩ := hh.entered name c s' hget hplace
    have hne : c.id ≠ e.id := by
      intro hid
      obtain ⟨-, rfl⟩ := Log.unique hmem he hid
      rw [hserves n] at hn
      exact Bool.false_ne_true hn
    refine ⟨hd, hmem, hserves, ?_⟩
    simp only [Log.withdraw, List.mem_cons, hne, false_or]
    exact hactive
  single := hh.single

/-- A name gets a handle of another kind. -/
theorem insertBoard (hh : HandleInv handles l) (name : String) {c : Subscription}
    (hc : c.place = .board) : HandleInv (handles.insert name c) l := by
  have old : ∀ name' c' s, (handles.insert name c).get? name' = some c' →
      c'.place = .router s → handles.get? name' = some c' := by
    intro name' c' s hget hplace
    rcases get?_insert_cases hget with ⟨-, rfl⟩ | ⟨-, hold⟩
    · rw [hc] at hplace
      exact absurd hplace (by simp)
    · exact hold
  refine ⟨?_, ?_⟩
  · intro name' c' s hget hplace
    exact hh.entered name' c' s (old name' c' s hget hplace) hplace
  · intro a b ca cb sa sb ha hb hpa hpb hid
    exact hh.single a b ca cb sa sb (old a ca sa ha hpa) (old b cb sb hb hpb) hpa hpb hid

theorem erase (hh : HandleInv handles l) (name : String) : HandleInv (handles.erase name) l := by
  refine ⟨?_, ?_⟩
  · intro name' c s hget hplace
    exact hh.entered name' c s (get?_of_erase hget) hplace
  · intro a b ca cb sa sb ha hb hpa hpb hid
    exact hh.single a b ca cb sa sb (get?_of_erase ha) (get?_of_erase hb) hpa hpb hid

/-- A name gets the handle of a new registration. -/
theorem insert (hh : HandleInv handles l) (hpast : ∀ i ∈ l.withdrawn, i ≤ l.made.length)
    (name : String) (s : Scope) (h : Handler) (hserves : ∀ n, serves n h = false) :
    HandleInv (handles.insert name ⟨l.made.length + 1, .router s, true⟩) (l.register s h) := by
  -- a handle that was there before has a smaller number
  have hsmall : ∀ name' c s', handles.get? name' = some c → c.place = .router s' →
      c.id ≤ l.made.length := by
    intro name' c s' hget hplace
    obtain ⟨hd, hmem, -, -⟩ := hh.entered name' c s' hget hplace
    exact Log.id_le hmem
  refine ⟨?_, ?_⟩
  · intro name' c s' hget hplace
    rcases get?_insert_cases hget with ⟨-, rfl⟩ | ⟨-, hold⟩
    · obtain rfl : s = s' := Place.router.inj hplace
      refine ⟨h, ?_, hserves, ?_⟩
      · rw [Log.entries_register]
        exact List.mem_append_right _ List.mem_cons_self
      · have hnew : l.made.length + 1 ∉ l.withdrawn := by
          intro hmem
          have hle := hpast _ hmem
          omega
        simp [Log.register, hnew]
    · exact (hh.register s h).entered name' c s' hold hplace
  · intro a b ca cb sa sb ha hb hpa hpb hid
    rcases get?_insert_cases ha with ⟨rfl, rfl⟩ | ⟨-, holda⟩
    · rcases get?_insert_cases hb with ⟨rfl, rfl⟩ | ⟨-, holdb⟩
      · rfl
      · have hle := hsmall b cb sb holdb hpb
        dsimp only at hid
        omega
    · rcases get?_insert_cases hb with ⟨rfl, rfl⟩ | ⟨-, holdb⟩
      · have hle := hsmall a ca sa holda hpa
        dsimp only at hid
        omega
      · exact hh.single a b ca cb sa sb holda holdb hpa hpb hid

/-- The handle of a name is withdrawn. -/
theorem withdraw (hh : HandleInv handles l) {name : String} {c : Subscription}
    (hget : handles.get? name = some c) (hplace : c.place = .router s) :
    HandleInv (handles.insert name { c with active := false }) (l.withdraw c.id) := by
  refine ⟨?_, ?_⟩
  · intro name' c' s' hget' hplace'
    rcases get?_insert_cases hget' with ⟨-, rfl⟩ | ⟨hne, hold⟩
    · obtain ⟨hd, hmem, hserves, -⟩ := hh.entered name c s' hget hplace'
      exact ⟨hd, hmem, hserves, by simp [Log.withdraw]⟩
    · obtain ⟨hd, hmem, hserves, hactive⟩ := hh.entered name' c' s' hold hplace'
      -- numbers tell handles apart
      have hid : c'.id ≠ c.id := by
        intro hid
        exact hne (hh.single name' name c' c s' s hold hget hplace' hplace hid)
      refine ⟨hd, hmem, hserves, ?_⟩
      simp only [Log.withdraw, List.mem_cons, hid, false_or]
      exact hactive
  · intro a b ca cb sa sb ha hb hpa hpb hid
    have old : ∀ a ca, (handles.insert name { c with active := false }).get? a = some ca →
        ∃ c₀, handles.get? a = some c₀ ∧ c₀.id = ca.id ∧ c₀.place = ca.place := by
      intro a ca ha
      rcases get?_insert_cases ha with ⟨rfl, rfl⟩ | ⟨-, hold⟩
      · exact ⟨c, hget, rfl, rfl⟩
      · exact ⟨ca, hold, rfl, rfl⟩
    obtain ⟨ca₀, ha₀, hida, hplacea⟩ := old a ca ha
    obtain ⟨cb₀, hb₀, hidb, hplaceb⟩ := old b cb hb
    refine hh.single a b ca₀ cb₀ sa sb ha₀ hb₀ (hplacea.trans hpa) (hplaceb.trans hpb) ?_
    rw [hida, hidb, hid]

theorem again {id : Nat} (hh : HandleInv handles l) (hid : id ∈ l.withdrawn) :
    HandleInv handles (l.withdraw id) where
  entered := by
    intro name c s hget hplace
    obtain ⟨hd, hmem, hserves, hactive⟩ := hh.entered name c s hget hplace
    refine ⟨hd, hmem, hserves, hactive.trans (not_congr ?_)⟩
    rw [Log.withdraw, List.mem_cons]
    constructor
    · exact .inr
    · rintro (hsame | hmem)
      · rw [hsame]
        exact hid
      · exact hmem
  single := hh.single

end HandleInv

/-! ## Everything that is known of registrations -/

/-- The registrations are those of a log: the registry's, those that the application holds, and
those of each view. -/
structure Kept (o : RegistrationState) (l : Log) : Prop where
  listsInv : ListsInv o.router l
  handleInv : HandleInv o.handles l
  viewScopesInv : ∀ n, l.viewScopes n = (o.viewHandlers[n]?.getD []).map fun p => (.topic p.1, p.2)

variable {o : RegistrationState} {w w' : World}

theorem kept_initial (parts : Parts) (setup : Setup) (hasRuntime : Bool) (stamps : Nat → Stamp) :
    Kept (registrations (World.initial parts setup hasRuntime stamps)) .empty where
  listsInv := .empty
  handleInv := .empty
  viewScopesInv := by intro n; rfl

/-- The application registers a handler of its own, which no view has to do with. -/
theorem Kept.subscribe (hk : Kept (registrations w) l) (name : String) (s : Scope)
    (hserves : ∀ n, serves n h = false) :
    Kept (registrations (w.subscribe name s h).1) (l.register s h) where
  listsInv := hk.listsInv.register s h
  handleInv := by
    show HandleInv (w.subscriptions.insert name ⟨w.router.nextId, .router s, true⟩) _
    have hnext : w.router.nextId = l.made.length + 1 := hk.listsInv.next
    rw [hnext]
    exact hk.handleInv.insert hk.listsInv.past name s h hserves
  viewScopesInv := by
    intro n
    rw [Log.viewScopes_register, hserves n]
    exact (List.append_nil _).trans (hk.viewScopesInv n)

/-- A handle that is active is withdrawn; one that is not has been, and the log has it twice. -/
theorem Kept.unsubscribe (hk : Kept (registrations w) l) {name : String} {c : Subscription}
    (hget : w.subscriptions.get? name = some c) :
    Kept (registrations (w.unsubscribe name c)) (l.ask w (.unsubscribe name)) := by
  obtain ⟨id, place, active⟩ := c
  have hask : l.ask w (.unsubscribe name) = match place with
      | .router _ => l.withdraw id
      | .board => l := by
    simp only [Log.ask, hget]
    cases place <;> rfl
  rw [hask]
  cases place with
  | board =>
      -- a listener's handle is none of the router's business
      cases active with
      | false => exact hk
      | true => exact ⟨hk.listsInv, hk.handleInv.insertBoard name rfl, hk.viewScopesInv⟩
  | router s =>
      obtain ⟨hd, hmem, -, hactive⟩ := hk.handleInv.entered name _ s hget rfl
      cases active with
      | true =>
          exact ⟨hk.listsInv.withdraw hmem, hk.handleInv.withdraw hget rfl, hk.viewScopesInv⟩
      | false =>
          have hid : id ∈ l.withdrawn := by
            by_contra hnot
            exact Bool.false_ne_true (hactive.mpr hnot)
          exact ⟨hk.listsInv.again hid, hk.handleInv.again hid, hk.viewScopesInv⟩

/-! ### Views -/

theorem addHandlers_registrations (w : World) (h : Handler) (topics : List String) :
    (w.addHandlers h topics).1.subscriptions = w.subscriptions
      ∧ (w.addHandlers h topics).1.adapters = w.adapters := by
  induction topics generalizing w with
  | nil => exact ⟨rfl, rfl⟩
  | cons topic rest ih => exact ih (w.addHandler (.topic topic) h).1

/-- A view is registered for one topic after another, and gets the numbers. -/
theorem addView_kept {handles : Table Subscription} (n : Nat) (topics : List String)
    (hr : ListsInv w.router l) (hh : HandleInv handles l) :
    ListsInv (w.addHandlers (.view n) topics).1.router (l.addView n topics)
      ∧ HandleInv handles (l.addView n topics)
      ∧ ∀ m, (l.addView n topics).viewScopes m = l.viewScopes m ++
          if m = n then (w.addHandlers (.view n) topics).2.map fun p => (.topic p.1, p.2)
          else [] := by
  induction topics generalizing w l with
  | nil =>
      refine ⟨hr, hh, fun m => ?_⟩
      simp [Log.addView, World.addHandlers]
  | cons topic rest ih =>
      have hr' : ListsInv (w.addHandler (.topic topic) (.view n)).1.router
          (l.register (.topic topic) (.view n)) := hr.register (.topic topic) (.view n)
      obtain ⟨hlistsInv, hhandleInv, hviewScopes⟩ := ih hr' (hh.register _ _)
      refine ⟨hlistsInv, hhandleInv, fun m => ?_⟩
      show ((l.register (.topic topic) (.view n)).addView n rest).viewScopes m = _
      rw [hviewScopes m, Log.viewScopes_register, List.append_assoc]
      congr 1
      by_cases hm : m = n
      · subst hm
        -- the number that the registry gives out is the place in the log
        have hnext : l.made.length + 1 = w.router.nextId := hr.next.symm
        rw [hnext]
        simp [serves, World.addHandlers, World.addHandler]
      · simp [serves, hm, Ne.symm hm]

/-- Of a view that starts only the handlers count here. -/
theorem startView_registrations (w : World) (v : View) :
    registrations (w.startView v).1 =
      ⟨(w.addHandlers (.view w.adapters.length) v.topics).1.router, w.subscriptions,
        w.adapters.map (·.handlers) ++ [(w.addHandlers (.view w.adapters.length) v.topics).2]⟩ := by
  have hsame := addHandlers_registrations w (.view w.adapters.length) v.topics
  unfold World.startView
  dsimp only
  generalize w.addHandlers (.view w.adapters.length) v.topics = p at hsame
  have hadded : registrations { p.1 with adapters := p.1.adapters ++ [⟨v, p.2, 0, true⟩] }
      = ⟨p.1.router, w.subscriptions, w.adapters.map (·.handlers) ++ [p.2]⟩ := by
    simp [registrations, hsame]
  -- neither the announcement nor the listener has to do with the router
  refine (modify_registrations _ _ ?_).trans ?_
  · exact fun a => rfl
  · show registrations (World.addListener _ _).1 = _
    have hlisten : ∀ (u : World) (l : Listener),
        registrations (u.addListener l).1 = registrations u :=
      fun u l => rfl
    rw [hlisten]
    split
    · exact (announce_neutral _ _).registrations.trans hadded
    · exact hadded

theorem Kept.startView (hk : Kept (registrations w) l) (v : View) :
    Kept (registrations (w.startView v).1) (l.addView w.adapters.length v.topics) := by
  obtain ⟨hlistsInv, hhandleInv, hviewScopes⟩ :=
    addView_kept w.adapters.length v.topics hk.listsInv hk.handleInv
  rw [startView_registrations]
  refine ⟨hlistsInv, hhandleInv, fun m => ?_⟩
  rw [hviewScopes m, hk.viewScopesInv m]
  have hlength : (w.adapters.map (·.handlers)).length = w.adapters.length := List.length_map ..
  show (((w.adapters.map (·.handlers))[m]?).getD []).map _ ++ _ = _
  -- views that are there already have other numbers, and those to come have no handlers yet
  rcases Nat.lt_trichotomy m w.adapters.length with hm | hm | hm
  · rw [if_neg (Nat.ne_of_lt hm), List.append_nil, List.getElem?_append_left (by omega)]
  · subst hm
    rw [if_pos rfl, List.getElem?_eq_none (by omega),
      List.getElem?_append_right (by omega), hlength]
    simp
  · rw [if_neg (Nat.ne_of_gt hm), List.getElem?_eq_none (by omega),
      List.getElem?_eq_none (by simp; omega)]
    rfl

theorem withdrawAll_registrations (w : World) (handlers : List (String × Nat)) :
    registrations (handlers.foldl (fun w h => w.withdraw (.router (.topic h.1)) h.2) w) =
      ⟨handlers.foldl (fun r h => r.withdraw (.topic h.1) h.2) w.router, w.subscriptions,
        w.adapters.map (·.handlers)⟩ := by
  induction handlers generalizing w with
  | nil => rfl
  | cons h rest ih => exact ih _

theorem endView_registrations {n : Nat} {a : Adapter} (ha : w.adapters[n]? = some a) :
    registrations (w.endView n) =
      ⟨a.handlers.foldl (fun r h => r.withdraw (.topic h.1) h.2) w.router, w.subscriptions,
        w.adapters.map (·.handlers)⟩ := by
  have hleft : registrations { w with adapters := w.adapters.modify n ({ · with live := false }) }
      = registrations w := modify_registrations w n fun _ => rfl
  have hboard : ∀ (u : World) (id : Nat), registrations (u.withdraw .board id) = registrations u :=
    fun u id => rfl
  unfold World.endView
  rw [ha]
  dsimp only
  rw [(sendAll_neutral _ _).registrations, hboard, withdrawAll_registrations]
  exact congrArg (RegistrationState.mk _ _) (congrArg RegistrationState.viewHandlers hleft)

/-- One registration of a view after another is withdrawn. -/
theorem dropAll_kept {handles : Table Subscription} {n : Nat} (ps : List (String × Nat))
    (hps : ∀ p ∈ ps, ((.topic p.1, p.2) : Scope × Nat) ∈ l.viewScopes n) (hr : ListsInv r l)
    (hh : HandleInv handles l) :
    ListsInv (ps.foldl (fun r p => r.withdraw (.topic p.1) p.2) r)
        (ps.foldl (fun l p => l.withdraw p.2) l)
      ∧ HandleInv handles (ps.foldl (fun l p => l.withdraw p.2) l)
      ∧ ∀ m, (ps.foldl (fun l p => l.withdraw p.2) l).viewScopes m = l.viewScopes m := by
  induction ps generalizing r l with
  | nil => exact ⟨hr, hh, fun m => rfl⟩
  | cons p rest ih =>
      obtain ⟨hd, hmem, hserves⟩ := Log.mem_viewScopes (hps p List.mem_cons_self)
      exact ih (fun q hq => hps q (List.mem_cons_of_mem _ hq)) (hr.withdraw hmem)
        (hh.withdrawOther hmem hserves)

/-- A view that ends withdraws what it was registered for, whatever others do. -/
theorem Kept.endView (hk : Kept (registrations w) l) (n : Nat) :
    Kept (registrations (w.endView n)) (l.dropView n) := by
  have hviewScopes := hk.viewScopesInv n
  -- a number that no view has ends nothing
  cases ha : w.adapters[n]? with
  | none =>
      have hviewHandlers : (registrations w).viewHandlers[n]? = none := by simp [registrations, ha]
      rw [hviewHandlers] at hviewScopes
      have hsame : w.endView n = w := by rw [World.endView, ha]
      rw [hsame, Log.dropView, hviewScopes]
      exact hk
  | some a =>
      have hviewHandlers : (registrations w).viewHandlers[n]? = some a.handlers := by
        simp [registrations, ha]
      rw [hviewHandlers, Option.getD_some] at hviewScopes
      rw [endView_registrations ha, Log.dropView, hviewScopes, List.foldl_map]
      obtain ⟨hlistsInv, hhandleInv, hsame⟩ := dropAll_kept (n := n) a.handlers
        (fun p hp => hviewScopes ▸ List.mem_map_of_mem hp) hk.listsInv hk.handleInv
      exact ⟨hlistsInv, hhandleInv, fun m => (hsame m).trans (hk.viewScopesInv m)⟩

theorem Kept.endFormer (hk : Kept (registrations w) l) (former : Option Nat) :
    Kept (registrations (w.endFormer former)) (l.dropFormer former) := by
  cases former with
  | none => exact hk
  | some n => exact hk.endView n

/-! ## Commands and actions -/

theorem Kept.of_registrations (hk : Kept (registrations w) l)
    (h : registrations w' = registrations w) : Kept (registrations w') l := by
  rw [h]
  exact hk

theorem Kept.answer (hk : Kept (registrations w) l) (reply : Reply) :
    Kept (registrations (w.answer reply)) l :=
  hk.of_registrations (answer_neutral w reply).registrations

theorem requiring_kept {f : World} {l' : Log} (hk : Kept (registrations w) l) (part : Bool)
    (h : Kept (registrations f) l') :
    Kept (registrations (w.requiring part f)) (if part = true then l' else l) := by
  unfold World.requiring
  split
  · exact h
  · exact hk.answer _

theorem startNamed_kept (hk : Kept (registrations w) l) (former : Option Nat) (v : View)
    {keep : World → Nat → World} (hkeep : ∀ u n, registrations (keep u n) = registrations u) :
    Kept (registrations (w.startNamed former v keep))
      ((l.addView w.adapters.length v.topics).dropFormer former) := by
  have hstarted := (hk.startView v).of_registrations (hkeep _ (w.startView v).2)
  exact (hstarted.endFormer former).answer _

theorem endNamed_kept (hk : Kept (registrations w) l) (names : Table Nat) (name : String)
    {drop : World → World} (hdrop : ∀ u, registrations (drop u) = registrations u) :
    Kept (registrations (w.endNamed names name drop)) (l.dropFormer (names.get? name)) := by
  unfold World.endNamed
  have hdropped : Kept (registrations (drop w)) l := hk.of_registrations (hdrop w)
  split
  · rename_i n hn
    rw [hn]
    exact (hdropped.endView n).answer _
  · rename_i hn
    rw [hn]
    exact hk.answer _

/-- **Every command does to the registry what it does to the log.** -/
theorem ask_kept (hw : Asking w) (hk : Kept (registrations w) l) (c : Command) :
    Kept (registrations (w.perform c)) (l.ask w c) := by
  cases c with
  | subscribe onClient name topic full script =>
      refine requiring_kept hk _ ?_
      cases topic with
      | none => exact (hk.subscribe name .all fun n => rfl).answer _
      | some t => exact (hk.subscribe name (.topic t) fun n => rfl).answer _
  | subscribeTyped name topic kind script =>
      exact requiring_kept hk _ ((hk.subscribe name (.topic topic) fun n => rfl).answer _)
  | listen name only script =>
      -- a listener has a handle as well, but the log knows nothing of it
      have hlistened : Kept (registrations (w.listen name (.app name only script)).1) l :=
        ⟨hk.listsInv, hk.handleInv.insertBoard name rfl, hk.viewScopesInv⟩
      have hkept := requiring_kept hk (w.parts.board || w.parts.client)
        (hlistened.answer (.count (w.listen name (.app name only script)).2))
      rw [ite_self] at hkept
      exact hkept
  | unsubscribe name =>
      simp only [World.perform, World.withSubscription]
      split
      · rename_i c hget
        exact (hk.unsubscribe hget).answer _
      · rename_i hget
        rw [Log.ask, hget]
        exact hk.answer _
  | forget name =>
      simp only [World.perform, World.withSubscription]
      split
      · have hforgotten : Kept
          (registrations { w with subscriptions := w.subscriptions.erase name }) l :=
          ⟨hk.listsInv, hk.handleInv.erase name, hk.viewScopesInv⟩
        exact hforgotten.answer _
      · exact hk.answer _
  | joinChat name eventId =>
      exact requiring_kept hk _ (startNamed_kept hk _ _ fun u n => rfl)
  | openFeed name => exact requiring_kept hk _ (startNamed_kept hk _ _ fun u n => rfl)
  | watch name streams => exact requiring_kept hk _ (startNamed_kept hk _ _ fun u n => rfl)
  | leaveChat name => exact endNamed_kept hk w.rooms name fun u => rfl
  | closeFeed name => exact endNamed_kept hk w.feeds name fun u => rfl
  | closeMonitor name => exact endNamed_kept hk w.monitors name fun u => rfl
  | _ => exact hk.of_registrations (perform_registrations hw rfl)

/-- Nothing is noted down where no command is carried out. -/
theorem Log.note_quiet {a : Action} (hc : ∀ c, cause w a ≠ .asked c) : l.note w a = l := by
  unfold Log.note
  split
  · rename_i c hasked
    exact absurd hasked (hc c)
  · rfl

/-- **And so does every action.** -/
theorem act_kept {a : Action} (h : w.act a = some w') (hk : Kept (registrations w) l) :
    Kept (registrations w') (l.note w a) := by
  cases act_effect h with
  -- the reply and the code that runs do not matter to the log
  | @asked c stack reply hc hn hd hs hw hw' =>
      have hnote : l.note w a = l.ask { w with stack := stack, reply := reply } c := by
        rw [Log.note, hc]
        cases c <;> rfl
      rw [hnote, hw']
      exact ask_kept hw hk c
  | called ha hs hb =>
      subst ha
      rw [Log.note_quiet (by simp [cause, hs])]
      exact hk.of_registrations hb.registrations
  | received hc hs hn ho hs' =>
      rw [Log.note_quiet hc]
      exact hk.of_registrations ho
  | other hc hn hs hb =>
      rw [Log.note_quiet hc]
      exact hk.of_registrations hb.registrations

/-- **So every run keeps the registry as the log has it.** -/
theorem along_kept {as : List Action} (h : w.actAll as = some w') (hk : Kept (registrations w) l) :
    Kept (registrations w') (l.along w as) := by
  induction as generalizing w l with
  | nil =>
      obtain rfl := Option.some.inj h
      exact hk
  | cons a rest ih =>
      obtain ⟨v, hv, hrest⟩ := Option.bind_eq_some_iff.mp h
      rw [Log.along, hv]
      exact ih hrest (act_kept hv hk)

/-! ## The registry refines the log -/

/-- The registry in a world tells what is in a log, and every command that asks it or changes it
does so as the log has it. -/
structure Refines (w : World) (l : Log) : Prop where
  /-- Numbers are handed out one after another, whatever they are for. -/
  next : w.router.nextId = l.made.length + 1
  stored : ∀ s, w.router.inScope s = l.remaining s
  /-- Who registers gets the next number. -/
  subscribed : ∀ onClient name topic full script,
    (if onClient then w.parts.client else w.parts.router) = true →
    w.perform (.subscribe onClient name topic full script) =
      (w.subscribe name (topic.elim .all .topic) (.app name full none script)).1.answer
        (.count (l.made.length + 1))
  subscribedTyped : ∀ name topic kind script, w.parts.router = true →
    w.perform (.subscribeTyped name topic kind script) =
      (w.subscribe name (.topic topic) (.app name false (some kind) script)).1.answer
        (.count (l.made.length + 1))
  /-- A handle stands for an entry, and is active as long as that is in its list. -/
  handles : ∀ name c s, w.subscriptions.get? name = some c → c.place = .router s →
    (∃ hd, (s, ⟨c.id, hd⟩) ∈ l.entries) ∧ (c.active = true ↔ c.id ∉ l.withdrawn)
      ∧ w.perform (.isActive name) = w.answer (.flag ((w.router.inScope s).any (·.id = c.id)))
  /-- To withdraw a handle takes its one entry out, and leaves every other list as it is. -/
  unsubscribed : ∀ name c s, w.subscriptions.get? name = some c → c.place = .router s →
    c.active = true → ∃ before e after, e.id = c.id
      ∧ w.router.inScope s = before ++ e :: after
      ∧ (w.perform (.unsubscribe name)).router.inScope s = before ++ after
      ∧ ∀ s', s' ≠ s → (w.perform (.unsubscribe name)).router.inScope s' = w.router.inScope s'
  /-- To withdraw it again changes nothing. -/
  again : ∀ name c, w.subscriptions.get? name = some c → c.active = false →
    (w.perform (.unsubscribe name)).router = w.router
  countTopic : ∀ t, w.parts.router = true →
    w.perform (.countTopic t) = w.answer (.count (l.remaining (.topic t)).length)
  countCatchAll : w.parts.router = true →
    w.perform .countCatchAll = w.answer (.count (l.remaining .all).length)
  /-- The topics are those that someone is registered for, in order, each of them once. -/
  topics : ∃ names : List String, names.Pairwise (· < ·)
    ∧ (∀ t, t ∈ names ↔ l.remaining (.topic t) ≠ [])
    ∧ (w.parts.router = true →
      w.perform .listTopics = w.answer (.value (.array (names.map .string))))

theorem Kept.active (hk : Kept (registrations w) l) {name : String} {c : Subscription} {s : Scope}
    (hget : w.subscriptions.get? name = some c) (hplace : c.place = .router s) :
    c.active = (w.router.inScope s).any (·.id = c.id) := by
  obtain ⟨hd, hmem, -, hactive⟩ := hk.handleInv.entered name c s hget hplace
  have hstored : w.router.inScope s = l.remaining s := hk.listsInv.stored s
  rw [Bool.eq_iff_iff, hactive, hstored, List.any_eq_true]
  constructor
  · intro hid
    exact ⟨⟨c.id, hd⟩, Log.mem_remaining.mpr ⟨hmem, hid⟩, by simp⟩
  · rintro ⟨e, he, hid⟩
    have hid : e.id = c.id := by simpa using hid
    rw [← hid]
    exact (Log.mem_remaining.mp he).2

theorem Kept.unsubscribed (hk : Kept (registrations w) l) {name : String} {c : Subscription}
    {s : Scope}
    (hget : w.subscriptions.get? name = some c) (hplace : c.place = .router s)
    (hactive : c.active = true) : ∃ before e after, e.id = c.id
      ∧ w.router.inScope s = before ++ e :: after
      ∧ (w.perform (.unsubscribe name)).router.inScope s = before ++ after
      ∧ ∀ s', s' ≠ s → (w.perform (.unsubscribe name)).router.inScope s' = w.router.inScope s' := by
  have hrouter : (w.perform (.unsubscribe name)).router = w.router.withdraw s c.id := by
    simp only [World.perform, World.withSubscription, hget]
    rw [show (World.answer _ _).router = _ from
      congrArg RegistrationState.router (answer_neutral _ _).registrations]
    simp [World.unsubscribe, hactive, hplace, World.withdraw, World.happen, registrations]
  obtain ⟨hd, hmem, -, hstands⟩ := hk.handleInv.entered name c s hget hplace
  have he : (⟨c.id, hd⟩ : Entry Handler) ∈ w.router.inScope s := by
    rw [show w.router.inScope s = l.remaining s from hk.listsInv.stored s]
    exact Log.mem_remaining.mpr ⟨hmem, hstands.mp hactive⟩
  -- the handle is active, so its entry is in the list
  obtain ⟨before, after, hsplit⟩ := List.append_of_mem he
  refine ⟨before, ⟨c.id, hd⟩, after, rfl, hsplit, ?_, ?_⟩
  · have hdistinct := l.remaining_distinct s
    rw [← show w.router.inScope s = l.remaining s from hk.listsInv.stored s, hsplit] at hdistinct
    rw [hrouter, Registry.inScope_withdraw, hsplit]
    exact Log.without_middle hdistinct
  · intro s' hs
    rw [hrouter, Registry.inScope_withdraw_ne _ (Ne.symm hs)]

/-- **The registry refines the log of what was asked of it**, in every run, whoever asked. -/
theorem registry_refines_log {parts : Parts} {setup : Setup} {hasRuntime : Bool}
    {stamps : Nat → Stamp} {as : List Action} {w : World}
    (h : (World.initial parts setup hasRuntime stamps).actAll as = some w) :
    Refines w (Log.empty.along (World.initial parts setup hasRuntime stamps) as) := by
  have hk := along_kept h (kept_initial parts setup hasRuntime stamps)
  -- from here on the log is any that the registry has been kept in line with
  generalize Log.empty.along (World.initial parts setup hasRuntime stamps) as = l at hk
  have hnext : w.router.nextId = l.made.length + 1 := hk.listsInv.next
  have hstored : ∀ s, w.router.inScope s = l.remaining s := hk.listsInv.stored
  have hrequired : ∀ {part : Bool} (f : World), part = true → w.requiring part f = f :=
    fun f hp => if_pos hp
  exact
    { next := hnext
      stored := hstored
      subscribed := by
        intro onClient name topic full script hpart
        simp only [World.perform]
        rw [hrequired _ hpart, ← hnext]
        cases topic <;> rfl
      subscribedTyped := by
        intro name topic kind script hpart
        simp only [World.perform]
        rw [hrequired _ hpart, ← hnext]
        rfl
      handles := by
        intro name c s hget hplace
        obtain ⟨hd, hmem, -, hactive⟩ := hk.handleInv.entered name c s hget hplace
        refine ⟨⟨hd, hmem⟩, hactive, ?_⟩
        simp only [World.perform, World.withSubscription, hget]
        rw [hk.active hget hplace]
      unsubscribed := fun name c s hget hplace => hk.unsubscribed hget hplace
      again := by
        intro name c hget hactive
        simp only [World.perform, World.withSubscription, hget, World.unsubscribe, hactive]
        exact congrArg RegistrationState.router (answer_neutral w _).registrations
      countTopic := by
        intro t hpart
        simp only [World.perform]
        rw [hrequired _ hpart, ← hstored]
        rfl
      countCatchAll := by
        intro hpart
        simp only [World.perform]
        rw [hrequired _ hpart, ← hstored]
        rfl
      topics := ⟨w.router.topicNames, hk.listsInv.ordered, hk.listsInv.topics, fun hpart =>
        hrequired _ hpart⟩ }

/-- The first of two handlers for a topic withdraws the second, twice over, and registers one for
another topic. A chat comes and goes, and the topics are asked for in the end. -/
def turnoverRun : List Action :=
  [.command (.subscribe false "first" (some "b") false fun _ =>
      [.unsubscribe "second", .unsubscribe "second", .forget "first",
        .subscribe false "late" (some "a") false fun _ => []]),
    .command (.subscribeTyped "second" "b" .chatMessage fun _ => []),
    .command (.subscribe true "all" none false fun _ => []),
    .command (.joinChat "room" "e1"),
    .command (.dispatch "b" .null)] ++ List.replicate 10 .go
    ++ [.command (.leaveChat "room"), .command .listTopics]

/-- The second handler is gone, the forgotten one is not, and no number of the chat is used
again. -/
theorem registry_refines_log_turnover :
    ∃ w, (World.initial ⟨true, false, true⟩ .standard true fun _ => ⟨"m1", .epoch⟩).actAll
        turnoverRun = some w
      ∧ w.stack = []
      ∧ w.router.nextId = 8
      ∧ (w.router.inScope (.topic "a")).map Entry.id = [7]
      ∧ (w.router.inScope (.topic "b")).map Entry.id = [1]
      ∧ (w.router.inScope .all).map Entry.id = [3]
      ∧ w.router.topicNames = ["a", "b"]
      ∧ w.reply = some (.value (.array [.string "a", .string "b"]))
      ∧ Refines w (Log.empty.along
        (World.initial ⟨true, false, true⟩ .standard true fun _ => ⟨"m1", .epoch⟩)
          turnoverRun) := by
  obtain ⟨w, h, hq, hnext, ha, hb, hall, hnames, hreply⟩ :
      ∃ w, (World.initial ⟨true, false, true⟩ .standard true fun _ => ⟨"m1", .epoch⟩).actAll
          turnoverRun = some w
        ∧ w.stack = []
        ∧ w.router.nextId = 8
        ∧ (w.router.inScope (.topic "a")).map Entry.id = [7]
        ∧ (w.router.inScope (.topic "b")).map Entry.id = [1]
        ∧ (w.router.inScope .all).map Entry.id = [3]
        ∧ w.router.topicNames = ["a", "b"]
        ∧ w.reply = some (.value (.array [.string "a", .string "b"])) :=
    ⟨_, rfl, rfl, rfl, rfl, rfl, rfl, rfl, rfl⟩
  exact ⟨w, h, hq, hnext, ha, hb, hall, hnames, hreply, registry_refines_log h⟩

end LiveLink.Proofs
