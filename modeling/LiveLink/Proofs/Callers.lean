import LiveLink.Proofs.SmallSteps
import LiveLink.Proofs.Histories

/-!
# The board and its callers

A status board is shared. Whoever announces a change puts it on the queue under a
lock; if no one delivers, he goes on to deliver, one change after another, and
takes the lock again for each change that he takes off the queue. Listeners are
called without the lock, so anyone, a listener too, may meanwhile register,
withdraw or announce.

A `Notifier` holds a board and everyone who delivers from it. A **move** is one
section under the lock, one call of a listener, or the end of such a call; moves
of different callers come in any order. `notification_discipline` is the result:
whatever the order, the calls of listeners form one block for each change that is
taken off the queue, in the order of the changes' numbers, and the last change
always gets through.
-/

namespace LiveLink.Proofs

open LiveLink

/-! ## Histories of a board -/

/-- A change that is put on the queue. -/
@[simp] def posted? : Event → Option Change
  | .posted c => some c
  | _ => none

/-- A change that is taken off the queue, and the listeners it is for. -/
@[simp] def taken? : Event → Option (Change × List Nat)
  | .announced c ids => some (c, ids)
  | _ => none

/-- A change that is dropped. -/
@[simp] def skipped? : Event → Option Change
  | .skipped c => some c
  | _ => none

/-- A call of a listener. -/
@[simp] def heard? : Event → Option (Change × Nat)
  | .heard c id => some (c, id)
  | _ => none

/-- The number of the change that a history has taken last. -/
@[simp] def reached : List Event → Nat
  | [] => 0
  | .announced c _ :: _ => c.number
  | _ :: earlier => reached earlier

/-- Every change in a history is taken for those who listen then, each of them once, after all lower
numbers, and is dropped only once its number is reached. -/
@[simp] def Sound : List Event → Prop
  | [] => True
  | .announced c ids :: earlier =>
    (reached earlier < c.number ∧ ids = standing .board earlier ∧ ids.Pairwise (· < ·))
      ∧ Sound earlier
  | .skipped c :: earlier => c.number ≤ reached earlier ∧ Sound earlier
  | _ :: earlier => Sound earlier

/-- The calls that a change which was taken asks for. -/
def block (taken : Change × List Nat) : List (Change × Nat) := taken.2.map (taken.1, ·)

/-- Whether an event has to do with a board. -/
def ofBoard : Event → Bool
  | .subscribed .board _ | .unsubscribed .board _ => true
  | .posted _ | .announced .. | .skipped _ | .heard .. => true
  | _ => false

/-! ## The notifier -/

/-- Someone who delivers: the change he is at, and whom he has yet to call with it. -/
structure Drainer (α : Type) where
  change : Change
  rest : List (Entry α)
  /-- Whether a listener that he has called is still at it. -/
  calling : Bool

/-- The calls that a drainer has still to make for its change. -/
def Drainer.left {α : Type} (r : Drainer α) : List (Change × Nat) := r.rest.map (r.change, ·.id)

/-- A board, those who deliver from it, and what has happened. -/
structure Notifier (α : Type) where
  board : Board α
  drainers : List (Drainer α)
  history : List Event

/-- What anyone may do next. Those who deliver go by their place in the list. -/
inductive Move (α : Type) where
  | register (listener : α)
  | withdraw (id : Nat)
  | notify (c : Change)
  /-- Goes on with a delivery: calls the next listener or takes the next change. -/
  | proceed (drainer : Nat)
  /-- The listener that was called comes to its end, by itself or by a panic. -/
  | back (drainer : Nat)
  /-- Something happens that has nothing to do with the board. -/
  | other (e : Event)

namespace Notifier

variable {α : Type}

/-- Nobody is there. -/
def start : Notifier α := ⟨.empty, [], []⟩

def register (h : Notifier α) (l : α) : Notifier α :=
  { h with
    board := h.board.register l
    history := .subscribed .board h.board.nextId :: h.history }

def withdraw (h : Notifier α) (id : Nat) : Notifier α :=
  { h with board := h.board.withdraw id, history := .unsubscribed .board id :: h.history }

/-- Puts a change on the queue; who finds no delivery under way begins one. -/
def notify (h : Notifier α) (c : Change) : Notifier α :=
  { board := h.board.post c
    drainers := (if h.board.draining then [] else [⟨c, [], false⟩]) ++ h.drainers
    history := .posted c :: h.history }

/-- Takes the next change off the queue. -/
def next (h : Notifier α) (i : Nat) : Notifier α :=
  match h.board.take with
  | (b, .idle) => { h with board := b, drainers := h.drainers.eraseIdx i }
  | (b, .stale old) => { h with board := b, history := .skipped old :: h.history }
  | (b, .deliver new listeners) =>
    { board := b
      drainers := h.drainers.set i ⟨new, listeners, false⟩
      history := .announced new (listeners.map Entry.id) :: h.history }

/-- The notifier after a move, if the move is possible. -/
def move (h : Notifier α) : Move α → Option (Notifier α)
  | .register l => some (h.register l)
  | .withdraw id => some (h.withdraw id)
  | .notify c => some (h.notify c)
  | .proceed i =>
    match h.drainers[i]? with
    | some ⟨c, l :: rest, false⟩ =>
      some { h with
        drainers := h.drainers.set i ⟨c, rest, true⟩
        history := .heard c l.id :: h.history }
    | some ⟨_, [], false⟩ => some (h.next i)
    | _ => none
  | .back i =>
    match h.drainers[i]? with
    | some ⟨c, rest, true⟩ => some { h with drainers := h.drainers.set i ⟨c, rest, false⟩ }
    | _ => none
  | .other e => if ofBoard e then none else some { h with history := e :: h.history }

/-- The notifier after moves, if all of them are possible. -/
def moveAll (h : Notifier α) : List (Move α) → Option (Notifier α)
  | [] => some h
  | m :: rest => (h.move m).bind fun h => h.moveAll rest

end Notifier

/-! ## What every move keeps -/

/-- A notifier in which everything went by the rules so far. -/
structure Orderly {α : Type} (h : Notifier α) : Prop where
  sound : Sound h.history
  delivered : h.board.delivered = reached h.history
  listeners : h.board.listeners.map Entry.id = standing .board h.history
  /-- Numbers of listeners are given out in order. -/
  fresh : ∀ id ∈ standing .board h.history, id < h.board.nextId
  sorted : (standing .board h.history).Pairwise (· < ·)
  /-- Someone delivers exactly if the board says so, and he does so alone. -/
  alone : (h.board.draining = true ∧ ∃ r, h.drainers = [r])
    ∨ (h.board.draining = false ∧ h.drainers = [] ∧ h.board.pending = [])
  /-- Every call was asked for by the change it is for, and the last change gets its calls yet. -/
  heard : inOrder heard? h.history ++ h.drainers.flatMap Drainer.left
    = (inOrder taken? h.history).flatMap block
  /-- No change is lost, and none comes from nowhere. -/
  accounted : (inOrder posted? h.history).Perm ((inOrder taken? h.history).map Prod.fst
    ++ inOrder skipped? h.history ++ h.board.pending)

variable {α : Type} {h h' : Notifier α}

theorem orderly_start : Orderly (Notifier.start : Notifier α) where
  sound := trivial
  delivered := rfl
  listeners := rfl
  fresh := by simp [Notifier.start]
  sorted := .nil
  alone := .inr ⟨rfl, rfl, rfl⟩
  heard := rfl
  accounted := .refl _

/-- An event that has nothing to do with a board is passed over. -/
theorem passes {e : Event} (he : ofBoard e = false) (history : List Event) :
    posted? e = none ∧ taken? e = none ∧ skipped? e = none ∧ heard? e = none
      ∧ standing .board (e :: history) = standing .board history
      ∧ reached (e :: history) = reached history
      ∧ (Sound history → Sound (e :: history)) := by
  cases e with
  | subscribed place id => cases place <;> simp_all [ofBoard]
  | unsubscribed place id => cases place <;> simp_all [ofBoard]
  | _ => simp_all [ofBoard]

namespace Orderly

theorem register (ho : Orderly h) (l : α) : Orderly (h.register l) where
  sound := ho.sound
  delivered := ho.delivered
  listeners := by
    simp only [Notifier.register, Board.register, List.map_append, ho.listeners]
    rfl
  fresh := by
    intro id hid
    rcases List.mem_append.mp hid with hid | hid
    · exact Nat.lt_succ_of_lt (ho.fresh id hid)
    · obtain rfl := List.mem_singleton.mp hid
      exact Nat.lt_succ_self _
  sorted := by
    refine List.pairwise_append.mpr ⟨ho.sorted, List.pairwise_singleton _ _, ?_⟩
    intro a ha b hb
    obtain rfl := List.mem_singleton.mp hb
    exact ho.fresh a ha
  alone := ho.alone
  heard := by
    rw [Notifier.register, inOrder_of_none rfl, inOrder_of_none rfl]
    exact ho.heard
  accounted := by
    rw [Notifier.register, inOrder_of_none rfl, inOrder_of_none rfl, inOrder_of_none rfl]
    exact ho.accounted

theorem withdraw (ho : Orderly h) (id : Nat) : Orderly (h.withdraw id) where
  sound := ho.sound
  delivered := ho.delivered
  listeners := by
    change (Registry.without id h.board.listeners).map Entry.id = _
    simp only [Notifier.withdraw, standing_unsubscribed, ← ho.listeners, List.filter_map]
    rfl
  fresh := by
    intro i hi
    exact ho.fresh i (List.mem_of_mem_filter hi)
  sorted := ho.sorted.filter _
  alone := ho.alone
  heard := by
    rw [Notifier.withdraw, inOrder_of_none rfl, inOrder_of_none rfl]
    exact ho.heard
  accounted := by
    rw [Notifier.withdraw, inOrder_of_none rfl, inOrder_of_none rfl, inOrder_of_none rfl]
    exact ho.accounted

theorem notify (ho : Orderly h) (c : Change) : Orderly (h.notify c) where
  sound := ho.sound
  delivered := ho.delivered
  listeners := ho.listeners
  fresh := ho.fresh
  sorted := ho.sorted
  alone := by
    rcases ho.alone with ⟨hd, r, hr⟩ | ⟨hd, hr, -⟩
    · exact .inl ⟨rfl, r, by simp [Notifier.notify, hd, hr]⟩
    · exact .inl ⟨rfl, ⟨c, [], false⟩, by simp [Notifier.notify, hd, hr]⟩
  heard := by
    -- a drainer that begins has nobody to call yet
    have hleft : (h.notify c).drainers.flatMap Drainer.left = h.drainers.flatMap Drainer.left := by
      unfold Notifier.notify
      cases h.board.draining <;> simp [Drainer.left]
    rw [hleft]
    simp only [Notifier.notify, inOrder_cons, heard?, taken?, Option.toList_none, List.append_nil]
    exact ho.heard
  accounted := by
    simp only [Notifier.notify, inOrder_cons, posted?, taken?, skipped?, Option.toList_none,
      Option.toList_some, List.append_nil, Board.post]
    rw [← List.append_assoc]
    exact ho.accounted.append_right [c]

/-- Whoever delivers is the only one. -/
theorem only (ho : Orderly h) {i : Nat} {r : Drainer α} (hi : h.drainers[i]? = some r) :
    i = 0 ∧ h.drainers = [r] ∧ h.board.draining = true := by
  rcases ho.alone with ⟨hd, r', hr⟩ | ⟨-, hr, -⟩
  · rw [hr] at hi ⊢
    cases i with
    | zero => exact ⟨rfl, by simpa using hi, hd⟩
    | succ i => simp at hi
  · simp [hr] at hi

/-- The one who delivers calls a listener. -/
theorem call (ho : Orderly h) {i : Nat} {c : Change} {l : Entry α} {rest : List (Entry α)}
    (hi : h.drainers[i]? = some ⟨c, l :: rest, false⟩) :
    Orderly { h with
      drainers := h.drainers.set i ⟨c, rest, true⟩
      history := .heard c l.id :: h.history } := by
  obtain ⟨rfl, hr, hd⟩ := ho.only hi
  have hheard := ho.heard
  rw [hr] at hheard
  simp only [hr, List.set_cons_zero]
  exact
    { sound := ho.sound
      delivered := ho.delivered
      listeners := ho.listeners
      fresh := ho.fresh
      sorted := ho.sorted
      alone := .inl ⟨hd, _, rfl⟩
      heard := by simpa [Drainer.left] using hheard
      accounted := by simpa using ho.accounted }

theorem back (ho : Orderly h) {i : Nat} {c : Change} {rest : List (Entry α)}
    (hi : h.drainers[i]? = some ⟨c, rest, true⟩) :
    Orderly { h with drainers := h.drainers.set i ⟨c, rest, false⟩ } := by
  obtain ⟨rfl, hr, hd⟩ := ho.only hi
  have hheard := ho.heard
  rw [hr] at hheard
  simp only [hr, List.set_cons_zero]
  exact { ho with alone := .inl ⟨hd, _, rfl⟩, heard := hheard }

/-- The one who delivers has called everyone and takes the lock again. -/
theorem next (ho : Orderly h) {i : Nat} {c : Change}
    (hi : h.drainers[i]? = some ⟨c, [], false⟩) : Orderly (h.next i) := by
  obtain ⟨rfl, hr, hd⟩ := ho.only hi
  -- everyone was called, so the calls so far make up whole blocks
  have hheard : inOrder heard? h.history = (inOrder taken? h.history).flatMap block := by
    have hheard := ho.heard
    rw [hr] at hheard
    simpa [Drainer.left] using hheard
  unfold Notifier.next
  rcases hp : h.board.pending with _ | ⟨new, rest⟩
  · rw [Board.take_of_nil hp]
    exact { ho with
      alone := .inr ⟨rfl, by simp [hr], hp⟩
      heard := by simpa [hr] using hheard }
  · have haccounted := ho.accounted
    rw [hp] at haccounted
    rcases Nat.lt_or_ge h.board.delivered new.number with hlt | hle
    · rw [Board.take_of_lt hp hlt]
      exact
        { sound := ⟨⟨ho.delivered ▸ hlt, ho.listeners, ho.listeners ▸ ho.sorted⟩, ho.sound⟩
          delivered := rfl
          listeners := ho.listeners
          fresh := ho.fresh
          sorted := ho.sorted
          alone := .inl ⟨hd, ⟨new, h.board.listeners, false⟩, by simp [hr]⟩
          heard := by simp [hr, hheard, Drainer.left, block]
          accounted := by
            simp only [inOrder_cons, posted?, taken?, skipped?, Option.toList_none,
              Option.toList_some, List.append_nil, List.map_append, List.map_cons, List.map_nil]
            refine haccounted.trans ?_
            simpa using List.perm_middle.append_left ((inOrder taken? h.history).map Prod.fst) }
    · rw [Board.take_of_le hp hle]
      exact
        { sound := ⟨ho.delivered ▸ hle, ho.sound⟩
          delivered := ho.delivered
          listeners := ho.listeners
          fresh := ho.fresh
          sorted := ho.sorted
          alone := .inl ⟨hd, _, hr⟩
          heard := by simpa [hr, Drainer.left] using hheard
          accounted := by simpa using haccounted }

theorem other (ho : Orderly h) {e : Event} (he : ofBoard e = false) :
    Orderly { h with history := e :: h.history } := by
  obtain ⟨hposted, htaken, hskipped, hheard, hstanding, hreached, hsound⟩ := passes he h.history
  exact
    { sound := hsound ho.sound
      delivered := ho.delivered.trans hreached.symm
      listeners := ho.listeners.trans hstanding.symm
      fresh := hstanding ▸ ho.fresh
      sorted := hstanding ▸ ho.sorted
      alone := ho.alone
      heard := by
        rw [inOrder_of_none hheard, inOrder_of_none htaken]
        exact ho.heard
      accounted := by
        rw [inOrder_of_none hposted, inOrder_of_none htaken, inOrder_of_none hskipped]
        exact ho.accounted }

/-- **Preserved by every move.** -/
theorem move (ho : Orderly h) {m : Move α} (hm : h.move m = some h') : Orderly h' := by
  cases m with
  | register l =>
      obtain rfl := Option.some.inj hm
      exact ho.register l
  | withdraw id =>
      obtain rfl := Option.some.inj hm
      exact ho.withdraw id
  | notify c =>
      obtain rfl := Option.some.inj hm
      exact ho.notify c
  | proceed i =>
      simp only [Notifier.move] at hm
      split at hm
      · rename_i c l rest hi
        obtain rfl := Option.some.inj hm
        exact ho.call hi
      · rename_i c hi
        obtain rfl := Option.some.inj hm
        exact ho.next hi
      · exact absurd hm (by simp)
  | back i =>
      simp only [Notifier.move] at hm
      split at hm
      · rename_i c rest hi
        obtain rfl := Option.some.inj hm
        exact ho.back hi
      · exact absurd hm (by simp)
  | other e =>
      simp only [Notifier.move] at hm
      split at hm
      · exact absurd hm (by simp)
      · rename_i he
        obtain rfl := Option.some.inj hm
        exact ho.other (by simpa using he)

/-- **Hence by every run.** -/
theorem moveAll (ho : Orderly h) {ms : List (Move α)} (hm : h.moveAll ms = some h') :
    Orderly h' := by
  induction ms generalizing h with
  | nil =>
      obtain rfl := Option.some.inj hm
      exact ho
  | cons m rest ih =>
      obtain ⟨h₁, hh₁, hrest⟩ := Option.bind_eq_some_iff.mp hm
      exact ih (ho.move hh₁) hrest

end Orderly

/-- A move adds to the history or leaves it. -/
theorem move_history {m : Move α} (hm : h.move m = some h') :
    ∃ new, h'.history = new ++ h.history := by
  cases m with
  | register l => exact ⟨[_], by rw [← Option.some.inj hm]; rfl⟩
  | withdraw id => exact ⟨[_], by rw [← Option.some.inj hm]; rfl⟩
  | notify c => exact ⟨[_], by rw [← Option.some.inj hm]; rfl⟩
  | proceed i =>
      simp only [Notifier.move] at hm
      split at hm
      · exact ⟨[_], by rw [← Option.some.inj hm]; rfl⟩
      · rw [← Option.some.inj hm]
        unfold Notifier.next
        split
        · exact ⟨[], rfl⟩
        · exact ⟨[_], rfl⟩
        · exact ⟨[_], rfl⟩
      · exact absurd hm (by simp)
  | back i =>
      simp only [Notifier.move] at hm
      split at hm
      · exact ⟨[], by rw [← Option.some.inj hm]; rfl⟩
      · exact absurd hm (by simp)
  | other e =>
      simp only [Notifier.move] at hm
      split at hm
      · exact absurd hm (by simp)
      · exact ⟨[e], by rw [← Option.some.inj hm]; rfl⟩

/-! ## What a sound history says -/

theorem Sound.of_cons {e : Event} {history : List Event} (hs : Sound (e :: history)) :
    Sound history := by
  cases e with
  | announced c ids => exact hs.2
  | skipped c => exact hs.2
  | _ => exact hs

theorem Sound.of_append {later earlier : List Event} (hs : Sound (later ++ earlier)) :
    Sound earlier := by
  induction later with
  | nil => exact hs
  | cons e rest ih => exact ih hs.of_cons

/-- The number that is reached is that of the change that was taken last. -/
theorem reached_eq (history : List Event) :
    reached history = ((inOrder taken? history).getLast?.map (·.1.number)).getD 0 := by
  induction history with
  | nil => rfl
  | cons e earlier ih =>
      cases e with
      | announced c ids => simp
      | _ => simpa using ih

/-- **Changes are taken in the order of their numbers.** -/
theorem Sound.increasing {history : List Event} (hs : Sound history) :
    ((inOrder taken? history).map (·.1.number)).Pairwise (· < ·)
      ∧ ∀ t ∈ inOrder taken? history, t.1.number ≤ reached history := by
  induction history with
  | nil => simp
  | cons e earlier ih =>
      have hbefore := ih hs.of_cons
      cases e with
      | announced c ids =>
          -- what is announced has a greater number than all that were taken before
          obtain ⟨⟨hlt, -, -⟩, -⟩ := hs
          obtain ⟨hsorted, hle⟩ := hbefore
          simp only [inOrder_cons, taken?, Option.toList_some, List.map_append, List.map_cons,
            List.map_nil, reached]
          constructor
          · refine List.pairwise_append.mpr ⟨hsorted, List.pairwise_singleton _ _, ?_⟩
            intro a ha b hb
            obtain ⟨t, ht, rfl⟩ := List.mem_map.mp ha
            obtain rfl := List.mem_singleton.mp hb
            exact Nat.lt_of_le_of_lt (hle t ht) hlt
          · intro t ht
            rcases List.mem_append.mp ht with ht | ht
            · exact Nat.le_of_lt (Nat.lt_of_le_of_lt (hle t ht) hlt)
            · obtain rfl := List.mem_singleton.mp ht
              exact Nat.le_refl _
      | _ => simpa using hbefore

/-- A number above zero that is reached is that of a change that was taken. -/
theorem exists_taken_of_reached {history : List Event} (h0 : 0 < reached history) :
    ∃ t, (inOrder taken? history).getLast? = some t ∧ t.1.number = reached history := by
  rw [reached_eq] at h0 ⊢
  cases ht : (inOrder taken? history).getLast? with
  | none => simp [ht] at h0
  | some t => exact ⟨t, rfl, rfl⟩

theorem exists_split_of_skipped {c : Change} {history : List Event}
    (hc : c ∈ inOrder skipped? history) :
    ∃ later earlier, history = later ++ .skipped c :: earlier := by
  obtain ⟨e, he, hf⟩ := mem_inOrder.mp hc
  obtain rfl : e = .skipped c := by
    cases e with
    | skipped c' => rw [Option.some.inj hf]
    | _ => exact absurd hf (by simp)
  exact List.append_of_mem he

/-! ## The discipline -/

/-- What a notifier has delivered so far, and to whom. -/
structure Discipline {α : Type} (h : Notifier α) : Prop where
  /-- At most one delivery is under way. -/
  alone : h.drainers.length ≤ 1
  /-- The calls of listeners are one block for each change that was taken, one after another; what
  the one who delivers has yet to call completes the last block. -/
  blocks : inOrder heard? h.history ++ h.drainers.flatMap Drainer.left
    = (inOrder taken? h.history).flatMap block
  increasing : ((inOrder taken? h.history).map (·.1.number)).Pairwise (· < ·)
  genuine : ∀ t ∈ inOrder taken? h.history, t.1 ∈ inOrder posted? h.history
  /-- A block is for those who listen when its change is taken, in the order in which they have
  registered, each of them once. -/
  audience : ∀ later c ids earlier, h.history = later ++ .announced c ids :: earlier →
    ids = standing .board earlier ∧ ids.Pairwise (· < ·)
  /-- A change waits, or gets its block, or is dropped when a greater one has been taken. -/
  complete : ∀ c ∈ inOrder posted? h.history,
    c ∈ h.board.pending ∨ c ∈ (inOrder taken? h.history).map Prod.fst
      ∨ ∃ later earlier, h.history = later ++ .skipped c :: earlier
        ∧ ∃ t ∈ inOrder taken? earlier, c.number < t.1.number
  /-- When nobody delivers, nothing waits, and the greatest change was delivered last. -/
  settled : h.drainers = [] → h.board.pending = [] ∧ h.board.draining = false
    ∧ (inOrder posted? h.history ≠ [] → ∃ t, (inOrder taken? h.history).getLast? = some t
      ∧ h.board.delivered = t.1.number
      ∧ ∀ c ∈ inOrder posted? h.history, c.number ≤ t.1.number)

/-- No number is given to two changes, and none is zero. -/
structure Numbered (history : List Event) : Prop where
  distinct : ((inOrder posted? history).map Change.number).Nodup
  positive : ∀ c ∈ inOrder posted? history, 0 < c.number

namespace Orderly

theorem taken_posted (ho : Orderly h) {t : Change × List Nat}
    (ht : t ∈ inOrder taken? h.history) : t.1 ∈ inOrder posted? h.history := by
  refine ho.accounted.mem_iff.mpr (List.mem_append_left _ (List.mem_append_left _ ?_))
  exact List.mem_map_of_mem ht

theorem skipped_posted (ho : Orderly h) {c : Change} (hc : c ∈ inOrder skipped? h.history) :
    c ∈ inOrder posted? h.history :=
  ho.accounted.mem_iff.mpr (List.mem_append_left _ (List.mem_append_right _ hc))

/-- A change that was taken and one that was dropped have different numbers. -/
theorem number_ne (ho : Orderly h) (hn : Numbered h.history) {t : Change × List Nat} {c : Change}
    (ht : t ∈ inOrder taken? h.history) (hc : c ∈ inOrder skipped? h.history) :
    c.number ≠ t.1.number := by
  -- no number occurs twice among those that were taken, dropped or still wait
  have hnodup := (ho.accounted.map Change.number).nodup_iff.mp hn.distinct
  rw [List.map_append, List.map_append] at hnodup
  have hapart := (List.nodup_append.mp (List.nodup_append.mp hnodup).1).2.2
  have ht' : t.1.number ∈ ((inOrder taken? h.history).map Prod.fst).map Change.number :=
    List.mem_map_of_mem (List.mem_map_of_mem ht)
  exact (hapart _ ht' _ (List.mem_map_of_mem hc)).symm

/-- **A change is dropped only when a greater one has been taken.** -/
theorem greater_taken (ho : Orderly h) (hn : Numbered h.history) {later earlier : List Event}
    {c : Change} (hsplit : h.history = later ++ .skipped c :: earlier) :
    ∃ t ∈ inOrder taken? earlier, c.number < t.1.number := by
  have hsound : Sound (.skipped c :: earlier) := Sound.of_append (hsplit ▸ ho.sound)
  have hc : c ∈ inOrder skipped? h.history := by
    rw [hsplit, inOrder_append, inOrder_cons]
    simp
  have hpos := hn.positive c (ho.skipped_posted hc)
  obtain ⟨t, hlast, hnumber⟩ := exists_taken_of_reached (Nat.lt_of_lt_of_le hpos hsound.1)
  have ht : t ∈ inOrder taken? earlier := List.mem_of_getLast? hlast
  have ht' : t ∈ inOrder taken? h.history := by
    rw [hsplit, inOrder_append, inOrder_cons]
    simp [ht]
  refine ⟨t, ht, Nat.lt_of_le_of_ne ?_ (ho.number_ne hn ht' hc)⟩
  exact hnumber ▸ hsound.1

/-- **The change of the greatest number is delivered last.** -/
theorem last_greatest (ho : Orderly h) (hn : Numbered h.history) (hp : h.board.pending = [])
    (hne : inOrder posted? h.history ≠ []) :
    ∃ t, (inOrder taken? h.history).getLast? = some t ∧ h.board.delivered = t.1.number
      ∧ ∀ c ∈ inOrder posted? h.history, c.number ≤ t.1.number := by
  -- every change has got as far as the last number
  have hall : ∀ c ∈ inOrder posted? h.history, c.number ≤ reached h.history := by
    intro c hc
    have hmem := ho.accounted.mem_iff.mp hc
    rw [hp, List.append_nil] at hmem
    have hle := ho.sound.increasing.2
    rcases List.mem_append.mp hmem with hmem | hmem
    · obtain ⟨t, ht, rfl⟩ := List.mem_map.mp hmem
      exact hle t ht
    · obtain ⟨later, earlier, hsplit⟩ := exists_split_of_skipped hmem
      obtain ⟨t, ht, hlt⟩ := ho.greater_taken hn hsplit
      refine Nat.le_of_lt (Nat.lt_of_lt_of_le hlt (hle t ?_))
      rw [hsplit, inOrder_append, inOrder_cons]
      simp [ht]
  obtain ⟨c, hc⟩ := List.exists_mem_of_ne_nil _ hne
  have hpos : 0 < reached h.history := Nat.lt_of_lt_of_le (hn.positive c hc) (hall c hc)
  obtain ⟨t, hlast, hnumber⟩ := exists_taken_of_reached hpos
  exact ⟨t, hlast, ho.delivered.trans hnumber.symm, fun c hc => hnumber ▸ hall c hc⟩

theorem discipline (ho : Orderly h) (hn : Numbered h.history) : Discipline h where
  alone := by
    -- one who delivers, or nobody
    rcases ho.alone with ⟨-, r, hr⟩ | ⟨-, hr, -⟩ <;> simp [hr]
  blocks := ho.heard
  increasing := ho.sound.increasing.1
  genuine := fun t ht => ho.taken_posted ht
  audience := by
    intro later c ids earlier hsplit
    have hsound : Sound (.announced c ids :: earlier) := Sound.of_append (hsplit ▸ ho.sound)
    exact ⟨hsound.1.2.1, hsound.1.2.2⟩
  complete := by
    intro c hc
    -- every change that was posted was taken, was skipped, or waits on the queue
    have hmem := ho.accounted.mem_iff.mp hc
    rcases List.mem_append.mp hmem with hmem | hmem
    · rcases List.mem_append.mp hmem with hmem | hmem
      · exact .inr (.inl hmem)
      · obtain ⟨later, earlier, hsplit⟩ := exists_split_of_skipped hmem
        exact .inr (.inr ⟨later, earlier, hsplit, ho.greater_taken hn hsplit⟩)
    · exact .inl hmem
  settled := by
    intro hr
    rcases ho.alone with ⟨-, r, hr'⟩ | ⟨hd, -, hp⟩
    · rw [hr] at hr'
      exact absurd hr' (by simp)
    · exact ⟨hp, hd, ho.last_greatest hn hp⟩

end Orderly

/-- **Changes are delivered one at a time and in order, to those who listen, and the last one always
gets through**, whoever announces them and in whatever order, and whatever listeners do. -/
theorem notification_discipline {ms : List (Move α)} {h : Notifier α}
    (hm : Notifier.start.moveAll ms = some h) (hn : Numbered h.history) : Discipline h :=
  (orderly_start.moveAll hm).discipline hn

/-- Two listen when change 2 is taken. While the first is at it, changes 1 and 3 are announced, the
second listener is withdrawn and a third registers. -/
def crowdedRun : List (Move Unit) :=
  [.register (), .register (), .notify ⟨2, .connecting⟩, .proceed 0, .proceed 0,
    .notify ⟨1, .disconnected⟩, .withdraw 2, .register (), .notify ⟨3, .connected⟩, .back 0,
    .proceed 0, .back 0, .proceed 0, .proceed 0, .proceed 0, .back 0, .proceed 0, .back 0,
    .proceed 0]

/-- Change 1 comes too late; change 3 is for those who listen by then. -/
theorem notification_discipline_crowded :
    ∃ h : Notifier Unit, Notifier.start.moveAll crowdedRun = some h
      ∧ Numbered h.history ∧ h.drainers = []
      ∧ (inOrder heard? h.history).map (fun p => (p.1.number, p.2))
        = [(2, 1), (2, 2), (3, 1), (3, 3)]
      ∧ Discipline h := by
  obtain ⟨h, hm, hn, hr, hheard⟩ : ∃ h : Notifier Unit, Notifier.start.moveAll crowdedRun = some h
      ∧ Numbered h.history ∧ h.drainers = []
      ∧ (inOrder heard? h.history).map (fun p => (p.1.number, p.2))
        = [(2, 1), (2, 2), (3, 1), (3, 3)] :=
    ⟨_, rfl, ⟨by decide, by decide⟩, rfl, rfl⟩
  exact ⟨h, hm, hn, hr, hheard, notification_discipline hm hn⟩

/-! ## The notifier of a world

In a world one caller at a time has the board: what a listener does runs on top of the announcement
that has called it. -/

/-- The announcements in code that others wait for. -/
def waitingDrainers (stack : List Frame) : List (Drainer Listener) :=
  stack.filterMap fun
    | .announcement c rest => some ⟨c, rest, true⟩
    | _ => none

/-- The announcements in the code that runs. -/
def drainersOf : List Frame → List (Drainer Listener)
  | .announcement c rest :: stack => ⟨c, rest, false⟩ :: waitingDrainers stack
  | stack => waitingDrainers stack

/-- The board of a world and those who deliver from it. -/
def notifier (w : World) : Notifier Listener := ⟨w.board, drainersOf w.stack, w.history⟩

/-- One notifier becomes the other by moves. -/
def Leads {α : Type} (h h' : Notifier α) : Prop := ∃ ms, h.moveAll ms = some h'

namespace Leads

variable {a b c : Notifier α}

theorem refl (a : Notifier α) : Leads a a := ⟨[], rfl⟩

theorem of_eq (h : b = a) : Leads a b := h ▸ refl a

theorem one {m : Move α} (hm : a.move m = some b) : Leads a b :=
  ⟨[m], by rw [Notifier.moveAll, hm]; rfl⟩

theorem trans (hab : Leads a b) (hbc : Leads b c) : Leads a c := by
  obtain ⟨ms, hms⟩ := hab
  induction ms generalizing a with
  | nil =>
      obtain rfl := Option.some.inj hms
      exact hbc
  | cons m rest ih =>
      obtain ⟨a', ha', hrest⟩ := Option.bind_eq_some_iff.mp hms
      obtain ⟨ms', hms'⟩ := ih hrest
      exact ⟨m :: ms', by rw [Notifier.moveAll, ha']; exact hms'⟩

theorem orderly (hl : Leads a b) (ha : Orderly a) : Orderly b := by
  obtain ⟨ms, hms⟩ := hl
  exact ha.moveAll hms

/-- Moves only add to the history. -/
theorem history (h : Leads a b) :
    ∃ new, b.history = new ++ a.history := by
  obtain ⟨ms, hms⟩ := h
  induction ms generalizing a with
  | nil => exact ⟨[], by rw [← Option.some.inj hms]; rfl⟩
  | cons m rest ih =>
      obtain ⟨a', ha', hrest⟩ := Option.bind_eq_some_iff.mp hms
      obtain ⟨new, hnew⟩ := ih hrest
      obtain ⟨first, hfirst⟩ := move_history ha'
      exact ⟨new ++ first, by rw [hnew, hfirst, List.append_assoc]⟩

end Leads

section World

variable {u w w' : World} {act : Action}

/-- Something happens that has nothing to do with the board. -/
theorem happen_leads (w : World) {e : Event} (he : ofBoard e = false) :
    Leads (notifier w) (notifier (w.happen e)) :=
  .one (m := .other e) (by simp [Notifier.move, he, notifier, World.happen])

/-- What an announcement may have waited for is over. -/
theorem exposed_leads (b : Board Listener) (stack : List Frame) (history : List Event) :
    Leads ⟨b, waitingDrainers stack, history⟩ ⟨b, drainersOf stack, history⟩ := by
  rcases stack with _ | ⟨f, tail⟩
  · exact .refl _
  · cases f with
    | announcement c rest => exact .one (m := .back 0) rfl
    | _ => exact .refl _

/-- Code that is no announcement comes to its end. -/
theorem pop_leads {f : Frame} {tail : List Frame} (hs : w.stack = f :: tail)
    (hf : ∀ c rest, f ≠ .announcement c rest) :
    Leads (notifier w) (notifier { w with stack := tail }) := by
  have hw : notifier w = ⟨w.board, waitingDrainers tail, w.history⟩ := by
    cases f with
    | announcement c rest => exact absurd rfl (hf c rest)
    | _ => simp [notifier, hs, drainersOf, waitingDrainers]
  rw [hw]
  exact exposed_leads w.board tail w.history

theorem drainersOf_acting (hw : Acting w) : drainersOf w.stack = waitingDrainers w.stack := by
  rcases hs : w.stack with _ | ⟨f, tail⟩
  · rfl
  · cases f with
    | announcement c rest => exact absurd (hw _ (by rw [hs]; rfl)) (by simp [acts])
    | _ => rfl

theorem notifier_complete (w : World) : notifier w.complete = notifier w := by
  unfold World.complete
  split
  · rename_i n e rest k tail hs
    simp [notifier, hs, drainersOf, waitingDrainers]
  · rfl

theorem failCall_leads (w : World) (m : Option String) :
    Leads (notifier w) (notifier (w.failCall m)) := by
  unfold World.failCall
  split
  · exact (happen_leads w rfl).trans (happen_leads _ rfl)
  · exact happen_leads w rfl

theorem data_leads (hc : DataStep u act w w') : Leads (notifier w) (notifier w') := by
  cases hc with
  | counters h => exact .of_eq (by simp only [notifier, h.board, h.stack, h.history])
  | report e he => exact happen_leads w (by cases e <;> simp_all [isReport, ofBoard])
  | addHandler s h => exact happen_leads w rfl
  | addListener l => exact .one (m := .register l) rfl
  | withdraw p id =>
      cases p with
      | router s => exact happen_leads w rfl
      | board => exact .one (m := .withdraw id) rfl
  | enqueue e hs => exact happen_leads w rfl
  | script cs' a' hs => exact .of_eq (by simp [notifier, hs, drainersOf, waitingDrainers])
  | returned hs =>
      rw [notifier_complete]
      exact pop_leads hs (by simp)
  | failed m hs => exact (pop_leads hs (by simp)).trans (failCall_leads _ m)
  | dispatch e hw =>
      -- the delivery stands on top of what has dispatched, which delivers no change
      have hpushed : notifier (w.dispatch e)
          = notifier (({ w with deliveries := w.deliveries + 1 }).happen
          (.began w.deliveries e.topic ((w.router.audience e.topic).map Entry.id))) := by
        simp only [notifier, World.dispatch, World.push, World.happen, drainersOf_acting hw]
        rfl
      rw [hpushed]
      exact happen_leads { w with deliveries := w.deliveries + 1 } rfl
  | @called n k e h rest tail o cs hs =>
      have hsame : notifier { w with stack := .script o cs none :: .delivery n e rest k :: tail }
          = notifier w := by simp [notifier, hs, drainersOf, waitingDrainers]
      exact (Leads.of_eq hsame).trans (happen_leads _ rfl)
  | @calledOnce n k e h rest tail hs =>
      have hsame : notifier { w with stack := .delivery n e rest (k + 1) :: tail }
          = notifier w := by
        simp [notifier, hs, drainersOf, waitingDrainers]
      exact (Leads.of_eq hsame).trans (happen_leads _ rfl)
  | ended hs => exact (pop_leads hs (by simp)).trans (happen_leads _ rfl)
  | _ => exact .refl _

/-- Someone puts a change on the queue who is not about to call a listener. -/
theorem offer_leads (c : Change) (hw : drainersOf w.stack = waitingDrainers w.stack) :
    Leads (notifier w) (notifier (offer w c)) := by
  refine .one (m := .notify c) (congrArg some ?_)
  unfold notifier Notifier.notify offer
  cases hd : w.board.draining with
  | true => simp
  | false => simpa [drainersOf] using hw

theorem shift_leads (t : Link × Option Change) (hw : drainersOf w.stack = waitingDrainers w.stack) :
    Leads (notifier w) (notifier (shift w t)) := by
  unfold shift
  split
  · rename_i c hc
    exact Leads.trans (happen_leads { w with link := t.1 } rfl) (offer_leads c hw)
  · exact .refl _

theorem push_notifier {f : Frame} (hf : ∀ c rest, f ≠ .announcement c rest)
    (hw : drainersOf w.stack = waitingDrainers w.stack) : notifier (w.push f) = notifier w := by
  have hpushed : drainersOf (f :: w.stack) = waitingDrainers w.stack := by
    cases f with
    | announcement c rest => exact absurd rfl (hf c rest)
    | _ => rfl
  simp only [notifier, World.push, hpushed, hw]

/-- The connection changes, and the one who has changed it is to go on afterwards. -/
theorem push_shift_leads {f : Frame} (hf : ∀ c rest, f ≠ .announcement c rest)
    (hw : drainersOf w.stack = waitingDrainers w.stack) (t : Link × Option Change) :
    Leads (notifier w) (notifier (shift (w.push f) t)) := by
  refine .trans (.of_eq (push_notifier hf hw)) (shift_leads t ?_)
  cases f with
  | announcement c rest => exact absurd rfl (hf c rest)
  | _ => rfl

theorem stopSupervisor_notifier (w : World) (id : Option Nat) :
    notifier (w.stopSupervisor id) = notifier w := by
  cases id <;> rfl

theorem startSupervisor_notifier (w : World) (g : Nat) (previous : Option Nat) :
    notifier (w.startSupervisor g previous) = notifier w := by
  unfold World.startSupervisor
  dsimp only
  split
  · rfl
  · exact stopSupervisor_notifier _ _

theorem resume_leads (w : World) (id : Nat) (next : Resumption) :
    Leads (notifier w) (notifier (w.resume id next)) := by
  unfold World.resume
  split
  · exact .refl _
  · exact .refl _
  · exact happen_leads w rfl
  · exact .refl _

theorem AtRest.drainers {id : Nat} {s : Supervisor} (hr : AtRest w id s) :
    drainersOf w.stack = waitingDrainers w.stack := by
  rw [hr.stack]
  rfl

/-- **Every small change of a world is made of moves around its board.** -/
theorem step_leads (hd : SmallStep u act w w') : Leads (notifier w) (notifier w') := by
  cases hd with
  | data h => exact data_leads h
  | pass nanos hs => exact .refl _
  | announce c hw hb => exact offer_leads c (drainersOf_acting hw)
  | @heardOnce c l rest tail hs =>
      -- the call and its end are two moves
      refine Leads.trans (b := ⟨w.board, ⟨c, rest, true⟩ :: waitingDrainers tail,
        .heard c l.id :: w.history⟩) (.one (m := .proceed 0) ?_) (.one (m := .back 0) rfl)
      simp [Notifier.move, notifier, hs, drainersOf]
  | heard o cs hs =>
      refine .one (m := .proceed 0) ?_
      simp [Notifier.move, notifier, hs, drainersOf, waitingDrainers, World.happen]
  | @drained c tail hs hp =>
      refine .trans (.one (m := .proceed 0) ?_) (exposed_leads _ tail w.history)
      simp [Notifier.move, Notifier.next, notifier, hs, drainersOf, Board.take_of_nil hp]
  | skipped hs hp hd =>
      refine .one (m := .proceed 0) ?_
      simp [Notifier.move, Notifier.next, notifier, hs, drainersOf, World.happen,
        Board.take_of_le hp hd]
  | announced hs hp hd =>
      refine .one (m := .proceed 0) ?_
      simp [Notifier.move, Notifier.next, notifier, hs, drainersOf, World.happen,
        Board.take_of_lt hp hd]
  | connect hy hw hr hm =>
      refine .trans (.of_eq (stopSupervisor_notifier w w.link.supervisor))
        (push_shift_leads (by simp) ?_ _)
      rw [stopSupervisor_stack]
      exact drainersOf_acting hw
  | disconnect hy hw =>
      refine .trans (.of_eq (stopSupervisor_notifier w w.link.idleSupervisor)) (shift_leads _ ?_)
      rw [stopSupervisor_stack]
      exact drainersOf_acting hw
  | start hs =>
      rw [startSupervisor_notifier]
      exact pop_leads hs (by simp)
  | resume hs => exact (pop_leads hs (by simp)).trans (resume_leads _ _ _)
  | dial hr hs hp => exact happen_leads w rfl
  | wait hr hs hp hf => exact .refl _
  | @giveUp id p d s hr hs hp hf hd =>
      exact (Leads.of_eq (stopSupervisor_notifier w (some p))).trans (happen_leads _ rfl)
  | retry hy hr hs hp hd ht => exact push_shift_leads (by simp) hr.drainers _
  | @leave id s sockets hr hs hg hl => exact happen_leads { w with sockets := sockets } rfl
  | halt hr hs hp => exact happen_leads w rfl
  | @opened id s url t hy hr hs hp ht =>
      refine .trans (happen_leads ({ w with sockets := w.sockets ++ [Socket.mk []] }.rest id
        (.inSession w.sockets.length)) ?_) (push_shift_leads (by simp) ?_ t)
      · rfl
      · exact hr.drainers
  | @failed id s t sockets hy hr hs hp ht hl =>
      refine .trans (happen_leads { w with sockets := sockets } ?_)
        (push_shift_leads (by simp) ?_ _)
      · rfl
      · exact hr.drainers
  | dropped hr hp => exact happen_leads w rfl
  | wrote hr hs hp hq => exact happen_leads w rfl
  | wroteClose hr hs hp hq ho => exact happen_leads w rfl
  | read i hr hs hp => exact happen_leads w rfl
  | enter hr hs hp => exact .of_eq (push_notifier (by simp) hr.drainers)

theorem runs_leads (hd : Runs w w') : Leads (notifier w) (notifier w') := by
  induction hd with
  | refl => exact .refl _
  | tail _ hs ih => exact ih.trans (step_leads hs.choose_spec.choose_spec)

variable {parts : Parts} {setup : Setup} {hasRuntime : Bool} {stamps : Nat → Stamp}

/-- **Every run of a world is one of a notifier.** -/
theorem orderly_reachable {as : List Action}
    (hw : (World.initial parts setup hasRuntime stamps).actAll as = some w) :
    Orderly (notifier w) :=
  (runs_leads (actAll_runs hw)).orderly orderly_start

/-- **Listeners to a world are called with discipline** as long as no number is used twice. -/
theorem world_discipline {as : List Action}
    (hw : (World.initial parts setup hasRuntime stamps).actAll as = some w)
    (hn : Numbered w.history) : Discipline (notifier w) :=
  (orderly_reachable hw).discipline hn

end World

end LiveLink.Proofs
