import LiveLink.Proofs.Callers
import LiveLink.Proofs.Calls
import LiveLink.Proofs.Coherence

/-!
# What listeners learn of the status

A client changes its status under a lock that also numbers the change, and puts
the change on the queue of its status board. The two agree: every change is
queued, in the order of the numbers, so none is ever overtaken and none is
dropped, and whoever listens all along hears them all.

`step_status` says once what a small change of the world does to the status and to
the queue. Who may change the status is part of it: `connect`, `disconnect` and
the supervisor of the current generation, and as long as the client is
disconnected only `connect`.
-/

namespace LiveLink.Proofs

open LiveLink

/-! ## Steps of the status -/

/-- A change of the status that is recorded. -/
def changed? : Event → Option Change
  | .changed c => some c
  | _ => none

/-- The steps that the status takes. -/
def mayFollow : Status → Status → Prop
  | .disconnected, .connecting => True
  | .connecting, .connected => True
  | .connecting, .reconnecting => True
  | .connected, .reconnecting => True
  | .reconnecting, .connecting => True
  | s, .disconnected => s ≠ .disconnected
  | _, _ => False

/-- The status goes from one to another by steps to each of a list in turn. -/
def Path : Status → List Status → Status → Prop
  | s, [], t => s = t
  | s, u :: rest, t => mayFollow s u ∧ Path u rest t

theorem path_append {s t : Status} {xs ys : List Status} :
    Path s (xs ++ ys) t ↔ ∃ u, Path s xs u ∧ Path u ys t := by
  induction xs generalizing s with
  | nil => simp [Path]
  | cons x rest ih => simp [Path, ih, and_assoc]

theorem Path.snoc {s t u : Status} {xs : List Status} (h : Path s xs t) (hu : mayFollow t u) :
    Path s (xs ++ [u]) u :=
  path_append.mpr ⟨t, h, hu, rfl⟩

/-- A path leads to its last status. -/
theorem Path.last {s t : Status} {xs : List Status} (h : Path s xs t) :
    t = xs.getLast?.getD s := by
  induction xs generalizing s with
  | nil => exact h.symm
  | cons x rest ih =>
      rw [ih h.2, List.getLast?_cons]
      rfl

/-! ## What small changes do to the status and the queue -/

/-- A change of the world that leaves the status and the queue as they are. -/
structure Quiet (w w' : World) : Prop where
  status : w'.link.status = w.link.status := by rfl
  changes : w'.link.changes = w.link.changes := by rfl
  attempts : w'.link.attempts = w.link.attempts := by rfl
  outbound : w'.link.outbound = w.link.outbound := by rfl
  generation : w'.link.generation = w.link.generation := by rfl
  pending : w'.board.pending = w.board.pending := by rfl
  posted : inOrder posted? w'.history = inOrder posted? w.history := by rfl
  taken : inOrder taken? w'.history = inOrder taken? w.history := by rfl
  changed : inOrder changed? w'.history = inOrder changed? w.history := by rfl

theorem Quiet.trans {w v u : World} (h : Quiet w v) (h' : Quiet v u) : Quiet w u where
  status := h'.status.trans h.status
  changes := h'.changes.trans h.changes
  attempts := h'.attempts.trans h.attempts
  outbound := h'.outbound.trans h.outbound
  generation := h'.generation.trans h.generation
  pending := h'.pending.trans h.pending
  posted := h'.posted.trans h.posted
  taken := h'.taken.trans h.taken
  changed := h'.changed.trans h.changed

variable {u w w' : World} {act : Action} {y : Cause}

theorem complete_quiet (w : World) : Quiet w w.complete := by
  unfold World.complete
  split <;> exact {}

theorem failCall_quiet (w : World) (m : Option String) : Quiet w (w.failCall m) := by
  unfold World.failCall
  split <;> exact {}

/-- A data step neither changes the status nor queues or delivers a change. -/
theorem data_quiet (hc : DataStep u act w w') : Quiet w w' := by
  cases hc with
  | counters h =>
      exact
        { status := by rw [h.link]
          changes := by rw [h.link]
          attempts := by rw [h.link]
          outbound := by rw [h.link]
          generation := by rw [h.link]
          pending := by rw [h.board]
          posted := by rw [h.history]
          taken := by rw [h.history]
          changed := by rw [h.history] }
  -- notes and warnings are no events of the status
  | report e he =>
      cases e with
      | noted n => exact {}
      | warned level topic message => exact {}
      | _ => exact absurd he (by simp [isReport])
  | withdraw p id => cases p <;> exact {}
  | @returned o a tail hs =>
      have hpopped : Quiet w { w with stack := tail } := {}
      exact hpopped.trans (complete_quiet _)
  | @failed o cs a tail m hs =>
      have hpopped : Quiet w { w with stack := tail } := {}
      exact hpopped.trans (failCall_quiet _ m)
  | _ => exact {}

/-- Who may change the status: whoever is asked to connect, and unless the client is disconnected
also whoever is asked to disconnect and the supervisor of the current generation. -/
def Entitled (y : Cause) (w : World) : Prop :=
  y = .asked .connect ∨ (w.link.status ≠ .disconnected ∧ (y = .asked .disconnect
    ∨ ∃ id s, y = .supervisor id ∧ w.supervisors[id]? = some s
      ∧ s.generation = w.link.generation))

/-- What a small change does to the status and the queue. -/
inductive StatusStep (y : Cause) (w w' : World) : Prop where
  | quiet (h : Quiet w w')
  /-- Someone who has the board for himself announces a change. -/
  | offered (c : Change) (hb : w.parts.board = true) (hw : w' = offer w c)
  | taken (c : Change) (rest : List Change) (ids : List Nat) (hp : w.board.pending = c :: rest)
      (hlink : w'.link = w.link) (hpending : w'.board.pending = rest)
      (hhistory : w'.history = .announced c ids :: w.history)
  | dropped (c : Change) (rest : List Change) (hp : w.board.pending = c :: rest)
      (hd : c.number ≤ w.board.delivered)
  /-- The connection changes to what is given, with a status that may follow. -/
  | turned (v : World) (l : Link) (s : Status) (hv : Quiet w v) (hw : w' = shift v (l.setStatus s))
      (hstatus : l.status = w.link.status) (hchanges : l.changes = w.link.changes)
      (hgeneration : w.link.generation ≤ l.generation) (hs : mayFollow w.link.status s)
      (hy : Entitled y w)
  /-- A client that is disconnected disconnects. -/
  | idle (v : World) (l : Link) (hv : Quiet w v) (hw : w' = shift v (l.setStatus .disconnected))
      (hstatus : l.status = w.link.status) (hchanges : l.changes = w.link.changes)
      (hgeneration : w.link.generation ≤ l.generation) (hdown : w.link.status = .disconnected)
      (hattempts : l.attempts = w.link.attempts) (houtbound : l.outbound = w.link.outbound)

theorem stopSupervisor_quiet (w : World) (id : Option Nat) : Quiet w (w.stopSupervisor id) := by
  cases id <;> exact {}

theorem push_quiet (w : World) (f : Frame) : Quiet w (w.push f) := {}

/-- A supervisor that starts takes its place in the connection, and that is not part of the
status. -/
theorem startSupervisor_quiet (w : World) (g : Nat) (previous : Option Nat) :
    Quiet w (w.startSupervisor g previous) := by
  unfold World.startSupervisor
  dsimp only
  split
  · rename_i link hl
    unfold Link.adopt at hl
    split at hl
    · obtain rfl := Option.some.inj hl
      exact {}
    · exact absurd hl (by simp)
  · exact {}

theorem resume_quiet (w : World) (id : Nat) (next : Resumption) : Quiet w (w.resume id next) := by
  unfold World.resume
  split <;> exact {}

/-- A supervisor of the current generation may change the status, which is where it left it. -/
theorem entitled_of_current {id : Nat} {s : Supervisor} (hw : CoherentWorld w)
    (hy : y = .supervisor id) (hr : AtRest w id s) (hg : w.link.generation = s.generation) :
    Entitled y w ∧ Fits w.link (restStage s.phase) := by
  obtain ⟨hup, -, -, hfit⟩ := hw.current hr.supervisor hg.symm
  refine ⟨.inr ⟨hup, .inr ⟨id, s, hy, hr.supervisor, hg.symm⟩⟩, ?_⟩
  simpa [stage, resuming_nil hr.stack] using hfit

/-- **What a small change does to the status and the queue**, and who may have made it. -/
theorem step_status (hw : CoherentWorld w) (h : SmallStep u act w w') :
    StatusStep (cause u act) w w' := by
  cases h with
  | data h => exact .quiet (data_quiet h)
  | pass nanos hs => exact .quiet {}
  | announce c ha hb => exact .offered c hb rfl
  | heardOnce hs => exact .quiet {}
  | heard o cs hs => exact .quiet {}
  | drained hs hp => exact .quiet {}
  | skipped hs hp hd => exact .dropped _ _ hp hd
  | announced hs hp hd => exact .taken _ _ _ hp rfl rfl rfl
  -- `connect` acts on a client that is disconnected, or that waits for a retry
  | connect hy ha hr hm =>
      refine .turned _ _ .connecting ((stopSupervisor_quiet w _).trans (push_quiet _ _)) rfl rfl rfl
        (Nat.le_succ _) ?_ (.inl hy)
      cases hs : w.link.status <;> simp_all [Link.mayConnect, mayFollow]
  | disconnect hy ha =>
      by_cases hd : w.link.status = .disconnected
      · -- there is nothing to take away from a client that is disconnected
        obtain ⟨-, -, hout, hatt⟩ := hw.down hd
        exact .idle _ _ (stopSupervisor_quiet w _) rfl rfl rfl (Nat.le_succ _) hd hatt.symm
          hout.symm
      · refine .turned _ _ .disconnected (stopSupervisor_quiet w _) rfl rfl rfl (Nat.le_succ _) ?_
          (.inr ⟨hd, .inl hy⟩)
        cases hs : w.link.status <;> simp_all [mayFollow]
  | @start g previous tail hs =>
      have hpopped : Quiet w { w with stack := tail } := {}
      exact .quiet (hpopped.trans (startSupervisor_quiet _ g previous))
  | @resume id next tail hs =>
      have hpopped : Quiet w { w with stack := tail } := {}
      exact .quiet (hpopped.trans (resume_quiet _ id next))
  | dial hr hs hp => exact .quiet {}
  | wait hr hs hp hf => exact .quiet {}
  | giveUp hr hs hp hf hd => exact .quiet {}
  | @retry id d s t hy hr hs hp hd ht =>
      -- the supervisor that slept is the current one, so the status was *reconnecting*
      obtain ⟨hg, rfl⟩ := Link.retry_eq_some ht
      obtain ⟨hy, hfit⟩ := entitled_of_current hw hy hr hg
      rw [hp] at hfit
      exact .turned _ _ .connecting (push_quiet w _) rfl rfl rfl (Nat.le_refl _)
        (by rw [hfit.1]; trivial) hy
  | leave hr hs hg hl => exact .quiet {}
  | halt hr hs hp => exact .quiet {}
  | @opened id s url t hy hr hs hp ht =>
      obtain ⟨hg, rfl⟩ := Link.startSession_eq_some ht
      obtain ⟨hy, hfit⟩ := entitled_of_current hw hy hr hg
      rw [hp] at hfit
      exact .turned _ _ .connected {} rfl rfl rfl (Nat.le_refl _) (by rw [hfit.1]; trivial) hy
  | @failed id s t sockets hy hr hs hp ht hl =>
      obtain ⟨hg, rfl⟩ := Link.fail_eq_some ht
      obtain ⟨hy, hfit⟩ := entitled_of_current hw hy hr hg
      refine .turned _ _ .reconnecting {} rfl rfl rfl (Nat.le_refl _) ?_ hy
      rcases hp with ⟨url, hp⟩ | ⟨socket, hp | hp⟩ <;> rw [hp] at hfit
      · rw [hfit.1]
        trivial
      · rw [hfit.1]
        trivial
      · exact hfit.elim
  | dropped hr hp => exact .quiet {}
  | wrote hr hs hp hq => exact .quiet {}
  | wroteClose hr hs hp hq ho => exact .quiet {}
  | read i hr hs hp => exact .quiet {}
  | enter hr hs hp => exact .quiet {}

/-! ## The status and what is told of it -/

@[simp] theorem offer_link (w : World) (c : Change) : (offer w c).link = w.link := rfl

/-- Everything that is told of the status agrees with how it has changed. -/
structure StatusInv (w : World) : Prop where
  coherent : CoherentWorld w
  orderly : Orderly (notifier w)
  /-- Nobody but the client announces changes. -/
  own : w.parts.board = false
  posted : inOrder posted? w.history = inOrder changed? w.history
  /-- What is queued is taken in the same order. -/
  queue : inOrder posted? w.history
    = (inOrder taken? w.history).map Prod.fst ++ w.board.pending
  /-- Changes are numbered one by one. -/
  numbers : (inOrder changed? w.history).map Change.number = List.range' 1 w.link.changes
  path : Path .initial ((inOrder changed? w.history).map Change.status) w.link.status

theorem statusInv_initial (router client : Bool) (setup : Setup) (hasRuntime : Bool)
    (stamps : Nat → Stamp) :
    StatusInv (.initial ⟨router, false, client⟩ setup hasRuntime stamps) where
  coherent := coherentWorld_initial _ setup hasRuntime stamps
  orderly := orderly_start
  own := rfl
  posted := rfl
  queue := rfl
  numbers := rfl
  path := rfl

@[simp] theorem shift_parts (w : World) (t : Link × Option Change) :
    (shift w t).parts = w.parts := by
  unfold shift
  split <;> rfl

theorem stopSupervisor_parts (w : World) (id : Option Nat) :
    (w.stopSupervisor id).parts = w.parts := by
  cases id <;> rfl

theorem startSupervisor_parts (w : World) (g : Nat) (previous : Option Nat) :
    (w.startSupervisor g previous).parts = w.parts := by
  unfold World.startSupervisor
  dsimp only
  split <;> rfl

theorem resume_parts (w : World) (id : Nat) (next : Resumption) :
    (w.resume id next).parts = w.parts := by
  unfold World.resume
  split <;> rfl

theorem data_own (h : DataStep u act w w') (hb : w.parts.board = false) :
    w'.parts.board = false := by
  cases h with
  | counters h =>
      rw [← Bool.not_eq_true] at hb ⊢
      exact fun hb' => hb (h.parts hb')
  | withdraw p id => cases p <;> exact hb
  | returned hs => unfold World.complete; split <;> exact hb
  | failed m hs => unfold World.failCall; split <;> exact hb
  | _ => exact hb

/-- A client keeps its board to itself. -/
theorem step_own (h : SmallStep u act w w') (hb : w.parts.board = false) :
    w'.parts.board = false := by
  cases h with
  -- the part of the board is only ever dropped
  | data h => exact data_own h hb
  | connect hy ha hr hm => simpa [World.push, stopSupervisor_parts] using hb
  | disconnect hy ha => simpa [stopSupervisor_parts] using hb
  | start hs => simpa [startSupervisor_parts] using hb
  | resume hs => simpa [resume_parts] using hb
  | retry hy hr hs hp hd ht => simpa [World.push] using hb
  | opened hy hr hs hp ht => simpa [World.push, World.happen, World.rest] using hb
  | failed hy hr hs hp ht hl => simpa [World.push, World.happen] using hb
  | _ => exact hb

namespace StatusInv

/-- Numbers on the queue are greater than that of the last change that was taken. -/
theorem pending_lt (ht : StatusInv w) {c : Change} {rest : List Change}
    (hp : w.board.pending = c :: rest) : w.board.delivered < c.number := by
  -- what was taken and what waits are numbered 1, 2, 3 and so on
  have hnumbers : ((inOrder taken? w.history).map Prod.fst).map Change.number
      ++ c.number :: rest.map Change.number = List.range' 1 w.link.changes := by
    rw [← ht.numbers, ← ht.posted, ht.queue, hp, List.map_append, List.map_cons]
  have hsorted : (((inOrder taken? w.history).map Prod.fst).map Change.number
      ++ c.number :: rest.map Change.number).Pairwise (· < ·) := by
    rw [hnumbers]
    exact List.pairwise_lt_range'
  have hdelivered : w.board.delivered = reached w.history := ht.orderly.delivered
  rw [hdelivered]
  -- before anything is taken every number is new, since the first is 1
  rcases Nat.eq_zero_or_pos (reached w.history) with h0 | h0
  · have hmem : c.number ∈ List.range' 1 w.link.changes := by
      rw [← hnumbers]
      exact List.mem_append_right _ List.mem_cons_self
    have hpos := (List.mem_range'_1.mp hmem).1
    omega
  · obtain ⟨t, hlast, hnumber⟩ := exists_taken_of_reached h0
    rw [← hnumber]
    refine (List.pairwise_append.mp hsorted).2.2 _ ?_ _ List.mem_cons_self
    exact List.mem_map_of_mem (List.mem_map_of_mem (List.mem_of_getLast? hlast))

/-- The status changes to one that may follow, or stays. -/
theorem shift (ht : StatusInv w) {v : World} {l : Link} {s : Status} (hv : Quiet w v)
    (hstatus : l.status = w.link.status) (hchanges : l.changes = w.link.changes)
    (hs : mayFollow w.link.status s ∨ w.link.status = s)
    (hcoherent : CoherentWorld (Proofs.shift v (l.setStatus s)))
    (horderly : Orderly (notifier (Proofs.shift v (l.setStatus s))))
    (hown : (Proofs.shift v (l.setStatus s)).parts.board = false) :
    StatusInv (Proofs.shift v (l.setStatus s)) := by
  by_cases hsame : l.status = s
  · -- the status stays: nothing is recorded and nothing queued
    rw [Link.setStatus, if_pos hsame] at *
    exact
      { coherent := hcoherent
        orderly := horderly
        own := hown
        posted := hv.posted.trans (ht.posted.trans hv.changed.symm)
        queue := by
          change inOrder posted? v.history
            = (inOrder taken? v.history).map Prod.fst ++ v.board.pending
          rw [hv.posted, hv.taken, hv.pending, ht.queue]
        numbers := by
          change (inOrder changed? v.history).map Change.number = List.range' 1 l.changes
          rw [hv.changed, hchanges, ht.numbers]
        path := by
          change Path .initial ((inOrder changed? v.history).map Change.status) l.status
          rw [hv.changed, hstatus]
          exact ht.path }
  · -- the change is recorded, queued and numbered in one go
    have hs : mayFollow w.link.status s := hs.resolve_right (hstatus ▸ hsame)
    rw [Link.setStatus, if_neg hsame] at *
    exact
      { coherent := hcoherent
        orderly := horderly
        own := hown
        posted := by
          change inOrder posted? (.posted _ :: .changed _ :: v.history)
            = inOrder changed? (.posted _ :: .changed _ :: v.history)
          simp [changed?, hv.posted, hv.changed, ht.posted]
        queue := by
          change inOrder posted? (.posted _ :: .changed _ :: v.history)
            = (inOrder taken? (.posted _ :: .changed _ :: v.history)).map Prod.fst
              ++ (v.board.pending ++ [_])
          simp [hv.posted, hv.taken, hv.pending, ht.queue]
        numbers := by
          change (inOrder changed? (.posted _ :: .changed _ :: v.history)).map Change.number
            = List.range' 1 (l.changes + 1)
          simp [changed?, hv.changed, ht.numbers, hchanges, List.range'_1_concat, Nat.add_comm]
        path := by
          change Path .initial ((inOrder changed? (.posted _ :: .changed _ :: v.history)).map
            Change.status) s
          simp only [inOrder_cons, changed?, Option.toList_none, Option.toList_some,
            List.append_nil, List.map_append, List.map_cons, List.map_nil, hv.changed]
          exact ht.path.snoc hs }

/-- **Preserved by every small change.** -/
theorem step (ht : StatusInv w) (h : SmallStep u act w w') : StatusInv w' := by
  have hcoherent := coherentWorld_step ht.coherent h
  have horderly := (step_leads h).orderly ht.orderly
  have hown := step_own h ht.own
  cases step_status ht.coherent h with
  | quiet hq =>
      exact
        { coherent := hcoherent
          orderly := horderly
          own := hown
          posted := by rw [hq.posted, hq.changed, ht.posted]
          queue := by rw [hq.posted, hq.taken, hq.pending, ht.queue]
          numbers := by rw [hq.changed, hq.changes, ht.numbers]
          path := by rw [hq.changed, hq.status]; exact ht.path }
  | offered c hb hw =>
      -- there is no board of its own that changes could be put on from outside
      rw [ht.own] at hb
      exact absurd hb (by simp)
  | taken c rest ids hp hlink hpending hhistory =>
      exact
        { coherent := hcoherent
          orderly := horderly
          own := hown
          posted := by rw [hhistory]; simpa [changed?] using ht.posted
          queue := by
            rw [hhistory, hpending]
            simpa [hp] using ht.queue
          numbers := by rw [hhistory, hlink]; simpa [changed?] using ht.numbers
          path := by rw [hhistory, hlink]; simpa [changed?] using ht.path }
  -- numbers grow along the queue, so no change is older than one that was delivered
  | dropped c rest hp hd => exact absurd (ht.pending_lt hp) (Nat.not_lt.mpr hd)
  | turned v l s hv hw hstatus hchanges hgeneration hs hy =>
      subst hw
      exact ht.shift hv hstatus hchanges (.inl hs) hcoherent horderly hown
  | idle v l hv hw hstatus hchanges hgeneration hdown hattempts houtbound =>
      subst hw
      exact ht.shift hv hstatus hchanges (.inr hdown) hcoherent horderly hown

end StatusInv

theorem statusInv_runs (ht : StatusInv w) (h : Runs w w') : StatusInv w' :=
  runs_keep StatusInv.step ht h

/-! ## What one listener hears -/

/-- The calls of one listener. -/
def hears (l : Nat) (calls : List (Change × Nat)) : List Change :=
  calls.filterMap fun p => if p.2 = l then some p.1 else none

theorem hears_append (l : Nat) (xs ys : List (Change × Nat)) :
    hears l (xs ++ ys) = hears l xs ++ hears l ys := List.filterMap_append

/-- Whoever a change is for is called with it once. -/
theorem hears_block {l : Nat} {c : Change} {ids : List Nat} (hmem : l ∈ ids)
    (hsorted : ids.Pairwise (· < ·)) : hears l (block (c, ids)) = [c] := by
  obtain ⟨before, after, rfl⟩ := List.append_of_mem hmem
  obtain ⟨-, hafter, hbefore⟩ := List.pairwise_append.mp hsorted
  have hnone : ∀ ids : List Nat, l ∉ ids → hears l (block (c, ids)) = [] := by
    intro ids hl
    refine List.filterMap_eq_nil_iff.mpr ?_
    intro p hp
    obtain ⟨i, hi, rfl⟩ := List.mem_map.mp hp
    refine if_neg ?_
    rintro rfl
    exact hl hi
  -- the numbers of a list increase, so he is in it once
  have hsplit : block (c, before ++ l :: after)
      = block (c, before) ++ (c, l) :: block (c, after) := by
    simp [block]
  rw [hsplit, hears_append, hnone before, List.nil_append]
  · have hcons : hears l ((c, l) :: block (c, after)) = c :: hears l (block (c, after)) := by
      simp [hears]
    rw [hcons, hnone after]
    intro hl
    exact Nat.lt_irrefl l ((List.pairwise_cons.mp hafter).1 l hl)
  · intro hl
    exact Nat.lt_irrefl l (hbefore l hl l List.mem_cons_self)

/-- Whoever every change is for is called with every change. -/
theorem hears_blocks {l : Nat} {taken : List (Change × List Nat)}
    (h : ∀ t ∈ taken, l ∈ t.2 ∧ t.2.Pairwise (· < ·)) :
    hears l (taken.flatMap block) = taken.map Prod.fst := by
  induction taken with
  | nil => rfl
  | cons t rest ih =>
      obtain ⟨hmem, hsorted⟩ := h t List.mem_cons_self
      rw [List.flatMap_cons, hears_append, ih fun u hu => h u (List.mem_cons_of_mem _ hu),
        hears_block hmem hsorted]
      rfl

/-- No listener is being told of a change. Other code may run, a handler of an envelope too. -/
def Settled (w : World) : Prop := ∀ c rest, .announcement c rest ∉ w.stack

theorem settled_of_rest (hq : w.stack = []) : Settled w := by
  intro c rest h
  rw [hq] at h
  exact absurd h List.not_mem_nil

/-- So nobody is draining the queue, and nobody waits to be called. -/
theorem Settled.drainers (hq : Settled w) : (notifier w).drainers = [] := by
  have hnone : waitingDrainers w.stack = [] := by
    refine List.filterMap_eq_nil_iff.mpr ?_
    intro f hf
    cases f with
    | announcement c rest => exact absurd hf (hq c rest)
    | _ => rfl
  rcases hs : w.stack with _ | ⟨f, tail⟩
  · simp [notifier, hs, drainersOf, waitingDrainers]
  · rw [hs] at hnone
    cases f with
    | announcement c rest => exact absurd (by rw [hs]; exact List.mem_cons_self) (hq c rest)
    | _ => simpa only [notifier, hs, drainersOf] using hnone

/-- And the queue is empty, since whoever queued a change has drained it. -/
theorem Settled.pending (hq : Settled w) (ht : StatusInv w) : w.board.pending = [] := by
  rcases ht.orderly.alone with ⟨-, r, hr⟩ | ⟨-, -, hp⟩
  · rw [hq.drainers] at hr
    exact absurd hr (by simp)
  · exact hp

section Since

variable {w₀ : World} {new : List Event}

/-- What has changed since a settled world is what was taken and what is still queued. -/
theorem changed_since (ht₀ : StatusInv w₀) (ht : StatusInv w) (hq₀ : Settled w₀)
    (hnew : w.history = new ++ w₀.history) :
    inOrder changed? new = (inOrder taken? new).map Prod.fst ++ w.board.pending := by
  have hqueue := ht.queue
  have hposted := ht.posted
  have hqueue₀ := ht₀.queue
  rw [hq₀.pending ht₀, List.append_nil] at hqueue₀
  rw [hnew, inOrder_append, inOrder_append, ht₀.posted, List.append_cancel_left_eq] at hposted
  rw [hnew, inOrder_append, inOrder_append, List.map_append, ← hqueue₀, List.append_assoc,
    List.append_cancel_left_eq] at hqueue
  rw [← hposted, hqueue]

/-- The calls since a settled world, with those that are still to come. -/
theorem heard_since (ht₀ : StatusInv w₀) (ht : StatusInv w) (hq₀ : Settled w₀)
    (hnew : w.history = new ++ w₀.history) :
    inOrder heard? new ++ (notifier w).drainers.flatMap Drainer.left
      = (inOrder taken? new).flatMap block := by
  have hheard := ht.orderly.heard
  have hheard₀ := ht₀.orderly.heard
  rw [hq₀.drainers, List.flatMap_nil, List.append_nil] at hheard₀
  change inOrder heard? w.history ++ _ = (inOrder taken? w.history).flatMap block at hheard
  rw [hnew, inOrder_append, inOrder_append, List.flatMap_append, List.append_assoc] at hheard
  change inOrder heard? w₀.history = (inOrder taken? w₀.history).flatMap block at hheard₀
  rw [hheard₀, List.append_cancel_left_eq] at hheard
  exact hheard

/-- Whoever listens all along is among those whom every change is for. -/
theorem taken_since (ht : StatusInv w) {l : Nat} (hnew : w.history = new ++ w₀.history)
    (hl : l ∈ standing .board w₀.history) (hkept : .unsubscribed .board l ∉ new) :
    ∀ t ∈ inOrder taken? new, l ∈ t.2 ∧ t.2.Pairwise (· < ·) := by
  intro t htaken
  obtain ⟨e, he, hf⟩ := mem_inOrder.mp htaken
  -- a change is taken with the list of those it is for
  obtain rfl : e = .announced t.1 t.2 := by
    cases e with
    | announced c ids => rw [← Option.some.inj hf]
    | _ => exact absurd hf (by simp)
  obtain ⟨later, earlier, rfl⟩ := List.append_of_mem he
  -- when the change was taken he was registered, and no one has withdrawn him since
  have hsound : Sound (.announced t.1 t.2 :: (earlier ++ w₀.history)) := by
    have hs : Sound w.history := ht.orderly.sound
    rw [hnew, List.append_assoc] at hs
    exact hs.of_append
  refine ⟨?_, hsound.1.2.2⟩
  rw [hsound.1.2.1]
  refine standing_append hl fun h => hkept ?_
  exact List.mem_append_right _ (List.mem_cons_of_mem _ h)

/-- **Whoever listens all along is called with every change in turn**, and once no change is being
delivered he has been called with all of them. -/
theorem hears_since (ht₀ : StatusInv w₀) (ht : StatusInv w) (hq₀ : Settled w₀)
    (hnew : w.history = new ++ w₀.history) {l : Nat}
    (hl : l ∈ w₀.board.listeners.map Entry.id) (hkept : .unsubscribed .board l ∉ new) :
    hears l (inOrder heard? new) <+: inOrder changed? new
      ∧ (Settled w → hears l (inOrder heard? new) = inOrder changed? new) := by
  have hl : l ∈ standing .board w₀.history := ht₀.orderly.listeners ▸ hl
  have hcalls : hears l (inOrder heard? new)
      ++ (hears l ((notifier w).drainers.flatMap Drainer.left) ++ w.board.pending)
      = inOrder changed? new := by
    rw [changed_since ht₀ ht hq₀ hnew, ← List.append_assoc, ← hears_append,
      heard_since ht₀ ht hq₀ hnew, hears_blocks (taken_since ht hnew hl hkept)]
  constructor
  · exact ⟨_, hcalls⟩
  · intro hq
    rw [hq.drainers, hq.pending ht] at hcalls
    simpa [hears] using hcalls

/-- The status has gone from change to change. -/
theorem path_since (ht₀ : StatusInv w₀) (ht : StatusInv w) (hnew : w.history = new ++ w₀.history) :
    Path w₀.link.status ((inOrder changed? new).map Change.status) w.link.status := by
  have hpath := ht.path
  rw [hnew, inOrder_append, List.map_append] at hpath
  obtain ⟨s, hs, hpath⟩ := path_append.mp hpath
  -- both paths begin alike, so they are at the same status then
  obtain rfl : s = w₀.link.status := hs.last.trans ht₀.path.last.symm
  exact hpath

end Since

/-! ## What one listener notes -/

/-- A listener of the application that may be called under a number, now or later. -/
def Listens (w : World) (x : Nat) (name : String) (only : Option Status) (script : Script) : Prop :=
  ∀ as v l, w.actAll as = some v → KnownListener v l → l.id = x →
    l.handler = .app name only script

theorem Listens.after {x : Nat} {name : String} {only : Option Status} {script : Script}
    {a : Action} (hl : Listens w x name only script) (h : w.act a = some w') :
    Listens w' x name only script := by
  intro as v l has
  refine hl (a :: as) v l ?_
  rw [World.actAll, h]
  exact has

/-- Who is not called hears nothing. -/
theorem hears_of_none {x : Nat} {new : List Event} (h : ∀ e ∈ new, calledListener x e = false) :
    hears x (inOrder heard? new) = [] := by
  refine List.filterMap_eq_nil_iff.mpr fun t ht => if_neg ?_
  rintro rfl
  obtain ⟨e, he, hf⟩ := mem_inOrder.mp ht
  have hcalled := h e he
  cases e with
  | heard c id =>
      obtain rfl := Option.some.inj hf
      simp [calledListener] at hcalled
  | _ => exact absurd hf (by simp)

section Notes

variable {x : Nat} {name : String} {only : Option Status} {script : Script}

/-- A listener that an action calls notes the status down, and it notes nothing for a call that is
not made. -/
theorem act_status_notes {a : Action} (hl : Listens w x name only script)
    (h : w.act a = some w') :
    ∃ new, w'.history = new ++ w.history ∧ (∀ e ∈ new.head?, calledListener x e = false)
      ∧ notesBehind (calledListener x) new
        = (hears x (inOrder heard? new)).map fun c => .status name c.status := by
  -- the listener is called by this action, or the action has nothing of its
  by_cases hcall : a = .go ∧ ∃ c l rest tail,
      w.stack = .announcement c (l :: rest) :: tail ∧ l.id = x
  · obtain ⟨rfl, c, l, rest, tail, hs, rfl⟩ := hcall
    have hknown : KnownListener w l :=
      .inr ⟨c, l :: rest, hs ▸ List.mem_cons_self, List.mem_cons_self⟩
    have hlistener : l.handler = .app name only script := hl [] w l rfl hknown rfl
    obtain ⟨v, hgo, hnotified⟩ := go_notifies hs
    obtain rfl : v = w' := Option.some.inj (hgo.symm.trans h)
    cases hnotified with
    | runs hl' ho =>
        obtain ⟨rfl, rfl, rfl⟩ := Listener.app.inj (hl'.symm.trans hlistener)
        exact ⟨[_, _], rfl, by simp [calledListener],
          by simp [notesBehind, noteAfter, calledListener, hears]⟩
    | notes hl' ho =>
        obtain ⟨rfl, rfl, rfl⟩ := Listener.app.inj (hl'.symm.trans hlistener)
        exact ⟨[_, _], rfl, by simp [calledListener],
          by simp [notesBehind, noteAfter, calledListener, hears]⟩
    | announces hl' hc => exact absurd (hl'.symm.trans hlistener) (by simp)
    | passes hl' hc => exact absurd (hl'.symm.trans hlistener) (by simp)
  · obtain ⟨new, hnew, hmarks⟩ := act_marks h
    have hnone : ∀ e ∈ new, calledListener x e = false := by
      intro e he
      cases hmarks e he with
      | @heard c l rest tail hs ha =>
          refine decide_eq_false fun hid => hcall ?_
          exact ⟨ha, c, l, rest, tail, hs, hid⟩
      | called hs ha => rfl
      | other he =>
          cases e with
          | heard c id => exact absurd he (by simp [isCall])
          | _ => rfl
    refine ⟨new, hnew, fun e he => hnone e (List.mem_of_head? he), ?_⟩
    rw [notesBehind_of_none hnone, hears_of_none hnone]
    rfl

/-- **A listener notes down the status it is called with**, each time it is called. -/
theorem status_notes {as : List Action} (hl : Listens w x name only script)
    (h : w.actAll as = some w') :
    ∃ new, w'.history = new ++ w.history ∧ (∀ e ∈ new.head?, calledListener x e = false)
      ∧ notesBehind (calledListener x) new
        = (hears x (inOrder heard? new)).map fun c => .status name c.status := by
  induction as generalizing w with
  | nil =>
      obtain rfl := Option.some.inj h
      exact ⟨[], rfl, by simp, rfl⟩
  | cons a rest ih =>
      obtain ⟨v, hv, hrest⟩ := Option.bind_eq_some_iff.mp h
      obtain ⟨new, hnew, hhead, hnotes⟩ := act_status_notes hl hv
      obtain ⟨more, hmore, hhead', hnotes'⟩ := ih (hl.after hv) hrest
      refine ⟨more ++ new, by rw [hmore, hnew, List.append_assoc], ?_, ?_⟩
      · intro e he
        rw [List.head?_append] at he
        rcases Option.or_eq_some_iff.mp he with he | ⟨-, he⟩
        · exact hhead' e he
        · exact hhead e he
      · -- no action ends between the mark of a call and its note
        rw [notesBehind_append hhead, hnotes, hnotes', inOrder_append, hears_append,
          List.map_append]

end Notes

/-- **The status that was delivered last is the status**, unless a change is being delivered. -/
theorem delivered_status (ht : StatusInv w) (hq : Settled w) :
    ((inOrder taken? w.history).getLast?.map (·.1.status)).getD .initial = w.link.status := by
  have hqueue := ht.queue
  rw [hq.pending ht, List.append_nil, ht.posted] at hqueue
  rw [ht.path.last, hqueue, List.map_map, List.getLast?_map]
  rfl

/-! ## Who may change the status -/

/-- What only those may change who are entitled to. -/
structure Steady (l l' : Link) : Prop where
  status : l'.status = l.status
  attempts : l'.attempts = l.attempts
  outbound : l'.outbound = l.outbound

theorem Steady.refl (l : Link) : Steady l l := ⟨rfl, rfl, rfl⟩

theorem Steady.trans {l m n : Link} (h : Steady l m) (h' : Steady m n) : Steady l n :=
  ⟨h'.status.trans h.status, h'.attempts.trans h.attempts, h'.outbound.trans h.outbound⟩

/-- Generations only go up. -/
theorem step_generation (ht : StatusInv w) (h : SmallStep u act w w') :
    w.link.generation ≤ w'.link.generation := by
  cases step_status ht.coherent h with
  | quiet hq => exact Nat.le_of_eq hq.generation.symm
  | offered c hb hw => exact Nat.le_of_eq (by rw [hw, offer_link])
  | taken c rest ids hp hlink hpending hhistory => exact Nat.le_of_eq (by rw [hlink])
  | dropped c rest hp hd => exact absurd (ht.pending_lt hp) (Nat.not_lt.mpr hd)
  | turned v l s hv hw hstatus hchanges hgeneration hs hy => simpa [hw] using hgeneration
  | idle v l hv hw hstatus hchanges hgeneration hdown hattempts houtbound =>
      simpa [hw] using hgeneration

theorem rest_generations (w : World) (id : Nat) (p : Phase) :
    (w.rest id p).supervisors.map Supervisor.generation
      = w.supervisors.map Supervisor.generation :=
  map_modify w.supervisors id fun _ => rfl

theorem stopSupervisor_generations (w : World) (id : Option Nat) :
    (w.stopSupervisor id).supervisors.map Supervisor.generation
      = w.supervisors.map Supervisor.generation := by
  cases id with
  | none => rfl
  | some id => exact map_modify w.supervisors id fun _ => rfl

/-- Supervisors are added, and none changes its generation. -/
theorem step_generations (h : SmallStep u act w w') :
    w.supervisors.map Supervisor.generation <+: w'.supervisors.map Supervisor.generation := by
  -- but for the start of a supervisor the generations are the same ones
  have same : ∀ {v : World}, v.supervisors.map Supervisor.generation
      = w.supervisors.map Supervisor.generation →
      w.supervisors.map Supervisor.generation <+: v.supervisors.map Supervisor.generation :=
    fun h => h ▸ List.prefix_refl _
  cases h with
  | data h => exact same (by rw [data_supervisors h])
  | connect hy ha hr hm =>
      exact same (by simpa [World.push] using stopSupervisor_generations w _)
  | disconnect hy ha => exact same (by simpa using stopSupervisor_generations w _)
  | @start g previous tail hs =>
      unfold World.startSupervisor
      dsimp only
      split
      · simp
      · rw [stopSupervisor_generations]
        simp
  | resume hs =>
      unfold World.resume
      split
      · exact same (rest_generations _ _ _)
      · exact same (rest_generations _ _ _)
      · exact same (rest_generations _ _ _)
      · exact same rfl
  | dial hr hs hp => exact same (rest_generations w _ _)
  | wait hr hs hp hf => exact same (rest_generations w _ _)
  | @giveUp id p d s hr hs hp hf hd =>
      exact same ((rest_generations _ _ _).trans (stopSupervisor_generations w _))
  | retry hy hr hs hp hd ht => exact same (by simp [World.push])
  | leave hr hs hg hl => exact same (rest_generations w _ _)
  | halt hr hs hp => exact same (rest_generations w _ _)
  | opened hy hr hs hp ht =>
      exact same (by simpa [World.push, World.happen] using rest_generations _ _ _)
  | failed hy hr hs hp ht hl => exact same (by simp [World.push, World.happen])
  | wroteClose hr hs hp hq ho => exact same (rest_generations w _ _)
  | _ => exact same rfl

/-- A supervisor that is superseded stays so. -/
theorem before_step (ht : StatusInv w) {id : Nat} (hid : Before w.supervisors id w.link.generation)
    (h : SmallStep u act w w') : Before w'.supervisors id w'.link.generation := by
  obtain ⟨g, hg, hlt⟩ := (before_iff _ _).mp hid
  obtain ⟨more, hmore⟩ := step_generations h
  refine (before_iff _ _).mpr ⟨g, ?_, Nat.lt_of_lt_of_le hlt (step_generation ht h)⟩
  have hlength := (List.getElem?_eq_some_iff.mp hg).1
  rw [← hmore, List.getElem?_append_left hlength]
  exact hg

theorem before_runs (ht : StatusInv w) {id : Nat} (hid : Before w.supervisors id w.link.generation)
    (h : Runs w w') : Before w'.supervisors id w'.link.generation := by
  have hkept : StatusInv w' ∧ Before w'.supervisors id w'.link.generation :=
    runs_keep (P := fun v => StatusInv v ∧ Before v.supervisors id v.link.generation)
      (fun hv hd => ⟨hv.1.step hd, before_step hv.1 hv.2 hd⟩) ⟨ht, hid⟩ h
  exact hkept.2

/-- A supervisor of no or of an earlier generation than the current one is superseded. -/
theorem before_of_ne (hw : CoherentWorld w) {id : Nat} {s : Supervisor}
    (hs : w.supervisors[id]? = some s)
    (hne : s.generation ≠ w.link.generation ∨ w.link.status = .disconnected) :
    Before w.supervisors id w.link.generation := by
  refine ⟨s, hs, Nat.lt_of_le_of_ne (hw.le _ (mem_generations hs)) ?_⟩
  rcases hne with hne | hd
  · exact hne
  · -- a client that is disconnected has no supervisor of its generation
    intro hg
    exact (hw.down hd).1 (hg ▸ mem_generations hs)

/-- Who may not change the status: nobody who is asked to connect, or to disconnect a client that
is connected, and no supervisor of the current generation. -/
structure Powerless (y : Cause) (w : World) : Prop where
  connect : y ≠ .asked .connect
  disconnect : y = .asked .disconnect → w.link.status = .disconnected
  supervisor : ∀ id, y = .supervisor id → Before w.supervisors id w.link.generation

theorem Powerless.not_entitled (hp : Powerless y w) : ¬ Entitled y w := by
  rintro (hy | ⟨hup, hy | ⟨id, s, hy, hs, hg⟩⟩)
  · exact hp.connect hy
  · exact hup (hp.disconnect hy)
  · obtain ⟨s', hs', hlt⟩ := hp.supervisor id hy
    obtain rfl : s' = s := Option.some.inj (hs'.symm.trans hs)
    exact Nat.ne_of_lt hlt hg

/-- Who may not change the status does not, and gets no right to by what he does. -/
theorem Powerless.step (ht : StatusInv w) (hp : Powerless (cause u act) w)
    (h : SmallStep u act w w') : Steady w.link w'.link ∧ Powerless (cause u act) w' := by
  have hsteady : Steady w.link w'.link := by
    cases step_status ht.coherent h with
    | quiet hq => exact ⟨hq.status, hq.attempts, hq.outbound⟩
    | offered c hb hw => exact hw ▸ Steady.refl _
    | taken c rest ids hp hlink hpending hhistory => exact hlink ▸ Steady.refl _
    | dropped c rest hp hd => exact absurd (ht.pending_lt hp) (Nat.not_lt.mpr hd)
    | turned v l s hv hw hstatus hchanges hgeneration hs hy => exact absurd hy hp.not_entitled
    | idle v l hv hw hstatus hchanges hgeneration hdown hattempts houtbound =>
        subst hw
        exact ⟨by simp [hdown], by simp [hattempts], by simp [houtbound]⟩
  -- what was superseded stays so, and a client that was down stays down
  refine ⟨hsteady, hp.connect, fun hy => hsteady.status.trans (hp.disconnect hy), ?_⟩
  intro id hy
  exact before_step ht (hp.supervisor id hy) h

/-- So a whole action of his leaves it. -/
theorem Powerless.steps (ht : StatusInv w) (hp : Powerless (cause u act) w)
    (h : SmallSteps u act w w') : Steady w.link w'.link := by
  suffices hall : StatusInv w' ∧ Steady w.link w'.link
      ∧ Powerless (cause u act) w' from hall.2.1
  induction h with
  | refl => exact ⟨ht, .refl _, hp⟩
  | tail _ hd ih =>
      obtain ⟨ht', hsteady, hp'⟩ := ih
      obtain ⟨hstep, hp''⟩ := hp'.step ht' hd
      exact ⟨ht'.step hd, hsteady.trans hstep, hp''⟩

/-- A supervisor that does something is there. -/
theorem exists_of_cause {a : Action} {id : Nat} (h : w.act a = some w')
    (hc : cause w a = .supervisor id) : ∃ s, w.supervisors[id]? = some s := by
  have of_step : ∀ {id' : Nat} {stopped : Bool} {step : World → Nat → Supervisor → Option World},
      id' = id → w.supervisorStep id' stopped step = some w' →
      ∃ s, w.supervisors[id]? = some s := by
    rintro id' stopped step rfl hstep
    obtain ⟨s, hr, -, -⟩ := atRest_of_supervisorStep hstep
    exact ⟨s, hr.supervisor⟩
  cases a with
  | command c => exact absurd hc (by simp [cause])
  | go =>
      simp only [cause] at hc
      split at hc <;> exact absurd hc (by simp)
  | pass nanos => exact absurd hc (by simp [cause])
  | answered id' accepted =>
      simp only [World.act] at h
      exact of_step (Cause.supervisor.inj hc) h
  | read id' i =>
      simp only [World.act] at h
      exact of_step (Cause.supervisor.inj hc) h
  | _ => exact of_step (Cause.supervisor.inj hc) h

/-- **Only who is entitled to changes the status**, the count of attempts or the queue of what is
sent. -/
theorem act_steady (ht : StatusInv w) {a : Action} (h : w.act a = some w')
    (hn : ¬ Entitled (cause w a) w) : Steady w.link w'.link := by
  refine Powerless.steps ht ⟨fun hy => hn (.inl hy), ?_, ?_⟩ (act_steps h)
  · intro hy
    by_contra hup
    exact hn (.inr ⟨hup, .inl hy⟩)
  · intro id hy
    obtain ⟨s, hs⟩ := exists_of_cause h hy
    refine before_of_ne ht.coherent hs ?_
    by_contra hboth
    obtain ⟨hg, hup⟩ := not_or.mp hboth
    exact hn (.inr ⟨hup, .inr ⟨id, s, hy, hs, not_not.mp hg⟩⟩)

/-! ## The history of the status -/

/-- What a run from one world to another shows of the status, given what has happened since. -/
structure Shown (w₀ w : World) (new : List Event) : Prop where
  since : w.history = new ++ w₀.history
  /-- Whoever listens all along is called with every change in turn, and has been called with all of
  them once no change is being delivered. -/
  heard : ∀ l ∈ w₀.board.listeners.map Entry.id, .unsubscribed .board l ∉ new →
    hears l (inOrder heard? new) <+: inOrder changed? new
      ∧ (Settled w → hears l (inOrder heard? new) = inOrder changed? new)
  /-- Whoever listens and is called, in whatever world the run passes through, is called with the
  status that its change is to. -/
  called : ∀ l ∈ w₀.board.listeners, ∀ as v c l' rest tail, w₀.actAll as = some v →
    v.stack = .announcement c (l' :: rest) :: tail → l'.id = l.id →
    l' = l ∧ ∃ v', v.go = some v' ∧ Notified v c l rest tail v'
  /-- So a listener of the application has noted down the status of every change in turn, and those
  of all of them once no change is being delivered. -/
  noted : ∀ l ∈ w₀.board.listeners, .unsubscribed .board l.id ∉ new →
    ∀ name only script, l.handler = .app name only script →
    notesBehind (calledListener l.id) new
        <+: (inOrder changed? new).map (fun c => .status name c.status)
      ∧ (Settled w → notesBehind (calledListener l.id) new
        = (inOrder changed? new).map fun c => .status name c.status)
  path : Path w₀.link.status ((inOrder changed? new).map Change.status) w.link.status
  /-- The status that was delivered last is the status. -/
  delivered : Settled w →
    ((inOrder taken? w.history).getLast?.map (·.1.status)).getD .initial = w.link.status
  /-- Only `connect` ends a disconnection. -/
  down : ∀ a w', w.act a = some w' → w.link.status = .disconnected →
    cause w a ≠ .asked .connect → Steady w.link w'.link
  /-- A supervisor that was superseded at first, or had been left when the client disconnected,
  changes nothing any more. -/
  superseded : ∀ id s, w₀.supervisors[id]? = some s →
    (s.generation ≠ w₀.link.generation ∨ w₀.link.status = .disconnected) →
    ∀ a w', w.act a = some w' → cause w a = .supervisor id → Steady w.link w'.link
  /-- Nor does anything else that is neither asked to connect or disconnect nor the step of the
  current supervisor. -/
  steady : ∀ a w', w.act a = some w' → ¬ Entitled (cause w a) w → Steady w.link w'.link

/-- **Listeners learn of every change of the status, in order, and of nothing else.**

A run of a client goes on from any world in which no change is being delivered: commands from
outside, calls that handlers and listeners make, failures of these, and the steps of all
supervisors, those of earlier generations too, in any order.
-/
theorem status_history {router client : Bool} {setup : Setup} {hasRuntime : Bool}
    {stamps : Nat → Stamp} {before as : List Action} {w₀ w : World}
    (h₀ : (World.initial ⟨router, false, client⟩ setup hasRuntime stamps).actAll before = some w₀)
    (hq₀ : Settled w₀) (h : w₀.actAll as = some w) : ∃ new, Shown w₀ w new := by
  have ht₀ : StatusInv w₀ :=
    statusInv_runs (statusInv_initial router client setup hasRuntime stamps) (actAll_runs h₀)
  have hruns := actAll_runs h
  have ht := statusInv_runs ht₀ hruns
  obtain ⟨new, hnew⟩ := (runs_leads hruns).history
  -- whoever has the number of a listener is that listener
  have hsame : ∀ l ∈ w₀.board.listeners, ∀ as v l', w₀.actAll as = some v → KnownListener v l' →
      l'.id = l.id → l' = l :=
    fun l hl as v l' has hl' hid => listener_since h₀ has (.inl hl) hl' hid
  refine ⟨new, hnew, fun l hl hkept => hears_since ht₀ ht hq₀ hnew hl hkept, ?_, ?_,
    path_since ht₀ ht hnew, delivered_status ht, ?_, ?_, fun a w' ha => act_steady ht ha⟩
  · intro l hl as v c l' rest tail has hs hid
    have hknown : KnownListener v l' :=
      .inr ⟨c, l' :: rest, hs ▸ List.mem_cons_self, List.mem_cons_self⟩
    obtain rfl := hsame l hl as v l' has hknown hid
    exact ⟨rfl, go_notifies hs⟩
  · intro l hl hkept name only script hlistener
    have hlistens : Listens w₀ l.id name only script := by
      intro as v l' has hl' hid
      rw [hsame l hl as v l' has hl' hid]
      exact hlistener
    obtain ⟨new', hnew', -, hnotes⟩ := status_notes hlistens h
    obtain rfl : new' = new := List.append_cancel_right (hnew'.symm.trans hnew)
    obtain ⟨hcalled, hall⟩ :=
      hears_since ht₀ ht hq₀ hnew (List.mem_map_of_mem hl) hkept
    rw [hnotes]
    exact ⟨hcalled.map _, fun hq => by rw [hall hq]⟩
  · intro a w' ha hd hc
    refine act_steady ht ha ?_
    rintro (hy | ⟨hup, -⟩)
    · exact hc hy
    · exact hup hd
  · intro id s hs hne a w' ha hy
    have hbefore := before_runs ht₀ (before_of_ne ht₀.coherent hs hne) hruns
    refine act_steady ht ha ?_
    rintro (hc | ⟨-, hc | ⟨id', s', hy', hs', hg⟩⟩)
    · rw [hy] at hc
      exact Cause.noConfusion hc
    · rw [hy] at hc
      exact Cause.noConfusion hc
    · obtain rfl : id = id' := Cause.supervisor.inj (hy.symm.trans hy')
      obtain ⟨s'', hs'', hlt⟩ := hbefore
      obtain rfl : s'' = s' := Option.some.inj (hs''.symm.trans hs')
      exact Nat.ne_of_lt hlt hg

/-- Two listeners. The first one disconnects, connects again and fails when the first connection is
there; the second one only watches. -/
def watchedSetup : List Action :=
  [.command (.listen "restless" (some .connected) fun run =>
      if run = 0 then [.disconnect, .connect, .fail none] else []),
    .command (.listen "watcher" none fun _ => [])]

/-- The client connects, and the first listener interferes. -/
def watchedRun : List Action :=
  .command .connect :: List.replicate 6 .go ++ [.wake 0, .answered 0 true]
    ++ List.replicate 18 .go

/-- The second listener has seen it all, in order, and noted it down. -/
theorem status_history_watched :
    ∃ w₀ w new, (World.initial ⟨true, false, true⟩ .standard true fun _ => ⟨"m1", .epoch⟩).actAll
        watchedSetup = some w₀
      ∧ w₀.stack = [] ∧ w₀.actAll watchedRun = some w ∧ w.stack = []
      ∧ (hears 2 (inOrder heard? w.history)).map Change.status
        = [.connecting, .connected, .disconnected, .connecting]
      ∧ notesBehind (calledListener 2) w.history
        = [.status "watcher" .connecting, .status "watcher" .connected,
          .status "watcher" .disconnected, .status "watcher" .connecting]
      ∧ Shown w₀ w new := by
  obtain ⟨w₀, w, h₀, hq₀, h, hq, hheard, hnotes⟩ : ∃ w₀ w,
      (World.initial ⟨true, false, true⟩ .standard true fun _ => ⟨"m1", .epoch⟩).actAll
        watchedSetup = some w₀
      ∧ w₀.stack = [] ∧ w₀.actAll watchedRun = some w ∧ w.stack = []
      ∧ (hears 2 (inOrder heard? w.history)).map Change.status
        = [.connecting, .connected, .disconnected, .connecting]
      ∧ notesBehind (calledListener 2) w.history
        = [.status "watcher" .connecting, .status "watcher" .connected,
          .status "watcher" .disconnected, .status "watcher" .connecting] :=
    ⟨_, _, rfl, rfl, rfl, rfl, rfl, rfl⟩
  obtain ⟨new, hshown⟩ := status_history h₀ (settled_of_rest hq₀) h
  exact ⟨w₀, w, new, h₀, hq₀, h, hq, hheard, hnotes, hshown⟩

end LiveLink.Proofs
