import LiveLink.Proofs.Histories
import LiveLink.Proofs.ControlStates

/-!
# What is sent and what is written

Sending puts an envelope on the queue of the session that is live, and only a
session takes envelopes off its queue. In between the client may be disconnected
and connected again, also by the handlers that send. The queue of a socket goes
by the number of the socket, and what holds as long as a supervisor is in session
on it is a law of conservation:

  what was accepted = what was written ++ what is on the queue.

A session that breaks off leaves its queue behind with nobody to write it, and a
session that writes its close frame has found the queue empty.

`Allowed` says what a history must be like before each event about a socket. The
invariant shows that no other event happens, and the theorem is read off from it.
-/

namespace LiveLink.Proofs

open LiveLink

/-! ## Sockets in the history -/

/-- The envelopes that were accepted for a socket. -/
def accepted (k : Nat) : List Event → List Envelope :=
  inOrder fun
    | .queued k' e => if k' = k then some e else none
    | _ => none

/-- The envelopes that were written to a socket. -/
def written (k : Nat) : List Event → List Envelope :=
  inOrder fun
    | .wrote k' e => if k' = k then some e else none
    | _ => none

/-- The socket of the session that is live after a history: the last that was opened, as long as
the client has stayed connected since. -/
def liveIn : List Event → Option Nat
  | [] => none
  | .opened _ k :: _ => some k
  | .changed c :: earlier => if c.status = .connected then liveIn earlier else none
  | _ :: earlier => liveIn earlier

/-- The socket that is opened, or takes or writes something. -/
def socketOf : Event → Option Nat
  | .opened _ k | .queued k _ | .wrote k _ | .wroteClose k => some k
  | _ => none

/-- What must have happened before an event about a socket. -/
def Allowed (earlier : List Event) : Event → Prop
  | .opened _ k => ∀ e ∈ earlier, socketOf e ≠ some k
  | .queued k _ => liveIn earlier = some k ∧ .wroteClose k ∉ earlier
  | .wrote k e =>
    (∃ rest, accepted k earlier = written k earlier ++ e :: rest) ∧ .wroteClose k ∉ earlier
  | .wroteClose k =>
    written k earlier = accepted k earlier ∧ liveIn earlier ≠ some k ∧ .wroteClose k ∉ earlier
  | _ => True

/-- Every event was allowed when it happened. -/
def Lawful : List Event → Prop
  | [] => True
  | e :: earlier => Allowed earlier e ∧ Lawful earlier

/-- Nothing happens to a socket, and the same session stays live. -/
def quiet : Event → Bool
  | .opened .. | .queued .. | .wrote .. | .wroteClose _ | .changed _ => false
  | _ => true

section Histories

variable {history earlier new : List Event} {e : Event} {k : Nat}

theorem accepted_of_ne (h : socketOf e ≠ some k) :
    accepted k (e :: history) = accepted k history := by
  refine inOrder_of_none ?_ history
  cases e with
  | queued k' e => exact if_neg fun hk => h (congrArg some hk)
  | _ => rfl

theorem written_of_ne (h : socketOf e ≠ some k) : written k (e :: history) = written k history := by
  refine inOrder_of_none ?_ history
  cases e with
  | wrote k' e => exact if_neg fun hk => h (congrArg some hk)
  | _ => rfl

theorem accepted_queued (k : Nat) (e : Envelope) (history : List Event) :
    accepted k (.queued k e :: history) = accepted k history ++ [e] :=
  inOrder_of_some (if_pos rfl) history

theorem written_wrote (k : Nat) (e : Envelope) (history : List Event) :
    written k (.wrote k e :: history) = written k history ++ [e] :=
  inOrder_of_some (if_pos rfl) history

theorem accepted_wrote (k k' : Nat) (e : Envelope) (history : List Event) :
    accepted k (.wrote k' e :: history) = accepted k history := inOrder_of_none rfl history

theorem written_queued (k k' : Nat) (e : Envelope) (history : List Event) :
    written k (.queued k' e :: history) = written k history := inOrder_of_none rfl history

theorem socketOf_quiet (h : quiet e = true) : socketOf e = none := by
  cases e <;> simp_all [quiet, socketOf]

theorem liveIn_quiet (h : ∀ e ∈ new, quiet e = true) :
    liveIn (new ++ history) = liveIn history := by
  induction new with
  | nil => rfl
  | cons e rest ih =>
      have ih := ih fun e he => h e (List.mem_cons_of_mem _ he)
      have he := h e List.mem_cons_self
      rw [← ih]
      cases e with
      | opened id k => exact absurd he Bool.false_ne_true
      | changed c => exact absurd he Bool.false_ne_true
      | _ => rfl

theorem accepted_append (h : ∀ e ∈ new, socketOf e ≠ some k) :
    accepted k (new ++ history) = accepted k history := by
  induction new with
  | nil => rfl
  | cons e rest ih =>
      rw [List.cons_append, accepted_of_ne (h e List.mem_cons_self)]
      exact ih fun e he => h e (List.mem_cons_of_mem _ he)

theorem written_append (h : ∀ e ∈ new, socketOf e ≠ some k) :
    written k (new ++ history) = written k history := by
  induction new with
  | nil => rfl
  | cons e rest ih =>
      rw [List.cons_append, written_of_ne (h e List.mem_cons_self)]
      exact ih fun e he => h e (List.mem_cons_of_mem _ he)

theorem not_mem_append (h : ∀ e ∈ new, socketOf e ≠ some k) (hk : .wroteClose k ∉ history) :
    .wroteClose k ∉ new ++ history := by
  intro hmem
  rcases List.mem_append.mp hmem with hmem | hmem
  · exact h _ hmem rfl
  · exact hk hmem

/-! ## Lawful histories -/

theorem Lawful.append (h : Lawful history) (hnew : ∀ e ∈ new, socketOf e = none) :
    Lawful (new ++ history) := by
  induction new with
  | nil => exact h
  | cons e rest ih =>
      refine ⟨?_, ih fun e he => hnew e (List.mem_cons_of_mem _ he)⟩
      have he := hnew e List.mem_cons_self
      cases e with
      | opened id k => exact absurd he (Option.some_ne_none k)
      | queued k e => exact absurd he (Option.some_ne_none k)
      | wrote k e => exact absurd he (Option.some_ne_none k)
      | wroteClose k => exact absurd he (Option.some_ne_none k)
      | _ => trivial

theorem Lawful.of_append {later : List Event} (h : Lawful (later ++ earlier)) : Lawful earlier := by
  induction later with
  | nil => exact h
  | cons e rest ih => exact ih h.2

/-- **A session writes the first of what was accepted for it, in order and each once.** -/
theorem Lawful.written_prefix (h : Lawful history) (k : Nat) :
    written k history <+: accepted k history := by
  induction history with
  | nil => exact List.prefix_rfl
  | cons e earlier ih =>
      have ih := ih h.2
      by_cases he : socketOf e = some k
      · cases e with
        | queued k' e =>
            obtain rfl := Option.some.inj he
            rw [written_queued, accepted_queued]
            exact ih.trans (List.prefix_append _ _)
        | wrote k' e =>
            obtain rfl := Option.some.inj he
            -- what is written is the next of what was accepted
            obtain ⟨⟨rest, hrest⟩, -⟩ := h.1
            refine ⟨rest, ?_⟩
            rw [written_wrote, accepted_wrote, hrest]
            simp
        | opened id k' => exact ih
        | wroteClose k' => exact ih
        | _ => exact absurd he (by simp [socketOf])
      · rw [accepted_of_ne he, written_of_ne he]
        exact ih

/-- Nothing is accepted for a session or written by it once it has written its close frame. -/
theorem Lawful.after_close {later : List Event} (h : Lawful (later ++ .wroteClose k :: earlier)) :
    accepted k (later ++ .wroteClose k :: earlier) = accepted k earlier
      ∧ written k (later ++ .wroteClose k :: earlier) = written k earlier := by
  induction later with
  | nil => exact ⟨inOrder_of_none rfl earlier, inOrder_of_none rfl earlier⟩
  | cons e rest ih =>
      obtain ⟨hacc, hwr⟩ := ih h.2
      have hclosed : Event.wroteClose k ∈ rest ++ .wroteClose k :: earlier :=
        List.mem_append_right _ List.mem_cons_self
      rw [List.cons_append, ← hacc, ← hwr]
      -- whatever changes either list is allowed only before the close frame
      by_cases he : socketOf e = some k
      · cases e with
        | queued k' e =>
            obtain rfl := Option.some.inj he
            exact absurd hclosed h.1.2
        | wrote k' e =>
            obtain rfl := Option.some.inj he
            exact absurd hclosed h.1.2
        | opened id k' => exact ⟨rfl, rfl⟩
        | wroteClose k' => exact ⟨rfl, rfl⟩
        | _ => exact absurd he (by simp [socketOf])
      · exact ⟨accepted_of_ne he, written_of_ne he⟩

end Histories

/-! ## Queues -/

/-- The queues of the sockets agree with the history, given which session is live and which
supervisors are in session on which sockets. -/
structure QueueInv (live : Option Nat) (sockets : List Socket) (talks : Nat → Nat → Prop)
    (history : List Event) : Prop where
  live : liveIn history = live
  known : ∀ e ∈ history, ∀ k, socketOf e = some k → k < sockets.length
  owner : ∀ i j k, talks i k → talks j k → i = j
  intact : ∀ id k, talks id k → ∃ queue, sockets[k]? = some ⟨queue⟩
    ∧ accepted k history = written k history ++ queue ∧ .wroteClose k ∉ history
  lawful : Lawful history

namespace QueueInv

variable {live live' : Option Nat} {sockets sockets' : List Socket}
  {talks talks' : Nat → Nat → Prop} {history new : List Event} {id k : Nat} {e : Envelope}

theorem empty (h : ∀ id k, ¬ talks id k) : QueueInv none [] talks [] where
  live := rfl
  known := by intro e he; exact absurd he List.not_mem_nil
  owner := by intro i j k hi; exact absurd hi (h i k)
  intact := by intro id k hk; exact absurd hk (h id k)
  lawful := trivial

/-- Nothing happens to the sockets that supervisors are still in session on. -/
theorem keep (h : QueueInv live sockets talks history) (hnew : ∀ e ∈ new, socketOf e = none)
    (hlive : liveIn (new ++ history) = live') (hlen : sockets'.length = sockets.length)
    (ht : ∀ id k, talks' id k → talks id k ∧ sockets'[k]? = sockets[k]?) :
    QueueInv live' sockets' talks' (new ++ history) := by
  have hnone : ∀ k, ∀ e ∈ new, socketOf e ≠ some k := by
    intro k e he
    rw [hnew e he]
    exact (Option.some_ne_none k).symm
  refine ⟨hlive, ?_, ?_, ?_, h.lawful.append hnew⟩
  · intro e he k hk
    rw [hlen]
    rcases List.mem_append.mp he with he | he
    · exact absurd hk (hnone k e he)
    · exact h.known e he k hk
  · intro i j k hi hj
    exact h.owner i j k (ht i k hi).1 (ht j k hj).1
  · intro id k hk
    obtain ⟨htalks, hsame⟩ := ht id k hk
    obtain ⟨queue, hq, hacc, hclose⟩ := h.intact id k htalks
    refine ⟨queue, hsame.trans hq, ?_, not_mem_append (hnone k) hclose⟩
    rw [accepted_append (hnone k), written_append (hnone k)]
    exact hacc

/-- An envelope is accepted for the live session. -/
theorem queue (h : QueueInv live sockets talks history) (hk : talks id k) (hlive : live = some k) :
    QueueInv live (sockets.modify k fun s => { s with queue := s.queue ++ [e] }) talks
      (.queued k e :: history) := by
  obtain ⟨queue, hq, hacc, hclose⟩ := h.intact id k hk
  refine ⟨h.live, ?_, h.owner, ?_, ⟨h.live.trans hlive, hclose⟩, h.lawful⟩
  · intro e' he' k' hk'
    rw [List.length_modify]
    rcases List.mem_cons.mp he' with rfl | he'
    · obtain rfl := Option.some.inj hk'
      exact (List.getElem?_eq_some_iff.mp hq).1
    · exact h.known e' he' k' hk'
  · intro id' k' hk'
    by_cases hkk : k = k'
    · subst hkk
      refine ⟨queue ++ [e], ?_, ?_, ?_⟩
      · rw [List.getElem?_modify_eq, hq]
        rfl
      · rw [accepted_queued, written_queued, hacc, List.append_assoc]
      · simpa using hclose
    · obtain ⟨queue', hq', hacc', hclose'⟩ := h.intact id' k' hk'
      have hne : socketOf (.queued k e) ≠ some k' := fun heq => hkk (Option.some.inj heq)
      refine ⟨queue', ?_, ?_, by simpa using hclose'⟩
      · rw [List.getElem?_modify_ne _ _ hkk]
        exact hq'
      · rw [accepted_of_ne hne, written_of_ne hne]
        exact hacc'

/-- A session writes the first envelope on its queue. -/
theorem write (h : QueueInv live sockets talks history) {queue : List Envelope} (hk : talks id k)
    (hq : sockets[k]? = some ⟨e :: queue⟩) :
    QueueInv live (sockets.set k ⟨queue⟩) talks (.wrote k e :: history) := by
  obtain ⟨whole, hwhole, hacc, hclose⟩ := h.intact id k hk
  obtain rfl : whole = e :: queue := by
    rw [hq] at hwhole
    exact (Socket.mk.inj (Option.some.inj hwhole)).symm
  have hlt : k < sockets.length := (List.getElem?_eq_some_iff.mp hq).1
  refine ⟨h.live, ?_, h.owner, ?_, ⟨⟨queue, hacc⟩, hclose⟩, h.lawful⟩
  · intro e' he' k' hk'
    rw [List.length_set]
    rcases List.mem_cons.mp he' with rfl | he'
    · obtain rfl := Option.some.inj hk'
      exact hlt
    · exact h.known e' he' k' hk'
  · intro id' k' hk'
    by_cases hkk : k = k'
    · subst hkk
      refine ⟨queue, List.getElem?_set_self hlt, ?_, by simpa using hclose⟩
      rw [accepted_wrote, written_wrote, hacc]
      simp
    · obtain ⟨queue', hq', hacc', hclose'⟩ := h.intact id' k' hk'
      have hne : socketOf (.wrote k e) ≠ some k' := fun heq => hkk (Option.some.inj heq)
      refine ⟨queue', ?_, ?_, by simpa using hclose'⟩
      · rw [List.getElem?_set_ne hkk]
        exact hq'
      · rw [accepted_of_ne hne, written_of_ne hne]
        exact hacc'

/-- A session that is no longer live has an empty queue and writes its close frame. -/
theorem close (h : QueueInv live sockets talks history) (hk : talks id k)
    (hq : ∀ e queue, sockets[k]? ≠ some ⟨e :: queue⟩) (hlive : live ≠ some k)
    (ht : ∀ j m, talks' j m → talks j m ∧ j ≠ id) :
    QueueInv live sockets talks' (.wroteClose k :: history) := by
  obtain ⟨queue, hqueue, hacc, hclose⟩ := h.intact id k hk
  obtain rfl : queue = [] := by
    cases queue with
    | nil => rfl
    | cons e rest => exact absurd hqueue (hq e rest)
  have hall : written k history = accepted k history := by rw [hacc, List.append_nil]
  refine ⟨h.live, ?_, ?_, ?_, ⟨hall, h.live ▸ hlive, hclose⟩, h.lawful⟩
  · intro e' he' k' hk'
    rcases List.mem_cons.mp he' with rfl | he'
    · obtain rfl := Option.some.inj hk'
      exact (List.getElem?_eq_some_iff.mp hqueue).1
    · exact h.known e' he' k' hk'
  · intro i j m hi hj
    exact h.owner i j m (ht i m hi).1 (ht j m hj).1
  · intro j m hj
    obtain ⟨htalks, hne⟩ := ht j m hj
    -- nobody else is in session on the socket
    have hkm : k ≠ m := by
      rintro rfl
      exact hne (h.owner j id k htalks hk)
    obtain ⟨queue', hq', hacc', hclose'⟩ := h.intact j m htalks
    refine ⟨queue', hq', hacc', ?_⟩
    simpa [Ne.symm hkm] using hclose'

/-- A session starts on a new socket. -/
theorem opened (h : QueueInv live sockets talks history)
    (ht : ∀ j m, talks' j m → (j = id ∧ m = sockets.length) ∨ talks j m) :
    QueueInv (some sockets.length) (sockets ++ [⟨[]⟩]) talks'
      (.opened id sockets.length :: history) := by
  -- nothing has happened to the socket, and nobody was in session on it
  have hfresh : ∀ e ∈ history, socketOf e ≠ some sockets.length := by
    intro e he hk
    exact absurd (h.known e he _ hk) (Nat.lt_irrefl _)
  have hold : ∀ j m, talks j m → m < sockets.length := by
    intro j m hj
    obtain ⟨queue, hq, -⟩ := h.intact j m hj
    exact (List.getElem?_eq_some_iff.mp hq).1
  refine ⟨rfl, ?_, ?_, ?_, hfresh, h.lawful⟩
  · intro e he k hk
    rw [List.length_append, List.length_singleton]
    rcases List.mem_cons.mp he with rfl | he
    · obtain rfl := Option.some.inj hk
      exact Nat.lt_succ_self _
    · exact Nat.lt_succ_of_lt (h.known e he k hk)
  · intro i j m hi hj
    rcases ht i m hi with ⟨rfl, hm⟩ | hi <;> rcases ht j m hj with ⟨rfl, hm'⟩ | hj
    · rfl
    · have := hold j m hj
      omega
    · have := hold i m hi
      omega
    · exact h.owner i j m hi hj
  · intro j m hj
    rcases ht j m hj with ⟨-, rfl⟩ | hj
    · refine ⟨[], by simp, ?_, ?_⟩
      · have hacc : accepted sockets.length (history ++ []) = accepted sockets.length [] :=
          accepted_append hfresh
        have hwr : written sockets.length (history ++ []) = written sockets.length [] :=
          written_append hfresh
        rw [List.append_nil] at hacc hwr
        rw [List.append_nil]
        exact hacc.trans hwr.symm
      · intro hmem
        rcases List.mem_cons.mp hmem with hmem | hmem
        · exact absurd hmem (by simp)
        · exact hfresh _ hmem rfl
    · obtain ⟨queue, hq, hacc, hclose⟩ := h.intact j m hj
      refine ⟨queue, ?_, hacc, by simpa using hclose⟩
      rw [List.getElem?_append_left (hold j m hj)]
      exact hq

end QueueInv

/-! ## Who is in session -/

/-- A supervisor is in session on a socket, or is about to go on with that session. -/
def Talks (w : World) (id k : Nat) : Prop := (control w id).map Control.stage = some (.inSession k)

/-- The queues of a world agree with its history. -/
def WorldQueueInv (w : World) : Prop := QueueInv w.link.outbound w.sockets (Talks w) w.history

variable {u w w' x : World} {act : Action} {id j k : Nat} {s : Supervisor}

theorem talks_congr (h : Talks w' id k) (hcontrol : ∀ j, control w' j = control w j) :
    Talks w id k := by
  unfold Talks at h ⊢
  rw [← hcontrol]
  exact h

theorem AtRest.talks (hr : AtRest w id s) (hp : s.phase = .inSession k) : Talks w id k := by
  rw [Talks, hr.control, hp]
  rfl

/-- Stopping a supervisor leaves it where it is. -/
theorem talks_stop {o : Option Nat} (h : Talks (w.stopSupervisor o) id k) : Talks w id k := by
  unfold Talks at h ⊢
  rw [control_stop] at h
  split at h
  · rw [Option.map_map] at h
    exact h
  · exact h

/-- A supervisor that comes to rest in no session is in none; the others stay where they are. -/
theorem talks_rest {p : Phase} (hr : AtRest w id s) (hp : ∀ k, restStage p ≠ .inSession k)
    (h : Talks (w.rest id p) j k) : Talks w j k ∧ j ≠ id := by
  unfold Talks at h ⊢
  by_cases hj : j = id
  · subst hj
    rw [control_rest hr] at h
    exact absurd (Option.some.inj h) (hp k)
  · rw [control_rest_ne hj] at h
    exact ⟨h, hj⟩

/-- A supervisor that is to go on is in the session it is to go on with, if that is one. -/
theorem talks_push {next : Resumption} (hr : AtRest w id s)
    (h : Talks (w.push (.supervisor id next)) j k) :
    (j = id ∧ nextStage next = .inSession k) ∨ (j ≠ id ∧ Talks w j k) := by
  unfold Talks at h ⊢
  by_cases hj : j = id
  · subst hj
    rw [control_push hr] at h
    exact .inl ⟨rfl, Option.some.inj h⟩
  · rw [control_push_ne hr.stack hj] at h
    exact .inr ⟨hj, h⟩

/-- A supervisor that is started is in no session. -/
theorem talks_start (hw : CoherentWorld w) {g : Nat} {previous : Option Nat} {tail : List Frame}
    (hs : w.stack = .connecting g previous :: tail)
    (h : Talks ({ w with stack := tail }.startSupervisor g previous) id k) : Talks w id k := by
  obtain ⟨stopped, -, hcontrol⟩ := control_start hw hs
  unfold Talks at h ⊢
  rw [hcontrol] at h
  split at h
  · exact absurd (Option.some.inj h) (by simp)
  · exact h

/-- There is a live session only while the client is connected. -/
theorem CoherentWorld.outbound_none (hw : CoherentWorld w) (h : w.link.status ≠ .connected) :
    w.link.outbound = none := by
  by_cases hd : w.link.status = .disconnected
  · exact (hw.down hd).2.2.1
  · have hfit : ∃ s, Fits w.link s := by
      rcases hw.held_post hd with hfit | ⟨id, a, -, hfit⟩
      · exact ⟨.starting, hfit⟩
      · exact ⟨a.stage, hfit⟩
    obtain ⟨s, hfit⟩ := hfit
    have hnot : ¬ w.link.outbound.isSome := fun hsome => h (hfit.outbound.mp hsome)
    simpa using hnot

/-- A supervisor is in the live session. -/
theorem CoherentWorld.talker (hw : CoherentWorld w) (h : w.link.outbound = some k) :
    ∃ id, Talks w id k := by
  have hup : w.link.status ≠ .disconnected := by
    intro hd
    rw [(hw.down hd).2.2.1] at h
    exact absurd h (by simp)
  rcases hw.held_post hup with hfit | ⟨id, a, ha, hfit⟩
  · exact absurd (hfit.2.symm.trans h) (by simp)
  · refine ⟨id, ?_⟩
    rw [Talks, ha]
    cases hstage : a.stage with
    | inSession socket =>
        rw [hstage] at hfit
        obtain rfl : socket = k := Option.some.inj (hfit.2.1.symm.trans h)
        exact congrArg some hstage
    | starting =>
        rw [hstage] at hfit
        exact absurd (hfit.2.symm.trans h) (by simp)
    | sleeping =>
        rw [hstage] at hfit
        exact absurd (hfit.2.symm.trans h) (by simp)
    | leaving =>
        rw [hstage] at hfit
        exact hfit.elim
    | gone =>
        rw [hstage] at hfit
        exact hfit.elim

/-! ## Small changes and the queues -/

/-- Nothing happens to the sockets. -/
theorem WorldQueueInv.quiet (hl : WorldQueueInv w) (new : List Event)
    (hout : w'.link.outbound = w.link.outbound) (hsockets : w'.sockets = w.sockets)
    (hhistory : w'.history = new ++ w.history) (hnew : ∀ e ∈ new, quiet e = true)
    (ht : ∀ id k, Talks w' id k → Talks w id k) : WorldQueueInv w' := by
  unfold WorldQueueInv
  rw [hout, hsockets, hhistory]
  refine hl.keep (fun e he => socketOf_quiet (hnew e he)) ?_ rfl fun id k hk => ⟨ht id k hk, rfl⟩
  rw [liveIn_quiet hnew]
  exact hl.live

/-- The history after the status is set. -/
theorem shift_history (x : World) (l : Link) (s : Status) :
    ∃ new, (shift x (l.setStatus s)).history = new ++ x.history
      ∧ (∀ e ∈ new, socketOf e = none)
      ∧ liveIn (new ++ x.history)
        = if l.status = s ∨ s = .connected then liveIn x.history else none := by
  by_cases hs : l.status = s
  · refine ⟨[], ?_, fun e he => absurd he List.not_mem_nil, by simp [hs]⟩
    simp [shift, Link.setStatus, hs]
  · refine ⟨[.posted ⟨l.changes + 1, s⟩, .changed ⟨l.changes + 1, s⟩], ?_, ?_, ?_⟩
    · simp [shift, Link.setStatus, hs, offer, World.happen]
    · simp [socketOf]
    · simp [liveIn, hs]

theorem shift_sockets (x : World) (t : Link × Option Change) :
    (shift x t).sockets = x.sockets := by
  unfold shift
  split <;> rfl

/-- The client comes to be in no session. -/
theorem WorldQueueInv.settle (hl : WorldQueueInv w) (new : List Event) (hw : CoherentWorld w)
    {l : Link} {s : Status} (hx : CoherentWorld (shift x (l.setStatus s))) (hs : s ≠ .connected)
    (hstatus : l.status = w.link.status) (hlen : x.sockets.length = w.sockets.length)
    (hhistory : x.history = new ++ w.history) (hnew : ∀ e ∈ new, Proofs.quiet e = true)
    (ht : ∀ id k, Talks x id k → Talks w id k ∧ x.sockets[k]? = w.sockets[k]?) :
    WorldQueueInv (shift x (l.setStatus s)) := by
  have hout : (shift x (l.setStatus s)).link.outbound = none := by
    refine hx.outbound_none ?_
    rw [shift_link, Link.setStatus_status]
    exact hs
  obtain ⟨more, hmore, hsocket, hlive⟩ := shift_history x l s
  rw [hhistory] at hmore hlive
  unfold WorldQueueInv
  rw [hout, hmore, shift_sockets, ← List.append_assoc]
  refine hl.keep ?_ ?_ hlen fun id k hk =>
    ht id k (talks_congr hk (control_shift (l.setStatus s)))
  · intro e he
    rcases List.mem_append.mp he with he | he
    · exact hsocket e he
    · exact socketOf_quiet (hnew e he)
  · rw [List.append_assoc, hlive, liveIn_quiet hnew, hl.live]
    -- if the status was this one before, there was no session either
    by_cases hsame : l.status = s
    · rw [if_pos (.inl hsame), hw.outbound_none (by rw [← hstatus, hsame]; exact hs)]
    · rw [if_neg (by simp [hsame, hs])]

/-- What a supervisor leaves behind touches no socket but its own. -/
theorem Leftover.others (hl : WorldQueueInv w) (hr : AtRest w id s) {sockets : List Socket}
    (h : Leftover w s sockets) :
    sockets.length = w.sockets.length
      ∧ ∀ j k, Talks w j k → j ≠ id → sockets[k]? = w.sockets[k]? := by
  cases h with
  | whole => exact ⟨rfl, fun _ _ _ _ => rfl⟩
  | @short socket e queue hp hq =>
      refine ⟨List.length_set, ?_⟩
      intro j k hj hne
      have hk : socket ≠ k := by
        rintro rfl
        exact hne (hl.owner j id socket hj (hr.talks hp))
      exact List.getElem?_set_ne hk

/-- A data step puts an envelope on the queue of the live session, or does nothing to the
sockets. -/
theorem data_queueInv (h : DataStep u act w w') :
    (∃ socket e, w.link.sendsTo = some socket ∧ w' = w.enqueue socket e)
      ∨ (w'.sockets = w.sockets
        ∧ ∃ new, w'.history = new ++ w.history ∧ ∀ e ∈ new, quiet e = true) := by
  cases h with
  | @enqueue socket e hs => exact .inl ⟨socket, e, hs, rfl⟩
  | counters h => exact .inr ⟨h.sockets, [], h.history, by simp⟩
  | report e he =>
      refine .inr ⟨rfl, [e], rfl, ?_⟩
      cases e <;> simp_all [isReport, quiet]
  | addHandler s h => exact .inr ⟨rfl, [_], rfl, by simp [quiet]⟩
  | addListener l => exact .inr ⟨rfl, [_], rfl, by simp [quiet]⟩
  | withdraw p id =>
      exact .inr ⟨by cases p <;> rfl, [.unsubscribed p id], by cases p <;> rfl, by simp [quiet]⟩
  | returned hs =>
      refine .inr ⟨?_, [], ?_, by simp⟩ <;> unfold World.complete <;> split <;> rfl
  | failed m hs =>
      unfold World.failCall
      split
      · exact .inr ⟨rfl, [_, _], rfl, by simp [quiet]⟩
      · exact .inr ⟨rfl, [_], rfl, by simp [quiet]⟩
  | dispatch e hw => exact .inr ⟨rfl, [_], rfl, by simp [quiet]⟩
  | called o cs hs => exact .inr ⟨rfl, [_], rfl, by simp [quiet]⟩
  | calledOnce hs => exact .inr ⟨rfl, [_], rfl, by simp [quiet]⟩
  | ended hs => exact .inr ⟨rfl, [_], rfl, by simp [quiet]⟩
  | _ => exact .inr ⟨rfl, [], rfl, by simp⟩

theorem queueInv_data (hw : CoherentWorld w) (hl : WorldQueueInv w) (h : DataStep u act w w') :
    WorldQueueInv w' := by
  obtain ⟨t, hlink⟩ := data_link h
  rcases data_queueInv h with ⟨socket, e, hs, rfl⟩ | ⟨hsockets, new, hhistory, hnew⟩
  · have hout : w.link.outbound = some socket := by
      unfold Link.sendsTo at hs
      split at hs
      · exact hs
      · exact absurd hs (by simp)
    -- somebody is in the live session, so its queue is intact
    obtain ⟨id, hk⟩ := hw.talker hout
    exact hl.queue hk hout
  · exact hl.quiet new (by rw [hlink]) hsockets hhistory hnew fun id k hk =>
      talks_congr hk (control_data h)

/-- A session that starts has a socket of its own, and is the live one. -/
theorem queueInv_opened (hl : WorldQueueInv w) (hr : AtRest w id s) {l : Link}
    (hout : l.outbound = some w.sockets.length) :
    WorldQueueInv (shift ((({ w with sockets := w.sockets ++ [Socket.mk []] }.rest id
      (.inSession w.sockets.length)).happen (.opened id w.sockets.length)).push
        (.supervisor id (.session w.sockets.length))) (l.setStatus .connected)) := by
  obtain ⟨new, hhistory, hsocket, hlive⟩ := shift_history
    ((({ w with sockets := w.sockets ++ [Socket.mk []] }.rest id
      (.inSession w.sockets.length)).happen (.opened id w.sockets.length)).push
        (.supervisor id (.session w.sockets.length))) l .connected
  have hopened : QueueInv (some w.sockets.length) (w.sockets ++ [⟨[]⟩])
      (Talks ((w.rest id (.inSession w.sockets.length)).push
        (.supervisor id (.session w.sockets.length))))
      (.opened id w.sockets.length :: w.history) := by
    refine hl.opened fun j k hk => ?_
    rcases talks_push (hr.rest _) hk with ⟨hj, hnext⟩ | ⟨hj, hk⟩
    · exact .inl ⟨hj, (Stage.inSession.inj hnext).symm⟩
    · unfold Talks at hk
      rw [control_rest_ne hj] at hk
      exact .inr hk
  unfold WorldQueueInv
  rw [shift_link, shift_sockets, hhistory, Link.setStatus_outbound, hout]
  refine hopened.keep hsocket ?_ rfl fun j k hk => ⟨talks_congr hk (control_shift _), rfl⟩
  exact hlive.trans (if_pos (.inr rfl))

/-- **The queues agree with the history after every small change.** -/
theorem queueInv_step (hw : CoherentWorld w) (hl : WorldQueueInv w) (h : SmallStep u act w w') :
    WorldQueueInv w' := by
  have hw' : CoherentWorld w' := coherentWorld_step hw h
  -- a supervisor comes to rest in no session, and nothing is said of the sockets
  have rests : ∀ {id : Nat} {s : Supervisor} {p : Phase} {e : Event}, AtRest w id s →
      (∀ k, restStage p ≠ .inSession k) → quiet e = true →
      WorldQueueInv ((w.rest id p).happen e) := by
    intro id s p e hr hp he
    exact hl.quiet [e] rfl rfl rfl (by simpa using he) fun j k hk => (talks_rest hr hp hk).1
  cases h with
  | data h => exact queueInv_data hw hl h
  | pass nanos hs => exact hl.quiet [] rfl rfl rfl (by simp) fun _ _ h => h
  | announce c ha hb =>
      refine hl.quiet [.posted c] rfl rfl rfl (by simp [quiet]) fun id k hk => ?_
      exact talks_congr hk (control_of_eq rfl (offer_filterMap w (fun _ _ => rfl) c))
  | heardOnce hs =>
      refine hl.quiet [_] rfl rfl rfl (by simp [quiet]) fun id k hk => ?_
      exact talks_congr hk (control_of_eq rfl (by simp [resuming, World.happen, hs]))
  | heard o cs hs =>
      refine hl.quiet [_] rfl rfl rfl (by simp [quiet]) fun id k hk => ?_
      exact talks_congr hk (control_of_eq rfl (by simp [resuming, World.happen, hs]))
  | drained hs hp =>
      refine hl.quiet [] rfl rfl rfl (by simp) fun id k hk => ?_
      exact talks_congr hk (control_of_eq rfl (by simp [resuming, hs]))
  | skipped hs hp hd =>
      exact hl.quiet [_] rfl rfl rfl (by simp [quiet]) fun _ _ h => h
  | announced hs hp hd =>
      refine hl.quiet [_] rfl rfl rfl (by simp [quiet]) fun id k hk => ?_
      exact talks_congr hk (control_of_eq rfl (by simp [resuming, World.happen, hs]))
  -- the session is not live any more, but it keeps its queue until it is over
  | connect hy ha hr hm =>
      refine hl.settle [] hw hw' (by simp) rfl (by cases w.link.supervisor <;> rfl)
        (by cases w.link.supervisor <;> rfl) (by simp) fun id k hk => ⟨?_, ?_⟩
      · refine talks_stop (o := w.link.supervisor) (talks_congr hk (control_of_eq rfl ?_))
        simp [resuming, World.push]
      · cases w.link.supervisor <;> rfl
  | disconnect hy ha =>
      refine hl.settle [] hw hw' (by simp) rfl (by cases w.link.idleSupervisor <;> rfl)
        (by cases w.link.idleSupervisor <;> rfl) (by simp) fun id k hk => ⟨talks_stop hk, ?_⟩
      cases w.link.idleSupervisor <;> rfl
  | @start g previous tail hs =>
      obtain ⟨o, hlink⟩ := startSupervisor_link { w with stack := tail } g previous
      have hkept : ({ w with stack := tail }.startSupervisor g previous).sockets = w.sockets
          ∧ ({ w with stack := tail }.startSupervisor g previous).history = w.history := by
        unfold World.startSupervisor
        dsimp only
        split <;> exact ⟨rfl, rfl⟩
      exact hl.quiet [] (by rw [hlink]) hkept.1 hkept.2 (by simp) fun id k hk =>
        talks_start hw hs hk
  | @resume id next tail hs =>
      obtain ⟨new, hhistory, hnew⟩ : ∃ new,
          ({ w with stack := tail }.resume id next).history = new ++ w.history
            ∧ ∀ e ∈ new, quiet e = true := by
        unfold World.resume
        split
        · exact ⟨[], rfl, by simp⟩
        · exact ⟨[], rfl, by simp⟩
        · exact ⟨[_], rfl, by simp [quiet]⟩
        · exact ⟨[], rfl, by simp⟩
      refine hl.quiet new ?_ ?_ hhistory hnew fun j k hk =>
        talks_congr hk (control_resume hw hs)
      · unfold World.resume
        split <;> rfl
      · unfold World.resume
        split <;> rfl
  | dial hr hs hp => exact rests hr (by simp [restStage]) rfl
  | wait hr hs hp hf =>
      exact hl.quiet [] rfl rfl rfl (by simp) fun j k hk =>
        (talks_rest hr (by simp [restStage]) hk).1
  | @giveUp id p d s hr hs hp hf hd =>
      have hr' := hr.stopped_other (hw.waits_other hr.supervisor (by rw [hp]; rfl))
      exact hl.quiet [_] rfl rfl rfl (by simp [quiet]) fun j k hk =>
        talks_stop (talks_rest hr' (by simp [restStage]) hk).1
  | @retry id d s t hy hr hs hp hd ht =>
      obtain ⟨hg, rfl⟩ := Link.retry_eq_some ht
      refine hl.settle [] hw hw' (by simp) rfl rfl rfl (by simp) fun j k hk => ⟨?_, rfl⟩
      rcases talks_push hr hk with ⟨-, hnext⟩ | ⟨-, hk⟩
      · exact absurd hnext (by simp [nextStage])
      · exact hk
  | @leave id s sockets hr hs hg hleft =>
      obtain ⟨hlen, hothers⟩ := hleft.others hl hr
      have hhistory : ({ w with sockets := sockets }.finish id).history
          = [.finished id] ++ w.history := rfl
      unfold WorldQueueInv
      rw [hhistory]
      refine hl.keep (by simp [socketOf]) hl.live hlen fun j k hk => ?_
      obtain ⟨hk, hj⟩ := talks_rest (w := w) hr (p := .finished) (by simp [restStage]) hk
      exact ⟨hk, hothers j k hk hj⟩
  | halt hr hs hp => exact rests hr (by simp [restStage]) rfl
  | opened hy hr hs hp ht =>
      obtain ⟨hg, rfl⟩ := Link.startSession_eq_some ht
      exact queueInv_opened hl hr rfl
  | @failed id s t sockets hy hr hs hp ht hleft =>
      obtain ⟨hg, rfl⟩ := Link.fail_eq_some ht
      obtain ⟨hlen, hothers⟩ := hleft.others hl hr
      refine hl.settle [_] hw hw' (by simp) rfl hlen rfl (by simp [quiet])
        fun j k hk => ?_
      rcases talks_push (w := { w with sockets := sockets }.happen _) ⟨hr.stack, hr.supervisor⟩ hk
        with ⟨-, hnext⟩ | ⟨hj, hk⟩
      · exact absurd hnext (by simp [nextStage])
      · exact ⟨hk, hothers j k hk hj⟩
  | dropped hr hp => exact hl.quiet [_] rfl rfl rfl (by simp [quiet]) fun _ _ h => h
  | wrote hr hs hp hq => exact hl.write (hr.talks hp) hq
  | wroteClose hr hs hp hq ho =>
      exact hl.close (hr.talks hp) hq ho fun j m hj =>
        talks_rest (w := w) hr (by simp [restStage]) hj
  | read i hr hs hp => exact hl.quiet [_] rfl rfl rfl (by simp [quiet]) fun _ _ h => h
  | enter hr hs hp =>
      exact hl.quiet [] rfl rfl rfl (by simp) fun j k hk => talks_congr hk (control_enter hr hp)

theorem worldQueueInv_initial (parts : Parts) (setup : Setup) (hasRuntime : Bool)
    (stamps : Nat → Stamp) : WorldQueueInv (World.initial parts setup hasRuntime stamps) := by
  refine QueueInv.empty fun id k hk => ?_
  exact absurd hk (by simp [Talks, control, World.initial])

theorem queueInv_reachable {parts : Parts} {setup : Setup} {hasRuntime : Bool}
    {stamps : Nat → Stamp} {as : List Action}
    (h : (World.initial parts setup hasRuntime stamps).actAll as = some w) :
    CoherentWorld w ∧ WorldQueueInv w := by
  have hstart : CoherentWorld (World.initial parts setup hasRuntime stamps)
      ∧ WorldQueueInv (World.initial parts setup hasRuntime stamps) :=
    ⟨coherentWorld_initial _ _ _ _, worldQueueInv_initial _ _ _ _⟩
  refine runs_keep (P := fun w => CoherentWorld w ∧ WorldQueueInv w) ?_ hstart (actAll_runs h)
  intro u act v v' hv hd
  exact ⟨coherentWorld_step hv.1 hd, queueInv_step hv.1 hv.2 hd⟩

/-! ## Sending -/

/-- What sending a payload does. -/
structure Sends (w : World) (topic : String) (payload : Json) : Prop where
  flag : (w.sendPayload topic payload).2 = true ↔ w.link.status = .connected
  /-- One envelope with the topic and the payload joins the queue of the live session, and nothing
  else does anywhere. -/
  queued : (w.sendPayload topic payload).2 = true →
    ∃ k queue e, w.link.outbound = some k ∧ w.sockets[k]? = some ⟨queue⟩
      ∧ e.topic = topic ∧ e.payload = payload
      ∧ e = .ofPayload (w.stamps w.stamped) topic payload
      ∧ (w.sendPayload topic payload).1.sockets = w.sockets.set k ⟨queue ++ [e]⟩
      ∧ (w.sendPayload topic payload).1.history = .queued k e :: w.history
  /-- Only a stamp is used up. -/
  refused : (w.sendPayload topic payload).2 = false →
    (w.sendPayload topic payload).1 = { w with stamped := w.stamped + 1 }
  /-- Who sends by a command is told the flag. -/
  replied : w.parts.client = true → w.perform (.send topic payload)
    = (w.sendPayload topic payload).1.answer (.flag (w.sendPayload topic payload).2)
  /-- A payload that has no form in JSON goes nowhere. -/
  unwritable : (w.perform (.sendUnwritable topic)).sockets = w.sockets
    ∧ ∀ k, accepted k (w.perform (.sendUnwritable topic)).history = accepted k w.history

theorem answer_keeps (w : World) (r : Reply) :
    (w.answer r).sockets = w.sockets
      ∧ ∀ k, accepted k (w.answer r).history = accepted k w.history := by
  unfold World.answer
  split
  · exact ⟨rfl, fun k => rfl⟩
  · exact ⟨rfl, fun k => inOrder_of_none rfl _⟩
  · exact ⟨rfl, fun k => rfl⟩

theorem unwritable_keeps (w : World) (topic : String) :
    (w.perform (.sendUnwritable topic)).sockets = w.sockets
      ∧ ∀ k, accepted k (w.perform (.sendUnwritable topic)).history = accepted k w.history := by
  simp only [World.perform, World.requiring]
  split
  · obtain ⟨hsockets, hqueued⟩ := answer_keeps
      (w.warn (some topic) "cannot serialize payload: key must be a string") (.flag false)
    exact ⟨hsockets, fun k => (hqueued k).trans (inOrder_of_none rfl _)⟩
  · exact answer_keeps w .missing

theorem sends (hw : CoherentWorld w) (hl : WorldQueueInv w) (topic : String) (payload : Json) :
    Sends w topic payload := by
  have hreply : w.parts.client = true → w.perform (.send topic payload)
      = (w.sendPayload topic payload).1.answer (.flag (w.sendPayload topic payload).2) := by
    intro hc
    simp only [World.perform, World.requiring, if_pos hc]
    rfl
  by_cases hs : w.link.status = .connected
  · -- a connected client has a session, and its queue is there
    obtain ⟨k, hk⟩ : ∃ k, w.link.outbound = some k := by
      have hup : w.link.status ≠ .disconnected := by
        rw [hs]
        exact Status.noConfusion
      rcases hw.held_post hup with hfit | ⟨id, a, -, hfit⟩
      · exact Status.noConfusion (hs.symm.trans hfit.1)
      · exact Option.isSome_iff_exists.mp (hfit.outbound.mpr hs)
    obtain ⟨id, htalks⟩ := hw.talker hk
    obtain ⟨queue, hq, -⟩ := hl.intact id k htalks
    have hto : w.link.sendsTo = some k := by rw [Link.sendsTo, if_pos hs, hk]
    have hsend : w.sendPayload topic payload = ({ w with stamped := w.stamped + 1 }.enqueue k
        (.ofPayload (w.stamps w.stamped) topic payload), true) := by
      simp [World.sendPayload, World.newEnvelope, hto]
    refine ⟨by simp [hsend, hs], ?_, by simp [hsend], hreply, unwritable_keeps w topic⟩
    intro _
    refine ⟨k, queue, _, hk, hq, rfl, rfl, rfl, ?_, by rw [hsend]; rfl⟩
    rw [hsend]
    refine List.ext_getElem? fun i => ?_
    show (w.sockets.modify k _)[i]? = _
    have hlt : k < w.sockets.length := (List.getElem?_eq_some_iff.mp hq).1
    by_cases hi : k = i
    · subst hi
      rw [List.getElem?_modify_eq, hq, List.getElem?_set_self hlt]
      rfl
    · rw [List.getElem?_modify_ne _ _ hi, List.getElem?_set_ne hi]
  · have hto : w.link.sendsTo = none := if_neg hs
    have hsend : w.sendPayload topic payload = ({ w with stamped := w.stamped + 1 }, false) := by
      simp [World.sendPayload, World.newEnvelope, hto]
    exact ⟨by simp [hsend, hs], by simp [hsend], by simp [hsend], hreply, unwritable_keeps w topic⟩

/-! ## Outbound delivery -/

/-- How what was sent has fared. -/
structure Carried (w : World) : Prop where
  sends : ∀ topic payload, Sends w topic payload
  live : liveIn w.history = w.link.outbound
  /-- What was accepted for the live session is written or on its queue. -/
  waiting : ∀ k, w.link.outbound = some k → ∃ queue, w.sockets[k]? = some ⟨queue⟩
    ∧ accepted k w.history = written k w.history ++ queue
  /-- A socket has one session. -/
  once : ∀ later id k earlier, w.history = later ++ .opened id k :: earlier →
    ∀ e ∈ earlier, socketOf e ≠ some k
  /-- What is accepted is accepted for the session that is live then. -/
  whileLive : ∀ later k e earlier, w.history = later ++ .queued k e :: earlier →
    liveIn earlier = some k
  /-- What is written is the first of what was accepted for that session and is not written yet. -/
  own : ∀ later k e earlier, w.history = later ++ .wrote k e :: earlier →
    ∃ rest, accepted k earlier = written k earlier ++ e :: rest
  inOrder : ∀ k, written k w.history <+: accepted k w.history
  /-- A frame is its envelope, encoded, so the frames of a session are those of what was accepted
  for it, in the same order. -/
  frames : ∀ k, (written k w.history).map Envelope.encode
    <+: (accepted k w.history).map Envelope.encode
  /-- A session that closes of its own accord is not live any more, and has written all that was
  ever accepted for it. -/
  closed : ∀ later k earlier, w.history = later ++ .wroteClose k :: earlier →
    liveIn earlier ≠ some k ∧ written k earlier = accepted k earlier
      ∧ accepted k w.history = accepted k earlier ∧ written k w.history = written k earlier

/-- **What is sent in a session is written in that session, in order and each envelope once, or not
at all**, and a client that disconnects loses nothing of it: the session closes when all is
written. -/
theorem outbound_delivery {parts : Parts} {setup : Setup} {hasRuntime : Bool}
    {stamps : Nat → Stamp} {as : List Action} {w : World}
    (h : (World.initial parts setup hasRuntime stamps).actAll as = some w) : Carried w := by
  obtain ⟨hw, hl⟩ := queueInv_reachable h
  have allowed : ∀ {later e earlier}, w.history = later ++ e :: earlier → Allowed earlier e := by
    intro later e earlier hsplit
    have hlawful : Lawful (later ++ e :: earlier) := hsplit ▸ hl.lawful
    exact hlawful.of_append.1
  exact
    { sends := fun topic payload => Proofs.sends hw hl topic payload
      live := hl.live
      waiting := by
        intro k hk
        obtain ⟨id, htalks⟩ := hw.talker hk
        obtain ⟨queue, hq, hacc, -⟩ := hl.intact id k htalks
        exact ⟨queue, hq, hacc⟩
      once := fun later id k earlier hsplit => allowed hsplit
      whileLive := fun later k e earlier hsplit => (allowed hsplit).1
      own := fun later k e earlier hsplit => (allowed hsplit).1
      inOrder := fun k => hl.lawful.written_prefix k
      frames := fun k => (hl.lawful.written_prefix k).map _
      closed := by
        intro later k earlier hsplit
        obtain ⟨hall, hlive, -⟩ := allowed hsplit
        have hlawful : Lawful (later ++ .wroteClose k :: earlier) := hsplit ▸ hl.lawful
        rw [hsplit]
        exact ⟨hlive, hall, hlawful.after_close⟩ }

/-- Two envelopes are sent and one is written before the client disconnects; the session writes the
other and closes, and another session takes what is sent in it. -/
def sendingRun : List Action :=
  List.flatten [[.command .connect], List.replicate 3 .go, [.wake 0, .answered 0 true],
    List.replicate 3 .go, [.command (.send "a" (.bool true)),
    .command (.send "b" (.array [.null])), .write 0, .command .disconnect], List.replicate 2 .go,
    [.command (.send "lost" .null), .write 0, .command .connect], List.replicate 3 .go,
    [.wake 1, .write 0, .closed 0, .wake 1, .answered 1 true], List.replicate 3 .go,
    [.command (.send "c" (.string "x")), .write 1]]

/-- The frame of what is sent, with the one stamp that there is. -/
def sendingFrame (topic payload : String) : String :=
  "\x7b\"type\":\"" ++ topic ++ "\",\"payload\":" ++ payload
    ++ ",\"id\":\"m1\",\"timestamp\":\"1970-01-01T00:00:00Z\"\x7d"

/-- Each session writes the frames of what was sent in it. -/
theorem outbound_delivery_twice :
    ∃ w, (World.initial ⟨true, false, true⟩ .standard true fun _ => ⟨"m1", .epoch⟩).actAll
        sendingRun = some w
      ∧ (written 0 w.history).map Envelope.encode
        = [sendingFrame "a" "true", sendingFrame "b" "[null]"]
      ∧ (written 1 w.history).map Envelope.encode = [sendingFrame "c" "\"x\""]
      ∧ .wroteClose 0 ∈ w.history ∧ Carried w := by
  have hrun : ((World.initial ⟨true, false, true⟩ .standard true fun _ => ⟨"m1", .epoch⟩).actAll
      sendingRun).map (fun w => ((written 0 w.history).map Envelope.encode,
        (written 1 w.history).map Envelope.encode,
        Proofs.inOrder (fun | .wroteClose k => some k | _ => none) w.history))
      = some ([sendingFrame "a" "true", sendingFrame "b" "[null]"],
        [sendingFrame "c" "\"x\""], [0]) := by
    decide +kernel
  obtain ⟨w, hw, htuple⟩ := Option.map_eq_some_iff.mp hrun
  simp only [Prod.mk.injEq] at htuple
  obtain ⟨hfirst, hsecond, hclosed⟩ := htuple
  refine ⟨w, hw, hfirst, hsecond, ?_, outbound_delivery hw⟩
  have hmem : 0 ∈ Proofs.inOrder (fun | .wroteClose k => some k | _ => none) w.history := by
    rw [hclosed]
    exact List.mem_singleton_self 0
  obtain ⟨e, he, hk⟩ := mem_inOrder.mp hmem
  cases e with
  | wroteClose k =>
      obtain rfl := Option.some.inj hk
      exact he
  | _ => exact absurd hk (by simp)

end LiveLink.Proofs
