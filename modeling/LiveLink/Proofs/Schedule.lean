import LiveLink.Proofs.ControlStates

/-!
# The schedule of attempts

Every failure of an attempt, and every end of the session that is in use, is followed
by a wait that grows with the failures in a row. What breaks the row is a **reset**:
the client becomes connected, or `disconnect` is called. The milestones here are read off
the actions alone: what they ask for, what they report of the supervisor in charge,
and what they leave it to wait for. `retry_schedule` says that the count the client
keeps is the number of failures since the last reset, and the waits are those of the
backoff, one for each of them.
-/

namespace LiveLink.Proofs

open LiveLink Relation

/-! ## Resets and failures -/

/-- What an action means for the schedule. -/
inductive Milestone where
  | reset
  /-- An attempt or the session in use has failed; the next attempt is to come after a wait. -/
  | failure (wait : Option Span)

/-- Whether a supervisor is in charge: the one of the current generation. -/
def inCharge (w : World) (id : Nat) : Bool :=
  (w.supervisors[id]?).any (·.generation = w.link.generation)

/-- The wait that a supervisor begins once the listeners have been told. -/
def scheduled (w : World) (id : Nat) : Option Span :=
  (resuming w).findSome? fun
    | (i, .sleep wait) => if i = id then some wait else none
    | _ => none

/-- Whether an action calls `disconnect`. -/
def disconnects (w : World) (a : Action) : Bool :=
  match cause w a with
  | .asked .disconnect => w.parts.client
  | _ => false

/-- Whether the client becomes connected. -/
def connects (w w' : World) : Bool := w.link.status ≠ .connected ∧ w'.link.status = .connected

/-- The failure that an action reports of the supervisor in charge. -/
def failures (w : World) (a : Action) (w' : World) : List Milestone :=
  match failing a with
  | some id => if inCharge w id then [.failure (scheduled w' id)] else []
  | none => []

/-- What an action means for the schedule. -/
def milestones (w : World) (a : Action) : List Milestone :=
  match w.act a with
  | some w' => if disconnects w a || connects w w' then [.reset] else failures w a w'
  | none => []

/-- The waits after the last reset, the first one first. -/
def sinceReset (ms : List Milestone) : List (Option Span) :=
  ms.foldl (fun waits m =>
    match m with
    | .reset => []
    | .failure wait => waits ++ [wait]) []

theorem sinceReset_append_reset (ms : List Milestone) : sinceReset (ms ++ [.reset]) = [] := by
  simp [sinceReset]

theorem sinceReset_append_failure (ms : List Milestone) (wait : Option Span) :
    sinceReset (ms ++ [.failure wait]) = sinceReset ms ++ [wait] := by
  simp [sinceReset]

/-! ## What changes the count -/

section Count

variable {u w w' x : World} {act a : Action} {id : Nat} {s : Supervisor}

@[simp] theorem answer_link (w : World) (r : Reply) : (w.answer r).link = w.link := by
  unfold World.answer
  split <;> rfl

@[simp] theorem turn_link (w : World) (t : Link × Option Change) : (w.turn t).link = t.1 := by
  obtain ⟨l, change⟩ := t
  unfold World.turn World.announceChange
  dsimp only
  split
  · split <;> simp [World.happen, World.push]
  · simp

/-- **The count changes when an attempt or a session fails, when a session begins, and when the
client is told to disconnect.** -/
theorem step_count (hf : failing act = none) (hd : cause u act ≠ .asked .disconnect)
    (ho : ∀ id, act ≠ .answered id true) (h : SmallStep u act w w') :
    w'.link.attempts = w.link.attempts := by
  cases h with
  | data h =>
      obtain ⟨t, ht⟩ := data_link h
      rw [ht]
  | connect hy ha hr hm => simp [Link.startConnecting]
  | disconnect hy ha => exact absurd hy hd
  | @start g previous tail hs =>
      obtain ⟨o, ho⟩ := startSupervisor_link { w with stack := tail } g previous
      rw [ho]
  | @resume id next tail hs =>
      unfold World.resume
      split <;> rfl
  | giveUp hr hs hp hf hd => rfl
  | retry hy hr hs hp hd ht ha =>
      obtain ⟨-, rfl⟩ := Link.retry_eq_some ht
      simp
  | opened hy hr hs hp ht ha => exact absurd ha (ho _)
  | failed hy hr hs hp ht hl ha => exact absurd (hf.symm.trans ha) (by simp)
  | _ => rfl

theorem steps_count (hf : failing act = none) (hd : cause u act ≠ .asked .disconnect)
    (ho : ∀ id, act ≠ .answered id true) (h : SmallSteps u act w w') :
    w'.link.attempts = w.link.attempts := by
  induction h with
  | refl => rfl
  | tail _ hstep ih => exact (step_count hf hd ho hstep).trans ih

/-- The attempt or the session of a supervisor that is not in charge fails without consequences. -/
theorem tryLater_elsewhere (hg : w.link.generation ≠ s.generation) :
    w.tryLater id s = w.finish id := by
  have hfail : w.link.fail s.generation = none := if_neg hg
  rw [World.tryLater, hfail]

theorem resuming_turn (w : World) (t : Link × Option Change) :
    resuming (w.turn t) = resuming w := by
  have answered : ∀ (x : World) (r : Reply), resuming (x.answer r) = resuming x := by
    intro x r
    unfold World.answer
    split
    · rfl
    · rename_i hs
      simp [resuming, World.note, World.happen, hs]
    · rfl
  obtain ⟨l, change⟩ := t
  cases change with
  -- whether the change is announced now or later, the supervisor's frame stays where it is
  | some c =>
      simp only [World.turn, World.announceChange]
      split
      · exact answered _ _
      · rfl
  | none => exact answered _ _

/-- A failure of the supervisor in charge is counted, and the next attempt is to come after the
wait that belongs to the count so far. -/
theorem tryLater_inCharge (id : Nat) (hs : w.stack = []) (hg : w.link.generation = s.generation) :
    (w.tryLater id s).link.attempts = Link.succ w.link.attempts
      ∧ scheduled (w.tryLater id s) id = some (w.setup.backoff.delay w.link.attempts) := by
  have hfail : w.link.fail s.generation = some ({ w.link with
      outbound := none
      attempts := Link.succ w.link.attempts }.setStatus .reconnecting) := if_pos hg
  have hcount : (w.tryLater id s).link.attempts = Link.succ w.link.attempts := by
    simp [World.tryLater, hfail]
  have hsimulates : resuming (w.tryLater id s)
      = [(id, .sleep (w.setup.backoff.delay w.link.attempts))] := by
    simp only [World.tryLater, hfail]
    -- telling the listeners leaves the frame of the supervisor on the stack
    rw [resuming_turn]
    exact resuming_push (w := w.happen _) hs id _
  refine ⟨hcount, ?_⟩
  rw [scheduled, hsimulates]
  simp

/-- The end of a session is treated as a failure of its supervisor. -/
theorem sessionOver_tries (w : World) (id : Nat) (s : Supervisor) (socket : Nat) :
    ∃ x : World, w.sessionOver id s socket = x.tryLater id s ∧ x.link = w.link ∧ x.setup = w.setup
      ∧ x.stack = w.stack := by
  unfold World.sessionOver
  dsimp only
  split
  · exact ⟨_, rfl, rfl, rfl, rfl⟩
  · rename_i hg
    exact ⟨w.happen (.dropped socket), (tryLater_elsewhere hg).symm, rfl, rfl, rfl⟩

/-- A supervisor tries again later, in a world whose connection is still the one before. -/
structure Retries (w w' : World) (id : Nat) (s : Supervisor) (x : World) : Prop where
  supervisor : w.supervisors[id]? = some s
  outcome : w' = x.tryLater id s
  link : x.link = w.link
  setup : x.setup = w.setup
  stack : x.stack = []

theorem retries_over {v : World} {socket : Nat} (hr : AtRest w id s)
    (hw' : w' = v.sessionOver id s socket) (hl : v.link = w.link) (hsetup : v.setup = w.setup)
    (hstack : v.stack = w.stack) : ∃ s x, Retries w w' id s x := by
  obtain ⟨x, hx, hxl, hxs, hxk⟩ := sessionOver_tries v id s socket
  exact ⟨s, x, hr.supervisor, hw'.trans hx, hxl.trans hl, hxs.trans hsetup,
    hxk.trans (hstack.trans hr.stack)⟩

/-- What fails is an attempt or a session of a supervisor that rests. -/
theorem failing_retries (ha : failing a = some id) (h : w.act a = some w') :
    ∃ s x, Retries w w' id s x := by
  cases a with
  | answered i accepted =>
      cases accepted with
      | true => exact absurd ha (by simp [failing])
      | false =>
          obtain rfl := Option.some.inj ha
          simp only [World.act] at h
          obtain ⟨s, hr, -, hstep⟩ := atRest_of_supervisorStep h
          simp only [World.answered] at hstep
          split at hstep
          · obtain rfl := Option.some.inj hstep
            exact ⟨s, _, hr.supervisor, rfl, rfl, rfl, hr.stack⟩
          · exact absurd hstep (by simp)
  | breakWrite i =>
      obtain rfl := Option.some.inj ha
      obtain ⟨s, hr, -, hstep⟩ := atRest_of_supervisorStep h
      simp only [World.breakWrite] at hstep
      split at hstep
      · split at hstep
        · exact retries_over hr (Option.some.inj hstep).symm rfl rfl rfl
        · exact absurd hstep (by simp)
      · exact absurd hstep (by simp)
  | read i incoming =>
      simp only [World.act] at h
      obtain ⟨s, hr, -, hstep⟩ := atRest_of_supervisorStep h
      simp only [World.read] at hstep
      split at hstep
      · cases incoming with
        | close | ended | broken =>
            obtain rfl := Option.some.inj ha
            dsimp only at hstep
            exact retries_over hr (Option.some.inj hstep).symm rfl rfl rfl
        | _ => exact absurd ha (by simp [failing])
      · exact absurd hstep (by simp)
  | closed i =>
      obtain rfl := Option.some.inj ha
      obtain ⟨s, hr, -, hstep⟩ := atRest_of_supervisorStep h
      simp only [World.closed] at hstep
      split at hstep
      · exact retries_over hr (Option.some.inj hstep).symm rfl rfl rfl
      · exact absurd hstep (by simp)
  | _ => exact absurd ha (by simp [failing])

/-- An attempt that succeeds connects the client, unless it is nobody's any more. -/
theorem accepted_count (h : w.answered id s true = some w') :
    w'.link.attempts = w.link.attempts ∨ w'.link.status = .connected := by
  unfold World.answered at h
  split at h
  · simp only [if_true] at h
    split at h <;> obtain rfl := Option.some.inj h
    · exact .inl rfl
    · rename_i t ht
      obtain ⟨-, rfl⟩ := Link.startSession_eq_some ht
      exact .inr (by simp)
  · exact absurd h (by simp)

/-- `disconnect` sets the count back, in whatever state it is called. -/
theorem disconnect_count (hd : disconnects w a = true) (h : w.act a = some w') :
    w'.link.attempts = 0 := by
  unfold disconnects at hd
  split at hd
  · rename_i hc
    obtain ⟨r, stack, rfl, -⟩ := act_asked hc h
    simp only [World.perform, World.requiring, hd, if_true]
    simp [World.disconnect, Link.stop]
  · exact absurd hd Bool.false_ne_true

/-- What neither is a reset nor reports a failure leaves the count as it is, but for the start of a
session. -/
theorem quiet_count (hd : disconnects w a = false) (hf : failing a = none)
    (h : w.act a = some w') :
    w'.link.attempts = w.link.attempts ∨ w'.link.status = .connected := by
  by_cases ho : ∃ id, a = .answered id true
  · obtain ⟨id, rfl⟩ := ho
    simp only [World.act] at h
    obtain ⟨s, -, -, hstep⟩ := atRest_of_supervisorStep h
    exact accepted_count hstep
  have ho : ∀ id, a ≠ .answered id true := fun id ha => ho ⟨id, ha⟩
  by_cases hc : cause w a = .asked .disconnect
  · -- without a client there is nothing that could be disconnected
    have hclient : w.parts.client = false := by simpa [disconnects, hc] using hd
    obtain ⟨r, stack, rfl, -⟩ := act_asked hc h
    simp [World.perform, World.requiring, hclient]
  · exact .inl (steps_count hf hc ho (act_steps h))

/-- A connected client has no failures to count. -/
theorem CoherentWorld.count_connected (hw : CoherentWorld w) (hs : w.link.status = .connected) :
    w.link.attempts = 0 := by
  -- of all phases only a session fits a connected client
  have fits : ∀ p, Fits w.link p → w.link.attempts = 0 := by
    intro p hp
    cases p with
    | inSession socket => exact hp.2.2
    | starting => exact absurd (hs.symm.trans hp.1) Status.noConfusion
    | sleeping => exact absurd (hs.symm.trans hp.1) Status.noConfusion
    | leaving => exact hp.elim
    | gone => exact hp.elim
  have hup : w.link.status ≠ .disconnected := by
    rw [hs]
    exact Status.noConfusion
  rcases hw.up hup with ⟨-, -, hfit⟩ | ⟨id, s, -, -, -, -, hfit⟩
  · exact fits _ hfit
  · exact fits _ hfit

end Count

/-! ## The schedule of a run -/

section Run

variable {u w w' : World} {act a : Action} {b : Backoff} {waits : List (Option Span)}

/-- The largest count that fits 32 bits. -/
def countLimit : Nat := 0xffffffff

/-- The wait after so many failures in a row. -/
def waitAfter (b : Backoff) (failures : Nat) : Span := b.delay (.ofNat (min failures countLimit))

theorem waitAfter_mono (b : Backoff) {i j : Nat} (h : i ≤ j) :
    (waitAfter b i).nanos ≤ (waitAfter b j).nanos := by
  refine Backoff.delay_mono b ?_
  have hsize : ∀ k, min k countLimit < UInt32.size := by
    intro k
    have hlimit : countLimit < UInt32.size := by decide
    omega
  rw [UInt32.le_iff_toNat_le, UInt32.toNat_ofNat_of_lt' (hsize i),
    UInt32.toNat_ofNat_of_lt' (hsize j)]
  omega

/-- The client counts the failures, and the waits are those of the backoff. -/
structure OnSchedule (b : Backoff) (w : World) (waits : List (Option Span)) : Prop where
  count : w.link.attempts.toNat = min waits.length countLimit
  waits : waits = (List.range waits.length).map fun i => some (waitAfter b i)

theorem OnSchedule.reset (h : w.link.attempts = 0) : OnSchedule b w [] :=
  ⟨by rw [h]; rfl, rfl⟩

theorem OnSchedule.keep (h : OnSchedule b w waits) (ha : w'.link.attempts = w.link.attempts) :
    OnSchedule b w' waits :=
  ⟨by rw [ha]; exact h.count, h.waits⟩

/-- One more failure is counted, and its wait is the next one of the backoff. -/
theorem OnSchedule.fail (h : OnSchedule b w waits)
    (ha : w'.link.attempts = Link.succ w.link.attempts) :
    OnSchedule b w' (waits ++ [some (b.delay w.link.attempts)]) := by
  -- the count that the client keeps is what the backoff is asked with
  have hwait : waitAfter b waits.length = b.delay w.link.attempts := by
    rw [waitAfter, ← h.count, UInt32.ofNat_toNat]
  constructor
  · rw [ha, Link.toNat_succ, h.count, List.length_append, List.length_singleton, countLimit]
    omega
  · rw [List.length_append, List.length_singleton, List.range_succ, List.map_append,
      List.map_singleton, hwait, ← h.waits]

theorem shift_setup (w : World) (t : Link × Option Change) : (shift w t).setup = w.setup := by
  unfold shift
  split <;> rfl

theorem stopSupervisor_setup (w : World) (id : Option Nat) :
    (w.stopSupervisor id).setup = w.setup := by
  cases id <;> rfl

theorem data_setup (h : DataStep u act w w') : w'.setup = w.setup := by
  cases h with
  | counters h => exact h.setup
  | withdraw p id => cases p <;> rfl
  | returned hs => unfold World.complete; split <;> rfl
  | failed m hs => unfold World.failCall; split <;> rfl
  | _ => rfl

/-- What the client is set up with stays. -/
theorem step_setup (h : SmallStep u act w w') : w'.setup = w.setup := by
  cases h with
  | data h => exact data_setup h
  | connect hy ha hr hm => rw [shift_setup]; exact stopSupervisor_setup w _
  | disconnect hy ha => rw [shift_setup]; exact stopSupervisor_setup w _
  | start hs => unfold World.startSupervisor; dsimp only; split <;> rfl
  | resume hs => unfold World.resume; split <;> rfl
  | retry hy hr hs hp hd ht => rw [shift_setup]; rfl
  | opened hy hr hs hp ht => rw [shift_setup]; rfl
  | failed hy hr hs hp ht hl => rw [shift_setup]; rfl
  | _ => rfl

theorem steps_setup (h : SmallSteps u act w w') : w'.setup = w.setup := by
  induction h with
  | refl => rfl
  | tail _ hd ih => exact (step_setup hd).trans ih

/-- A failure of the supervisor in charge is the next one on the schedule; one of any other
supervisor is none. -/
theorem onSchedule_failing {id : Nat} {ms : List Milestone} (ha : failing a = some id)
    (h : w.act a = some w') (hs : OnSchedule w.setup.backoff w (sinceReset ms)) :
    OnSchedule w.setup.backoff w' (sinceReset (ms ++ failures w a w')) := by
  obtain ⟨s, x, hsup, rfl, hl, hsetup, hstack⟩ := failing_retries ha h
  by_cases hg : w.link.generation = s.generation
  · -- the generation is the current one: the failure counts, and its wait is the next one
    have hcharge : inCharge w id = true := by simp [inCharge, hsup, hg]
    have hg' : x.link.generation = s.generation := by rw [hl]; exact hg
    obtain ⟨hcount, hwait⟩ := tryLater_inCharge id hstack hg'
    rw [hl] at hcount hwait
    rw [hsetup] at hwait
    simp only [failures, ha, hcharge, if_true, hwait]
    rw [sinceReset_append_failure]
    exact hs.fail hcount
  · -- the generation has passed: the supervisor ends, and the schedule stays
    have hcharge : inCharge w id = false := by simp [inCharge, hsup, Ne.symm hg]
    have hg' : x.link.generation ≠ s.generation := by rw [hl]; exact hg
    simp only [failures, ha, hcharge, Bool.false_eq_true, if_false, List.append_nil]
    rw [tryLater_elsewhere hg']
    refine hs.keep ?_
    exact congrArg Link.attempts hl

/-- **The schedule is kept by every action.** -/
theorem onSchedule_act {ms : List Milestone} (hw : CoherentWorld w) (h : w.act a = some w')
    (hs : OnSchedule w.setup.backoff w (sinceReset ms)) :
    OnSchedule w'.setup.backoff w' (sinceReset (ms ++ milestones w a)) := by
  have hw' : CoherentWorld w' := runs_keep coherentWorld_step hw (act_steps h).runs
  rw [steps_setup (act_steps h)]
  unfold milestones
  rw [h]
  dsimp only
  by_cases hreset : (disconnects w a || connects w w') = true
  · rw [if_pos hreset, sinceReset_append_reset]
    refine .reset ?_
    rcases Bool.or_eq_true_iff.mp hreset with hd | hc
    · exact disconnect_count hd h
    · have hconnected : w'.link.status = .connected := by
        simp only [connects, Bool.decide_and, Bool.and_eq_true, decide_eq_true_eq] at hc
        exact hc.2
      exact hw'.count_connected hconnected
  · rw [if_neg hreset]
    obtain ⟨hd, hc⟩ : disconnects w a = false ∧ connects w w' = false := by simpa using hreset
    cases hf : failing a with
    | some id => exact onSchedule_failing hf h hs
    | none =>
        simp only [failures, hf, List.append_nil]
        refine hs.keep ?_
        rcases quiet_count hd hf h with heq | hup
        · exact heq
        · -- connected it was before, so there was nothing to count
          have hup₀ : w.link.status = .connected := by
            by_contra hne
            simp [connects, hne, hup] at hc
          rw [hw'.count_connected hup, hw.count_connected hup₀]

theorem onSchedule_run {ms : List Milestone} {as : List Action} (hw : CoherentWorld w)
    (h : w.actAll as = some w') (hs : OnSchedule w.setup.backoff w (sinceReset ms)) :
    OnSchedule w'.setup.backoff w' (sinceReset (ms ++ observed milestones w as)) := by
  induction as generalizing w ms with
  | nil =>
      obtain rfl := Option.some.inj h
      simpa [observed] using hs
  | cons a rest ih =>
      obtain ⟨v, hv, hrest⟩ := Option.bind_eq_some_iff.mp h
      have hcoherent : CoherentWorld v := runs_keep coherentWorld_step hw (act_steps hv).runs
      rw [observed_cons hv, ← List.append_assoc]
      exact ih hcoherent hrest (onSchedule_act hw hv hs)

theorem onSchedule_initial (parts : Parts) (setup : Setup) (hasRuntime : Bool)
    (stamps : Nat → Stamp) :
    OnSchedule setup.backoff (World.initial parts setup hasRuntime stamps) (sinceReset []) :=
  .reset rfl

/-- A supervisor that is to wait is told by the schedule how long. -/
theorem go_sleep (hw : CoherentWorld w) {id : Nat} {wait : Span} {tail : List Frame}
    (hs : w.stack = .supervisor id (.sleep wait) :: tail) :
    ∃ w', w.act .go = some w'
      ∧ (w'.supervisors[id]?).map (·.phase) = some (.sleeping (w.clock + wait.nanos)) := by
  have hid : id < w.supervisors.length := by
    refine hw.known (id, .sleep wait) ?_
    simp [resuming, hs]
  have hsup : w.supervisors[id]? = some w.supervisors[id] := List.getElem?_eq_getElem hid
  refine ⟨{ w with stack := tail }.rest id (.sleeping (w.clock + wait.nanos)), ?_, ?_⟩
  · simp [World.act, World.go, hs, World.resume, hsup]
  · simp [World.rest, hsup]

end Run

/-- **The schedule of attempts, over every run.**

Take any run, with any backoff, and look at the failed attempts and the ended sessions of the
supervisor in charge since the client last became connected or was told to disconnect. The count
that the client gives is their number, as far as that fits 32 bits. Each of them was followed by a
wait, the `i`-th by the one that the backoff gives for `i`; the waits never decrease and never
exceed the maximum. And a supervisor that is to wait then does, for exactly as long.
-/
theorem retry_schedule {parts : Parts} {setup : Setup} {hasRuntime : Bool}
    {stamps : Nat → Stamp} {as : List Action} {w : World}
    (h : (World.initial parts setup hasRuntime stamps).actAll as = some w) :
    (∃ waits : List Span,
      sinceReset (observed milestones (World.initial parts setup hasRuntime stamps) as)
          = waits.map some
        ∧ w.link.attempts.toNat = min waits.length countLimit
        ∧ w.perform .attempts = w.requiring w.parts.client
            (w.answer (.count (min waits.length countLimit)))
        ∧ (∀ i wait, waits[i]? = some wait →
            wait = setup.backoff.delay (.ofNat (min i countLimit)))
        ∧ waits.Pairwise (·.nanos ≤ ·.nanos)
        ∧ ∀ wait ∈ waits, wait.nanos ≤ setup.backoff.max.nanos)
    ∧ ∀ id wait tail, w.stack = .supervisor id (.sleep wait) :: tail →
      ∃ w', w.act .go = some w'
        ∧ (w'.supervisors[id]?).map (·.phase) = some (.sleeping (w.clock + wait.nanos)) := by
  have hw : CoherentWorld w := coherentWorld_reachable h
  have hsetup : w.setup = setup := by
    refine runs_keep (P := fun v => v.setup = setup) ?_ rfl (actAll_runs h)
    exact fun hv hd => (step_setup hd).trans hv
  -- the schedule of the run is that of the backoff it was set up with, which never changes
  have hrun := onSchedule_run (coherentWorld_initial parts setup hasRuntime stamps) h
    (onSchedule_initial parts setup hasRuntime stamps)
  rw [List.nil_append, hsetup] at hrun
  refine ⟨?_, fun id wait tail hs => go_sleep hw hs⟩
  generalize sinceReset (observed milestones (World.initial parts setup hasRuntime stamps) as)
    = found at hrun
  refine ⟨(List.range found.length).map (waitAfter setup.backoff), ?_, ?_, ?_, ?_, ?_, ?_⟩
  · rw [List.map_map]
    exact hrun.waits
  · rw [List.length_map, List.length_range]
    exact hrun.count
  · rw [List.length_map, List.length_range, World.perform, hrun.count]
  · intro i wait hi
    rw [List.getElem?_map, Option.map_eq_some_iff] at hi
    obtain ⟨j, hj, rfl⟩ := hi
    obtain ⟨hlt, rfl⟩ := List.getElem?_eq_some_iff.mp hj
    rw [List.getElem_range]
    rfl
  · refine List.pairwise_map.mpr ?_
    refine List.pairwise_lt_range.imp fun {i j} hij => ?_
    exact waitAfter_mono setup.backoff (Nat.le_of_lt hij)
  · intro wait hmem
    obtain ⟨i, -, rfl⟩ := List.mem_map.mp hmem
    exact Backoff.delay_le_max _ _

/-- An attempt fails, and `connect` cuts the wait short; the next attempt makes a session, which
ends; `connect` cuts that wait short as well, and its attempt fails. -/
def stubbornRun : List Action :=
  [.command .connect, .go, .go, .go, .wake 0, .answered 0 false, .go, .go, .go,
    .command .connect, .go, .go, .go, .wake 1, .answered 1 true, .go, .go, .go,
    .read 1 .ended, .go, .go, .go,
    .command .connect, .go, .go, .go, .wake 2, .answered 2 false]

/-- Two failures count since the session began, and the waits were of one second and of two. -/
theorem retry_schedule_stubborn :
    ∃ w, (World.initial ⟨true, false, true⟩ .standard true fun _ => ⟨"m1", .epoch⟩).actAll
        stubbornRun = some w
      ∧ w.link.attempts = 2
      ∧ sinceReset (observed milestones
          (World.initial ⟨true, false, true⟩ .standard true fun _ => ⟨"m1", .epoch⟩) stubbornRun)
        = [some (.ofMillis 1000), some (.ofMillis 2000)] := by
  obtain ⟨w, h, hcount⟩ :
      ∃ w, (World.initial ⟨true, false, true⟩ .standard true fun _ => ⟨"m1", .epoch⟩).actAll
          stubbornRun = some w
        ∧ w.link.attempts = 2 := ⟨_, rfl, rfl⟩
  refine ⟨w, h, hcount, ?_⟩
  obtain ⟨⟨waits, hfound, hlength, -, hwait, -, -⟩, -⟩ := retry_schedule h
  rw [hcount] at hlength
  have htwo : waits.length = 2 := by
    have : min waits.length countLimit = 2 := hlength.symm
    unfold countLimit at this
    omega
  obtain ⟨first, second, rfl⟩ := List.length_eq_two.mp htwo
  have hfirst : first = .ofMillis 1000 := hwait 0 first rfl
  have hsecond : second = .ofMillis 2000 := hwait 1 second rfl
  rw [hfound, hfirst, hsecond]
  rfl

end LiveLink.Proofs
