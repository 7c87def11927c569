import LiveLink.Proofs.Coherence

/-!
# Control states of supervisors

What the sessions of others have to know of a supervisor is its **control state**: of
which generation it is, whether it is stopped, at which stage it is and for whose
session it waits. A supervisor that has told the listeners and is to go on is at the
stage it goes on with, so its control state does not change when it does. This file
tells how control states change when a supervisor is started, moves on or is stopped,
and what the connection has to do with that of the current generation.
-/

namespace LiveLink.Proofs

open LiveLink

/-- Where a supervisor stands. -/
structure Control where
  generation : Nat
  stopped : Bool
  stage : Stage
  /-- The supervisor whose session it waits for. -/
  awaits : Option Nat
  deriving DecidableEq

/-- The supervisor that one waits for, unless it is to go on with something else. -/
def awaits (re : List (Nat × Resumption)) (id : Nat) (s : Supervisor) : Option Nat :=
  match re.find? (·.1 = id) with
  | some _ => none
  | none => awaited s.phase

def controlOf (re : List (Nat × Resumption)) (id : Nat) (s : Supervisor) : Control :=
  ⟨s.generation, s.stopped, stage re id s, awaits re id s⟩

def control (w : World) (id : Nat) : Option Control :=
  (w.supervisors[id]?).map (controlOf (resuming w) id)

variable {u w w' x : World} {act : Action} {id p : Nat} {s : Supervisor} {a : Control}

theorem control_eq_some : control w id = some a ↔
    ∃ s, w.supervisors[id]? = some s ∧ controlOf (resuming w) id s = a := Option.map_eq_some_iff

theorem control_of_eq (hs : w'.supervisors = w.supervisors) (hre : resuming w' = resuming w)
    (id : Nat) : control w' id = control w id := by
  rw [control, control, hs, hre]

theorem control_shift (t : Link × Option Change) (id : Nat) :
    control (shift x t) id = control x id :=
  control_of_eq (shift_supervisors x t) (resuming_shift x t) id

theorem control_data (h : DataStep u act w w') (id : Nat) : control w' id = control w id :=
  control_of_eq (data_supervisors h) (data_filterMap ⟨fun _ _ _ => rfl, fun _ _ _ _ => rfl⟩ h) id

/-! ## Supervisors at rest -/

theorem AtRest.control (hr : AtRest w id s) : control w id
    = some ⟨s.generation, s.stopped, restStage s.phase, awaited s.phase⟩ := by
  rw [Proofs.control, hr.supervisor, resuming_nil hr.stack]
  rfl

/-- The same supervisor in another phase. -/
theorem AtRest.rest (hr : AtRest w id s) (ph : Phase) :
    AtRest (w.rest id ph) id { s with phase := ph } :=
  ⟨hr.stack, by simp [World.rest, hr.supervisor]⟩

theorem control_rest (hr : AtRest w id s) (ph : Phase) : control (w.rest id ph) id
    = some ⟨s.generation, s.stopped, restStage ph, awaited ph⟩ := (hr.rest ph).control

theorem control_rest_ne {j : Nat} (hj : j ≠ id) (ph : Phase) :
    control (w.rest id ph) j = control w j := by
  have hs : (w.rest id ph).supervisors[j]? = w.supervisors[j]? :=
    List.getElem?_modify_ne _ _ (Ne.symm hj)
  have hre : resuming (w.rest id ph) = resuming w := rfl
  rw [control, control, hs, hre]

/-! ## Supervisors that are to go on -/

theorem resuming_push (hw : w.stack = []) (id : Nat) (next : Resumption) :
    resuming (w.push (.supervisor id next)) = [(id, next)] := by
  simp [resuming, World.push, hw]

theorem control_push (hr : AtRest w id s) (next : Resumption) :
    control (w.push (.supervisor id next)) id
      = some ⟨s.generation, s.stopped, nextStage next, none⟩ := by
  have hs : (w.push (.supervisor id next)).supervisors[id]? = some s := hr.supervisor
  rw [control, hs, resuming_push hr.stack]
  simp [controlOf, stage, awaits]

theorem control_push_ne (hw : w.stack = []) {j : Nat} (hj : j ≠ id) (next : Resumption) :
    control (w.push (.supervisor id next)) j = control w j := by
  have hs : (w.push (.supervisor id next)).supervisors = w.supervisors := rfl
  rw [control, control, hs, resuming_push hw, resuming_nil hw]
  cases w.supervisors[j]? with
  | none => rfl
  | some s => simp [controlOf, stage, awaits, Ne.symm hj]

/-- A session that hands a frame over stays in its control state. -/
theorem control_enter {socket : Nat} (hr : AtRest w id s) (hp : s.phase = .inSession socket)
    (j : Nat) : control (w.push (.supervisor id (.session socket))) j = control w j := by
  by_cases hj : j = id
  · subst hj
    rw [control_push hr, hr.control, hp]
    rfl
  · exact control_push_ne hr.stack hj _

/-- A supervisor that goes on comes to rest in a phase of the stage it was to go on with. -/
theorem resume_supervisors (hw : CoherentWorld w) {next : Resumption} {tail : List Frame}
    (hs : w.stack = .supervisor id next :: tail) :
    ∃ ph, restStage ph = nextStage next ∧ awaited ph = none
      ∧ ({ w with stack := tail }.resume id next).supervisors
        = w.supervisors.modify id ({ · with phase := ph }) := by
  have hid : id < w.supervisors.length := by
    refine hw.known (id, next) ?_
    simp [resuming, hs]
  obtain ⟨t, ht⟩ : ∃ t, w.supervisors[id]? = some t := ⟨_, List.getElem?_eq_getElem hid⟩
  cases next with
  | session socket => exact ⟨.inSession socket, rfl, rfl, by simp only [World.resume, ht]; rfl⟩
  | sleep wait =>
      exact ⟨.sleeping (w.clock + wait.nanos), rfl, rfl, by simp only [World.resume, ht]; rfl⟩
  | dial => exact ⟨.opening w.endpoint, rfl, rfl, by simp only [World.resume, ht]; rfl⟩

/-- So its control state stays. -/
theorem control_resume (hw : CoherentWorld w) {next : Resumption} {tail : List Frame}
    (hs : w.stack = .supervisor id next :: tail) (j : Nat) :
    control ({ w with stack := tail }.resume id next) j = control w j := by
  have hre : resuming w = (id, next) :: resuming { w with stack := tail } := by
    simp [resuming, hs]
  -- nobody else is to go on
  have hnone : resuming { w with stack := tail } = [] := by
    have := hw.one
    rw [hre, List.length_cons] at this
    exact List.eq_nil_of_length_eq_zero (by omega)
  have hre' : resuming ({ w with stack := tail }.resume id next) = [] := by
    rw [← hnone]
    simp [resuming]
  obtain ⟨ph, hp, hawait, hsup⟩ := resume_supervisors hw hs
  rw [control, control, hre', hsup, hre, hnone]
  by_cases hj : id = j
  · subst hj
    rw [List.getElem?_modify_eq]
    cases w.supervisors[id]? with
    | none => rfl
    | some s => simp [controlOf, stage, awaits, hp, hawait]
  · rw [List.getElem?_modify_ne _ _ hj]
    cases w.supervisors[j]? with
    | none => rfl
    | some s => simp [controlOf, stage, awaits, hj]

/-! ## Supervisors that are started or stopped -/

/-- A supervisor that is started is stopped at once if its generation has passed. -/
theorem startSupervisor_supervisors (w : World) (g : Nat) (previous : Option Nat) :
    ∃ stopped, (stopped = false → g = w.link.generation)
      ∧ (w.startSupervisor g previous).supervisors
        = w.supervisors ++ [⟨g, .fresh previous, stopped⟩] := by
  unfold World.startSupervisor Link.adopt
  by_cases hg : w.link.generation = g
  · exact ⟨false, fun _ => hg.symm, by simp [hg]⟩
  · refine ⟨true, fun h => absurd h (by simp), ?_⟩
    simp only [if_neg hg, World.stopSupervisor]
    exact modify_concat _ _ _

/-- It waits for the session it was given. -/
theorem control_start (hw : CoherentWorld w) {g : Nat} {previous : Option Nat} {tail : List Frame}
    (hs : w.stack = .connecting g previous :: tail) :
    ∃ stopped, (stopped = false → g = w.link.generation) ∧ ∀ j,
      control ({ w with stack := tail }.startSupervisor g previous) j
        = if j = w.supervisors.length then some ⟨g, stopped, .starting, previous⟩
          else control w j := by
  obtain ⟨stopped, hstop, hlist⟩ := startSupervisor_supervisors { w with stack := tail } g previous
  have hre : resuming ({ w with stack := tail }.startSupervisor g previous) = resuming w := by
    simp [resuming, hs]
  refine ⟨stopped, hstop, fun j => ?_⟩
  rw [control, hre, hlist]
  rcases Nat.lt_trichotomy j w.supervisors.length with hj | rfl | hj
  · rw [if_neg (by omega), List.getElem?_append_left hj]
    rfl
  · -- the new one is not among those who are to go on
    have hnone : (resuming w).find? (·.1 = w.supervisors.length) = none := by
      rw [List.find?_eq_none]
      intro p hp
      have := hw.known p hp
      simp only [decide_eq_true_eq]
      omega
    rw [if_pos rfl, List.getElem?_concat_length, Option.map_some, controlOf, stage, awaits, hnone]
    rfl
  · rw [if_neg (by omega), control, List.getElem?_eq_none (by simp; omega),
      List.getElem?_eq_none (by omega)]

theorem startSupervisor_link (w : World) (g : Nat) (previous : Option Nat) :
    ∃ o, (w.startSupervisor g previous).link = { w.link with supervisor := o } := by
  unfold World.startSupervisor Link.adopt
  dsimp only
  split
  · rename_i hlink
    split at hlink
    · obtain rfl := Option.some.inj hlink
      exact ⟨_, rfl⟩
    · exact absurd hlink (by simp)
  · exact ⟨w.link.supervisor, rfl⟩

theorem control_stop (o : Option Nat) (j : Nat) : control (w.stopSupervisor o) j
    = if o = some j then (control w j).map ({ · with stopped := true }) else control w j := by
  have hre : resuming (w.stopSupervisor o) = resuming w := by simp [resuming]
  rw [control, control, hre, stopSupervisor_supervisors]
  cases o with
  | none => rfl
  | some id =>
      by_cases hj : id = j
      · subst hj
        rw [if_pos rfl, Coherent.halted, List.getElem?_modify_eq]
        cases w.supervisors[id]? <;> rfl
      · rw [if_neg (by simpa using hj), Coherent.halted, List.getElem?_modify_ne _ _ hj]

/-- Stopping another supervisor leaves this one as it is. -/
theorem AtRest.stopped_other (hr : AtRest w id s) (hp : p ≠ id) :
    AtRest (w.stopSupervisor (some p)) id s := by
  refine ⟨hr.stack, ?_⟩
  simp only [World.stopSupervisor]
  rw [List.getElem?_modify_ne _ _ hp]
  exact hr.supervisor

/-! ## The connection and the control state of the current generation -/

/-- Who waits for a session is starting. -/
theorem stage_of_awaits (ha : control w id = some a) (hp : a.awaits = some p) :
    a.stage = .starting := by
  obtain ⟨s, -, rfl⟩ := control_eq_some.mp ha
  cases hfind : (resuming w).find? (·.1 = id) with
  | some r =>
      simp only [controlOf, awaits, hfind] at hp
      exact absurd hp (by simp)
  | none =>
      simp only [controlOf, awaits, stage, hfind] at hp ⊢
      cases hphase : s.phase with
      | fresh previous => rfl
      | waiting previous deadline => rfl
      | _ =>
          rw [hphase] at hp
          exact absurd hp (by simp [awaited])

namespace CoherentWorld

/-- Nobody waits for himself. -/
theorem waits_other (hw : CoherentWorld w) (hs : w.supervisors[id]? = some s)
    (hp : awaited s.phase = some p) : p ≠ id := by
  obtain ⟨t, ht, hlt⟩ := hw.waiting id s p hs hp
  rintro rfl
  obtain rfl : t = s := Option.some.inj (ht.symm.trans hs)
  omega

theorem current_post (hw : CoherentWorld w) (ha : Proofs.control w id = some a)
    (hg : a.generation = w.link.generation) : w.link.status ≠ .disconnected
      ∧ w.link.supervisor = some id ∧ a.stopped = false ∧ Fits w.link a.stage := by
  obtain ⟨s, hs, rfl⟩ := control_eq_some.mp ha
  exact hw.current hs hg

/-- A client that is not disconnected is about to start a supervisor or has one. -/
theorem held_post (hw : CoherentWorld w) (h : w.link.status ≠ .disconnected) :
    Fits w.link .starting ∨ ∃ id a, Proofs.control w id = some a ∧ Fits w.link a.stage := by
  rcases hw.up h with ⟨-, -, hfit⟩ | ⟨id, s, -, hs, -, -, hfit⟩
  · exact .inl hfit
  · exact .inr ⟨id, _, control_eq_some.mpr ⟨s, hs, rfl⟩, hfit⟩

end CoherentWorld

end LiveLink.Proofs
