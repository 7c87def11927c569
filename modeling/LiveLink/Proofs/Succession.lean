import LiveLink.Proofs.ControlStates

/-!
# One session after another

A session that is told to close may take its time, and the next supervisor waits
for it before it asks for a socket. The session is handed on: `disconnect` leaves
it with the connection, `connect` takes it from there, and the supervisor that
`connect` starts waits for it. So a session that is not over is always **accounted
for**: it is that of the current supervisor, or the connection has it as the one that
closes, or whoever is of the current generation waits for it (`AwaitedInv`).

There is one way out. A `disconnect` that comes while the next supervisor still
waits stops that supervisor, and nobody has the session any more: the next
`connect` asks for a socket at once (`sessions_overlap`). On every run without
such a `disconnect` this is kept, and since only one session can be accounted for
there is only one (`sole_session`).
-/

namespace LiveLink.Proofs

open LiveLink

/-! ## Sessions that run -/

/-- At this stage a supervisor has a socket. -/
def engaged : Stage → Bool
  | .inSession _ | .leaving => true
  | _ => false

namespace Control

/-- It has a socket, and nobody has given the session up. -/
def busy (a : Control) : Bool := engaged a.stage && !a.stopped

/-- It has a socket that somebody has waited for in vain. -/
def givenUp (a : Control) : Bool := engaged a.stage && a.stopped

/-- It is to open a socket sooner or later. -/
def idle (a : Control) : Bool := (a.stage = .starting || a.stage = .sleeping) && !a.stopped

end Control

/-- The session of a supervisor runs and has not been given up. -/
def busy (w : World) (p : Nat) : Bool := (control w p).any Control.busy

def givenUp (w : World) (p : Nat) : Bool := (control w p).any Control.givenUp

/-- The supervisors for whose sessions the current generation waits. -/
def pending (w : World) : List Nat :=
  (starting w).filterMap (fun c => if c.1 = w.link.generation then c.2 else none)
    ++ (List.range w.supervisors.length).filterMap fun id =>
      (control w id).bind fun a => if a.generation = w.link.generation then a.awaits else none

/-- The sessions that nobody waits for any more because of a `disconnect`. -/
def orphaned (w : World) (a : Action) : List Nat :=
  match cause w a with
  | .asked .disconnect => (pending w).filter (busy w)
  | _ => []

variable {u w w' x : World} {act : Action} {id p q : Nat} {s : Supervisor} {a b : Control}

theorem busy_iff : busy w p = true ↔ ∃ a, control w p = some a ∧ a.busy = true :=
  Option.any_eq_true _ _

theorem mem_pending : p ∈ pending w ↔ (w.link.generation, some p) ∈ starting w
    ∨ ∃ id a, control w id = some a ∧ a.generation = w.link.generation ∧ a.awaits = some p := by
  unfold pending
  rw [List.mem_append, List.mem_filterMap, List.mem_filterMap]
  refine or_congr ⟨?_, ?_⟩ ⟨?_, ?_⟩
  · rintro ⟨⟨g, previous⟩, hmem, hp⟩
    split at hp
    · rename_i hg
      exact hg ▸ hp ▸ hmem
    · exact absurd hp (by simp)
  · intro hmem
    exact ⟨_, hmem, if_pos rfl⟩
  · rintro ⟨id, -, hp⟩
    obtain ⟨a, ha, hp⟩ := Option.bind_eq_some_iff.mp hp
    split at hp
    · rename_i hg
      exact ⟨id, a, ha, hg, hp⟩
    · exact absurd hp (by simp)
  · rintro ⟨id, a, ha, hg, hp⟩
    obtain ⟨s, hs, -⟩ := control_eq_some.mp ha
    refine ⟨id, List.mem_range.mpr (List.getElem?_eq_some_iff.mp hs).1, ?_⟩
    rw [ha, Option.bind_some, if_pos hg, hp]

theorem pending_congr (hcontrol : ∀ j, control w' j = control w j) (hst : starting w' = starting w)
    (hg : w'.link.generation = w.link.generation) : p ∈ pending w' ↔ p ∈ pending w := by
  rw [mem_pending, mem_pending, hst, hg]
  simp only [hcontrol]

/-! ## Who can have a session -/

namespace CoherentWorld

/-- The current supervisor has a socket exactly if the client is connected. -/
theorem connected_of_busy (hw : CoherentWorld w) (ha : Proofs.control w id = some a)
    (hg : a.generation = w.link.generation) (hb : a.busy = true) :
    w.link.status = .connected ∧ w.link.outbound.isSome ∧ w.link.supervisor = some id := by
  obtain ⟨-, hsup, -, hfit⟩ := hw.current_post ha hg
  unfold Control.busy at hb
  cases hstage : a.stage with
  | inSession socket =>
      rw [hstage] at hfit
      exact ⟨hfit.1, by rw [hfit.2.1]; rfl, hsup⟩
  | leaving =>
      rw [hstage] at hfit
      exact hfit.elim
  | _ =>
      rw [hstage] at hb
      exact absurd hb (by simp [engaged])

/-- Somebody waits only while the client is about to connect. -/
theorem connecting_of_pending (hw : CoherentWorld w) (hp : p ∈ pending w) :
    w.link.status = .connecting := by
  rcases mem_pending.mp hp with hmem | ⟨id, a, ha, hg, hp⟩
  · have hgen : w.link.generation ∈ (starting w).map Prod.fst := List.mem_map_of_mem hmem
    have hup : w.link.status ≠ .disconnected := fun hd =>
      (hw.down hd).1 (List.mem_append_right _ hgen)
    rcases hw.up hup with ⟨-, -, hfit⟩ | ⟨id, s, -, hs, hg, -, -⟩
    · exact hfit.1
    · exact absurd (hg ▸ hgen) (hw.not_starting hs)
  · obtain ⟨-, -, -, hfit⟩ := hw.current_post ha hg
    rw [stage_of_awaits ha hp] at hfit
    exact hfit.1

/-- Who has a supervisor waits for no start. -/
theorem not_to_start (hw : CoherentWorld w) (ha : Proofs.control w id = some a)
    (hg : a.generation = w.link.generation) : (w.link.generation, some p) ∉ starting w := by
  obtain ⟨s, hs, rfl⟩ := control_eq_some.mp ha
  have hg : s.generation = w.link.generation := hg
  intro hmem
  have hgen : w.link.generation ∈ (starting w).map Prod.fst := List.mem_map_of_mem hmem
  exact hw.not_starting hs (hg ▸ hgen)

/-- A generation is given to one `connect` or to one supervisor, and each waits for one session. -/
theorem pending_unique (hw : CoherentWorld w) (hp : p ∈ pending w)
    (hq : q ∈ pending w) : p = q := by
  rcases mem_pending.mp hp with hp | ⟨i, a, ha, hg, hp⟩ <;>
    rcases mem_pending.mp hq with hq | ⟨j, b, hb, hg', hq⟩
  · have hnd : ((starting w).map Prod.fst).Nodup := hw.distinct.of_append_right
    have heq : (w.link.generation, some p) = (w.link.generation, some q) :=
      List.inj_on_of_nodup_map hnd hp hq rfl
    exact Option.some.inj (Prod.mk.inj heq).2
  · exact absurd hp (hw.not_to_start hb hg')
  · exact absurd hq (hw.not_to_start ha hg)
  · have hi := (hw.current_post ha hg).2.1
    have hj := (hw.current_post hb hg').2.1
    obtain rfl : i = j := Option.some.inj (hi.symm.trans hj)
    obtain rfl : a = b := Option.some.inj (ha.symm.trans hb)
    exact Option.some.inj (hp.symm.trans hq)

end CoherentWorld

/-! ## Charges -/

/-- Every session that runs is that of somebody of the current generation, or one that the current
generation or the connection waits for. -/
structure AwaitedInv (w : World) : Prop where
  closing : w.link.status ≠ .disconnected → w.link.closing = none
  busy : ∀ p, busy w p = true → w.link.closing = some p
    ∨ (∃ a, control w p = some a ∧ a.generation = w.link.generation) ∨ p ∈ pending w
  idle : ∀ id a, control w id = some a → a.idle = true → a.generation = w.link.generation

namespace AwaitedInv

/-- There is only one session that can be accounted for. -/
theorem unique (hc : AwaitedInv w) (hw : CoherentWorld w) (hp : Proofs.busy w p = true)
    (hq : Proofs.busy w q = true) : p = q := by
  -- the status tells to whom
  have kind : ∀ r, Proofs.busy w r = true →
      (w.link.status = .disconnected ∧ w.link.closing = some r)
        ∨ (w.link.status = .connected ∧ w.link.supervisor = some r)
        ∨ (w.link.status = .connecting ∧ r ∈ pending w) := by
    intro r hr
    obtain ⟨b, hb, hbusy⟩ := busy_iff.mp hr
    rcases hc.busy r hr with hclose | ⟨a, ha, hg⟩ | hpend
    · refine .inl ⟨?_, hclose⟩
      by_contra hup
      rw [hc.closing hup] at hclose
      exact absurd hclose (by simp)
    · obtain rfl : a = b := Option.some.inj (ha.symm.trans hb)
      obtain ⟨hstatus, -, hsup⟩ := hw.connected_of_busy ha hg hbusy
      exact .inr (.inl ⟨hstatus, hsup⟩)
    · exact .inr (.inr ⟨hw.connecting_of_pending hpend, hpend⟩)
  rcases kind p hp with ⟨hs, hp⟩ | ⟨hs, hp⟩ | ⟨hs, hp⟩ <;>
    rcases kind q hq with ⟨hs', hq⟩ | ⟨hs', hq⟩ | ⟨hs', hq⟩
  · exact Option.some.inj (hp.symm.trans hq)
  · exact Status.noConfusion (hs.symm.trans hs')
  · exact Status.noConfusion (hs.symm.trans hs')
  · exact Status.noConfusion (hs.symm.trans hs')
  · exact Option.some.inj (hp.symm.trans hq)
  · exact Status.noConfusion (hs.symm.trans hs')
  · exact Status.noConfusion (hs.symm.trans hs')
  · exact Status.noConfusion (hs.symm.trans hs')
  · exact hw.pending_unique hp hq

/-- A supervisor that is to open a socket and waits for nobody is alone. -/
theorem alone (hc : AwaitedInv w) (hw : CoherentWorld w) (ha : Proofs.control w id = some a)
    (hi : a.idle = true) (hn : a.awaits = none) (p : Nat) : Proofs.busy w p = false := by
  have hg := hc.idle id a ha hi
  obtain ⟨hup, hsup, -, -⟩ := hw.current_post ha hg
  by_contra hb
  have hb : Proofs.busy w p = true := by simpa using hb
  obtain ⟨b, hcontrol, hbusy⟩ := busy_iff.mp hb
  rcases hc.busy p hb with hclose | ⟨b', hb', hg'⟩ | hpend
  · rw [hc.closing hup] at hclose
    exact absurd hclose (by simp)
  · -- the current supervisor has no socket yet
    have hsup' := (hw.current_post hb' hg').2.1
    obtain rfl : id = p := Option.some.inj (hsup.symm.trans hsup')
    obtain rfl : a = b := Option.some.inj (ha.symm.trans hcontrol)
    unfold Control.idle at hi
    unfold Control.busy at hbusy
    cases hstage : a.stage <;> simp [hstage, engaged] at hi hbusy
  · rcases mem_pending.mp hpend with hmem | ⟨j, c, hj, hgj, hpj⟩
    · exact hw.not_to_start ha hg hmem
    · have hsup' := (hw.current_post hj hgj).2.1
      obtain rfl : id = j := Option.some.inj (hsup.symm.trans hsup')
      obtain rfl : a = c := Option.some.inj (ha.symm.trans hj)
      rw [hn] at hpj
      exact absurd hpj (by simp)

/-- Nothing changes that charges are about. -/
theorem congr (hc : AwaitedInv w) (hcontrol : ∀ j, Proofs.control w' j = Proofs.control w j)
    (hst : starting w' = starting w) (hg : w'.link.generation = w.link.generation)
    (hclosing : w'.link.closing = w.link.closing)
    (hup : w'.link.status ≠ .disconnected → w.link.status ≠ .disconnected) : AwaitedInv w' := by
  refine ⟨?_, ?_, ?_⟩
  · intro h
    rw [hclosing]
    exact hc.closing (hup h)
  · intro p hp
    rw [Proofs.busy, hcontrol p] at hp
    rw [hclosing, hcontrol p, hg, pending_congr hcontrol hst hg]
    exact hc.busy p hp
  · intro id a ha hi
    rw [hg]
    exact hc.idle id a (hcontrol id ▸ ha) hi

/-- One supervisor moves on. -/
theorem update (hc : AwaitedInv w) (ha : Proofs.control w id = some a)
    (hb : Proofs.control w' id = some b)
    (hother : ∀ j, j ≠ id → Proofs.control w' j = Proofs.control w j)
    (hst : starting w' = starting w)
    (hg : w'.link.generation = w.link.generation) (hclosing : w'.link.closing = w.link.closing)
    (hup : w'.link.status ≠ .disconnected → w.link.status ≠ .disconnected)
    (hsame : b.generation = a.generation)
    (hbusy : b.busy = true → a.busy = true ∨ a.generation = w.link.generation)
    (hidle : b.idle = true → a.idle = true ∨ a.generation = w.link.generation)
    (hawaits : a.generation = w.link.generation →
      ∀ p, a.awaits = some p → b.awaits = some p ∨ Proofs.busy w' p = false) :
    AwaitedInv w' := by
  refine ⟨?_, ?_, ?_⟩
  · intro h
    rw [hclosing]
    exact hc.closing (hup h)
  · intro p hp
    rw [hclosing, hg]
    -- the one who moves accounts for its own session if it is the current one; otherwise the
    -- session ran before, and whoever waited for it still does
    by_cases hid : p = id ∧ a.generation = w.link.generation
    · obtain ⟨rfl, hcur⟩ := hid
      exact .inr (.inl ⟨b, hb, hsame.trans hcur⟩)
    · have hold : Proofs.busy w p = true := by
        by_cases hpid : p = id
        · subst hpid
          rw [Proofs.busy, hb] at hp
          rw [Proofs.busy, ha]
          exact (hbusy hp).resolve_right fun hcur => hid ⟨rfl, hcur⟩
        · rw [Proofs.busy, hother p hpid] at hp
          exact hp
      rcases hc.busy p hold with h | ⟨c, hpc, hcg⟩ | hpend
      · exact .inl h
      · by_cases hpid : p = id
        · subst hpid
          obtain rfl : c = a := Option.some.inj (hpc.symm.trans ha)
          exact absurd ⟨rfl, hcg⟩ hid
        · exact .inr (.inl ⟨c, (hother p hpid).trans hpc, hcg⟩)
      · refine .inr (.inr (mem_pending.mpr ?_))
        rw [hst, hg]
        rcases mem_pending.mp hpend with hmem | ⟨j, c, hj, hcg, hcp⟩
        · exact .inl hmem
        · by_cases hjid : j = id
          · subst hjid
            obtain rfl : c = a := Option.some.inj (hj.symm.trans ha)
            rcases hawaits hcg p hcp with hbp | hnot
            · exact .inr ⟨j, b, hb, hsame.trans hcg, hbp⟩
            · rw [hp] at hnot
              exact absurd hnot (by simp)
          · exact .inr ⟨j, c, (hother j hjid).trans hj, hcg, hcp⟩
  · intro j c hj hi
    rw [hg]
    by_cases hjid : j = id
    · subst hjid
      obtain rfl : c = b := Option.some.inj (hj.symm.trans hb)
      rcases hidle hi with hi | hcur
      · exact hsame.trans (hc.idle j a ha hi)
      · exact hsame.trans hcur
    · exact hc.idle j c ((hother j hjid).symm.trans hj) hi

end AwaitedInv

/-! ## Small changes and charges -/

/-- `connect` takes the session that closes along, and nobody else has one. -/
theorem awaitedInv_connect (hw : CoherentWorld w) (hc : AwaitedInv w)
    (hm : w.link.mayConnect = true) :
    AwaitedInv
      (shift ((w.stopSupervisor w.link.supervisor).push (.connecting
        w.link.startConnecting.1.generation w.link.closing)) w.link.startConnecting) := by
  have hup : w.link.status ≠ .connected ∧ w.link.status ≠ .connecting := by
    cases hs : w.link.status <;> simp [Link.mayConnect, hs] at hm ⊢
  have hlink := shift_link ((w.stopSupervisor w.link.supervisor).push
    (.connecting w.link.startConnecting.1.generation w.link.closing)) w.link.startConnecting
  have hcontrol : ∀ j, control (shift ((w.stopSupervisor w.link.supervisor).push
      (.connecting w.link.startConnecting.1.generation w.link.closing)) w.link.startConnecting) j
      = control (w.stopSupervisor w.link.supervisor) j := by
    intro j
    rw [control_shift]
    exact control_of_eq rfl (by simp [resuming, World.push]) j
  refine ⟨?_, ?_, ?_⟩
  · intro _
    rw [hlink]
    simp [Link.startConnecting]
  · intro p hp
    have hold : busy w p = true := by
      rw [busy, hcontrol, control_stop] at hp
      split at hp
      · cases hq : control w p <;> simp [hq, Control.busy] at hp
      · exact hp
    obtain ⟨b, hb, hbusy⟩ := busy_iff.mp hold
    rcases hc.busy p hold with hclose | ⟨a, ha, hg⟩ | hpend
    · refine .inr (.inr (mem_pending.mpr (.inl ?_)))
      rw [starting_shift, hlink, ← hclose]
      exact List.mem_cons_self
    · obtain rfl : a = b := Option.some.inj (ha.symm.trans hb)
      exact absurd (hw.connected_of_busy ha hg hbusy).1 hup.1
    · exact absurd (hw.connecting_of_pending hpend) hup.2
  · -- the one that might still open a socket is the one that is stopped
    intro id a ha hi
    rw [hcontrol, control_stop] at ha
    split at ha
    · obtain ⟨b, -, rfl⟩ := Option.map_eq_some_iff.mp ha
      simp [Control.idle] at hi
    · rename_i hne
      exact absurd (hw.current_post ha (hc.idle id a ha hi)).2.1 hne

/-- A `disconnect` leaves the session to the connection, if nobody waits for another one. -/
theorem awaitedInv_disconnect (hw : CoherentWorld w) (hc : AwaitedInv w)
    (hcalm : ∀ p ∈ pending w, busy w p = false) :
    AwaitedInv (shift (w.stopSupervisor w.link.idleSupervisor) w.link.stop) := by
  have hlink := shift_link (w.stopSupervisor w.link.idleSupervisor) w.link.stop
  have hclosing : w.link.stop.1.closing = if w.link.outbound.isSome ∧ w.link.supervisor.isSome
      then w.link.supervisor else w.link.closing := by
    simp only [Link.stop, Link.setStatus_closing]
  refine ⟨?_, ?_, ?_⟩
  · intro hup
    rw [hlink] at hup
    exact absurd (by simp [Link.stop]) hup
  · intro p hp
    have hold : busy w p = true := by
      rw [busy, control_shift, control_stop] at hp
      split at hp
      · cases hq : control w p <;> simp [hq, Control.busy] at hp
      · exact hp
    obtain ⟨b, hb, hbusy⟩ := busy_iff.mp hold
    rw [hlink, hclosing]
    rcases hc.busy p hold with hclose | ⟨a, ha, hg⟩ | hpend
    · have hdown : w.link.status = .disconnected := by
        by_contra hup
        rw [hc.closing hup] at hclose
        exact absurd hclose (by simp)
      rw [if_neg (by simp [(hw.down hdown).2.2.1])]
      exact .inl hclose
    · obtain rfl : a = b := Option.some.inj (ha.symm.trans hb)
      obtain ⟨-, hout, hsup⟩ := hw.connected_of_busy ha hg hbusy
      rw [if_pos ⟨hout, by rw [hsup]; rfl⟩]
      exact .inl hsup
    · rw [hcalm p hpend] at hold
      exact absurd hold (by simp)
  · intro id a ha hi
    rw [control_shift, control_stop] at ha
    split at ha
    · obtain ⟨b, -, rfl⟩ := Option.map_eq_some_iff.mp ha
      simp [Control.idle] at hi
    · rename_i hne
      obtain ⟨-, hsup, -, hfit⟩ := hw.current_post ha (hc.idle id a ha hi)
      -- a supervisor without a socket is stopped at once
      have hout : w.link.outbound = none := by
        unfold Control.idle at hi
        cases hstage : a.stage with
        | starting =>
            rw [hstage] at hfit
            exact hfit.2
        | sleeping =>
            rw [hstage] at hfit
            exact hfit.2
        | _ => simp [hstage] at hi
      exact absurd (by simp [Link.idleSupervisor, hout, hsup]) hne

/-- The supervisor that `connect` starts waits for the session in its place. -/
theorem awaitedInv_start (hw : CoherentWorld w) (hc : AwaitedInv w) {g : Nat}
    {previous : Option Nat} {tail : List Frame} (hs : w.stack = .connecting g previous :: tail) :
    AwaitedInv ({ w with stack := tail }.startSupervisor g previous) := by
  obtain ⟨o, hlink⟩ := startSupervisor_link { w with stack := tail } g previous
  obtain ⟨stopped, hstop, hcontrol⟩ := control_start hw hs
  have hst : starting w
      = (g, previous) :: starting ({ w with stack := tail }.startSupervisor g previous) := by
    simp [starting, hs]
  have hnew := (hcontrol w.supervisors.length).trans (if_pos rfl)
  have hold : ∀ {j a}, control w j = some a →
      control ({ w with stack := tail }.startSupervisor g previous) j = some a := by
    intro j a ha
    obtain ⟨s, hj, -⟩ := control_eq_some.mp ha
    have hlt := (List.getElem?_eq_some_iff.mp hj).1
    rw [hcontrol, if_neg (by omega), ha]
  refine ⟨?_, ?_, ?_⟩
  · intro hup
    rw [hlink] at hup ⊢
    exact hc.closing hup
  · intro p hp
    have hbusy : busy w p = true := by
      rw [busy, hcontrol] at hp
      split at hp
      · exact absurd hp (by simp [Control.busy, engaged])
      · exact hp
    rw [hlink]
    rcases hc.busy p hbusy with h | ⟨a, ha, hg⟩ | hpend
    · exact .inl h
    · exact .inr (.inl ⟨a, hold ha, hg⟩)
    · refine .inr (.inr (mem_pending.mpr ?_))
      rw [hlink]
      rcases mem_pending.mp hpend with hmem | ⟨j, a, ha, hg, hap⟩
      · rw [hst] at hmem
        rcases List.mem_cons.mp hmem with heq | hmem
        · -- what `connect` carried is what the new supervisor waits for
          obtain ⟨rfl, rfl⟩ := Prod.mk.inj heq
          exact .inr ⟨_, _, hnew, rfl, rfl⟩
        · exact .inl hmem
      · exact .inr ⟨j, a, hold ha, hg, hap⟩
  · intro j a ha hi
    rw [hlink]
    rw [hcontrol] at ha
    split at ha
    · obtain rfl := Option.some.inj ha
      exact hstop (by simpa [Control.idle] using hi)
    · exact hc.idle j a ha hi

/-- A supervisor that waits for no session that runs asks for a socket. -/
theorem awaitedInv_dial (hc : AwaitedInv w) (hr : AtRest w id s)
    (hp : restStage s.phase = .starting)
    (hn : ∀ q, awaited s.phase = some q → q ≠ id → busy w q = false) :
    AwaitedInv (w.dial id s) := by
  refine hc.update hr.control (control_rest hr (.opening w.endpoint))
    (fun j hj => control_rest_ne hj _)
    rfl rfl rfl (fun h => h) rfl (fun h => ?_) (fun h => ?_) fun _ q hq => .inr ?_
  · exact absurd h (by simp [Control.busy, restStage, engaged])
  · refine .inl ?_
    unfold Control.idle at h ⊢
    dsimp only at h ⊢
    rw [hp]
    exact h
  · by_cases hqid : q = id
    · subst hqid
      have hcontrol : control (w.dial q s) q = _ := control_rest hr (.opening w.endpoint)
      rw [busy, hcontrol]
      rfl
    · have hcontrol : control (w.dial id s) q = control w q := control_rest_ne hqid _
      rw [busy, hcontrol]
      exact hn q hq hqid

/-- Whoever has come to its end runs no session. -/
theorem busy_finished (hs : w.stack = []) (hf : w.isFinished q = true) : busy w q = false := by
  unfold World.isFinished at hf
  rw [busy, control, resuming_nil hs]
  cases hq : w.supervisors[q]? with
  | none => rfl
  | some t =>
      have hph : t.phase = .finished := by simpa [hq] using hf
      simp [controlOf, stage, hph, restStage, Control.busy, engaged]

/-- The current supervisor is to go on, and waits for nobody. -/
theorem awaitedInv_goOn {v : World} {s' : Supervisor} {t : Link × Option Change}
    (hw : CoherentWorld w)
    (hc : AwaitedInv w) (hr : AtRest w id s) (hg : s.generation = w.link.generation)
    (hn : awaited s.phase = none) (hv : AtRest v id s') (hsame : s'.generation = s.generation)
    (hother : ∀ j, j ≠ id → control v j = control w j) (hst : starting v = starting w)
    (hgen : t.1.generation = w.link.generation) (hclosing : t.1.closing = w.link.closing)
    (next : Resumption) : AwaitedInv (shift (v.push (.supervisor id next)) t) := by
  have hup : w.link.status ≠ .disconnected := (hw.current hr.supervisor hg).1
  have hself : control (shift (v.push (.supervisor id next)) t) id
      = some ⟨s'.generation, s'.stopped, nextStage next, none⟩ :=
    (control_shift t id).trans (control_push hv next)
  refine hc.update hr.control hself (fun j hj => ?_) ?_ ?_ ?_ (fun _ => hup) hsame
    (fun _ => .inr hg) (fun _ => .inr hg) fun _ q hq => ?_
  · rw [control_shift, control_push_ne hv.stack hj, hother j hj]
  · rw [starting_shift]
    exact hst
  · rw [shift_link]
    exact hgen
  · rw [shift_link]
    exact hclosing
  · rw [hn] at hq
    exact absurd hq (by simp)

/-- A supervisor that has waited long enough gives the session up, and asks for a socket then. -/
theorem awaitedInv_giveUp (hw : CoherentWorld w) (hc : AwaitedInv w) (hr : AtRest w id s) {d : Nat}
    (hp : s.phase = .waiting p d) (hf : w.isFinished p = false) :
    AwaitedInv ((w.stopSupervisor (some p)).dial id s) := by
  have hne : p ≠ id := hw.waits_other hr.supervisor (by rw [hp]; rfl)
  obtain ⟨t, ht⟩ : ∃ t, w.supervisors[p]? = some t := by
    cases ht : w.supervisors[p]? with
    | none => simp [World.isFinished, ht] at hf
    | some t => exact ⟨t, rfl⟩
  have hcontrol : control w p = some (controlOf (resuming w) p t) :=
    control_eq_some.mpr ⟨t, ht, rfl⟩
  have hstopped : control (w.stopSupervisor (some p)) p
      = some { controlOf (resuming w) p t with stopped := true } := by
    rw [control_stop, if_pos rfl, hcontrol]
    rfl
  -- first the session is given up, then the supervisor goes on
  have hmid : AwaitedInv (w.stopSupervisor (some p)) := by
    refine hc.update hcontrol hstopped (fun j hj => ?_) (by simp [starting]) (by simp) (by simp)
      (by simp) rfl (fun h => ?_) (fun h => ?_) fun _ q hq => .inl hq
    · rw [control_stop, if_neg (by simpa using Ne.symm hj)]
    · exact absurd h (by simp [Control.busy])
    · exact absurd h (by simp [Control.idle])
  refine awaitedInv_dial hmid (hr.stopped_other hne) (by rw [hp]; rfl) ?_
  intro q hq _
  rw [hp] at hq
  obtain rfl := Option.some.inj hq
  rw [busy, hstopped]
  simp [Control.busy]

/-- **Charges are kept by every small change but a `disconnect`.** -/
theorem awaitedInv_step (hw : CoherentWorld w) (hc : AwaitedInv w) (h : SmallStep u act w w')
    (hy : cause u act ≠ .asked .disconnect) : AwaitedInv w' := by
  cases h with
  | data h =>
      obtain ⟨t, hl⟩ := data_link h
      refine hc.congr (control_data h) (data_filterMap ⟨fun _ _ _ => rfl, fun _ _ _ _ => rfl⟩ h)
        ?_ ?_ ?_ <;> rw [hl]
      exact fun h => h
  | pass nanos hs => exact hc.congr (fun _ => rfl) rfl rfl rfl fun h => h
  | announce c ha hb =>
      exact hc.congr (control_of_eq rfl (offer_filterMap w (fun _ _ => rfl) c))
        (offer_filterMap w (fun _ _ => rfl) c) rfl rfl fun h => h
  | heardOnce hs =>
      exact hc.congr (control_of_eq rfl (by simp [resuming, World.happen, hs]))
        (by simp [starting, World.happen, hs]) rfl rfl fun h => h
  | heard o cs hs =>
      exact hc.congr (control_of_eq rfl (by simp [resuming, World.happen, hs]))
        (by simp [starting, World.happen, hs]) rfl rfl fun h => h
  | drained hs hp =>
      exact hc.congr (control_of_eq rfl (by simp [resuming, hs])) (by simp [starting, hs]) rfl rfl
        fun h => h
  | skipped hs hp hd => exact hc.congr (fun _ => rfl) rfl rfl rfl fun h => h
  | announced hs hp hd =>
      exact hc.congr (control_of_eq rfl (by simp [resuming, World.happen, hs]))
        (by simp [starting, World.happen, hs]) rfl rfl fun h => h
  | connect hy' ha hr hm => exact awaitedInv_connect hw hc hm
  -- the one change that can leave a session to nobody
  | disconnect hy' ha => exact absurd hy' hy
  | start hs => exact awaitedInv_start hw hc hs
  | @resume id next tail hs =>
      have hlink : ({ w with stack := tail }.resume id next).link = w.link := by
        unfold World.resume
        split <;> rfl
      refine hc.congr (control_resume hw hs) ?_ (by rw [hlink]) (by rw [hlink])
        (by rw [hlink]; exact fun h => h)
      simp [starting, hs]
  | @dial id s hr hs hp =>
      refine awaitedInv_dial hc hr ?_ ?_
      · rcases hp with hp | ⟨p, -, hp | ⟨d, hp⟩⟩ <;> rw [hp] <;> rfl
      · intro q hq _
        rcases hp with hp | ⟨p, hf, hp | ⟨d, hp⟩⟩ <;> rw [hp] at hq
        · exact absurd hq (by simp [awaited])
        · obtain rfl := Option.some.inj hq
          exact busy_finished hr.stack hf
        · obtain rfl := Option.some.inj hq
          exact busy_finished hr.stack hf
  | @wait id p s hr hs hp hf =>
      refine hc.update hr.control (control_rest hr _) (fun j hj => control_rest_ne hj _) rfl rfl rfl
        (fun h => h) rfl (fun h => ?_) (fun h => ?_) fun _ q hq => .inl ?_
      · exact absurd h (by simp [Control.busy, restStage, engaged])
      · exact .inl (by simpa [Control.idle, restStage, hp] using h)
      · -- it waits for the same session as before
        rw [hp] at hq
        exact hq
  | giveUp hr hs hp hf hd => exact awaitedInv_giveUp hw hc hr hp hf
  | retry hy' hr hs hp hd ht =>
      obtain ⟨hg, rfl⟩ := Link.retry_eq_some ht
      refine awaitedInv_goOn hw hc hr hg.symm (by rw [hp]; rfl) hr rfl (fun _ _ => rfl) rfl ?_ ?_ _
      · exact Link.setStatus_generation ..
      · exact Link.setStatus_closing ..
  | @leave id s sockets hr hs hg hl =>
      -- it accounted for no session: it is of an earlier generation
      have hr' : AtRest { w with sockets := sockets } id s := ⟨hr.stack, hr.supervisor⟩
      refine hc.update hr.control (control_rest hr' .finished) (fun j hj => control_rest_ne hj _)
        rfl rfl rfl
        (fun h => h) rfl (fun h => ?_) (fun h => ?_) fun hcur => absurd hcur.symm hg
      · exact absurd h (by simp [Control.busy, restStage, engaged])
      · exact absurd h (by simp [Control.idle, restStage])
  | @halt id s hr hs hp =>
      refine hc.update hr.control (control_rest hr .finished) (fun j hj => control_rest_ne hj _) rfl
        rfl rfl
        (fun h => h) rfl (fun h => ?_) (fun h => ?_) fun hcur => ?_
      · exact absurd h (by simp [Control.busy, restStage, engaged])
      · exact absurd h (by simp [Control.idle, restStage])
      · -- the current supervisor is not stopped
        have hcur := (hw.current hr.supervisor hcur).2.2.1
        exact absurd (hs.symm.trans hcur) (by simp)
  | @opened id s url t hy' hr hs hp ht =>
      obtain ⟨hg, rfl⟩ := Link.startSession_eq_some ht
      have hopened : AtRest (({ w with sockets := w.sockets ++ [Socket.mk []] }.rest id
          (.inSession w.sockets.length)).happen (.opened id w.sockets.length)) id
          { s with phase := .inSession w.sockets.length } :=
        ⟨hr.stack, (hr.rest (.inSession w.sockets.length)).supervisor⟩
      refine awaitedInv_goOn hw hc hr hg.symm (by rw [hp]; rfl) hopened rfl
        (fun j hj => control_rest_ne hj _) rfl ?_ ?_ _
      · exact Link.setStatus_generation ..
      · exact Link.setStatus_closing ..
  | @failed id s t sockets hy' hr hs hp ht hl =>
      obtain ⟨hg, rfl⟩ := Link.fail_eq_some ht
      have hn : awaited s.phase = none := by
        rcases hp with ⟨url, hp⟩ | ⟨socket, hp | hp⟩ <;> rw [hp] <;> rfl
      have hfailed : ∀ e, AtRest ({ w with sockets := sockets }.happen e) id s :=
        fun _ => ⟨hr.stack, hr.supervisor⟩
      refine awaitedInv_goOn hw hc hr hg.symm hn (hfailed _) rfl (fun _ _ => rfl) rfl ?_ ?_ _
      · exact Link.setStatus_generation ..
      · exact Link.setStatus_closing ..
  | dropped hr hp => exact hc.congr (fun _ => rfl) rfl rfl rfl fun h => h
  | wrote hr hs hp hq => exact hc.congr (fun _ => rfl) rfl rfl rfl fun h => h
  | @wroteClose id socket s hr hs hp hq ho =>
      refine hc.update hr.control (control_rest hr (.closing socket))
        (fun j hj => control_rest_ne hj _) rfl
        rfl rfl (fun h => h) rfl (fun h => ?_) (fun h => ?_) fun _ q hq => ?_
      · -- the session goes on until the peer has closed as well
        exact .inl (by simpa [Control.busy, restStage, engaged, hp] using h)
      · exact absurd h (by simp [Control.idle, restStage])
      · rw [hp] at hq
        exact absurd hq (by simp [awaited])
  | read i hr hs hp => exact hc.congr (fun _ => rfl) rfl rfl rfl fun h => h
  | enter hr hs hp => exact hc.congr (control_enter hr hp) rfl rfl rfl fun h => h

/-! ## Runs and charges -/

theorem awaitedInv_steps (hw : CoherentWorld w) (hc : AwaitedInv w) (h : SmallSteps u act w w')
    (hy : cause u act ≠ .asked .disconnect) : AwaitedInv w' := by
  have hboth : CoherentWorld w' ∧ AwaitedInv w' := by
    induction h with
    | refl => exact ⟨hw, hc⟩
    | tail _ hd ih => exact ⟨coherentWorld_step ih.1 hd, awaitedInv_step ih.1 ih.2 hd hy⟩
  exact hboth.2

/-- A `disconnect` keeps charges if nobody waits for a session that runs. -/
theorem awaitedInv_disconnecting (hw : CoherentWorld w) (hc : AwaitedInv w)
    (hcalm : ∀ p ∈ pending w, busy w p = false) (ha : Acting w) :
    AwaitedInv (w.perform .disconnect) := by
  simp only [World.perform, World.requiring]
  split
  · have hd : SmallStep w (.command .disconnect) w _ := .disconnect rfl ha
    have hrest : SmallSteps w (.pass 0) _ w.disconnect := shift_turn _ _
    exact awaitedInv_steps (coherentWorld_step hw hd) (awaitedInv_disconnect hw hc hcalm) hrest
      Cause.noConfusion
  · have hrest : SmallSteps w (.pass 0) w (w.answer .missing) := answer_steps w _
    exact awaitedInv_steps hw hc hrest Cause.noConfusion

/-- **Charges are kept by every action that leaves no session without someone who waits for it.** -/
theorem awaitedInv_act (hw : CoherentWorld w) (hc : AwaitedInv w)
    (h : w.act act = some w') (ho : orphaned w act = []) : AwaitedInv w' := by
  by_cases hy : cause w act = .asked .disconnect
  · have hcalm : ∀ p ∈ pending w, busy w p = false := by
      simpa [orphaned, hy] using ho
    -- what is done before the command is carried out is of no consequence
    have begun : ∀ v : World, (∀ j, control v j = control w j) → starting v = starting w →
        v.link = w.link → CoherentWorld v → Acting v → AwaitedInv (v.perform .disconnect) := by
      intro v hcontrol hst hl hv ha
      refine awaitedInv_disconnecting hv (hc.congr hcontrol hst (by rw [hl]) (by rw [hl])
        (by rw [hl]; exact fun h => h)) ?_ ha
      intro p hp
      rw [busy, hcontrol]
      exact hcalm p ((pending_congr hcontrol hst (by rw [hl])).mp hp)
    cases act with
    | command c =>
        obtain rfl : c = .disconnect := Cause.asked.inj hy
        simp only [World.act] at h
        split at h
        · rename_i hs
          obtain rfl := Option.some.inj h
          have hs : w.stack = [] := by simpa using hs
          exact begun _ (fun _ => rfl) rfl rfl (hw.of_eq rfl rfl rfl rfl)
            (asking_nil (w := { w with reply := none }) hs).acting
        · exact absurd h (by simp)
    | go =>
        simp only [cause] at hy
        split at hy
        · rename_i o c rest a tail hs
          obtain rfl : c = .disconnect := Cause.asked.inj hy
          simp only [World.act, World.go, hs] at h
          obtain rfl := Option.some.inj h
          have hre : resuming { w with stack := .script o rest (some "disconnect") :: tail }
              = resuming w := by simp [resuming, hs]
          have hst : starting { w with stack := .script o rest (some "disconnect") :: tail }
              = starting w := by simp [starting, hs]
          exact begun _ (control_of_eq rfl hre) hst rfl (hw.of_eq rfl rfl hst hre)
            (asking_script rfl).acting
        · exact absurd hy (by simp)
    | _ => exact absurd hy (by simp [cause])
  · exact awaitedInv_steps hw hc (act_steps h) hy

theorem awaitedInv_initial (parts : Parts) (setup : Setup) (hasRuntime : Bool)
    (stamps : Nat → Stamp) : AwaitedInv (World.initial parts setup hasRuntime stamps) where
  closing := by intro _; rfl
  busy := by intro p hp; exact absurd hp (by simp [busy, control, World.initial])
  idle := by intro id a ha; exact absurd ha (by simp [control, World.initial])

theorem awaitedInv_run {as : List Action} (hw : CoherentWorld w) (hc : AwaitedInv w)
    (h : w.actAll as = some w') (ho : observed orphaned w as = []) : AwaitedInv w' := by
  induction as generalizing w with
  | nil =>
      obtain rfl := Option.some.inj h
      exact hc
  | cons a rest ih =>
      obtain ⟨v, hv, hrest⟩ := Option.bind_eq_some_iff.mp h
      rw [observed_cons hv] at ho
      obtain ⟨hhead, htail⟩ := List.append_eq_nil_iff.mp ho
      have hwv : CoherentWorld v := runs_keep coherentWorld_step hw (act_steps hv).runs
      exact ih hwv (awaitedInv_act hw hc hv hhead) hrest htail

/-! ## Sessions that are given up -/

/-- The supervisor that one in this phase has begun to wait for, and until when. -/
def deadline : Phase → Option (Nat × Nat)
  | .waiting p d => some (p, d)
  | _ => none

def waitsUntil (w : World) (q : Nat) : Option (Nat × Nat) :=
  (w.supervisors[q]?).bind fun s => deadline s.phase

theorem waitsUntil_eq_some {d : Nat} : waitsUntil w q = some (p, d) ↔
    ∃ s, w.supervisors[q]? = some s ∧ s.phase = .waiting p d := by
  unfold waitsUntil
  rw [Option.bind_eq_some_iff]
  refine exists_congr fun s => and_congr_right fun _ => ?_
  cases hp : s.phase <;> simp [deadline]

/-- Whoever begins to wait does so for the whole of the grace period, and a session is given up
only when somebody has waited for it until the end of that. -/
structure GraceInv (w w' : World) : Prop where
  clock : w.clock ≤ w'.clock
  waits : ∀ q p d, waitsUntil w' q = some (p, d) →
    waitsUntil w q = some (p, d) ∨ w.clock + closeGrace.nanos ≤ d
  gave : ∀ p, givenUp w' p = true →
    givenUp w p = true ∨ ∃ q d, waitsUntil w q = some (p, d) ∧ d ≤ w.clock

namespace GraceInv

/-- No supervisor changes, and whoever is to go on now has no socket, or the same as before. -/
theorem same (hclock : w.clock ≤ w'.clock) (hs : w'.supervisors = w.supervisors)
    (hcontrol : ∀ j a, Proofs.control w' j = some a → a.givenUp = true →
      Proofs.control w j = some a) :
    GraceInv w w' := by
  refine ⟨hclock, ?_, ?_⟩
  · intro q p d hq
    rw [waitsUntil, hs] at hq
    exact .inl hq
  · intro p hp
    obtain ⟨a, ha, hgave⟩ := (Option.any_eq_true _ _).mp hp
    exact .inl ((Option.any_eq_true _ _).mpr ⟨a, hcontrol p a ha hgave, hgave⟩)

theorem congr (hclock : w.clock ≤ w'.clock) (hs : w'.supervisors = w.supervisors)
    (hcontrol : ∀ j, Proofs.control w' j = Proofs.control w j) : GraceInv w w' :=
  same hclock hs fun j _ ha _ => (hcontrol j).symm.trans ha

/-- One supervisor comes to rest in a phase in which it has no socket, or was not stopped. -/
theorem rest (hr : AtRest w id s) (ph : Phase)
    (hph : ∀ p d, deadline ph = some (p, d) → w.clock + closeGrace.nanos ≤ d)
    (hgave : engaged (restStage ph) = true → s.stopped = false) : GraceInv w (w.rest id ph) := by
  refine ⟨Nat.le_refl _, ?_, ?_⟩
  · intro q p d hq
    obtain ⟨t, ht, hphase⟩ := waitsUntil_eq_some.mp hq
    rcases getElem?_modify_cases ht with ⟨-, u, -, rfl⟩ | ⟨-, ht⟩
    · refine .inr (hph p d ?_)
      rw [show ph = .waiting p d from hphase]
      rfl
    · exact .inl (waitsUntil_eq_some.mpr ⟨t, ht, hphase⟩)
  · intro p hp
    rw [givenUp] at hp
    by_cases hpid : p = id
    · subst hpid
      rw [control_rest hr] at hp
      simp only [Option.any_some, Control.givenUp, Bool.and_eq_true] at hp
      rw [hgave hp.1] at hp
      exact absurd hp.2 Bool.false_ne_true
    · rw [control_rest_ne hpid] at hp
      exact .inl hp

/-- It does not matter what else changes. -/
theorem also {v : World} (h : GraceInv w v) (hclock : w'.clock = v.clock)
    (hs : w'.supervisors = v.supervisors) (hre : resuming w' = resuming v) : GraceInv w w' := by
  refine ⟨hclock ▸ h.clock, ?_, ?_⟩
  · intro q p d hq
    rw [waitsUntil, hs] at hq
    exact h.waits q p d hq
  · intro p hp
    rw [givenUp, control_of_eq hs hre] at hp
    exact h.gave p hp

/-- One change after another, where nobody begins to wait in the first. -/
theorem trans {v : World} (h : GraceInv w v) (h' : GraceInv v w') (hclock : v.clock = w.clock)
    (hwaits : ∀ q p d, waitsUntil v q = some (p, d) → waitsUntil w q = some (p, d)) :
    GraceInv w w' := by
  refine ⟨Nat.le_trans h.clock h'.clock, ?_, ?_⟩
  · intro q p d hq
    rcases h'.waits q p d hq with hq | hd
    · exact .inl (hwaits q p d hq)
    · exact .inr (hclock ▸ hd)
  · intro p hp
    rcases h'.gave p hp with hp | ⟨q, d, hq, hd⟩
    · exact h.gave p hp
    · exact .inr ⟨q, d, hwaits q p d hq, hclock ▸ hd⟩

end GraceInv

theorem waitsUntil_stop (o : Option Nat) (q p d : Nat)
    (h : waitsUntil (w.stopSupervisor o) q = some (p, d)) : waitsUntil w q = some (p, d) := by
  obtain ⟨s, hs, hp⟩ := waitsUntil_eq_some.mp h
  refine waitsUntil_eq_some.mpr ?_
  cases o with
  | none => exact ⟨s, hs, hp⟩
  | some id =>
      rcases getElem?_modify_cases hs with ⟨rfl, t, ht, rfl⟩ | ⟨-, hs⟩
      · exact ⟨t, ht, hp⟩
      · exact ⟨s, hs, hp⟩

/-- Whoever comes to rest in a phase in which one does not wait. -/
theorem waitsUntil_modify {ph : Phase} (hph : deadline ph = none) (q p d : Nat)
    (hs : w'.supervisors = w.supervisors.modify id ({ · with phase := ph }))
    (h : waitsUntil w' q = some (p, d)) : waitsUntil w q = some (p, d) := by
  obtain ⟨s, hq, hp⟩ := waitsUntil_eq_some.mp h
  rw [hs] at hq
  refine waitsUntil_eq_some.mpr ?_
  rcases getElem?_modify_cases hq with ⟨-, t, -, rfl⟩ | ⟨-, hq⟩
  · have hp : ph = .waiting p d := hp
    rw [hp] at hph
    exact absurd hph (by simp [deadline])
  · exact ⟨s, hq, hp⟩

/-- Stopping a supervisor gives a session up only if there is one. -/
theorem graceInv_stop (o : Option Nat)
    (hgave : ∀ p a, o = some p → control w p = some a → engaged a.stage = true →
      ∃ q d, waitsUntil w q = some (p, d) ∧ d ≤ w.clock) : GraceInv w (w.stopSupervisor o) := by
  refine ⟨by cases o <;> exact Nat.le_refl _, ?_, ?_⟩
  · intro q p d hq
    exact .inl (waitsUntil_stop o q p d hq)
  · intro p hp
    rw [givenUp, control_stop] at hp
    split at hp
    · rename_i ho
      obtain ⟨b, hb, hgive⟩ := (Option.any_eq_true _ _).mp hp
      obtain ⟨a, ha, rfl⟩ := Option.map_eq_some_iff.mp hb
      exact .inr (hgave p a ho ha (by simpa [Control.givenUp] using hgive))
    · exact .inl hp

theorem data_clock (h : DataStep u act w w') : w'.clock = w.clock := by
  cases h with
  | counters h => exact h.clock
  | withdraw p id => cases p <;> rfl
  | returned hs => unfold World.complete; split <;> rfl
  | failed m hs => unfold World.failCall; split <;> rfl
  | _ => rfl

theorem shift_clock (t : Link × Option Change) : (shift x t).clock = x.clock := by
  unfold shift
  split <;> rfl

/-- The supervisor on record has a socket only while the client is connected. -/
theorem CoherentWorld.recorded_engaged (hw : CoherentWorld w) (hp : w.link.supervisor = some p)
    (ha : control w p = some a) (he : engaged a.stage = true) :
    w.link.status = .connected ∧ w.link.outbound.isSome := by
  obtain ⟨s, hs, hg⟩ := hw.recorded hp
  obtain ⟨t, ht, rfl⟩ := control_eq_some.mp ha
  obtain rfl : t = s := Option.some.inj (ht.symm.trans hs)
  have hstop := (hw.current_post ha hg).2.2.1
  obtain ⟨hstatus, hout, -⟩ := hw.connected_of_busy ha hg (by simp [Control.busy, he, hstop])
  exact ⟨hstatus, hout⟩

/-- A supervisor that is to go on and has no socket then. -/
theorem graceInv_push {next : Resumption} {x : World} (hclock : x.clock = w.clock)
    (hs : x.supervisors = w.supervisors) (hstack : x.stack = w.stack) (hr : AtRest w id s)
    (hnext : engaged (nextStage next) = true → s.stopped = false) (t : Link × Option Change) :
    GraceInv w (shift (x.push (.supervisor id next)) t) := by
  have hx : x.stack = [] := hstack.trans hr.stack
  have hr' : AtRest x id s := ⟨hx, hs ▸ hr.supervisor⟩
  refine .same ?_ ((shift_supervisors _ t).trans hs) fun j a ha hgave => ?_
  · rw [shift_clock]
    exact Nat.le_of_eq hclock.symm
  · rw [control_shift] at ha
    by_cases hj : j = id
    · subst hj
      rw [control_push hr'] at ha
      obtain rfl := Option.some.inj ha
      simp only [Control.givenUp, Bool.and_eq_true] at hgave
      rw [hnext hgave.1] at hgave
      exact absurd hgave.2 Bool.false_ne_true
    · rw [control_push_ne hx hj] at ha
      rw [control_of_eq hs.symm (by rw [resuming_nil hr.stack, resuming_nil hx])]
      exact ha

/-- A supervisor that is started has not begun to wait. -/
theorem graceInv_start (hw : CoherentWorld w) {g : Nat} {previous : Option Nat} {tail : List Frame}
    (hs : w.stack = .connecting g previous :: tail) :
    GraceInv w ({ w with stack := tail }.startSupervisor g previous) := by
  obtain ⟨stopped, -, hcontrol⟩ := control_start hw hs
  refine ⟨?_, ?_, ?_⟩
  · unfold World.startSupervisor
    dsimp only
    split <;> exact Nat.le_refl _
  · intro q p d hq
    obtain ⟨s, hq, hp⟩ := waitsUntil_eq_some.mp hq
    obtain ⟨stopped, -, hlist⟩ :=
      startSupervisor_supervisors { w with stack := tail } g previous
    rw [hlist] at hq
    rcases Nat.lt_or_ge q w.supervisors.length with hlt | hge
    · rw [List.getElem?_append_left hlt] at hq
      exact .inl (waitsUntil_eq_some.mpr ⟨s, hq, hp⟩)
    · have hnew : s = ⟨g, .fresh previous, stopped⟩ := by
        rw [List.getElem?_append_right hge] at hq
        simpa using List.mem_of_getElem? hq
      rw [hnew] at hp
      exact absurd hp (by simp)
  · intro p hp
    rw [givenUp, hcontrol] at hp
    split at hp
    · exact absurd hp (by simp [Control.givenUp, engaged])
    · exact .inl hp

/-- One that goes on does not wait, and has a socket only if it had one. -/
theorem graceInv_resume (hw : CoherentWorld w) {next : Resumption} {tail : List Frame}
    (hs : w.stack = .supervisor id next :: tail) :
    GraceInv w ({ w with stack := tail }.resume id next) := by
  obtain ⟨ph, -, hawait, hsup⟩ := resume_supervisors hw hs
  have hph : deadline ph = none := by
    cases ph with
    | waiting p d => exact absurd hawait (by simp [awaited])
    | _ => rfl
  refine ⟨?_, ?_, ?_⟩
  · unfold World.resume
    split <;> exact Nat.le_refl _
  · intro q p d hq
    exact .inl (waitsUntil_modify hph q p d hsup hq)
  · intro p hp
    rw [givenUp, control_resume hw hs] at hp
    exact .inl hp

/-- **Every small change keeps to the grace period.** -/
theorem graceInv_step (hw : CoherentWorld w) (h : SmallStep u act w w') : GraceInv w w' := by
  -- a supervisor comes to rest in a phase in which it does not wait
  have rests : ∀ {id : Nat} {s : Supervisor}, AtRest w id s → ∀ ph, deadline ph = none →
      (engaged (restStage ph) = true → s.stopped = false) → GraceInv w (w.rest id ph) := by
    intro id s hr ph hph hgave
    refine .rest hr ph (fun p d h => ?_) hgave
    rw [hph] at h
    exact absurd h (by simp)
  cases h with
  | data h => exact .congr (Nat.le_of_eq (data_clock h).symm) (data_supervisors h) (control_data h)
  | pass nanos hs => exact .congr (Nat.le_add_right _ _) rfl fun _ => rfl
  | announce c ha hb =>
      exact .congr (Nat.le_refl _) rfl (control_of_eq rfl (offer_filterMap w (fun _ _ => rfl) c))
  | heardOnce hs =>
      exact .congr (Nat.le_refl _) rfl (control_of_eq rfl (by simp [resuming, World.happen, hs]))
  | heard o cs hs =>
      exact .congr (Nat.le_refl _) rfl (control_of_eq rfl (by simp [resuming, World.happen, hs]))
  | drained hs hp => exact .congr (Nat.le_refl _) rfl (control_of_eq rfl (by simp [resuming, hs]))
  | skipped hs hp hd => exact .congr (Nat.le_refl _) rfl fun _ => rfl
  | announced hs hp hd =>
      exact .congr (Nat.le_refl _) rfl (control_of_eq rfl (by simp [resuming, World.happen, hs]))
  | connect hy ha hr hm =>
      -- whoever is stopped has no socket: a connected client does not connect again
      have hstop : GraceInv w (w.stopSupervisor w.link.supervisor) := by
        refine graceInv_stop _ fun p a hp ha he => ?_
        have hstatus := (hw.recorded_engaged hp ha he).1
        simp [Link.mayConnect, hstatus] at hm
      refine hstop.trans ?_ (by cases w.link.supervisor <;> rfl) (waitsUntil_stop _)
      refine .congr ?_ (shift_supervisors _ _) fun j => ?_
      · rw [shift_clock]
        exact Nat.le_refl _
      · rw [control_shift]
        exact control_of_eq rfl (by simp [resuming, World.push]) j
  | disconnect hy ha =>
      -- a supervisor with a socket is told to close, and only one without is stopped
      have hstop : GraceInv w (w.stopSupervisor w.link.idleSupervisor) := by
        refine graceInv_stop _ fun p a hp ha he => ?_
        unfold Link.idleSupervisor at hp
        split at hp
        · exact absurd hp (by simp)
        · rename_i hout
          exact absurd (hw.recorded_engaged hp ha he).2 hout
      refine hstop.trans ?_ (by cases w.link.idleSupervisor <;> rfl) (waitsUntil_stop _)
      exact .congr (Nat.le_of_eq (shift_clock _).symm) (shift_supervisors _ _) (control_shift _)
  | start hs => exact graceInv_start hw hs
  | resume hs => exact graceInv_resume hw hs
  | dial hr hs hp => exact (rests hr (.opening w.endpoint) rfl fun _ => hs).also rfl rfl rfl
  | wait hr hs hp hf =>
      refine .rest hr _ (fun p d h => ?_) fun _ => hs
      simp only [deadline, Option.some.injEq, Prod.mk.injEq] at h
      exact Nat.le_of_eq h.2
  | @giveUp id p d s hr hs hp hf hd =>
      -- here a session is given up, and the wait for it is over
      have hstop : GraceInv w (w.stopSupervisor (some p)) := by
        refine graceInv_stop _ fun p' a hp' _ _ => ?_
        obtain rfl := Option.some.inj hp'
        exact ⟨id, d, waitsUntil_eq_some.mpr ⟨s, hr.supervisor, hp⟩, hd⟩
      have hne : p ≠ id := hw.waits_other hr.supervisor (by rw [hp]; rfl)
      refine hstop.trans ?_ rfl (waitsUntil_stop _)
      have hdial :=
        GraceInv.rest (hr.stopped_other hne) (.opening (w.stopSupervisor (some p)).endpoint)
        (by simp [deadline]) fun _ => hs
      exact hdial.also rfl rfl rfl
  | retry hy hr hs hp hd ht => exact graceInv_push rfl rfl rfl hr (fun _ => hs) _
  | leave hr hs hg hl => exact (rests hr .finished rfl fun _ => hs).also rfl rfl rfl
  | halt hr hs hp =>
      exact (rests hr .finished rfl fun h => absurd h Bool.false_ne_true).also rfl rfl rfl
  | @opened id s url t hy hr hs hp ht =>
      have hrest : GraceInv w (w.rest id (.inSession w.sockets.length)) :=
        .rest hr _ (by simp [deadline]) fun _ => hs
      refine hrest.trans ?_ rfl fun q p d hq => waitsUntil_modify rfl q p d rfl hq
      refine graceInv_push ?_ ?_ ?_ (hr.rest (.inSession w.sockets.length)) (fun _ => hs) _ <;> rfl
  | @failed id s t sockets hy hr hs hp ht hl =>
      refine graceInv_push ?_ ?_ ?_ hr (fun _ => hs) _ <;> rfl
  | dropped hr hp => exact .congr (Nat.le_refl _) rfl fun _ => rfl
  | wrote hr hs hp hq => exact .congr (Nat.le_refl _) rfl fun _ => rfl
  | @wroteClose id socket s hr hs hp hq ho =>
      exact (rests hr (.closing socket) rfl fun _ => hs).also rfl rfl rfl
  | read i hr hs hp => exact .congr (Nat.le_refl _) rfl fun _ => rfl
  | enter hr hs hp => exact .congr (Nat.le_refl _) rfl (control_enter hr hp)

theorem step_keeps_grace {v : World} (hw : CoherentWorld w) (h : SmallStep u act w w') (p : Nat)
    (hclock : v.clock ≤ w.clock)
    (hwaits : ∀ q d, waitsUntil w q = some (p, d) → v.clock + closeGrace.nanos ≤ d)
    (hgave : givenUp w p = true → v.clock + closeGrace.nanos ≤ w.clock) :
    v.clock ≤ w'.clock
      ∧ (∀ q d, waitsUntil w' q = some (p, d) → v.clock + closeGrace.nanos ≤ d)
      ∧ (givenUp w' p = true → v.clock + closeGrace.nanos ≤ w'.clock) := by
  have hgraceInv := graceInv_step hw h
  refine ⟨Nat.le_trans hclock hgraceInv.clock, ?_, ?_⟩
  · intro q d hq
    rcases hgraceInv.waits q p d hq with hq | hd
    · exact hwaits q d hq
    · omega
  · intro hp
    have hmono := hgraceInv.clock
    rcases hgraceInv.gave p hp with hp | ⟨q, d, hq, hd⟩
    · have := hgave hp
      omega
    · have := hwaits q d hq
      omega

/-- **A session is given up only after the grace period**, counted from any time at which nobody
has begun to wait for it. -/
theorem given_up_late {v : World} (hv : CoherentWorld v) (h : Runs v w) (p : Nat)
    (hn : ∀ q d, waitsUntil v q ≠ some (p, d)) (hb : givenUp v p = false)
    (hg : givenUp w p = true) : v.clock + closeGrace.nanos ≤ w.clock := by
  -- deadlines are counted from `v`, so the induction has to know that the clock goes on
  have hall : CoherentWorld w ∧ v.clock ≤ w.clock
      ∧ (∀ q d, waitsUntil w q = some (p, d) → v.clock + closeGrace.nanos ≤ d)
      ∧ (givenUp w p = true → v.clock + closeGrace.nanos ≤ w.clock) := by
    clear hg
    induction h with
    | refl =>
        refine ⟨hv, Nat.le_refl _, fun q d hq => absurd hq (hn q d), fun hg => ?_⟩
        rw [hb] at hg
        exact absurd hg Bool.false_ne_true
    | tail _ hd ih =>
        obtain ⟨u, act, hd⟩ := hd
        obtain ⟨hw, hclock, hwaits, hgave⟩ := ih
        exact ⟨coherentWorld_step hw hd, step_keeps_grace hw hd p hclock hwaits hgave⟩
  exact hall.2.2.2 hg

/-! ## One session after another -/

/-- There is one session at a time. -/
structure Sole (w : World) : Prop where
  session : ∀ p q, busy w p = true → busy w q = true → p = q
  /-- While a supervisor waits for the answer to its request no session runs. -/
  opening : ∀ id s url, w.supervisors[id]? = some s → s.stopped = false → s.phase = .opening url →
    stage (resuming w) id s = .starting → ∀ p, busy w p = false
  /-- Whatever happens next, a session that runs is not given up before somebody has waited for it
  for the whole of the grace period. -/
  grace : ∀ as v p, w.actAll as = some v → busy w p = true →
    (∀ q d, waitsUntil w q ≠ some (p, d)) → givenUp v p = true →
    w.clock + closeGrace.nanos ≤ v.clock

/-- **One session after another**, as long as nobody disconnects while the next supervisor still
waits for a session that runs: then at most one session runs that has not been given up, none runs
while a socket is asked for, and none is given up before the grace period is over. -/
theorem sole_session {parts : Parts} {setup : Setup} {hasRuntime : Bool}
    {stamps : Nat → Stamp} {as : List Action} {w : World}
    (h : (World.initial parts setup hasRuntime stamps).actAll as = some w)
    (ho : observed orphaned (World.initial parts setup hasRuntime stamps) as = []) : Sole w := by
  have hw := coherentWorld_reachable h
  have hc : AwaitedInv w :=
    awaitedInv_run (coherentWorld_initial _ _ _ _) (awaitedInv_initial _ _ _ _) h ho
  refine ⟨fun p q hp hq => hc.unique hw hp hq, ?_, ?_⟩
  · intro id s url hs hstop hphase hstage p
    -- a supervisor that has asked for a socket waits for nobody
    have hcontrol : control w id = some (controlOf (resuming w) id s) :=
      control_eq_some.mpr ⟨s, hs, rfl⟩
    refine hc.alone hw hcontrol ?_ ?_ p
    · simp [Control.idle, controlOf, hstage, hstop]
    · simp only [controlOf, awaits]
      split
      · rfl
      · rw [hphase]
        rfl
  · intro as v p hv hp hn hg
    obtain ⟨a, ha, hbusy⟩ := busy_iff.mp hp
    refine given_up_late hw (actAll_runs hv) p hn ?_ hg
    -- a session that runs has not been given up yet
    rw [givenUp, ha]
    unfold Control.busy at hbusy
    simp only [Bool.and_eq_true, Bool.not_eq_true'] at hbusy
    simp [Control.givenUp, hbusy.2]

/-- A session is told to close and takes its time; the next supervisor waits until it is over. -/
def closingRun : List Action :=
  List.flatten [[.command .connect], List.replicate 3 .go, [.wake 0, .answered 0 true],
    List.replicate 3 .go, [.command .disconnect], List.replicate 2 .go, [.command .connect],
    List.replicate 3 .go, [.wake 1, .pass 4000000000, .write 0, .closed 0, .wake 1,
    .answered 1 true], List.replicate 3 .go]

theorem sole_session_closing :
    ∃ w, (World.initial ⟨true, false, true⟩ .standard true fun _ => ⟨"m1", .epoch⟩).actAll
        closingRun = some w
      ∧ busy w 0 = false ∧ busy w 1 = true ∧ Sole w := by
  have hrun : ((World.initial ⟨true, false, true⟩ .standard true fun _ => ⟨"m1", .epoch⟩).actAll
      closingRun).map (fun w => (busy w 0, busy w 1)) = some (false, true) := by
    decide +kernel
  have horphaned : observed orphaned
      (World.initial ⟨true, false, true⟩ .standard true fun _ => ⟨"m1", .epoch⟩) closingRun
        = [] := by
    decide +kernel
  obtain ⟨w, hw, hpair⟩ := Option.map_eq_some_iff.mp hrun
  obtain ⟨hfirst, hsecond⟩ := Prod.mk.inj hpair
  exact ⟨w, hw, hfirst, hsecond, sole_session hw horphaned⟩

/-- The same, but the application disconnects and connects once more before the session is over. -/
def overlapStart : List Action :=
  List.flatten [[.command .connect], List.replicate 3 .go, [.wake 0, .answered 0 true],
    List.replicate 3 .go, [.command .disconnect], List.replicate 2 .go, [.command .connect],
    List.replicate 3 .go, [.wake 1, .command .disconnect], List.replicate 2 .go,
    [.command .connect], List.replicate 3 .go, [.wake 2]]

/-- Without the condition a supervisor asks for a socket while an earlier session runs, for which
nobody has waited: no time has passed. Then two sessions run. -/
theorem sessions_overlap :
    ∃ v w, (World.initial ⟨true, false, true⟩ .standard true fun _ => ⟨"m1", .epoch⟩).actAll
        overlapStart = some v
      ∧ busy v 0 = true ∧ ((v.supervisors[2]?).map fun s => (s.stopped, restStage s.phase, s.phase))
        = some (false, .starting, .opening v.endpoint)
      ∧ v.act (.answered 2 true) = some w ∧ busy w 0 = true ∧ busy w 2 = true ∧ w.clock = 0 := by
  have hrun : ((World.initial ⟨true, false, true⟩ .standard true fun _ => ⟨"m1", .epoch⟩).actAll
      overlapStart).bind (fun v => (v.act (.answered 2 true)).map fun w => (busy v 0,
        decide (((v.supervisors[2]?).map fun s => (s.stopped, restStage s.phase, s.phase))
          = some (false, .starting, .opening v.endpoint)), busy w 0, busy w 2, w.clock))
      = some (true, true, true, true, 0) := by
    decide +kernel
  obtain ⟨v, hv, hrest⟩ := Option.bind_eq_some_iff.mp hrun
  obtain ⟨w, hw, htuple⟩ := Option.map_eq_some_iff.mp hrest
  simp only [Prod.mk.injEq, decide_eq_true_eq] at htuple
  obtain ⟨hold, hasks, hstill, hnew, hclock⟩ := htuple
  exact ⟨v, w, hv, hold, hasks, hw, hstill, hnew, hclock⟩

end LiveLink.Proofs
