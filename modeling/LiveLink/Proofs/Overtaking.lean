import LiveLink.Proofs.Attempts
import LiveLink.Proofs.StatusHistory
import LiveLink.Proofs.Succession

/-!
# Overtaking

A supervisor whose wait between two attempts is over tells the listeners that it asks again, and
then asks without another look at the generation. A listener that disconnects the client in between
overtakes it: the request goes out all the same, for a generation that has passed
(`attempt_overtaken`). Two facts carry the rest. Whoever is still to ask and is not stopped is of
the current generation (`openerInv_step`), on every run; and so is whoever is telling the listeners
(`retryInv_step`), as long as nobody disconnects at that point. On every run on which that does not
happen each attempt is one of the current generation, and a client that has been disconnected makes
none until it is asked to connect (`attempts_current`).
-/

namespace LiveLink.Proofs

open LiveLink

variable {u w w' : World} {act : Action} {id : Nat} {s : Supervisor} {y : Cause}

/-! ## Who is still to ask -/

/-- Whoever is still to open a socket and is not stopped is of the current generation. -/
def OpenerInv (w : World) : Prop :=
  ∀ id a, control w id = some a → a.idle = true → a.generation = w.link.generation

theorem OpenerInv.congr (hk : OpenerInv w) (hcontrol : ∀ j, control w' j = control w j)
    (hg : w'.link.generation = w.link.generation) : OpenerInv w' := by
  intro id a ha hi
  rw [hg]
  exact hk id a (hcontrol id ▸ ha) hi

/-- One supervisor moves on. -/
theorem OpenerInv.update (hk : OpenerInv w) {b : Control} (hb : control w' id = some b)
    (hother : ∀ j, j ≠ id → control w' j = control w j)
    (hg : w'.link.generation = w.link.generation)
    (hidle : b.idle = true → b.generation = w.link.generation) : OpenerInv w' := by
  intro j a ha hi
  rw [hg]
  by_cases hj : j = id
  · subst hj
    obtain rfl : a = b := Option.some.inj (ha.symm.trans hb)
    exact hidle hi
  · exact hk j a (hother j hj ▸ ha) hi

/-- A supervisor comes to rest in a phase in which it is to ask only if it was before. -/
theorem OpenerInv.rest (hk : OpenerInv w) (hr : AtRest w id s) (ph : Phase)
    (hph : restStage ph = .starting ∨ restStage ph = .sleeping → restStage s.phase = .starting) :
    OpenerInv (w.rest id ph) := by
  refine hk.update (control_rest hr ph) (fun j hj => control_rest_ne hj ph) rfl fun hi => ?_
  simp only [Control.idle, Bool.and_eq_true, Bool.or_eq_true, decide_eq_true_eq] at hi
  refine hk id ⟨s.generation, s.stopped, restStage s.phase, awaited s.phase⟩ hr.control ?_
  simp only [Control.idle, Bool.and_eq_true, Bool.or_eq_true, decide_eq_true_eq]
  exact ⟨.inl (hph hi.1), hi.2⟩

/-- The current supervisor is to go on. -/
theorem OpenerInv.goOn {v : World} {s' : Supervisor} {t : Link × Option Change} (hk : OpenerInv w)
    (hv : AtRest v id s') (hg : s'.generation = w.link.generation)
    (hother : ∀ j, j ≠ id → control v j = control w j) (hgen : t.1.generation = w.link.generation)
    (next : Resumption) : OpenerInv (shift (v.push (.supervisor id next)) t) := by
  have hself := (control_shift t id).trans (control_push hv next)
  refine hk.update hself (fun j hj => ?_) ((congrArg _ (shift_link _ t)).trans hgen) fun _ => hg
  rw [control_shift, control_push_ne hv.stack hj, hother j hj]

/-- To stop a supervisor makes none of them ask. -/
theorem OpenerInv.stop (hk : OpenerInv w) (o : Option Nat) : OpenerInv (w.stopSupervisor o) := by
  intro id a ha hi
  rw [control_stop] at ha
  rw [stopSupervisor_link]
  split at ha
  · obtain ⟨b, -, rfl⟩ := Option.map_eq_some_iff.mp ha
    simp [Control.idle] at hi
  · exact hk id a ha hi

/-- A new generation begins, and the supervisor that was still to ask is stopped. -/
theorem OpenerInv.begin (hk : OpenerInv w) {o : Option Nat}
    (ho : ∀ id a, control w id = some a → a.generation = w.link.generation → a.idle = true →
      o = some id)
    (hcontrol : ∀ j, control w' j = control (w.stopSupervisor o) j) : OpenerInv w' := by
  intro id a ha hi
  rw [hcontrol, control_stop] at ha
  split at ha
  · obtain ⟨b, -, rfl⟩ := Option.map_eq_some_iff.mp ha
    simp [Control.idle] at hi
  · rename_i hne
    exact absurd (ho id a ha (hk id a ha hi) hi) hne

/-- While a supervisor is still to ask there is no queue. -/
theorem outbound_of_idle (hw : CoherentWorld w) {a : Control} (ha : control w id = some a)
    (hg : a.generation = w.link.generation) (hi : a.idle = true) : w.link.outbound = none := by
  obtain ⟨-, -, -, hfit⟩ := hw.current_post ha hg
  unfold Control.idle at hi
  cases hstage : a.stage with
  | starting => rw [hstage] at hfit; exact hfit.2
  | sleeping => rw [hstage] at hfit; exact hfit.2
  | _ => simp [hstage] at hi

/-- **Every small change keeps it so.** -/
theorem openerInv_step (hw : CoherentWorld w) (hk : OpenerInv w) (h : SmallStep u act w w') :
    OpenerInv w' := by
  cases h with
  | data h =>
      obtain ⟨t, hl⟩ := data_link h
      exact hk.congr (control_data h) (by rw [hl])
  | announce c ha hb =>
      exact hk.congr (control_of_eq rfl (offer_filterMap w (fun _ _ => rfl) c)) rfl
  | heardOnce hs => exact hk.congr (control_of_eq rfl (by simp [resuming, World.happen, hs])) rfl
  | heard o cs hs => exact hk.congr (control_of_eq rfl (by simp [resuming, World.happen, hs])) rfl
  | drained hs hp => exact hk.congr (control_of_eq rfl (by simp [resuming, hs])) rfl
  | announced hs hp hd =>
      exact hk.congr (control_of_eq rfl (by simp [resuming, World.happen, hs])) rfl
  | connect hy ha hr hm =>
      refine hk.begin (fun id a ha hg _ => (hw.current_post ha hg).2.1) fun j => ?_
      rw [control_shift]
      exact control_of_eq rfl (by simp [resuming, World.push]) j
  | disconnect hy ha =>
      -- whoever is still to ask has no queue yet, so it is the one that is stopped
      refine hk.begin (fun id a ha hg hi => ?_) (control_shift _)
      simp [Link.idleSupervisor, outbound_of_idle hw ha hg hi, (hw.current_post ha hg).2.1]
  | @start g previous tail hs =>
      obtain ⟨o, hlink⟩ := startSupervisor_link { w with stack := tail } g previous
      obtain ⟨stopped, hstop, hcontrol⟩ := control_start hw hs
      intro j a ha hi
      rw [hlink]
      rw [hcontrol] at ha
      split at ha
      · obtain rfl := Option.some.inj ha
        exact hstop (by simpa [Control.idle] using hi)
      · exact hk j a ha hi
  | @resume id next tail hs =>
      have hlink : ({ w with stack := tail }.resume id next).link = w.link := by
        unfold World.resume
        split <;> rfl
      exact hk.congr (control_resume hw hs) (by rw [hlink])
  | @dial id s hr hs hp =>
      refine (hk.rest hr (.opening w.endpoint) fun _ => ?_).congr (fun _ => rfl) rfl
      rcases hp with hp | ⟨p, -, hp | ⟨d, hp⟩⟩ <;> rw [hp] <;> rfl
  | wait hr hs hp hf => exact hk.rest hr _ fun _ => by rw [hp]; rfl
  | @giveUp id p d s hr hs hp hf hd =>
      have hne : p ≠ id := hw.waits_other hr.supervisor (by rw [hp]; rfl)
      have hdial := (hk.stop (some p)).rest (hr.stopped_other hne) (.opening w.endpoint)
        fun _ => by rw [hp]; rfl
      exact hdial.congr (fun _ => rfl) rfl
  | retry hy hr hs hp hd ht =>
      obtain ⟨hg, rfl⟩ := Link.retry_eq_some ht
      refine hk.goOn hr hg.symm (fun _ _ => rfl) ?_ _
      exact Link.setStatus_generation ..
  | @leave id s sockets hr hs hg hl =>
      exact (hk.rest hr .finished (by simp [restStage])).congr (fun _ => rfl) rfl
  | halt hr hs hp => exact (hk.rest hr .finished (by simp [restStage])).congr (fun _ => rfl) rfl
  | @opened id s url t hy hr hs hp ht =>
      obtain ⟨hg, rfl⟩ := Link.startSession_eq_some ht
      have hopened : AtRest (({ w with sockets := w.sockets ++ [Socket.mk []] }.rest id
          (.inSession w.sockets.length)).happen (.opened id w.sockets.length)) id
          { s with phase := .inSession w.sockets.length } :=
        ⟨hr.stack, (hr.rest (.inSession w.sockets.length)).supervisor⟩
      refine hk.goOn hopened hg.symm (fun j hj => control_rest_ne hj _) ?_ _
      exact Link.setStatus_generation ..
  | @failed id s t sockets hy hr hs hp ht hl =>
      obtain ⟨hg, rfl⟩ := Link.fail_eq_some ht
      have hfailed : ∀ e, AtRest ({ w with sockets := sockets }.happen e) id s :=
        fun _ => ⟨hr.stack, hr.supervisor⟩
      refine hk.goOn (hfailed _) hg.symm (fun _ _ => rfl) ?_ _
      exact Link.setStatus_generation ..
  | @wroteClose id socket s hr hs hp hq ho =>
      exact (hk.rest hr (.closing socket) (by simp [restStage])).congr (fun _ => rfl) rfl
  | enter hr hs hp => exact hk.congr (control_enter hr hp) rfl
  | _ => exact hk.congr (fun _ => rfl) rfl

theorem openerInv_runs (hw : CoherentWorld w) (hk : OpenerInv w) (h : Runs w w') :
    OpenerInv w' := by
  have hboth : CoherentWorld w' ∧ OpenerInv w' :=
    runs_keep (P := fun v => CoherentWorld v ∧ OpenerInv v)
      (fun hv hd => ⟨coherentWorld_step hv.1 hd, openerInv_step hv.1 hv.2 hd⟩) ⟨hw, hk⟩ h
  exact hboth.2

theorem openerInv_initial (parts : Parts) (setup : Setup) (hasRuntime : Bool)
    (stamps : Nat → Stamp) : OpenerInv (World.initial parts setup hasRuntime stamps) := by
  intro id a ha
  exact absurd ha (by simp [control, World.initial])

/-! ## Who tells the listeners before it asks -/

/-- The supervisors that are telling the listeners of their next attempt. -/
def redialling (w : World) : List Nat :=
  (resuming w).filterMap fun
    | (id, .dial) => some id
    | _ => none

theorem mem_redialling : id ∈ redialling w ↔ (id, .dial) ∈ resuming w := by
  rw [redialling, List.mem_filterMap]
  refine ⟨?_, fun h => ⟨_, h, rfl⟩⟩
  rintro ⟨⟨i, next⟩, hmem, hi⟩
  cases next with
  | dial =>
      obtain rfl := Option.some.inj hi
      exact hmem
  | _ => exact absurd hi (by simp)

/-- Nobody else is to go on then, and it is about to ask. -/
theorem stage_redialling (hw : CoherentWorld w) (hid : id ∈ redialling w) (s : Supervisor) :
    stage (resuming w) id s = .starting := by
  have hmem := mem_redialling.mp hid
  obtain ⟨p, hp⟩ := List.length_eq_one_iff.mp
    (Nat.le_antisymm hw.one (List.length_pos_of_mem hmem))
  rw [hp] at hmem ⊢
  obtain rfl := List.mem_singleton.mp hmem
  simp [stage, nextStage]

theorem redialling_congr (h : resuming w' = resuming w) : redialling w' = redialling w := by
  rw [redialling, h, redialling]

/-- The supervisors that an action overtakes: `disconnect` is called while they are telling the
listeners of their next attempt. -/
def overtaken (w : World) (a : Action) : List Nat :=
  match cause w a with
  | .asked .disconnect => redialling w
  | _ => []

/-- In the course of what has a cause: whoever is telling the listeners of its next attempt is of
the current generation, and nobody is if the cause is a call of `disconnect`. -/
structure RetryInv (y : Cause) (w : World) : Prop where
  current : ∀ id ∈ redialling w,
    (w.supervisors.map Supervisor.generation)[id]? = some w.link.generation
  calm : y = .asked .disconnect → redialling w = []

namespace RetryInv

theorem of_nil (h : redialling w = []) : RetryInv y w := by
  refine ⟨fun id hid => ?_, fun _ => h⟩
  rw [h] at hid
  exact absurd hid List.not_mem_nil

/-- It is about to ask, so the client is connecting. -/
theorem connecting (hl : RetryInv y w) (hw : CoherentWorld w) (hid : id ∈ redialling w) :
    w.link.status = .connecting ∧ ∀ s, w.supervisors[id]? = some s →
      s.generation = w.link.generation ∧ s.stopped = false := by
  have hgen := hl.current id hid
  rw [List.getElem?_map] at hgen
  obtain ⟨s, hs, hg⟩ := Option.map_eq_some_iff.mp hgen
  obtain ⟨-, -, hstop, hfit⟩ := hw.current hs hg
  rw [stage_redialling hw hid] at hfit
  refine ⟨hfit.1, fun t ht => ?_⟩
  obtain rfl : t = s := Option.some.inj (ht.symm.trans hs)
  exact ⟨hg, hstop⟩

theorem keep (hl : RetryInv y w) (hre : resuming w' = resuming w)
    (hg : w'.link.generation = w.link.generation) (h : SmallStep u act w w') : RetryInv y w' := by
  refine ⟨fun id hid => ?_, fun hy => (redialling_congr hre).trans (hl.calm hy)⟩
  rw [redialling_congr hre] at hid
  obtain ⟨more, hmore⟩ := step_generations h
  have hlt := (List.getElem?_eq_some_iff.mp (hl.current id hid)).1
  rw [← hmore, List.getElem?_append_left hlt, hg]
  exact hl.current id hid

/-- A supervisor is to go on when no code runs; if it is to ask, it is the current one. -/
theorem push {v : World} {t : Link × Option Change} {next : Resumption} (hv : v.stack = [])
    (hid : (v.supervisors.map Supervisor.generation)[id]? = some t.1.generation)
    (hy : y = .supervisor id) : RetryInv y (shift (v.push (.supervisor id next)) t) := by
  refine ⟨fun j hj => ?_, fun hd => ?_⟩
  · have hre : resuming (shift (v.push (.supervisor id next)) t) = [(id, next)] :=
      (resuming_shift _ t).trans (resuming_push hv id next)
    rw [mem_redialling, hre, List.mem_singleton] at hj
    obtain rfl : j = id := (Prod.mk.inj hj).1
    rw [shift_link, shift_supervisors]
    exact hid
  · rw [hy] at hd
    exact absurd hd Cause.noConfusion

end RetryInv

theorem redialling_nil (hs : w.stack = []) : redialling w = [] := by
  rw [redialling, resuming_nil hs]
  rfl

/-- **Every small change keeps it so.** -/
theorem retryInv_step (hw : CoherentWorld w) (hl : RetryInv (cause u act) w)
    (h : SmallStep u act w w') : RetryInv (cause u act) w' := by
  have rests : ∀ {id : Nat} {s : Supervisor} {v : World}, AtRest w id s → v.stack = w.stack →
      RetryInv (cause u act) v := fun hr hv => .of_nil (redialling_nil (hv.trans hr.stack))
  have recorded : ∀ {id : Nat} {s : Supervisor}, AtRest w id s → ∀ g, g = s.generation →
      (w.supervisors.map Supervisor.generation)[id]? = some g := by
    rintro id s hr g rfl
    rw [List.getElem?_map, hr.supervisor]
    rfl
  have hstep := h
  cases h with
  | data hc =>
      obtain ⟨t, ht⟩ := data_link hc
      exact hl.keep (data_filterMap ⟨fun _ _ _ => rfl, fun _ _ _ _ => rfl⟩ hc) (by rw [ht]) hstep
  | pass nanos hs => exact .of_nil (redialling_nil hs)
  | announce c ha hb => exact hl.keep (offer_filterMap w (fun _ _ => rfl) c) rfl hstep
  | heardOnce hs => exact hl.keep (by simp [resuming, World.happen, hs]) rfl hstep
  | heard o cs hs => exact hl.keep (by simp [resuming, World.happen, hs]) rfl hstep
  | drained hs hp => exact hl.keep (by simp [resuming, hs]) rfl hstep
  | skipped hs hp hd => exact hl.keep rfl rfl hstep
  | announced hs hp hd => exact hl.keep (by simp [resuming, World.happen, hs]) rfl hstep
  | connect hy ha hr hm =>
      -- whoever is about to ask keeps `connect` from doing anything
      refine .of_nil (Eq.trans (redialling_congr (w := w) ?_) ?_)
      · rw [resuming_shift]
        simp [resuming, World.push]
      · refine List.eq_nil_iff_forall_not_mem.mpr fun id hid => ?_
        simp [Link.mayConnect, (hl.connecting hw hid).1] at hm
  | disconnect hy ha =>
      refine .of_nil (Eq.trans (redialling_congr (w := w) ?_) (hl.calm hy))
      rw [resuming_shift]
      simp [resuming]
  | @start g previous tail hs =>
      obtain ⟨o, ho⟩ := startSupervisor_link { w with stack := tail } g previous
      exact hl.keep (by simp [resuming, hs]) (by rw [ho]) hstep
  | @resume id next tail hs =>
      -- nobody else is to go on
      refine .of_nil ?_
      have hone := hw.one
      have hre : resuming w = (id, next) :: resuming ({ w with stack := tail }.resume id next) := by
        simp [resuming, hs]
      rw [hre, List.length_cons] at hone
      rw [redialling, List.eq_nil_of_length_eq_zero (Nat.le_zero.mp (Nat.le_of_succ_le_succ hone))]
      rfl
  | dial hr hs hp => exact rests hr rfl
  | wait hr hs hp hf => exact rests hr rfl
  | giveUp hr hs hp hf hd => exact rests hr rfl
  | retry hy hr hs hp hd ht =>
      obtain ⟨hg, rfl⟩ := Link.retry_eq_some ht
      exact .push hr.stack (recorded hr _ ((Link.setStatus_generation ..).trans hg)) hy
  | leave hr hs hg hl' => exact rests hr rfl
  | halt hr hs hp => exact rests hr rfl
  | @opened id s url t hy hr hs hp ht =>
      obtain ⟨hg, rfl⟩ := Link.startSession_eq_some ht
      refine .push hr.stack (Eq.trans ?_ (recorded hr _ ?_)) hy
      · exact congrArg (·[id]?) (rest_generations _ _ _)
      · exact (Link.setStatus_generation ..).trans hg
  | failed hy hr hs hp ht hl' =>
      obtain ⟨hg, rfl⟩ := Link.fail_eq_some ht
      refine .push hr.stack (recorded hr _ ?_) hy
      exact (Link.setStatus_generation ..).trans hg
  | dropped hr hp => exact rests hr rfl
  | wrote hr hs hp hq => exact rests hr rfl
  | wroteClose hr hs hp hq ho => exact rests hr rfl
  | read i hr hs hp => exact rests hr rfl
  | enter hr hs hp =>
      refine .of_nil ?_
      rw [redialling, resuming_push hr.stack]
      rfl

theorem retryInv_steps (hw : CoherentWorld w) (hl : RetryInv (cause u act) w)
    (h : SmallSteps u act w w') : RetryInv (cause u act) w' := by
  have hboth : CoherentWorld w' ∧ RetryInv (cause u act) w' := by
    induction h with
    | refl => exact ⟨hw, hl⟩
    | tail _ hd ih => exact ⟨coherentWorld_step ih.1 hd, retryInv_step ih.1 ih.2 hd⟩
  exact hboth.2

/-- **So does every run on which nobody is overtaken.** -/
theorem retryInv_run {as : List Action} (hw : CoherentWorld w) (hl : RetryInv .other w)
    (h : w.actAll as = some w') (ho : observed overtaken w as = []) : RetryInv .other w' := by
  induction as generalizing w with
  | nil =>
      obtain rfl := Option.some.inj h
      exact hl
  | cons a rest ih =>
      obtain ⟨v, hv, hrest⟩ := Option.bind_eq_some_iff.mp h
      rw [observed_cons hv] at ho
      obtain ⟨hhead, htail⟩ := List.append_eq_nil_iff.mp ho
      have hbegun : RetryInv (cause w a) w := by
        refine ⟨hl.current, fun hy => ?_⟩
        rwa [overtaken, hy] at hhead
      have hdone := retryInv_steps hw hbegun (act_steps hv)
      have hwv : CoherentWorld v := runs_keep coherentWorld_step hw (act_steps hv).runs
      exact ih hwv ⟨hdone.current, Cause.noConfusion⟩ hrest htail

/-! ## Attempts of the current generation -/

/-- Whoever asks is about to. -/
theorem Asks.starting (hw : CoherentWorld w) (h : Asks w id s w') :
    stage (resuming w) id s = .starting := by
  rcases h.due with ⟨hstack, -, hphase⟩ | hmem
  · rw [resuming_nil hstack]
    exact hphase
  · exact stage_redialling hw (mem_redialling.mpr hmem) s

/-- **Whoever asks is of the current generation, or it has been stopped** while it was telling the
listeners that it would ask again. -/
theorem Asks.current_or_stopped (hw : CoherentWorld w) (hk : OpenerInv w) (h : Asks w id s w') :
    s.generation = w.link.generation ∨ (s.stopped = true ∧ id ∈ redialling w) := by
  cases hstop : s.stopped with
  | true =>
      rcases h.due with ⟨-, hrun, -⟩ | hmem
      · exact absurd (hrun.symm.trans hstop) Bool.false_ne_true
      · exact .inr ⟨rfl, mem_redialling.mpr hmem⟩
  | false =>
      refine .inl (hk id _ (control_eq_some.mpr ⟨s, h.supervisor, rfl⟩) ?_)
      simp [Control.idle, controlOf, h.starting hw, hstop]

/-- A client that is disconnected. -/
structure Down (w : World) : Prop where
  coherent : CoherentWorld w
  openerInv : OpenerInv w
  status : w.link.status = .disconnected
  nobody : redialling w = []

/-- Nobody connects it again without being asked to. -/
theorem down_step (hd : Down w) (h : SmallStep u act w w') (hy : cause u act ≠ .asked .connect) :
    Down w' := by
  have hw := coherentWorld_step hd.coherent h
  have hl := retryInv_step hd.coherent (.of_nil hd.nobody) h
  have idle : ∀ {id : Nat} {s : Supervisor}, AtRest w id s → w.link.generation ≠ s.generation :=
    fun hr hg => (hd.coherent.current hr.supervisor hg.symm).1 hd.status
  have hstatus : w'.link.status = .disconnected := by
    rw [← hd.status]
    -- only the current generation moves the status, and a disconnected client has none
    cases h with
    | data h =>
        obtain ⟨t, ht⟩ := data_link h
        rw [ht]
    | connect hy' ha hr hm => exact absurd hy' hy
    | disconnect hy' ha => simp [Link.stop, hd.status]
    | @start g previous tail hs =>
        obtain ⟨o, ho⟩ := startSupervisor_link { w with stack := tail } g previous
        rw [ho]
    | resume hs =>
        unfold World.resume
        split <;> rfl
    | giveUp hr hs hp hf hd => rfl
    | retry hy' hr hs hp hd' ht => exact absurd (Link.retry_eq_some ht).1 (idle hr)
    | opened hy' hr hs hp ht => exact absurd (Link.startSession_eq_some ht).1 (idle hr)
    | failed hy' hr hs hp ht hl' => exact absurd (Link.fail_eq_some ht).1 (idle hr)
    | _ => rfl
  refine ⟨hw, openerInv_step hd.coherent hd.openerInv h, hstatus, ?_⟩
  refine List.eq_nil_iff_forall_not_mem.mpr fun id hid => ?_
  exact Status.noConfusion (hstatus.symm.trans (hl.connecting hw hid).1)

/-- The calls of `connect` that an action makes. -/
def connectCalls (w : World) (a : Action) : List Unit :=
  match cause w a with
  | .asked .connect => [()]
  | _ => []

theorem down_act {a : Action} (hd : Down w) (h : w.act a = some w') (hc : connectCalls w a = []) :
    Down w' ∧ attempts w' = attempts w := by
  have hy : cause w a ≠ .asked .connect := by
    intro hy
    simp [connectCalls, hy] at hc
  refine ⟨?_, (act_attempts h).resolve_right ?_⟩
  · have hsteps := act_steps h
    clear h hc
    induction hsteps with
    | refl => exact hd
    | tail _ hstep ih => exact down_step ih hstep hy
  · rintro ⟨id, s, hasks⟩
    rcases hasks.current_or_stopped hd.coherent hd.openerInv with hg | ⟨-, hid⟩
    · exact (hd.coherent.current hasks.supervisor hg).1 hd.status
    · rw [hd.nobody] at hid
      exact List.not_mem_nil hid

/-- **So it makes no attempt until it is asked to connect.** -/
theorem down_run {as : List Action} (hd : Down w) (h : w.actAll as = some w')
    (hc : observed connectCalls w as = []) : attempts w' = attempts w := by
  induction as generalizing w with
  | nil =>
      obtain rfl := Option.some.inj h
      rfl
  | cons a rest ih =>
      obtain ⟨v, hv, hrest⟩ := Option.bind_eq_some_iff.mp h
      rw [observed_cons hv] at hc
      obtain ⟨hhead, htail⟩ := List.append_eq_nil_iff.mp hc
      obtain ⟨hdown, hsame⟩ := down_act hd hv hhead
      exact (ih hdown hrest htail).trans hsame

/-- Attempts are made for the current generation only. -/
structure Timely (w : World) : Prop where
  /-- Whoever asks for a socket next is of the generation that is the current one before and after,
  has not been stopped, and the client is connecting. -/
  current : ∀ a w' new, w.act a = some w' → attempts w' = attempts w ++ new → ∀ t ∈ new,
    t.generation = w.link.generation ∧ w'.link.generation = w.link.generation
      ∧ w.link.status = .connecting
      ∧ (w.supervisors[t.supervisor]?).map Supervisor.stopped = some false
  /-- If the client is disconnected, nobody asks for a socket until `connect` is called. -/
  down : w.link.status = .disconnected → ∀ as v, w.actAll as = some v →
    observed connectCalls w as = [] → attempts v = attempts w

/-- **No attempt after a disconnect**, as long as nobody disconnects while a supervisor is telling
the listeners of its next attempt: then every request for a socket is made by a supervisor of the
current generation, and a disconnected client makes none until it is asked to connect. -/
theorem attempts_current {parts : Parts} {setup : Setup} {hasRuntime : Bool}
    {stamps : Nat → Stamp} {as : List Action} {w : World}
    (h : (World.initial parts setup hasRuntime stamps).actAll as = some w)
    (ho : observed overtaken (World.initial parts setup hasRuntime stamps) as = []) : Timely w := by
  have hw := coherentWorld_reachable h
  have hk :=
    openerInv_runs (coherentWorld_initial _ _ _ _) (openerInv_initial _ _ _ _) (actAll_runs h)
  have hl : RetryInv .other w :=
    retryInv_run (coherentWorld_initial _ _ _ _) (.of_nil (redialling_nil rfl)) h ho
  refine ⟨?_, ?_⟩
  · intro a w' new ha hnew t ht
    obtain ⟨id, s, hasks, rfl⟩ := asks_of_new ha hnew ht
    have hg : s.generation = w.link.generation := by
      rcases hasks.current_or_stopped hw hk with hg | ⟨-, hid⟩
      · exact hg
      -- nobody was overtaken, so whoever is telling the listeners is current too
      · exact ((hl.connecting hw hid).2 s hasks.supervisor).1
    obtain ⟨-, -, hstop, hfit⟩ := hw.current hasks.supervisor hg
    rw [hasks.starting hw] at hfit
    refine ⟨hg, by rw [hasks.link], hfit.1, ?_⟩
    rw [hasks.supervisor, Option.map_some, hstop]
  · intro hd as v hv hc
    refine down_run ⟨hw, hk, hd, ?_⟩ hv hc
    refine List.eq_nil_iff_forall_not_mem.mpr fun id hid => ?_
    exact Status.noConfusion (hd.symm.trans (hl.connecting hw hid).1)

/-- The client connects, disconnects and connects again; an attempt fails, and while the listeners
are told of the next one, one of them calls `connect` and stores a token. -/
def patientRun : List Action :=
  List.flatten [[.command .connect], List.replicate 3 .go, [.command .disconnect],
    List.replicate 2 .go, [.command .connect], List.replicate 3 .go, [.wake 1, .answered 1 false],
    List.replicate 3 .go, [.command (.listen "guest" (some .connecting) fun _ =>
      [.connect, .setToken (some "late")]), .pass 1000000000, .wake 1], List.replicate 6 .go]

/-- The supervisor of the third generation asks again. -/
theorem attempts_current_patient :
    ∃ w w', (World.initial ⟨true, false, true⟩ .standard true fun _ => ⟨"m1", .epoch⟩).actAll
        patientRun = some w
      ∧ w.act .go = some w'
      ∧ (attempts w').map (fun t => (t.supervisor, t.generation)) = [(1, 3), (1, 3)]
      ∧ (attempts w).length = 1 ∧ Timely w := by
  have hrun : ((World.initial ⟨true, false, true⟩ .standard true fun _ => ⟨"m1", .epoch⟩).actAll
      patientRun).bind (fun w => (w.act .go).map fun w' =>
        ((attempts w').map (fun t => (t.supervisor, t.generation)), (attempts w).length))
      = some ([(1, 3), (1, 3)], 1) := by
    decide +kernel
  have hovertaken : observed overtaken
      (World.initial ⟨true, false, true⟩ .standard true fun _ => ⟨"m1", .epoch⟩) patientRun
      = [] := by
    decide +kernel
  obtain ⟨w, hw, hrest⟩ := Option.bind_eq_some_iff.mp hrun
  obtain ⟨w', hw', hpair⟩ := Option.map_eq_some_iff.mp hrest
  obtain ⟨hlist, hcount⟩ := Prod.mk.inj hpair
  exact ⟨w, w', hw, hw', hlist, hcount, attempts_current hw hovertaken⟩

/-- The first attempt fails; a listener that came later disconnects when the second one is
announced. -/
def overtakenRun : List Action :=
  List.flatten [[.command .connect], List.replicate 3 .go, [.wake 0, .answered 0 false],
    List.replicate 3 .go, [.command (.listen "guest" (some .connecting) fun _ => [.disconnect]),
    .pass 1000000000, .wake 0], List.replicate 7 .go]

/-- Without the condition a supervisor asks for a socket after `disconnect` has come back, for a
generation that has passed. -/
theorem attempt_overtaken :
    ∃ v w, (World.initial ⟨true, false, true⟩ .standard true fun _ => ⟨"m1", .epoch⟩).actAll
        overtakenRun = some v
      ∧ v.link.status = .disconnected ∧ v.link.generation = 2 ∧ redialling v = [0]
      ∧ v.act .go = some w ∧ w.link.generation = 2 ∧ (attempts v).length = 1
      ∧ (attempts w).map (fun t => (t.supervisor, t.generation)) = [(0, 1), (0, 1)] := by
  have hrun : ((World.initial ⟨true, false, true⟩ .standard true fun _ => ⟨"m1", .epoch⟩).actAll
      overtakenRun).bind (fun v => (v.act .go).map fun w =>
        ((v.link.status, v.link.generation, redialling v), w.link.generation, (attempts v).length,
          (attempts w).map (fun t => (t.supervisor, t.generation))))
      = some ((.disconnected, 2, [0]), 2, 1, [(0, 1), (0, 1)]) := by
    decide +kernel
  obtain ⟨v, hv, hrest⟩ := Option.bind_eq_some_iff.mp hrun
  obtain ⟨w, hw, htuple⟩ := Option.map_eq_some_iff.mp hrest
  simp only [Prod.mk.injEq] at htuple
  obtain ⟨⟨hstatus, hgeneration, hnext⟩, hstill, hcount, hlist⟩ := htuple
  exact ⟨v, w, hv, hstatus, hgeneration, hnext, hw, hstill, hcount, hlist⟩

end LiveLink.Proofs
