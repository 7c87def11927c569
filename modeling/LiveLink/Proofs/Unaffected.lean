import LiveLink.Proofs.FanOut

/-!
# What leaves the registrations alone

Few commands change who is registered, fewer begin a delivery, and only a session
that has read a frame begins a delivery for a session. Everything else is **neutral**:
it changes neither the registrations, nor the handles and views of the application, nor
the calls that deliveries have still to make. Which small steps may touch them is known
from the inventory, so `step_registrations` and `step_due` look at these, and
`act_effect` is what comes out for actions.
-/

namespace LiveLink.Proofs

open LiveLink Relation

/-- All that is known of registrations: the registry, the handles of the application, and what each
view is registered for. -/
structure RegistrationState where
  router : Registry Handler
  handles : Table Subscription
  viewHandlers : List (List (String × Nat))

/-- The registrations in a world. -/
def registrations (w : World) : RegistrationState :=
  ⟨w.router, w.subscriptions, w.adapters.map (·.handlers)⟩

/-- The calls of handlers that are still to be made: by the delivery of a session, or by the
deliveries of everyone else. A session begins a delivery when no other code runs, so it is found
right below it. -/
def due (own : Bool) : List Frame → List (Nat × Envelope)
  | [.delivery _ e rest _, .supervisor _ _] => if own then rest.map fun h => (h.id, e) else []
  | .delivery _ e rest _ :: tail =>
    (if own then [] else rest.map fun h => (h.id, e)) ++ due own tail
  | _ :: tail => due own tail
  | [] => []

variable {own : Bool}

theorem due_cons {f : Frame} (hf : delivers f = false) (tail : List Frame) :
    due own (f :: tail) = due own tail := by
  cases f with
  | delivery n e rest k => exact absurd hf (by simp [delivers])
  | _ => simp [due]

section Delivery

variable {n k : Nat} {e : Envelope} {rest : List (Entry Handler)} {tail : List Frame}

/-- A delivery of anyone else. -/
theorem due_delivery (ht : ∀ id next, tail ≠ [.supervisor id next]) :
    due own (.delivery n e rest k :: tail) =
      (if own then [] else rest.map fun h => (h.id, e)) ++ due own tail := by
  rw [due]
  intro id next htail
  exact ht id next htail

theorem session_or (tail : List Frame) :
    (∃ id next, tail = [.supervisor id next]) ∨ ∀ id next, tail ≠ [.supervisor id next] := by
  by_cases h : ∃ id next, tail = [.supervisor id next]
  · exact .inl h
  · exact .inr fun id next hs => h ⟨id, next, hs⟩

/-- How many calls are counted does not matter. -/
theorem due_counted (k' : Nat) :
    due own (.delivery n e rest k' :: tail) = due own (.delivery n e rest k :: tail) := by
  rcases session_or tail with ⟨id, next, rfl⟩ | ht
  · rfl
  · rw [due_delivery ht, due_delivery ht]

/-- A delivery that is over has nothing to do any more. -/
theorem due_ended : due own (.delivery n e [] k :: tail) = due own tail := by
  rcases session_or tail with ⟨id, next, rfl⟩ | ht
  · cases own <;> rfl
  · rw [due_delivery ht]
    cases own <;> rfl

end Delivery

/-- A change that has to do neither with registrations nor with deliveries. -/
structure Neutral (w w' : World) : Prop where
  registrations : registrations w' = registrations w
  due : ∀ own, due own w'.stack = due own w.stack

variable {w w' : World}

/-! ## What small changes leave as it is -/

/-- A view changes, and what it is registered for does not. -/
theorem modify_registrations (w : World) (n : Nat) {f : Adapter → Adapter}
    (hf : ∀ a, (f a).handlers = a.handlers) :
    registrations { w with adapters := w.adapters.modify n f } = registrations w :=
  congrArg (RegistrationState.mk w.router w.subscriptions) (map_modify w.adapters n hf)

/-- Who asks for a delivery is no session. -/
theorem asking_no_session (hw : Asking w) (id : Nat) (next : Resumption) :
    w.stack ≠ [.supervisor id next] := by
  intro hs
  have hscript := hw (.supervisor id next) (by rw [hs]; rfl)
  exact absurd hscript (by simp [isScript])

/-- An action calls a handler. -/
def Calling (u : World) (act : Action) : Prop :=
  act = .go ∧ ∃ n e l rest k tail, u.stack = .delivery n e (l :: rest) k :: tail

variable {u : World} {act : Action}

theorem complete_due (w : World) : due own w.complete.stack = due own w.stack := by
  unfold World.complete
  split
  · rename_i n e rest k tail hs
    rw [hs]
    exact due_counted (k + 1)
  · rfl

theorem offer_due (w : World) (c : Change) : due own (offer w c).stack = due own w.stack := by
  unfold offer
  cases w.board.draining with
  | true => rfl
  | false => exact due_cons rfl w.stack

theorem shift_due (w : World) (t : Link × Option Change) :
    due own (shift w t).stack = due own w.stack := by
  unfold shift
  split
  · exact offer_due _ _
  · rfl

theorem data_registrations (h : DataStep u act w w') (hn : ¬ Commanded registers u act) :
    registrations w' = registrations w := by
  cases h with
  | counters h => rw [registrations, h.router, h.subscriptions, h.adapters, registrations]
  | handles t hy => exact absurd hy hn
  | adapters l hy => exact absurd hy hn
  | setView number v hy => exact modify_registrations w number fun _ => rfl
  | addHandler s h hy => exact absurd hy hn
  | withdraw p id hy => exact absurd hy hn
  | returned hs hu => unfold World.complete; split <;> rfl
  | failed m hs => unfold World.failCall; split <;> rfl
  | _ => rfl

theorem shift_registrations (w : World) (t : Link × Option Change) :
    registrations (shift w t) = registrations w := by
  unfold shift
  split <;> rfl

theorem stopSupervisor_registrations (w : World) (id : Option Nat) :
    registrations (w.stopSupervisor id) = registrations w := by
  cases id <;> rfl

/-- **Registrations change only when a command asks for it.** -/
theorem step_registrations (h : SmallStep u act w w') (hn : ¬ Commanded registers u act) :
    registrations w' = registrations w := by
  cases h with
  | data h => exact data_registrations h hn
  | connect hy hw hr hm => exact (shift_registrations _ _).trans (stopSupervisor_registrations w _)
  | disconnect hy hw => exact (shift_registrations _ _).trans (stopSupervisor_registrations w _)
  | start hs hu =>
      unfold World.startSupervisor
      dsimp only
      split
      · rfl
      · exact stopSupervisor_registrations _ _
  | resume hs hu => unfold World.resume; split <;> rfl
  | retry hy hr hs hp hd ht => exact shift_registrations _ _
  | opened hy hr hs hp ht ha => exact shift_registrations _ _
  | failed hy hr hs hp ht hl => exact shift_registrations _ _
  | _ => rfl

theorem data_due (h : DataStep u act w w') (hcall : ¬ Calling u act) (hn : arrival u act = none)
    (hown : own = true ∨ ¬ Commanded dispatches u act) : due own w'.stack = due own w.stack := by
  cases h with
  | counters h => rw [h.stack]
  | withdraw p id hy => cases p <;> rfl
  | script cs' a' hs => rw [hs, due_cons rfl, due_cons rfl]
  | returned hs hu => rw [complete_due, hs, due_cons rfl]
  | failed m hs => rw [failCall_stack, hs, due_cons rfl]
  | dispatch e hw hy =>
      rcases hy with ⟨hcommanded, hasking⟩ | harrived
      · -- it begins above a handler or above nothing at all
        rcases hown with rfl | hnot
        · exact due_delivery (asking_no_session hasking)
        · exact absurd hcommanded hnot
      · rw [hn] at harrived
        exact absurd harrived (by simp)
  | called o cs hs hu => exact absurd ⟨hu.1, _, _, _, _, _, _, hu.2 ▸ hs⟩ hcall
  | calledOnce hs hu => exact absurd ⟨hu.1, _, _, _, _, _, _, hu.2 ▸ hs⟩ hcall
  | ended hs hu =>
      rw [hs]
      exact due_ended.symm
  | _ => rfl

/-- **Calls become due only where a delivery begins**, and none is lost. -/
theorem step_due (h : SmallStep u act w w') (hcall : ¬ Calling u act) (hn : arrival u act = none)
    (hown : own = true ∨ ¬ Commanded dispatches u act) : due own w'.stack = due own w.stack := by
  cases h with
  | data h => exact data_due h hcall hn hown
  | announce c hw hb => exact offer_due w c
  | heardOnce hs hu => rw [World.happen, hs, due_cons rfl, due_cons rfl]
  | heard o cs hs hu => rw [World.happen, hs, due_cons rfl, due_cons rfl, due_cons rfl]
  | drained hs hp hu => rw [hs, due_cons rfl]
  | announced hs hp hd hu => rw [World.happen, hs, due_cons rfl, due_cons rfl]
  | connect hy hw hr hm => rw [shift_due, World.push, due_cons rfl, stopSupervisor_stack]
  | disconnect hy hw => rw [shift_due, stopSupervisor_stack]
  | start hs hu => rw [startSupervisor_stack, hs, due_cons rfl]
  | resume hs hu => rw [resume_stack, hs, due_cons rfl]
  | giveUp hr hs hp hf hd ha => rfl
  | retry hy hr hs hp hd ht => exact (shift_due _ _).trans (due_cons rfl w.stack)
  | opened hy hr hs hp ht ha => exact (shift_due _ _).trans (due_cons rfl w.stack)
  | failed hy hr hs hp ht hl => exact (shift_due _ _).trans (due_cons rfl w.stack)
  | enter hr hs hp => exact due_cons rfl w.stack
  | _ => rfl

theorem steps_registrations (h : SmallSteps u act w w') (hn : ¬ Commanded registers u act) :
    registrations w' = registrations w := by
  induction h with
  | refl => rfl
  | tail _ hd ih => exact (step_registrations hd hn).trans ih

theorem steps_due (h : SmallSteps u act w w') (hcall : ¬ Calling u act) (hn : arrival u act = none)
    (hown : own = true ∨ ¬ Commanded dispatches u act) : due own w'.stack = due own w.stack := by
  induction h with
  | refl => rfl
  | tail _ hd ih => exact (step_due hd hcall hn hown).trans ih

/-- What is no command, no call and no reading is neutral. -/
theorem neutral_of_steps (h : SmallSteps u act w w') (hc : ∀ c, cause u act ≠ .asked c)
    (hcall : ¬ Calling u act) (hn : arrival u act = none) : Neutral w w' := by
  have never : ∀ kind, ¬ Commanded kind u act := fun kind ⟨c, hy, _⟩ => hc c hy
  exact ⟨steps_registrations h (never _), fun own => steps_due h hcall hn (.inr (never _))⟩

/-- What may be done whatever the action is, is neutral. -/
theorem neutral_of_any (h : ∀ u act, SmallSteps u act w w') : Neutral w w' :=
  neutral_of_steps (h w (.pass 0)) (by simp [cause]) (by simp [Calling]) rfl

theorem answer_neutral (w : World) (r : Reply) : Neutral w (w.answer r) :=
  neutral_of_any fun _ _ => answer_steps w r

/-- So is what is said. -/
theorem neutral_of_said (h : ∀ u act, MayTell u act → SmallSteps u act w w') : Neutral w w' := by
  let act : Action := .command (.send "" .null)
  have htell : MayTell w act := .tellsServer ⟨_, rfl, rfl⟩
  have never : ∀ kind, kind (.send "" .null) = false → ¬ Commanded kind w act := by
    rintro kind hkind ⟨c, hc, hyes⟩
    obtain rfl := Cause.asked.inj hc
    exact absurd (hkind.symm.trans hyes) (by simp)
  have hsteps := h w act htell
  exact ⟨steps_registrations hsteps (never _ rfl),
    fun own => steps_due hsteps (by simp [Calling, act]) rfl (.inr (never _ rfl))⟩

theorem sendAll_neutral (w : World) (notices : List Notice) : Neutral w (w.sendAll notices) :=
  neutral_of_said fun _ _ hy => sendAll_steps hy w notices

theorem announce_neutral (w : World) (adapter : Nat) : Neutral w (w.announce adapter) :=
  neutral_of_said fun _ _ hy => announce_steps hy w adapter

/-! ## Commands -/

/-- A command leaves deliveries alone, unless it begins one for someone who is no session. -/
theorem perform_due (hw : Asking w) {c : Command} (hown : own = true ∨ dispatches c = false) :
    due own (w.perform c).stack = due own w.stack := by
  have hsteps : SmallSteps w (.command c) w (w.perform c) := perform_steps rfl hw
  refine steps_due hsteps (by simp [Calling]) rfl (hown.imp_right ?_)
  rintro hc ⟨c', hc', hdispatches⟩
  obtain rfl := Cause.asked.inj hc'
  exact absurd (hdispatches.symm.trans hc) (by simp)

/-- What a command leaves alone that does not change registrations. -/
theorem perform_registrations (hw : Asking w) {c : Command} (hc : registers c = false) :
    registrations (w.perform c) = registrations w := by
  have hsteps : SmallSteps w (.command c) w (w.perform c) := perform_steps rfl hw
  refine steps_registrations hsteps ?_
  rintro ⟨c', hc', hregisters⟩
  obtain rfl := Cause.asked.inj hc'
  exact absurd (hregisters.symm.trans hc) (by simp)

/-! ## Calls -/

theorem Neutral.of_invoked {n k : Nat} {e : Envelope} {l : Entry Handler}
    {rest : List (Entry Handler)} {tail : List Frame} (h : Invoked w n e l rest k tail w') :
    Neutral { w with stack := .delivery n e rest k :: tail } w' := by
  cases h with
  | runs hl hn => exact ⟨rfl, fun _ => due_cons rfl _⟩
  | mismatched hm => exact ⟨rfl, fun _ => due_counted (k + 1)⟩
  | received hl hv hr => exact ⟨modify_registrations w _ fun _ => rfl, fun _ => due_counted (k + 1)⟩
  | absent hl hv => exact ⟨rfl, fun _ => due_counted (k + 1)⟩

/-! ## What a session reads -/

theorem read_of_arrival {id : Nat} {s : Supervisor} {i : Incoming} {e : Envelope}
    (h : w.read id s i = some w') (he : arrival w (.read id i) = some e) :
    ∃ socket, w'.stack = .delivery w.deliveries e (w.router.audience e.topic) 0
      :: .supervisor id (.session socket) :: w.stack := by
  unfold World.read at h
  split at h
  · rename_i socket hp
    -- a frame that holds an envelope is handed over above the session
    have hframe : ∀ t, (Envelope.decode (w.stamps w.stamped) t).toOption = some e →
        ((w.happen (.read socket i)).deliverFrame id socket t).stack
          = .delivery w.deliveries e (w.router.audience e.topic) 0
            :: .supervisor id (.session socket) :: w.stack := by
      intro t ht
      have hd : Envelope.decode (w.stamps w.stamped) t = .ok e := by
        cases hdec : Envelope.decode (w.stamps w.stamped) t with
        | ok e' => rw [hdec] at ht; rw [Option.some.inj ht]
        | error m => rw [hdec] at ht; exact absurd ht (by simp [Except.toOption])
      unfold World.deliverFrame World.dispatchFrame
      simp only [World.push, World.happen, hd, World.dispatch]
    dsimp only at h
    refine ⟨socket, ?_⟩
    split at h
    · obtain rfl := Option.some.inj h
      exact hframe _ he
    · simp only [arrival, textOf] at he
      split at h <;> obtain rfl := Option.some.inj h
      · rename_i bytes t ht
        rw [ht] at he
        exact hframe t he
      · rename_i bytes ht
        rw [ht] at he
        exact absurd he (by simp)
    all_goals exact absurd he (by simp [arrival, textOf])
  · exact absurd h (by simp)

/-! ## Actions -/

/-- What an action comes to. -/
inductive Effect (w : World) (a : Action) (w' : World) : Prop where
  /-- A command is carried out, for the outside or for the handler that runs. -/
  | asked {c : Command} (stack : List Frame) (reply : Option Reply) (hc : cause w a = .asked c)
      (hn : arrival w a = none) (hd : ∀ own, due own stack = due own w.stack)
      (hs : ∀ n e l rest k tail, w.stack ≠ .delivery n e (l :: rest) k :: tail)
      (hw : Asking { w with stack := stack, reply := reply })
      (h : w' = { w with stack := stack, reply := reply }.perform c)
  /-- A delivery calls a handler. -/
  | called {n k : Nat} {e : Envelope} {l : Entry Handler} {rest : List (Entry Handler)}
      {tail : List Frame} (ha : a = .go) (hs : w.stack = .delivery n e (l :: rest) k :: tail)
      (hb : Neutral { w with stack := .delivery n e rest k :: tail } w')
  /-- A session has read an envelope. -/
  | received {e : Envelope} {id socket : Nat} (hc : ∀ c, cause w a ≠ .asked c)
      (hs : w.stack = []) (hn : arrival w a = some e) (ho : registrations w' = registrations w)
      (hs' : w'.stack = [.delivery w.deliveries e (w.router.audience e.topic) 0,
        .supervisor id (.session socket)])
  | other (hc : ∀ c, cause w a ≠ .asked c) (hn : arrival w a = none)
      (hs : ∀ n e l rest k tail, w.stack ≠ .delivery n e (l :: rest) k :: tail)
      (hb : Neutral w w')

/-- Whoever asks for something has taken it up. -/
theorem asked_effect {a : Action} {c : Command} (hc : cause w a = .asked c)
    (h : w.act a = some w') : Effect w a w' := by
  have hn : arrival w a = none := by
    cases a with
    | read id i => exact absurd hc (by simp [cause])
    | _ => rfl
  obtain ⟨reply, stack, hw, ⟨hs, rfl⟩ | ⟨o, rest, verb, tail, hs, rfl⟩⟩ := act_asked hc h
  · exact .asked [] reply hc hn (by simp [hs]) (by simp [hs]) (asking_nil rfl) hw
  · refine .asked _ reply hc hn ?_ (by simp [hs]) (asking_script rfl) hw
    intro own
    rw [hs, due_cons rfl, due_cons rfl]

/-- **Every action does one of four things.** -/
theorem act_effect {a : Action} (h : w.act a = some w') : Effect w a w' := by
  by_cases hasked : ∃ c, cause w a = .asked c
  · obtain ⟨c, hc⟩ := hasked
    exact asked_effect hc h
  have hc : ∀ c, cause w a ≠ .asked c := fun c hc => hasked ⟨c, hc⟩
  -- a handler is called: it may register, send, or do nothing
  by_cases hcall : Calling w a
  · obtain ⟨rfl, n, e, l, rest, k, tail, hs⟩ := hcall
    obtain ⟨v, hgo, hinvoked⟩ := go_invokes hs
    obtain rfl : v = w' := Option.some.inj (hgo.symm.trans h)
    exact .called rfl hs (Neutral.of_invoked hinvoked)
  -- without a call of a handler, no delivery has one to call next
  have hquiet : ∀ n e l rest k tail, w.stack ≠ .delivery n e (l :: rest) k :: tail := by
    intro n e l rest k tail hs
    refine hcall ⟨?_, n, e, l, rest, k, tail, hs⟩
    by_contra hgo
    exact absurd (stack_of_act h hgo) (by simp [hs])
  cases hn : arrival w a with
  | none => exact .other hc hn hquiet (neutral_of_steps (act_steps h) hc hcall hn)
  | some e =>
      cases a with
      | read id i =>
          simp only [World.act] at h
          obtain ⟨s, hr, -, hread⟩ := atRest_of_supervisorStep h
          obtain ⟨socket, hs⟩ := read_of_arrival hread hn
          have hregistrations : registrations w' = registrations w := by
            refine steps_registrations (act_steps (a := .read id i) h) ?_
            rintro ⟨c, hy, -⟩
            exact hc c hy
          rw [hr.stack] at hs
          exact .received hc hr.stack hn hregistrations hs
      | _ => exact absurd hn (by simp [arrival])

end LiveLink.Proofs
