import LiveLink.Proofs.SessionSteps

/-!
# What the application sees of its views

What the application can see of its views, apart from what they have told the server:
the views with their names, its own handles, and who listens to the status. Nothing
that the connection does touches any of this. Outside of commands it changes in one
way only, when a delivery calls a view (`act_viewRecords`); and of the commands, those
that neither change registrations nor tell the server anything leave it alone too
(`perform_viewRecords`).
-/

namespace LiveLink.Proofs

open LiveLink Relation

/-- The views, what is held of them, and who listens to the status. -/
structure ViewRecords where
  adapters : List Adapter
  names : ViewKind → Table Nat
  handles : Table Subscription
  listeners : List (Entry Listener)
  nextId : Nat

def ViewWorld.viewRecords (g : ViewWorld) : ViewRecords :=
  ⟨g.adapters, g.names, g.handles, g.listeners, g.nextId⟩

def viewRecords (w : World) : ViewRecords := (viewWorld w).viewRecords

/-- A view of a number shows something else. -/
def ViewRecords.setView (g : ViewRecords) (n : Nat) (f : View → View) : ViewRecords :=
  { g with adapters := g.adapters.modify n fun a => { a with view := f a.view } }

variable {w w' : World}

theorem viewRecords_of_viewWorld (h : viewWorld w' = viewWorld w) :
    viewRecords w' = viewRecords w :=
  congrArg ViewWorld.viewRecords h

/-- A view keeps what it shows. -/
theorem ViewRecords.setView_same {g : ViewRecords} {n : Nat} {f : View → View}
    (h : ∀ a, g.adapters[n]? = some a → f a.view = a.view) : g.setView n f = g := by
  have hsame : g.adapters.modify n (fun a => { a with view := f a.view }) = g.adapters :=
    modify_of_same fun a ha => by rw [h a ha]
  rw [setView, hsame]

/-! ## What small changes leave to the holders -/

variable {u : World} {act : Action}

theorem shift_viewRecords (w : World) (t : Link × Option Change) :
    viewRecords (shift w t) = viewRecords w := by
  unfold shift
  split <;> rfl

theorem data_shown (h : DataStep u act w w') (ht : ¬ Commanded registers u act) :
    viewRecords w' = viewRecords w
      ∨ ∃ n v, w' = w.setView n v ∧ (Commanded tellsServer u act ∨ CallsView n u act) := by
  cases h with
  | counters h => exact .inl (viewRecords_of_viewWorld (viewWorld_alike h))
  | handles t hy => exact absurd hy ht
  | names rooms feeds monitors hy => exact absurd hy ht
  | adapters l hy => exact absurd hy ht
  | setView n v hy => exact .inr ⟨n, v, rfl, hy⟩
  | addHandler s a hy => exact absurd hy ht
  | addListener l hy => exact absurd hy ht
  | withdraw p id hy => exact absurd hy ht
  | returned hs hu =>
      exact .inl (viewRecords_of_viewWorld ((viewWorld_complete _).trans (viewWorld_pop hs rfl)))
  | failed m hs =>
      exact .inl (viewRecords_of_viewWorld ((viewWorld_failCall _ m).trans (viewWorld_pop hs rfl)))
  | _ => exact .inl rfl

/-- What changes no registration leaves the records of views alone, or lets a view show something
else. -/
theorem step_shown (h : SmallStep u act w w') (ht : ¬ Commanded registers u act) :
    viewRecords w' = viewRecords w
      ∨ ∃ n v, w' = w.setView n v ∧ (Commanded tellsServer u act ∨ CallsView n u act) := by
  cases h with
  | data h => exact data_shown h ht
  | connect hy hw hr hm =>
      refine .inl ((shift_viewRecords _ _).trans ?_)
      exact viewRecords_of_viewWorld (viewWorld_stopSupervisor w _)
  | disconnect hy hw =>
      exact .inl
        ((shift_viewRecords _ _).trans (viewRecords_of_viewWorld (viewWorld_stopSupervisor w _)))
  | start hs hu =>
      exact .inl
        (viewRecords_of_viewWorld ((viewWorld_startSupervisor _ _ _).trans (viewWorld_pop hs rfl)))
  | resume hs hu =>
      exact .inl (viewRecords_of_viewWorld ((viewWorld_resume _ _ _).trans (viewWorld_pop hs rfl)))
  | retry hy hr hs hp hd ht => exact .inl (shift_viewRecords _ _)
  | opened hy hr hs hp ht ha => exact .inl (shift_viewRecords _ _)
  | failed hy hr hs hp ht hl => exact .inl (shift_viewRecords _ _)
  | _ => exact .inl rfl

theorem steps_viewRecords (h : SmallSteps u act w w') (ht : ¬ Commanded registers u act)
    (hs : ¬ Commanded tellsServer u act) (hv : ∀ n, ¬ CallsView n u act) :
    viewRecords w' = viewRecords w := by
  induction h with
  | refl => rfl
  | tail _ hd ih =>
      rcases step_shown hd ht with hsame | ⟨n, v, -, htells | hviewCall⟩
      · exact hsame.trans ih
      · exact absurd htells hs
      · exact absurd hviewCall (hv n)

/-- **A command that neither changes registrations nor tells the server anything leaves the records
of views alone.** -/
theorem perform_viewRecords {c : Command} (hw : Asking w) (ht : registers c = false)
    (hs : tellsServer c = false) : viewRecords (w.perform c) = viewRecords w := by
  have hsteps : SmallSteps w (.command c) w (w.perform c) := perform_steps rfl hw
  refine steps_viewRecords hsteps ?_ ?_ fun n h => Action.noConfusion h.1
  · exact (viewless_command ht hs).registers
  · exact fun h => (viewless_command ht hs).tellsServer (.tellsServer h)

/-! ## Views that are called -/

/-- What a view shows when an envelope has come to it: one that it cannot read changes nothing. -/
def heard (e : Envelope) (v : View) : View := (v.receive e).toOption.getD v

/-- The view whose handler it is. -/
def handlerView : Handler → Option Nat
  | .view n => some n
  | .app .. => none

/-- The view that an action calls, and with what. -/
def viewCall (w : World) : Action → Option (Nat × Envelope)
  | .go =>
    match w.stack with
    | .delivery _ e (h :: _) _ :: _ => (handlerView h.handler).map fun n => (n, e)
    | _ => none
  | _ => none

/-- What comes of it. -/
def ViewRecords.receive (g : ViewRecords) : Option (Nat × Envelope) → ViewRecords
  | some (n, e) => g.setView n (heard e)
  | none => g

/-- What becomes of the view that is called, if one is. -/
theorem Invoked.viewRecords {n k : Nat} {e : Envelope} {l : Entry Handler}
    {rest : List (Entry Handler)} {tail : List Frame} (h : Invoked w n e l rest k tail w') :
    viewRecords w' = (viewRecords w).receive ((handlerView l.handler).map fun m => (m, e)) := by
  -- a view that shows what it has shown is as it was
  have hsame : ∀ m, (∀ a, w.adapters[m]? = some a → heard e a.view = a.view) →
      (Proofs.viewRecords w).receive (some (m, e)) = Proofs.viewRecords w :=
    fun m => ViewRecords.setView_same (g := Proofs.viewRecords w)
  have hview : ∀ {m v a}, w.viewOf? m = some v → w.adapters[m]? = some a → a.view = v := by
    intro m v a hv ha
    have hshown : w.viewOf? m = some a.view := congrArg (Option.map fun a : Adapter => a.view) ha
    exact Option.some.inj (hshown.symm.trans hv)
  cases h with
  | runs hl hn =>
      rw [hl]
      rfl
  | @mismatched m hm =>
      cases hl : l.handler with
      | app name full kind script => rfl
      | view number =>
          rw [hl] at hm
          cases hm with
          | view hv hm =>
              have hshown : ∀ a, w.adapters[number]? = some a → heard e a.view = a.view :=
                fun a ha => by simp [heard, hview hv ha, hm, Except.toOption]
              exact (hsame number hshown).symm
  | @received number v v' hl hv hr =>
      rw [hl]
      show (⟨w.adapters.modify number ({ · with view := v' }), _, _, _, _⟩ : ViewRecords) = _
      unfold ViewRecords.receive ViewRecords.setView
      congr 1
      refine List.ext_getElem? fun m => ?_
      rw [List.getElem?_modify, List.getElem?_modify]
      show _ = Option.map _ w.adapters[m]?
      cases ha : w.adapters[m]? with
      | none => rfl
      | some a =>
          by_cases hn : number = m
          · subst hn
            simp [heard, hview hv ha, hr, Except.toOption]
          · simp [hn]
  | @absent number hl hv =>
      rw [hl]
      have hmissing : ∀ a, w.adapters[number]? ≠ some a := by
        intro a ha
        have hshown : w.viewOf? number = some a.view :=
          congrArg (Option.map fun a : Adapter => a.view) ha
        exact absurd (hshown.symm.trans hv) (by simp)
      exact (hsame number fun a ha => absurd ha (hmissing a)).symm

/-! ## Actions -/

/-- **Without a command, only a view that is called changes.** -/
theorem act_viewRecords {a : Action} (hc : ∀ c, cause w a ≠ .asked c) (h : w.act a = some w') :
    viewRecords w' = (viewRecords w).receive (viewCall w a) := by
  by_cases hcall : Calling w a
  · obtain ⟨rfl, n, e, l, rest, k, tail, hs⟩ := hcall
    obtain ⟨v, hgo, hinvoked⟩ := go_invokes hs
    obtain rfl : v = w' := Option.some.inj (hgo.symm.trans h)
    rw [hinvoked.viewRecords]
    simp only [viewCall, hs]
  · -- nobody is called, so there is no view to call
    have hnone : viewCall w a = none := by
      cases a with
      | go =>
          unfold viewCall
          dsimp only
          split
          · rename_i n e l rest k tail hs
            exact absurd ⟨rfl, n, e, l, rest, k, tail, hs⟩ hcall
          · rfl
      | _ => rfl
    -- no command, so none of any kind
    have never : ∀ kind, ¬ Commanded kind w a := fun kind ⟨c, hy, _⟩ => hc c hy
    rw [hnone]
    refine steps_viewRecords (act_steps h) (never _) (never _) ?_
    rintro n ⟨ha, k, e, l, rest, done, tail, hs, -⟩
    exact hcall ⟨ha, k, e, l, rest, done, tail, hs⟩

end LiveLink.Proofs
