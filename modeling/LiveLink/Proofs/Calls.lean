import LiveLink.Proofs.SmallSteps
import LiveLink.Proofs.Histories

/-!
# Calls of handlers and listeners

The program calls a handler with an envelope and a listener with a status, and this
file says what that comes to: `Invoked` and `Notified` give the whole world after a
call, and `go_invokes` and `go_notifies` show that the code which makes a call leaves
that world and no other.

Two things make these facts about single calls into facts about runs. A number names
one registration for good (`handler_since`, `listener_since`), so whoever is called
under a number is who was registered under it. And nothing else leaves the mark of a
call (`act_marks`), so the notes that stand directly behind such marks are all that a
handler has taken down of its calls (`notesBehind`).
-/

namespace LiveLink.Proofs

open LiveLink Relation

/-! ## What a call comes to -/

/-- What a handler of the application notes down when it is called with an envelope: the topic and
the payload as they came, with the id and the time if it asks for them, or the payload as its type
shows it. It is not called with a payload of another type. -/
def noteOf : Handler → Envelope → Option Note
  | .app name full none _, e =>
    some (.got name e.topic e.payload (if full then some ⟨e.id, e.timestamp⟩ else none))
  | .app name _ (some kind) _, e =>
    (kind.reread e.payload).toOption.map fun shown => .typed name e.topic shown.write
  | .view _, _ => none

/-- Why a handler has nothing to do with an envelope: the payload is not of the type that it, or the
view whose handler it is, reads. -/
inductive Mismatched (w : World) (e : Envelope) : Handler → Json.Mismatch → Prop where
  | app {name : String} {full : Bool} {kind : PayloadKind} {script : Script} {m : Json.Mismatch}
      (hm : kind.reread e.payload = .error m) :
      Mismatched w e (.app name full (some kind) script) m
  | view {number : Nat} {v : View} {m : Json.Mismatch} (hv : w.viewOf? number = some v)
      (hm : v.receive e = .error m) : Mismatched w e (.view number) m

/-- The world after delivery `n` has called a handler with an envelope, given whom it has yet to
call, how many calls it has counted, and the code that waits for it. -/
inductive Invoked (w : World) (n : Nat) (e : Envelope) (l : Entry Handler)
    (rest : List (Entry Handler)) (k : Nat) (tail : List Frame) : World → Prop where
  /-- A handler of the application notes the envelope down and starts on the commands of this run of
  its own. -/
  | runs {name : String} {full : Bool} {kind : Option PayloadKind} {script : Script} {note : Note}
      (hl : l.handler = .app name full kind script) (hn : noteOf l.handler e = some note) :
      Invoked w n e l rest k tail { w with
        stack := .script name (script (w.handlerRuns l.id)) none :: .delivery n e rest k :: tail
        handlerRuns := World.bump w.handlerRuns l.id
        history := .noted note :: .called n l.id :: w.history }
  /-- The call counts, and the mismatch is reported. -/
  | mismatched {m : Json.Mismatch} (hm : Mismatched w e l.handler m) :
      Invoked w n e l rest k tail { w with
        stack := .delivery n e rest (k + 1) :: tail
        history := .warned .warning (some e.topic)
          ("payload does not match subscriber type: " ++ Envelope.mismatchMessage m)
            :: .called n l.id :: w.history }
  /-- A view takes the envelope in. -/
  | received {number : Nat} {v v' : View} (hl : l.handler = .view number)
      (hv : w.viewOf? number = some v) (hr : v.receive e = .ok v') :
      Invoked w n e l rest k tail { w.setView number v' with
        stack := .delivery n e rest (k + 1) :: tail
        history := .called n l.id :: w.history }
  | absent {number : Nat} (hl : l.handler = .view number) (hv : w.viewOf? number = none) :
      Invoked w n e l rest k tail { w with
        stack := .delivery n e rest (k + 1) :: tail
        history := .called n l.id :: w.history }

/-- The world after a listener has been called with a change, given whom the delivery of changes has
yet to call and the code that waits for it. -/
inductive Notified (w : World) (c : Change) (l : Entry Listener) (rest : List (Entry Listener))
    (tail : List Frame) : World → Prop where
  /-- A listener of the application notes the status down and starts on the commands of this run of
  its own. -/
  | runs {name : String} {only : Option Status} {script : Script}
      (hl : l.handler = .app name only script) (ho : only.all (· = c.status) = true) :
      Notified w c l rest tail { w with
        stack := .script name (script (w.listenerRuns l.id)) none :: .announcement c rest :: tail
        listenerRuns := World.bump w.listenerRuns l.id
        history := .noted (.status name c.status) :: .heard c l.id :: w.history }
  /-- Its commands are for another status. -/
  | notes {name : String} {only : Option Status} {script : Script}
      (hl : l.handler = .app name only script) (ho : only.all (· = c.status) = false) :
      Notified w c l rest tail { w with
        stack := .announcement c rest :: tail
        history := .noted (.status name c.status) :: .heard c l.id :: w.history }
  /-- A view tells the server what it wants once there is a connection. -/
  | announces {number : Nat} (hl : l.handler = .view number) (hc : c.status = .connected) :
      Notified w c l rest tail ({ w with
        stack := .announcement c rest :: tail
        history := .heard c l.id :: w.history }.announce number)
  | passes {number : Nat} (hl : l.handler = .view number) (hc : c.status ≠ .connected) :
      Notified w c l rest tail { w with
        stack := .announcement c rest :: tail
        history := .heard c l.id :: w.history }

section Calls

variable {w w' : World} {n k : Nat} {e : Envelope} {c : Change} {tail : List Frame}

/-- **A delivery that has a handler to call calls it with its envelope.** -/
theorem go_invokes {l : Entry Handler} {rest : List (Entry Handler)}
    (hs : w.stack = .delivery n e (l :: rest) k :: tail) :
    ∃ w', w.go = some w' ∧ Invoked w n e l rest k tail w' := by
  obtain ⟨id, handler⟩ := l
  simp only [World.go, hs]
  refine ⟨_, rfl, ?_⟩
  cases handler with
  | app name full kind script =>
      cases kind with
      | none => exact .runs rfl rfl
      | some kind =>
          cases hm : kind.reread e.payload with
          | ok shown =>
              simp only [World.callHandler, hm]
              refine .runs rfl ?_
              simp [noteOf, hm, Except.toOption]
          | error m =>
              simp only [World.callHandler, hm]
              exact .mismatched (.app hm)
  | view number =>
      cases hv : w.viewOf? number with
      | none =>
          -- the mark of the call is made before the view is looked up, and changes no view
          have hv' : ({ w with stack := .delivery n e rest k :: tail }.happen
              (.called n id)).viewOf? number = none := hv
          simp only [World.callHandler, hv']
          exact .absent rfl hv
      | some v =>
          have hv' : ({ w with stack := .delivery n e rest k :: tail }.happen
              (.called n id)).viewOf? number = some v := hv
          cases hr : v.receive e with
          | ok v' =>
              simp only [World.callHandler, hv', hr]
              exact .received rfl hv hr
          | error m =>
              simp only [World.callHandler, hv', hr]
              exact .mismatched (.view hv hr)

/-- **A delivery of a change that has a listener to call calls it with the status.** -/
theorem go_notifies {l : Entry Listener} {rest : List (Entry Listener)}
    (hs : w.stack = .announcement c (l :: rest) :: tail) :
    ∃ w', w.go = some w' ∧ Notified w c l rest tail w' := by
  obtain ⟨id, listener⟩ := l
  simp only [World.go, hs]
  refine ⟨_, rfl, ?_⟩
  cases listener with
  | app name only script =>
      simp only [World.callListener]
      split
      · rename_i ho
        exact .runs rfl ho
      · rename_i ho
        exact .notes rfl (by simpa using ho)
  | view number =>
      simp only [World.callListener]
      split
      · rename_i hc
        exact .announces rfl hc
      · rename_i hc
        exact .passes rfl hc

end Calls

/-! ## A number names one registration -/

/-- A frame that a small change may leave on the stack of a world. -/
inductive Leaves (w : World) : Frame → Prop where
  | stays {f : Frame} (h : f ∈ w.stack) : Leaves w f
  | script (o : String) (cs : List Command) (a : Option String) : Leaves w (.script o cs a)
  | begun (n : Nat) (e : Envelope) : Leaves w (.delivery n e (w.router.audience e.topic) 0)
  /-- A delivery goes on with those who are left of its list. -/
  | delivers {n k : Nat} {e : Envelope} {rest left : List (Entry Handler)} (k' : Nat)
      (h : .delivery n e rest k ∈ w.stack) (hl : left <:+ rest) : Leaves w (.delivery n e left k')
  | drains (c : Change) : Leaves w (.announcement c [])
  | announced (c : Change) : Leaves w (.announcement c w.board.listeners)
  | announces {c : Change} {rest left : List (Entry Listener)} (h : .announcement c rest ∈ w.stack)
      (hl : left <:+ rest) : Leaves w (.announcement c left)
  | connecting (g : Nat) (previous : Option Nat) : Leaves w (.connecting g previous)
  | supervisor (id : Nat) (next : Resumption) : Leaves w (.supervisor id next)

variable {u w w' : World} {act : Action} {f : Frame}

theorem stays_of_tail {g : Frame} {tail : List Frame} (hs : w.stack = g :: tail) (hf : f ∈ tail) :
    Leaves w f := .stays (hs ▸ List.mem_cons_of_mem g hf)

/-- A data step goes on with a list, begins one, or leaves the code as it is. -/
theorem data_leaves (h : DataStep u act w w') (hf : f ∈ w'.stack) : Leaves w f := by
  cases h with
  | counters h => exact .stays (h.stack ▸ hf)
  | withdraw p id => exact .stays (by cases p <;> exact hf)
  | script cs' a' hs =>
      rcases List.mem_cons.mp hf with rfl | hf
      · exact .script _ _ _
      · exact stays_of_tail hs hf
  | @returned o a tail hs =>
      unfold World.complete at hf
      split at hf
      · rename_i n e rest k tail' ht
        obtain rfl : tail = .delivery n e rest k :: tail' := ht
        rcases List.mem_cons.mp hf with rfl | hf
        · -- the handler has returned, so the delivery counts the call and goes on
          refine .delivers (k + 1) (n := n) (e := e) (k := k) ?_ List.suffix_rfl
          rw [hs]
          simp
        · exact stays_of_tail hs (List.mem_cons_of_mem _ hf)
      · exact stays_of_tail hs hf
  | failed m hs =>
      rw [failCall_stack] at hf
      exact stays_of_tail hs hf
  | dispatch e hw =>
      rcases List.mem_cons.mp hf with rfl | hf
      · exact .begun _ e
      · exact .stays hf
  | @called n k e h rest tail o cs hs =>
      rcases List.mem_cons.mp hf with rfl | hf
      · exact .script _ _ _
      · rcases List.mem_cons.mp hf with rfl | hf
        · exact .delivers _ (hs ▸ List.mem_cons_self) (List.suffix_cons _ _)
        · exact stays_of_tail hs hf
  | calledOnce hs =>
      rcases List.mem_cons.mp hf with rfl | hf
      · exact .delivers _ (hs ▸ List.mem_cons_self) (List.suffix_cons _ _)
      · exact stays_of_tail hs hf
  | ended hs => exact stays_of_tail hs hf
  | _ => exact .stays hf

/-- What a change of the connection adds to the code that runs is a delivery of changes. -/
theorem mem_shift {t : Link × Option Change} (hf : f ∈ (shift w t).stack) :
    f ∈ w.stack ∨ ∃ c, f = .announcement c [] := by
  unfold shift at hf
  split at hf
  · unfold offer at hf
    rcases List.mem_append.mp hf with hf | hf
    · split at hf
      · exact absurd hf List.not_mem_nil
      · exact .inr ⟨_, List.mem_singleton.mp hf⟩
    · exact .inl hf
  · exact .inl hf

/-- The connection changes, and the one who has changed it is to go on afterwards. -/
theorem push_shift_leaves {x : World} {g : Frame} {t : Link × Option Change}
    (hf : f ∈ (shift x t).stack) (hx : x.stack = g :: w.stack) (hg : Leaves w g) :
    Leaves w f := by
  rcases mem_shift hf with hf | ⟨c, rfl⟩
  · rw [hx] at hf
    rcases List.mem_cons.mp hf with rfl | hf
    · exact hg
    · exact .stays hf
  · exact .drains c

/-- **What a small change leaves on the stack.** -/
theorem step_leaves (h : SmallStep u act w w') (hf : f ∈ w'.stack) : Leaves w f := by
  cases h with
  | data h => exact data_leaves h hf
  | announce c hw hb =>
      unfold offer at hf
      rcases List.mem_append.mp hf with hf | hf
      · split at hf
        · exact absurd hf List.not_mem_nil
        · exact List.mem_singleton.mp hf ▸ .drains c
      · exact .stays hf
  | heardOnce hs =>
      rcases List.mem_cons.mp hf with rfl | hf
      · exact .announces (hs ▸ List.mem_cons_self) (List.suffix_cons _ _)
      · exact stays_of_tail hs hf
  | heard o cs hs =>
      rcases List.mem_cons.mp hf with rfl | hf
      · exact .script _ _ _
      · rcases List.mem_cons.mp hf with rfl | hf
        · exact .announces (hs ▸ List.mem_cons_self) (List.suffix_cons _ _)
        · exact stays_of_tail hs hf
  | drained hs hp => exact stays_of_tail hs hf
  | announced hs hp hd =>
      rcases List.mem_cons.mp hf with rfl | hf
      · exact .announced _
      · exact stays_of_tail hs hf
  | connect hy hw hr hm =>
      exact push_shift_leaves hf (congrArg _ (stopSupervisor_stack w _)) (.connecting _ _)
  | disconnect hy hw =>
      rcases mem_shift hf with hf | ⟨c, rfl⟩
      · exact .stays (stopSupervisor_stack w _ ▸ hf)
      · exact .drains c
  | start hs =>
      rw [startSupervisor_stack] at hf
      exact stays_of_tail hs hf
  | resume hs =>
      rw [resume_stack] at hf
      exact stays_of_tail hs hf
  | giveUp hr hs hp hf' hd => exact .stays hf
  | retry hy hr hs hp hd ht => exact push_shift_leaves hf rfl (.supervisor _ _)
  | opened hy hr hs hp ht => exact push_shift_leaves hf rfl (.supervisor _ _)
  | failed hy hr hs hp ht hl => exact push_shift_leaves hf rfl (.supervisor _ _)
  | enter hr hs hp =>
      rcases List.mem_cons.mp hf with rfl | hf
      · exact .supervisor _ _
      · exact .stays hf
  | _ => exact .stays hf

/-- Numbers go on being given out: whoever is known after a step was known before, or has got the
next number. -/
inductive Issues {α : Type} (known : Entry α → Prop) (next : Nat) :
    (Entry α → Prop) → Nat → Prop where
  | keeps {known' : Entry α → Prop} (h : ∀ l, known' l → known l) : Issues known next known' next
  | adds {known' : Entry α → Prop} (a : α) (h : ∀ l, known' l → known l ∨ l = ⟨next, a⟩) :
      Issues known next known' (next + 1)

/-- No two of those who are known have one number, and the next number is new. -/
structure Distinct {α : Type} (known : Entry α → Prop) (next : Nat) : Prop where
  lt : ∀ l, known l → l.id < next
  eq_of_id : ∀ l l', known l → known l' → l.id = l'.id → l = l'

/-- Those who are known later under an earlier number were known earlier. -/
structure Recalls {α : Type} (known : Entry α → Prop) (next : Nat) (known' : Entry α → Prop)
    (next' : Nat) : Prop where
  le : next ≤ next'
  known : ∀ l, known' l → l.id < next → known l

section Issues

variable {α : Type} {known known' known'' : Entry α → Prop} {next next' next'' : Nat}

/-- A number that is given out is none of the earlier ones. -/
theorem Distinct.issues (hd : Distinct known next) (h : Issues known next known' next') :
    Distinct known' next' := by
  cases h with
  | keeps h =>
      exact ⟨fun l hl => hd.lt l (h l hl), fun l l' hl hl' => hd.eq_of_id l l' (h l hl) (h l' hl')⟩
  | adds a h =>
      refine ⟨fun l hl => ?_, fun l l' hl hl' hid => ?_⟩
      · rcases h l hl with hl | rfl
        · exact Nat.lt_succ_of_lt (hd.lt l hl)
        · exact Nat.lt_succ_self _
      · -- of two with one number either both are old, or both are the new one
        rcases h l hl with hl | rfl <;> rcases h l' hl' with hl' | rfl
        · exact hd.eq_of_id l l' hl hl' hid
        · exact absurd hid (Nat.ne_of_lt (hd.lt l hl))
        · exact absurd hid.symm (Nat.ne_of_lt (hd.lt l' hl'))
        · rfl

theorem Recalls.refl (known : Entry α → Prop) (next : Nat) : Recalls known next known next :=
  ⟨Nat.le_refl _, fun _ hl _ => hl⟩

/-- New numbers are not earlier ones, so nobody takes the place of anyone. -/
theorem Recalls.issues (hr : Recalls known next known' next')
    (h : Issues known' next' known'' next'') : Recalls known next known'' next'' := by
  cases h with
  | keeps h => exact ⟨hr.le, fun l hl hlt => hr.known l (h l hl) hlt⟩
  | adds a h =>
      refine ⟨Nat.le_succ_of_le hr.le, fun l hl hlt => ?_⟩
      rcases h l hl with hl | rfl
      · exact hr.known l hl hlt
      · exact absurd hlt (Nat.not_lt.mpr hr.le)

end Issues

/-- A handler that is registered, or that a delivery has yet to call. -/
def KnownHandler (w : World) (l : Entry Handler) : Prop :=
  (∃ s, l ∈ w.router.inScope s) ∨ ∃ n e rest k, .delivery n e rest k ∈ w.stack ∧ l ∈ rest

/-- A listener that is registered, or that a delivery of a change has yet to call. -/
def KnownListener (w : World) (l : Entry Listener) : Prop :=
  l ∈ w.board.listeners ∨ ∃ c rest, .announcement c rest ∈ w.stack ∧ l ∈ rest

/-- What a small change does to the registry: nothing, or one registration or withdrawal. -/
theorem step_router (h : SmallStep u act w w') : w'.router = w.router
    ∨ (∃ s a, w' = (w.addHandler s a).1) ∨ ∃ s id, w' = w.withdraw (.router s) id := by
  -- a change of the connection reaches the listeners, but not the registry
  have shifted : ∀ (x : World) t, x.router = w.router → (shift x t).router = w.router := by
    intro x t hx
    unfold shift
    split <;> exact hx
  cases h with
  | data h =>
      cases h with
      | counters h => exact .inl h.router
      | addHandler s a hy => exact .inr (.inl ⟨s, a, rfl⟩)
      | withdraw p id hy =>
          cases p with
          | router s => exact .inr (.inr ⟨s, id, rfl⟩)
          | board => exact .inl rfl
      | returned hs => refine .inl ?_; unfold World.complete; split <;> rfl
      | failed m hs => refine .inl ?_; unfold World.failCall; split <;> rfl
      | _ => exact .inl rfl
  | connect hy hw hr hm => exact .inl (shifted _ _ (stopSupervisor_router w _))
  | disconnect hy hw => exact .inl (shifted _ _ (stopSupervisor_router w _))
  | start hs => refine .inl ?_; unfold World.startSupervisor; dsimp only; split <;> rfl
  | resume hs => refine .inl ?_; unfold World.resume; split <;> rfl
  | retry hy hr hs hp hd ht => exact .inl (shifted _ _ rfl)
  | opened hy hr hs hp ht => exact .inl (shifted _ _ rfl)
  | failed hy hr hs hp ht hl => exact .inl (shifted _ _ rfl)
  | _ => exact .inl rfl

/-- What a small change does to the listeners: nothing, or one registration or withdrawal. -/
theorem step_listeners (h : SmallStep u act w w') :
    (w'.board.listeners = w.board.listeners ∧ w'.board.nextId = w.board.nextId)
      ∨ (∃ a, w' = (w.addListener a).1) ∨ ∃ id, w' = w.withdraw .board id := by
  have shifted : ∀ (x : World) t, x.board = w.board →
      (shift x t).board.listeners = w.board.listeners
        ∧ (shift x t).board.nextId = w.board.nextId := by
    intro x t hx
    rw [← hx]
    unfold shift
    split <;> exact ⟨rfl, rfl⟩
  cases h with
  | data h =>
      cases h with
      | counters h => exact .inl (by rw [h.board]; exact ⟨rfl, rfl⟩)
      | addListener a hy => exact .inr (.inl ⟨a, rfl⟩)
      | withdraw p id hy =>
          cases p with
          | router s => exact .inl ⟨rfl, rfl⟩
          | board => exact .inr (.inr ⟨id, rfl⟩)
      | returned hs => refine .inl ?_; unfold World.complete; split <;> exact ⟨rfl, rfl⟩
      | failed m hs => refine .inl ?_; unfold World.failCall; split <;> exact ⟨rfl, rfl⟩
      | _ => exact .inl ⟨rfl, rfl⟩
  | connect hy hw hr hm => exact .inl (shifted _ _ (stopSupervisor_board w _))
  | disconnect hy hw => exact .inl (shifted _ _ (stopSupervisor_board w _))
  | start hs =>
      refine .inl ?_
      unfold World.startSupervisor
      dsimp only
      split <;> exact ⟨rfl, rfl⟩
  | resume hs => refine .inl ?_; unfold World.resume; split <;> exact ⟨rfl, rfl⟩
  | retry hy hr hs hp hd ht => exact .inl (shifted _ _ rfl)
  | opened hy hr hs hp ht => exact .inl (shifted _ _ rfl)
  | failed hy hr hs hp ht hl => exact .inl (shifted _ _ rfl)
  | _ => exact .inl ⟨rfl, rfl⟩

/-- Whoever is to be called is registered somewhere. -/
theorem mem_audience {r : Registry Handler} {topic : String} {l : Entry Handler}
    (h : l ∈ r.audience topic) : ∃ s, l ∈ r.inScope s := by
  rcases List.mem_append.mp h with h | h
  · exact ⟨.topic topic, h⟩
  · exact ⟨.all, h⟩

/-- Whom a frame has yet to call is known already. -/
theorem step_delivering (h : SmallStep u act w w') {n k : Nat} {e : Envelope}
    {rest : List (Entry Handler)} (hf : .delivery n e rest k ∈ w'.stack) {l : Entry Handler}
    (hl : l ∈ rest) : KnownHandler w l := by
  cases step_leaves h hf with
  | stays hf => exact .inr ⟨n, e, rest, k, hf, hl⟩
  | begun => exact .inl (mem_audience hl)
  | delivers k' hf hsuffix => exact .inr ⟨_, _, _, _, hf, hsuffix.subset hl⟩

theorem step_announcing (h : SmallStep u act w w') {c : Change} {rest : List (Entry Listener)}
    (hf : .announcement c rest ∈ w'.stack) {l : Entry Listener} (hl : l ∈ rest) :
    KnownListener w l := by
  cases step_leaves h hf with
  | stays hf => exact .inr ⟨c, rest, hf, hl⟩
  | drains => exact absurd hl List.not_mem_nil
  | announced => exact .inl hl
  | announces hf hsuffix => exact .inr ⟨_, _, hf, hsuffix.subset hl⟩

@[simp] theorem register_nextId {α : Type} (r : Registry α) (s : Scope) (a : α) :
    (r.register s a).nextId = r.nextId + 1 := by
  cases s <;> rfl

@[simp] theorem withdraw_nextId {α : Type} (r : Registry α) (s : Scope) (id : Nat) :
    (r.withdraw s id).nextId = r.nextId := by
  unfold Registry.withdraw
  split
  · split <;> rfl
  · rfl

/-- A registration adds one entry at one place. -/
theorem mem_inScope_register {α : Type} {r : Registry α} {s s' : Scope} {a : α} {l : Entry α}
    (h : l ∈ (r.register s a).inScope s') : l ∈ r.inScope s' ∨ l = ⟨r.nextId, a⟩ := by
  by_cases hs : s = s'
  · subst hs
    rw [Registry.inScope_register] at h
    exact (List.mem_append.mp h).imp_right List.mem_singleton.mp
  · exact .inl (Registry.inScope_register_ne r hs a ▸ h)

theorem mem_inScope_withdraw {α : Type} {r : Registry α} {s s' : Scope} {id : Nat} {l : Entry α}
    (h : l ∈ (r.withdraw s id).inScope s') : l ∈ r.inScope s' := by
  by_cases hs : s = s'
  · subst hs
    rw [Registry.inScope_withdraw] at h
    exact List.mem_of_mem_filter h
  · exact Registry.inScope_withdraw_ne r hs id ▸ h

/-- **A small change gives out at most one number of a handler.** -/
theorem step_handlers (h : SmallStep u act w w') :
    Issues (KnownHandler w) w.router.nextId (KnownHandler w') w'.router.nextId := by
  have delivering : ∀ l, (∃ n e rest k, .delivery n e rest k ∈ w'.stack ∧ l ∈ rest) →
      KnownHandler w l := fun l ⟨n, e, rest, k, hf, hl⟩ => step_delivering h hf hl
  rcases step_router h with hr | ⟨s, a, rfl⟩ | ⟨s, id, rfl⟩
  · rw [hr]
    refine .keeps fun l hl => ?_
    rcases hl with ⟨s, hl⟩ | hl
    · exact .inl ⟨s, hr ▸ hl⟩
    · exact delivering l hl
  · have hnext : (w.addHandler s a).1.router.nextId = w.router.nextId + 1 := register_nextId _ s a
    rw [hnext]
    refine .adds a fun l hl => ?_
    rcases hl with ⟨s', hl⟩ | hl
    · exact (mem_inScope_register hl).imp_left fun hl => .inl ⟨s', hl⟩
    · exact .inl (delivering l hl)
  · have hnext : (w.withdraw (.router s) id).router.nextId = w.router.nextId :=
      withdraw_nextId _ s id
    rw [hnext]
    refine .keeps fun l hl => ?_
    rcases hl with ⟨s', hl⟩ | hl
    · exact .inl ⟨s', mem_inScope_withdraw hl⟩
    · exact delivering l hl

/-- **A small change gives out at most one number of a listener.** -/
theorem step_numbers (h : SmallStep u act w w') :
    Issues (KnownListener w) w.board.nextId (KnownListener w') w'.board.nextId := by
  have announcing : ∀ l, (∃ c rest, .announcement c rest ∈ w'.stack ∧ l ∈ rest) →
      KnownListener w l := fun l ⟨c, rest, hf, hl⟩ => step_announcing h hf hl
  rcases step_listeners h with ⟨hsame, hnext⟩ | ⟨a, rfl⟩ | ⟨id, rfl⟩
  · rw [hnext]
    refine .keeps fun l hl => ?_
    rcases hl with hl | hl
    · exact .inl (hsame ▸ hl)
    · exact announcing l hl
  · refine .adds a fun l hl => ?_
    rcases hl with hl | hl
    · exact (List.mem_append.mp hl).imp .inl List.mem_singleton.mp
    · exact .inl (announcing l hl)
  · refine .keeps fun l hl => ?_
    rcases hl with hl | hl
    · exact .inl (List.mem_of_mem_filter hl)
    · exact announcing l hl

section Runs

variable {parts : Parts} {setup : Setup} {hasRuntime : Bool} {stamps : Nat → Stamp}
  {before as : List Action}

/-- **In every run the numbers of handlers are distinct**, those of handlers that are withdrawn
while a delivery has still to call them included. -/
theorem distinct_handlers
    (h : (World.initial parts setup hasRuntime stamps).actAll before = some w) :
    Distinct (KnownHandler w) w.router.nextId := by
  refine runs_keep (P := fun v => Distinct (KnownHandler v) v.router.nextId)
    (fun hv hd => hv.issues (step_handlers hd)) ?_ (actAll_runs h)
  have hnone : ∀ l, ¬ KnownHandler (World.initial parts setup hasRuntime stamps) l := by
    rintro l (⟨s, hl⟩ | ⟨n, e, rest, k, hf, -⟩)
    · cases s <;> exact absurd hl List.not_mem_nil
    · exact absurd hf List.not_mem_nil
  exact ⟨fun l hl => absurd hl (hnone l), fun l l' hl => absurd hl (hnone l)⟩

theorem distinct_listeners
    (h : (World.initial parts setup hasRuntime stamps).actAll before = some w) :
    Distinct (KnownListener w) w.board.nextId := by
  refine runs_keep (P := fun v => Distinct (KnownListener v) v.board.nextId)
    (fun hv hd => hv.issues (step_numbers hd)) ?_ (actAll_runs h)
  have hnone : ∀ l, ¬ KnownListener (World.initial parts setup hasRuntime stamps) l := by
    rintro l (hl | ⟨c, rest, hf, -⟩)
    · exact absurd hl List.not_mem_nil
    · exact absurd hf List.not_mem_nil
  exact ⟨fun l hl => absurd hl (hnone l), fun l l' hl => absurd hl (hnone l)⟩

/-- **Whoever is called under a number later is who has it now.** -/
theorem handler_since (h : (World.initial parts setup hasRuntime stamps).actAll before = some w)
    (has : w.actAll as = some w') {l l' : Entry Handler} (hl : KnownHandler w l)
    (hl' : KnownHandler w' l') (hid : l'.id = l.id) : l' = l := by
  have hd := distinct_handlers h
  have hrecalls : Recalls (KnownHandler w) w.router.nextId (KnownHandler w') w'.router.nextId :=
    runs_keep (P := fun v => Recalls (KnownHandler w) w.router.nextId (KnownHandler v)
      v.router.nextId) (fun hv hstep => hv.issues (step_handlers hstep)) (.refl _ _)
      (actAll_runs has)
  -- a later bearer of an old number was known before, and then the numbers were distinct
  exact hd.eq_of_id l' l (hrecalls.known l' hl' (hid ▸ hd.lt l hl)) hl hid

theorem listener_since (h : (World.initial parts setup hasRuntime stamps).actAll before = some w)
    (has : w.actAll as = some w') {l l' : Entry Listener} (hl : KnownListener w l)
    (hl' : KnownListener w' l') (hid : l'.id = l.id) : l' = l := by
  have hd := distinct_listeners h
  have hrecalls : Recalls (KnownListener w) w.board.nextId (KnownListener w') w'.board.nextId :=
    runs_keep (P := fun v => Recalls (KnownListener w) w.board.nextId (KnownListener v)
      v.board.nextId) (fun hv hstep => hv.issues (step_numbers hstep)) (.refl _ _)
      (actAll_runs has)
  exact hd.eq_of_id l' l (hrecalls.known l' hl' (hid ▸ hd.lt l hl)) hl hid

end Runs

/-! ## Marks of calls -/

/-- Whether an event is the mark that a call leaves. -/
def isCall : Event → Bool
  | .called .. | .heard .. => true
  | _ => false

/-- What an event of an action stands for: the mark of a call is that of the call which the action
makes. -/
inductive Marks (u : World) (act : Action) : Event → Prop where
  | called {n k : Nat} {e : Envelope} {l : Entry Handler} {rest : List (Entry Handler)}
      {tail : List Frame} (hs : u.stack = .delivery n e (l :: rest) k :: tail) (ha : act = .go) :
      Marks u act (.called n l.id)
  | heard {c : Change} {l : Entry Listener} {rest : List (Entry Listener)} {tail : List Frame}
      (hs : u.stack = .announcement c (l :: rest) :: tail) (ha : act = .go) :
      Marks u act (.heard c l.id)
  | other {e : Event} (he : isCall e = false) : Marks u act e

/-- A change that adds to the history only what its action may add. -/
def Adds (u : World) (act : Action) (w w' : World) : Prop :=
  ∃ new, w'.history = new ++ w.history ∧ ∀ e ∈ new, Marks u act e

namespace Adds

theorem same (h : w'.history = w.history) : Adds u act w w' :=
  ⟨[], h, fun _ he => absurd he List.not_mem_nil⟩

theorem one {e : Event} (h : w'.history = e :: w.history) (he : Marks u act e) :
    Adds u act w w' :=
  ⟨[e], h, fun _ he' => List.mem_singleton.mp he' ▸ he⟩

theorem trans {v : World} (h : Adds u act w v) (h' : Adds u act v w') : Adds u act w w' := by
  obtain ⟨new, hnew, hmarks⟩ := h
  obtain ⟨more, hmore, hmarks'⟩ := h'
  refine ⟨more ++ new, by rw [hmore, hnew, List.append_assoc], fun e he => ?_⟩
  rcases List.mem_append.mp he with he | he
  · exact hmarks' e he
  · exact hmarks e he

end Adds

theorem isCall_of_isReport {e : Event} (he : isReport e = true) : isCall e = false := by
  cases e with
  | called n id => exact absurd he (by simp [isReport])
  | heard c id => exact absurd he (by simp [isReport])
  | _ => rfl

/-- Of the data steps only the calls of handlers leave such a mark. -/
theorem data_adds (h : DataStep u act w w') : Adds u act w w' := by
  cases h with
  | counters h => exact .same h.history
  | report e he => exact .one rfl (.other (isCall_of_isReport he))
  | addHandler s a hy => exact .one rfl (.other rfl)
  | addListener a hy => exact .one rfl (.other rfl)
  | withdraw p id hy =>
      have hwithdrawn : (w.withdraw p id).history = .unsubscribed p id :: w.history := by
        cases p <;> rfl
      exact .one hwithdrawn (.other rfl)
  | enqueue e hs => exact .one rfl (.other rfl)
  | returned hs => refine .same ?_; unfold World.complete; split <;> rfl
  | @failed o cs a tail m hs =>
      have hwarned : ∀ topic message,
          Adds u act w ({ w with stack := tail }.happen (.warned .error topic message)) :=
        fun _ _ => .one rfl (.other rfl)
      unfold World.failCall
      split
      · exact (hwarned _ _).trans (.one rfl (.other rfl))
      · exact hwarned _ _
  | dispatch e hw hy => exact .one rfl (.other rfl)
  | called o cs hs hu =>
      obtain ⟨ha, rfl⟩ := hu
      exact .one rfl (.called hs ha)
  | calledOnce hs hu =>
      obtain ⟨ha, rfl⟩ := hu
      exact .one rfl (.called hs ha)
  | ended hs hu => exact .one rfl (.other rfl)
  | _ => exact .same rfl

theorem offer_adds (w : World) (c : Change) : Adds u act w (offer w c) := .one rfl (.other rfl)

theorem shift_adds (w : World) (t : Link × Option Change) : Adds u act w (shift w t) := by
  unfold shift
  split
  · rename_i c hc
    have hchanged : Adds u act w ({ w with link := t.1 }.happen (.changed c)) :=
      .one rfl (.other rfl)
    exact hchanged.trans (offer_adds _ c)
  · exact .same rfl

/-- **Only a call leaves the mark of a call.** -/
theorem step_adds (h : SmallStep u act w w') : Adds u act w w' := by
  cases h with
  | data h => exact data_adds h
  | announce c hw hb => exact offer_adds w c
  | heardOnce hs hu =>
      obtain ⟨ha, rfl⟩ := hu
      exact .one rfl (.heard hs ha)
  | heard o cs hs hu =>
      obtain ⟨ha, rfl⟩ := hu
      exact .one rfl (.heard hs ha)
  | skipped hs hp hd hu => exact .one rfl (.other rfl)
  | announced hs hp hd hu => exact .one rfl (.other rfl)
  | connect hy hw hr hm =>
      exact (Adds.same (stopSupervisor_history w w.link.supervisor)).trans
        ((Adds.same rfl).trans (shift_adds _ _))
  | disconnect hy hw =>
      exact (Adds.same (stopSupervisor_history w w.link.idleSupervisor)).trans (shift_adds _ _)
  | @start g previous tail hs hu =>
      refine .same ?_
      unfold World.startSupervisor
      dsimp only
      split
      · rfl
      · exact stopSupervisor_history _ _
  | @resume id next tail hs hu =>
      -- to dial is noted down, but not as a call
      unfold World.resume
      split
      · exact .same rfl
      · exact .same rfl
      · exact .one rfl (.other rfl)
      · exact .same rfl
  | dial hr hs hp ha => exact .one rfl (.other rfl)
  | @giveUp id p d s hr hs hp hf hd ha =>
      exact (Adds.same (stopSupervisor_history w (some p))).trans (.one rfl (.other rfl))
  | retry hy hr hs hp hd ht => exact (Adds.same rfl).trans (shift_adds _ _)
  | leave hr hs hg hl => exact .one rfl (.other rfl)
  | halt hr hs hp => exact .one rfl (.other rfl)
  | @opened id s url t hy hr hs hp ht ha =>
      exact (Adds.one (e := .opened id w.sockets.length) rfl (.other rfl)).trans (shift_adds _ _)
  | @failed id s t sockets hy hr hs hp ht hl =>
      exact (Adds.one (e := .failed t.1.attempts (w.setup.backoff.delay w.link.attempts)) rfl
        (.other rfl)).trans (shift_adds _ _)
  | dropped hr hp => exact .one rfl (.other rfl)
  | wrote hr hs hp hq => exact .one rfl (.other rfl)
  | wroteClose hr hs hp hq ho => exact .one rfl (.other rfl)
  | read i hr hs hp => exact .one rfl (.other rfl)
  | _ => exact .same rfl

/-- **What an action adds to the history.** -/
theorem act_marks {a : Action} (h : w.act a = some w') : Adds w a w w' := by
  have hsteps := act_steps h
  clear h
  -- an action is a few small changes, of which each adds its own events
  induction hsteps with
  | refl => exact .same rfl
  | tail _ hd ih => exact ih.trans (step_adds hd)

/-! ## Notes of calls -/

/-- The note in an event, if it stands directly behind an event of a kind. -/
def noteAfter (p : Event → Bool) : Event → Option Event → List Note
  | .noted n, some e => if p e then [n] else []
  | _, _ => []

/-- The notes that stand directly behind events of a kind, in the order in which they were made. -/
def notesBehind (p : Event → Bool) : List Event → List Note
  | [] => []
  | e :: earlier => notesBehind p earlier ++ noteAfter p e earlier.head?

/-- A call of the handler with a number. -/
def calledHandler (x : Nat) : Event → Bool
  | .called _ id => id = x
  | _ => false

/-- A call of the listener with a number. -/
def calledListener (x : Nat) : Event → Bool
  | .heard _ id => id = x
  | _ => false

section Notes

variable {p : Event → Bool} {later earlier : List Event}

theorem noteAfter_of_not {e : Event} {before : Option Event} (h : ∀ d ∈ before, p d = false) :
    noteAfter p e before = [] := by
  cases e with
  | noted n =>
      cases before with
      | none => rfl
      | some d => simp [noteAfter, h d rfl]
  | _ => rfl

/-- Where nobody is called no note counts. -/
theorem notesBehind_of_none (h : ∀ e ∈ later, p e = false) : notesBehind p later = [] := by
  induction later with
  | nil => rfl
  | cons e rest ih =>
      rw [notesBehind, ih fun d hd => h d (List.mem_cons_of_mem _ hd),
        noteAfter_of_not fun d hd => h d (List.mem_cons_of_mem _ (List.mem_of_head? hd))]
      rfl

/-- What follows a history that does not break off behind such an event has its own notes. -/
theorem notesBehind_append (h : ∀ e ∈ earlier.head?, p e = false) :
    notesBehind p (later ++ earlier) = notesBehind p earlier ++ notesBehind p later := by
  induction later with
  | nil => simp [notesBehind]
  | cons e rest ih =>
      rw [List.cons_append, notesBehind, notesBehind, ih, List.append_assoc]
      congr 2
      -- only the first note of the later part looks back at the earlier part
      cases rest with
      | nil => rw [List.nil_append, noteAfter_of_not h, List.head?_nil, noteAfter_of_not]; simp
      | cons d rest => rfl

end Notes

end LiveLink.Proofs
