import LiveLink.Proofs.Coherence
import LiveLink.Proofs.Histories

/-!
# Attempts

An attempt begins when a supervisor asks for a socket. Three things can lead to it: a
supervisor that has just been started, one that has waited for the session before it, and one
whose wait between two attempts is over. The last one tells the listeners first, and only then
asks. Nothing else that the client does is an attempt (`act_tries`): it leaves the attempts as they
are, and the stored token too unless it is the command to store one.
-/

namespace LiveLink.Proofs

open LiveLink

/-- A request for a socket: by which supervisor, for which generation and to which URL. -/
structure Attempt where
  supervisor : Nat
  generation : Nat
  url : Url

def dialled? : Event → Option Attempt
  | .dialled id g url => some ⟨id, g, url⟩
  | _ => none

/-- The attempts so far, in order. -/
def attempts (w : World) : List Attempt := inOrder dialled? w.history

/-- The attempt of a supervisor that has not been answered yet. -/
def underway (w : World) (id : Nat) : Option Attempt :=
  (w.supervisors[id]?).bind fun s =>
    match s.phase with
    | .opening url => some ⟨id, s.generation, url⟩
    | _ => none

variable {w w' x : World} {id : Nat} {s : Supervisor}

/-- Only the event of an attempt adds one. -/
@[simp] theorem attempts_happen (w : World) (e : Event) :
    attempts (w.happen e) = attempts w ++ (dialled? e).toList := inOrder_cons dialled? e w.history

/-- Whether an attempt is under way can be read off the supervisors. -/
theorem underway_of_supervisors (h : w'.supervisors = w.supervisors) (id : Nat) :
    underway w' id = underway w id := by
  rw [underway, h, underway]

/-- A supervisor that comes to rest in another phase has no attempt under way. -/
theorem underway_rest (w : World) (id : Nat) {ph : Phase} (hph : ∀ url, ph ≠ .opening url)
    (j : Nat) : underway (w.rest id ph) j = if id = j then none else underway w j := by
  have hsup : (w.rest id ph).supervisors = w.supervisors.modify id ({ · with phase := ph }) := rfl
  rw [underway, hsup, List.getElem?_modify]
  by_cases hj : id = j
  · rw [if_pos hj]
    cases w.supervisors[j]? with
    | none => rfl
    | some s =>
        cases ph with
        | opening url => exact absurd rfl (hph url)
        | _ => simp [hj]
  · rw [if_neg hj, underway]
    simp [hj]

/-- To be told to stop does not end an attempt; the next step of the supervisor does. -/
theorem underway_stopSupervisor (w : World) (o : Option Nat) (j : Nat) :
    underway (w.stopSupervisor o) j = underway w j := by
  cases o with
  | none => rfl
  | some id =>
      have hsup : (w.stopSupervisor (some id)).supervisors
          = w.supervisors.modify id ({ · with stopped := true }) := rfl
      rw [underway, hsup, List.getElem?_modify, underway]
      cases w.supervisors[j]? with
      | none => rfl
      | some s => by_cases hj : id = j <;> simp [hj]

/-! ## What makes no attempt -/

/-- A change that makes no attempt and stores no token; an attempt under way at most comes to its
end. -/
structure Still (w w' : World) : Prop where
  attempts : attempts w' = attempts w
  token : w'.link.token = w.link.token
  underway : ∀ id t, underway w' id = some t → underway w id = some t

namespace Still

theorem refl (w : World) : Still w w := ⟨rfl, rfl, fun _ _ h => h⟩

/-- An attempt that is over is not taken up again. -/
theorem trans {u v : World} (h : Still u v) (h' : Still v w) : Still u w where
  attempts := h'.attempts.trans h.attempts
  token := h'.token.trans h.token
  underway id t ht := h.underway id t (h'.underway id t ht)

/-- What happens is no attempt, and neither the token nor a supervisor changes. -/
theorem event {e : Event} (he : dialled? e = none) (hh : w'.history = e :: w.history)
    (ht : w'.link.token = w.link.token) (hs : w'.supervisors = w.supervisors) : Still w w' where
  attempts := by rw [Proofs.attempts, hh, inOrder_of_none he, Proofs.attempts]
  token := ht
  underway id t h := by rwa [underway_of_supervisors hs] at h

theorem happen {e : Event} (he : dialled? e = none) (w : World) : Still w (w.happen e) :=
  event he rfl rfl rfl

theorem report {e : Event} (he : isReport e = true) (w : World) : Still w (w.happen e) := by
  cases e with
  | noted n => exact happen rfl w
  | warned level topic message => exact happen rfl w
  | _ => exact absurd he (by simp [isReport])

theorem warn (w : World) (topic : Option String) (message : String) :
    Still w (w.warn topic message) := happen rfl w

/-- Nothing happens. -/
theorem silent (hh : w'.history = w.history) (ht : w'.link.token = w.link.token)
    (hs : w'.supervisors = w.supervisors) : Still w w' where
  attempts := by rw [Proofs.attempts, hh, Proofs.attempts]
  token := ht
  underway id t h := by rwa [underway_of_supervisors hs] at h

/-- A supervisor comes to rest without a request. -/
theorem rest (w : World) (id : Nat) {ph : Phase} (hph : ∀ url, ph ≠ .opening url) :
    Still w (w.rest id ph) where
  attempts := rfl
  token := rfl
  underway j t h := by
    rw [underway_rest w id hph] at h
    split at h
    · exact absurd h (by simp)
    · exact h

theorem stopSupervisor (w : World) (o : Option Nat) : Still w (w.stopSupervisor o) where
  attempts := by cases o <;> rfl
  token := by cases o <;> rfl
  underway j t h := by rwa [underway_stopSupervisor] at h

end Still

/-- An action that may make an attempt, or that stores a token. -/
inductive Trying (u : World) (act : Action) : Prop where
  | stores {t : Option String} (hc : cause u act = .asked (.setToken t))
  | wakes {id : Nat} (ha : act = .wake id)
  | goesOn {id : Nat} {tail : List Frame} (ha : act = .go)
      (hs : u.stack = .supervisor id .dial :: tail)

variable {u : World} {act : Action}

/-- The connection may change otherwise, as long as the token stays. -/
theorem shift_still {t : Link × Option Change} (ht : t.1.token = w.link.token) :
    Still w (shift w t) := by
  have hlink : Still w { w with link := t.1 } := .silent rfl ht rfl
  unfold shift
  split
  · rename_i c hc
    refine (hlink.trans (.happen (e := .changed c) rfl _)).trans ?_
    exact .event (e := .posted c) rfl rfl rfl rfl
  · exact hlink

theorem startSupervisor_still (w : World) (g : Nat) (previous : Option Nat) :
    Still w (w.startSupervisor g previous) := by
  have hfresh : Still w { w with
      supervisors := w.supervisors ++ [Supervisor.mk g (.fresh previous) false] } := by
    refine ⟨rfl, rfl, fun id t h => ?_⟩
    -- the new one comes last and has asked for nothing; the others keep their places
    rcases Nat.lt_trichotomy id w.supervisors.length with hlt | rfl | hgt
    · rwa [underway, List.getElem?_append_left hlt] at h
    · rw [underway, List.getElem?_concat_length] at h
      exact absurd h (by simp)
    · rw [underway, List.getElem?_eq_none (by simp; omega)] at h
      exact absurd h (by simp)
  unfold World.startSupervisor Link.adopt
  dsimp only
  split
  · rename_i hlink
    split at hlink
    · obtain rfl := Option.some.inj hlink
      exact hfresh.trans (.silent rfl rfl rfl)
    · exact absurd hlink (by simp)
  · exact hfresh.trans (.stopSupervisor _ _)

theorem finish_still (w : World) (id : Nat) : Still w (w.finish id) :=
  (Still.rest w id fun _ => Phase.noConfusion).trans (.happen rfl _)

/-- **A data step makes no attempt**, and stores no token unless that is the command. -/
theorem data_still (h : DataStep u act w w') (hn : ¬ Trying u act) : Still w w' := by
  cases h with
  | counters h => exact .silent h.history (by rw [h.link]) h.supervisors
  | report e he => exact .report he w
  | token t hy => exact absurd (.stores hy) hn
  | addHandler sc a hy => exact .event (e := .subscribed _ _) rfl rfl rfl rfl
  | addListener a hy => exact .event (e := .subscribed _ _) rfl rfl rfl rfl
  | withdraw p id hy => cases p <;> exact .event (e := .unsubscribed _ _) rfl rfl rfl rfl
  | enqueue e hs => exact .event (e := .queued _ _) rfl rfl rfl rfl
  | @returned o a tail hs hu =>
      have hpopped : Still w { w with stack := tail } := .silent rfl rfl rfl
      unfold World.complete
      split
      · exact hpopped.trans (.silent rfl rfl rfl)
      · exact hpopped
  | @failed o cs a tail m hs =>
      have hpopped : Still w { w with stack := tail } := .silent rfl rfl rfl
      refine hpopped.trans ?_
      unfold World.failCall
      split
      · exact (Still.happen (e := .warned _ _ _) rfl _).trans (.happen rfl _)
      · exact .happen rfl _
  | dispatch e hw hy => exact .event (e := .began _ _ _) rfl rfl rfl rfl
  | called o cs hs hu => exact .event (e := .called _ _) rfl rfl rfl rfl
  | calledOnce hs hu => exact .event (e := .called _ _) rfl rfl rfl rfl
  | ended hs hu => exact .event (e := .ended _ _) rfl rfl rfl rfl
  | _ => exact .silent rfl rfl rfl

/-- **No other action makes an attempt.** -/
theorem step_still (h : SmallStep u act w w') (hn : ¬ Trying u act) : Still w w' := by
  cases h with
  | data h => exact data_still h hn
  | announce c hw hb => exact .event (e := .posted c) rfl rfl rfl rfl
  | heardOnce hs hu => exact .event (e := .heard _ _) rfl rfl rfl rfl
  | heard o cs hs hu => exact .event (e := .heard _ _) rfl rfl rfl rfl
  | skipped hs hp hd hu => exact .event (e := .skipped _) rfl rfl rfl rfl
  | announced hs hp hd hu => exact .event (e := .announced _ _) rfl rfl rfl rfl
  | connect hy hw hr hm =>
      have hpushed : Still w ((w.stopSupervisor w.link.supervisor).push
          (.connecting w.link.startConnecting.1.generation w.link.closing)) :=
        (Still.stopSupervisor w _).trans (.silent rfl rfl rfl)
      exact hpushed.trans (shift_still ((Link.setStatus_token ..).trans hpushed.token.symm))
  | disconnect hy hw =>
      have hstopped := Still.stopSupervisor w w.link.idleSupervisor
      exact hstopped.trans (shift_still ((Link.setStatus_token ..).trans hstopped.token.symm))
  | @start g previous tail hs hu =>
      have hpopped : Still w { w with stack := tail } := .silent rfl rfl rfl
      exact hpopped.trans (startSupervisor_still _ g previous)
  | @resume id next tail hs hu =>
      -- to go on with a session or a wait is no attempt, and to dial is excluded
      obtain ⟨ha, rfl⟩ := hu
      have hpopped : Still w { w with stack := tail } := .silent rfl rfl rfl
      refine hpopped.trans ?_
      unfold World.resume
      split
      · exact .rest _ id fun _ => Phase.noConfusion
      · exact .rest _ id fun _ => Phase.noConfusion
      · exact absurd (.goesOn ha hs) hn
      · exact .refl _
  | dial hr hs hp ha => exact absurd (.wakes ha) hn
  | wait hr hs hp hf ha => exact .rest w _ fun _ => Phase.noConfusion
  | giveUp hr hs hp hf hd ha => exact absurd (.wakes ha) hn
  | retry hy hr hs hp hd ht =>
      obtain ⟨-, rfl⟩ := Link.retry_eq_some ht
      refine Still.trans ?_ (shift_still (Link.setStatus_token ..))
      exact .silent rfl rfl rfl
  | @leave id s sockets hr hs hg hl =>
      have hleft : Still w { w with sockets := sockets } := .silent rfl rfl rfl
      exact hleft.trans (finish_still _ id)
  | halt hr hs hp => exact finish_still w _
  | @opened id s url t hy hr hs hp ht ha =>
      obtain ⟨-, rfl⟩ := Link.startSession_eq_some ht
      have hgrown : Still w { w with sockets := w.sockets ++ [Socket.mk []] } :=
        .silent rfl rfl rfl
      have hopened : Still w (({ w with sockets := w.sockets ++ [Socket.mk []] }.rest id
          (.inSession w.sockets.length)).happen (.opened id w.sockets.length)) :=
        (hgrown.trans (.rest _ id fun _ => Phase.noConfusion)).trans (.happen rfl _)
      refine hopened.trans (Still.trans ?_ (shift_still (Link.setStatus_token ..)))
      exact .silent rfl rfl rfl
  | failed hy hr hs hp ht hl =>
      obtain ⟨-, rfl⟩ := Link.fail_eq_some ht
      refine Still.trans ?_ (shift_still (Link.setStatus_token ..))
      exact .event (e := .failed _ _) rfl rfl rfl rfl
  | dropped hr hp => exact .happen rfl w
  | wrote hr hs hp hq => exact .event (e := .wrote _ _) rfl rfl rfl rfl
  | wroteClose hr hs hp hq ho =>
      exact (Still.rest w _ fun _ => Phase.noConfusion).trans (.happen rfl _)
  | read i hr hs hp => exact .happen rfl w
  | _ => exact .silent rfl rfl rfl

/-- So nothing but an action that tries makes an attempt. -/
theorem steps_still (h : SmallSteps u act w w') (hn : ¬ Trying u act) : Still w w' := by
  induction h with
  | refl => exact .refl w
  | tail _ hd ih => exact ih.trans (step_still hd hn)

/-- What may be done whatever the action is makes no attempt. -/
theorem still_of_any (h : ∀ u act, SmallSteps u act w w') : Still w w' := by
  refine steps_still (h w (.pass 0)) ?_
  rintro (hc | ha | ⟨ha, -⟩)
  · exact Cause.noConfusion hc
  · exact Action.noConfusion ha
  · exact Action.noConfusion ha

theorem answer_still (w : World) (r : Reply) : Still w (w.answer r) :=
  still_of_any fun _ _ => answer_steps w r

theorem turn_still {t : Link × Option Change} (ht : t.1.token = w.link.token) :
    Still w (w.turn t) :=
  (shift_still ht).trans (still_of_any fun _ _ => shift_turn w t)

/-! ## What makes one -/

/-- A supervisor makes an attempt: it asks for a socket, to the URL of the client with the token of
that moment, and waits for the answer. Either it is not stopped and has not asked before, or it was
telling the listeners that it would ask again. -/
structure Asks (w : World) (id : Nat) (s : Supervisor) (w' : World) : Prop where
  supervisor : w.supervisors[id]? = some s
  attempt : attempts w' = attempts w ++ [⟨id, s.generation, w.endpoint⟩]
  link : w'.link = w.link
  underway : ∀ j, underway w' j =
    if id = j then some ⟨id, s.generation, w.endpoint⟩ else underway w j
  due : (w.stack = [] ∧ s.stopped = false ∧ restStage s.phase = .starting)
    ∨ (id, .dial) ∈ resuming w

/-- What an action comes to: it makes no attempt and stores no token, or it is the command to store
one, or it makes an attempt. -/
inductive Tries (w : World) (a : Action) (w' : World) : Prop where
  | still (h : Still w w')
  | stores {t : Option String} (hc : cause w a = .asked (.setToken t))
      (hp : w.parts.client = true) (h : Still { w with link := { w.link with token := t } } w')
  | asks {id : Nat} {s : Supervisor} (h : Asks w id s w')

/-- After an attempt has begun it is under way, and those of others are as before. -/
theorem underway_dial (hg : (x.supervisors[id]?).map Supervisor.generation = some s.generation)
    (j : Nat) : underway (x.dial id s) j =
      if id = j then some ⟨id, s.generation, x.endpoint⟩ else underway x j := by
  obtain ⟨s', hs', hgen⟩ := Option.map_eq_some_iff.mp hg
  have hsup : (x.dial id s).supervisors
      = x.supervisors.modify id ({ · with phase := .opening x.endpoint }) := rfl
  rw [underway, hsup, List.getElem?_modify]
  by_cases hj : id = j
  · subst hj
    simp [hs', hgen]
  · rw [if_neg hj, underway]
    simp [hj]

/-- A supervisor dials in a world in which at most warnings have been added and a supervisor has
been stopped. -/
theorem dial_asks (hs : w.supervisors[id]? = some s) (hattempts : attempts x = attempts w)
    (hlink : x.link = w.link) (hsetup : x.setup = w.setup)
    (hunder : ∀ j, underway x j = underway w j)
    (hg : (x.supervisors[id]?).map Supervisor.generation = some s.generation)
    (hdue : (w.stack = [] ∧ s.stopped = false ∧ restStage s.phase = .starting)
      ∨ (id, .dial) ∈ resuming w) : Asks w id s (x.dial id s) := by
  have hurl : x.endpoint = w.endpoint := by rw [World.endpoint, hlink, hsetup, World.endpoint]
  refine ⟨hs, ?_, hlink, fun j => ?_, hdue⟩
  · rw [World.dial, attempts_happen, dialled?, hurl, ← hattempts]
    rfl
  · rw [underway_dial hg, hurl, hunder]

/-- The command to store a token stores it. -/
theorem setToken_still {a : Action} {t : Option String} (hc : cause w a = .asked (.setToken t))
    (hp : w.parts.client = true) (h : w.act a = some w') :
    Still { w with link := { w.link with token := t } } w' := by
  obtain ⟨r, stack, rfl, -⟩ := act_asked hc h
  rw [World.perform, World.requiring, if_pos hp]
  refine Still.trans ?_ (answer_still _ _)
  exact .silent rfl rfl rfl

/-- Where there is no client, nothing stores it. -/
theorem setToken_missing {a : Action} {t : Option String} (hc : cause w a = .asked (.setToken t))
    (hp : w.parts.client ≠ true) (h : w.act a = some w') : Still w w' := by
  obtain ⟨r, stack, rfl, -⟩ := act_asked hc h
  rw [World.perform, World.requiring, if_neg hp]
  refine Still.trans ?_ (answer_still _ _)
  exact .silent rfl rfl rfl

/-- A supervisor goes on after it has told the listeners that it will ask again. -/
theorem dial_tries {tail : List Frame} (hs : w.stack = .supervisor id .dial :: tail)
    (h : w.act .go = some w') : Tries w .go w' := by
  simp only [World.act, World.go, hs, World.resume] at h
  cases hid : w.supervisors[id]? with
  | some s =>
      have hg : (w.supervisors[id]?).map Supervisor.generation = some s.generation :=
        congrArg _ hid
      simp only [hid] at h
      obtain rfl := Option.some.inj h
      exact .asks (dial_asks hid rfl rfl rfl (fun _ => rfl) hg (.inr (by simp [resuming, hs])))
  | none =>
      simp only [hid] at h
      obtain rfl := Option.some.inj h
      exact .still (.silent rfl rfl rfl)

/-- A supervisor that goes on asks for a socket, waits, retries or ends; only the first is an
attempt. -/
theorem wake_tries {a : Action} (hr : AtRest w id s) (hs : s.stopped = false)
    (h : w.wake id s = some w') : Tries w a w' := by
  have hg : (w.supervisors[id]?).map Supervisor.generation = some s.generation :=
    congrArg _ hr.supervisor
  have due : restStage s.phase = .starting →
      (w.stack = [] ∧ s.stopped = false ∧ restStage s.phase = .starting)
        ∨ (id, .dial) ∈ resuming w := fun hp => .inl ⟨hr.stack, hs, hp⟩
  have dials : restStage s.phase = .starting → Tries w a (w.dial id s) := fun hp =>
    .asks (dial_asks hr.supervisor rfl rfl rfl (fun _ => rfl) hg (due hp))
  unfold World.wake at h
  split at h
  · rename_i hp
    obtain rfl := Option.some.inj h
    exact dials (by rw [hp]; rfl)
  · rename_i p hp
    split at h <;> obtain rfl := Option.some.inj h
    · exact dials (by rw [hp]; rfl)
    · exact .still (.rest w id fun _ => Phase.noConfusion)
  · rename_i p d hp
    split at h
    · obtain rfl := Option.some.inj h
      exact dials (by rw [hp]; rfl)
    · split at h
      · obtain rfl := Option.some.inj h
        -- the grace is over: the supervisor before is warned of and stopped, which is no attempt
        have hgiven : Still w ((w.warn none "previous session did not close in time").stopSupervisor
            (some p)) := (Still.warn w _ _).trans (.stopSupervisor _ _)
        refine .asks (dial_asks hr.supervisor hgiven.attempts rfl rfl (fun j => ?_) ?_
          (due (by rw [hp]; rfl)))
        · exact underway_stopSupervisor _ _ j
        · have hsame : ((w.warn none "previous session did not close in time").stopSupervisor
              (some p)).supervisors.map Supervisor.generation
              = w.supervisors.map Supervisor.generation := map_modify _ _ fun _ => rfl
          rw [← List.getElem?_map, hsame, List.getElem?_map]
          exact hg
      · exact absurd h (by simp)
  · split at h
    · split at h <;> obtain rfl := Option.some.inj h
      · exact .still (finish_still w id)
      · rename_i t ht
        obtain ⟨-, rfl⟩ := Link.retry_eq_some ht
        refine .still (Still.trans ?_ (turn_still (Link.setStatus_token ..)))
        exact .silent rfl rfl rfl
    · exact absurd h (by simp)
  · exact absurd h (by simp)

/-- **An action makes at most one attempt.** -/
theorem act_tries {a : Action} (h : w.act a = some w') : Tries w a w' := by
  by_cases htrying : Trying w a
  · cases htrying with
    | stores hc =>
        by_cases hp : w.parts.client = true
        · exact .stores hc hp (setToken_still hc hp h)
        · exact .still (setToken_missing hc hp h)
    | wakes ha =>
        subst ha
        obtain ⟨s, hr, hs, hwake⟩ := atRest_of_supervisorStep h
        exact wake_tries hr hs hwake
    | goesOn ha hs =>
        subst ha
        exact dial_tries hs h
  · exact .still (steps_still (act_steps h) htrying)

/-- Unless it makes none, it is a supervisor that asks. -/
theorem act_attempts {a : Action} (h : w.act a = some w') :
    attempts w' = attempts w ∨ ∃ id s, Asks w id s w' := by
  cases act_tries h with
  | still hstill => exact .inl hstill.attempts
  | stores hc hp hstill => exact .inl hstill.attempts
  | asks hasks => exact .inr ⟨_, _, hasks⟩

/-- Whatever attempt an action adds is that of the supervisor that asks. -/
theorem asks_of_new {a : Action} {new : List Attempt} {t : Attempt} (h : w.act a = some w')
    (hnew : attempts w' = attempts w ++ new) (ht : t ∈ new) :
    ∃ id s, Asks w id s w' ∧ t = ⟨id, s.generation, w.endpoint⟩ := by
  rcases act_attempts h with hsame | ⟨id, s, hasks⟩
  · rw [hsame] at hnew
    -- nothing was added, so there is no such attempt
    rw [List.self_eq_append_right.mp hnew] at ht
    exact absurd ht List.not_mem_nil
  · rw [hasks.attempt] at hnew
    obtain rfl := List.append_cancel_left hnew
    exact ⟨id, s, hasks, List.mem_singleton.mp ht⟩

end LiveLink.Proofs
