import LiveLink.Proofs.Attempts
import LiveLink.Proofs.Schedule

/-!
# Endpoints

The URL of an attempt is read at the moment at which the supervisor asks: after it has waited for
the session before it, after the wait between two attempts, and after the listeners have been
told. It is the URL of the client with the token that was stored last (`act_token` says which
that is). From then on the URL stands: nobody who waits for an answer waits for that of any other
attempt than the latest of its own.
-/

namespace LiveLink.Proofs

open LiveLink

variable {w w' : World} {id : Nat}

/-- The tokens that an action stores: at most one. -/
def tokens (w : World) (a : Action) : List (Option String) :=
  match cause w a with
  | .asked (.setToken t) => if w.parts.client then [t] else []
  | _ => []

/-- **What is stored after an action**: the token of the command, if it is one to store a token. -/
theorem act_token {a : Action} (h : w.act a = some w') :
    w'.link.token = (tokens w a).getLast?.getD w.link.token := by
  by_cases hstore : ∃ t, cause w a = .asked (.setToken t) ∧ w.parts.client = true
  · obtain ⟨t, hc, hp⟩ := hstore
    rw [(setToken_still hc hp h).token, tokens, hc]
    simp [hp]
  · -- where there is no client, the command to store a token stores none
    have hnone : tokens w a = [] := by
      unfold tokens
      split
      · rename_i t hc
        exact if_neg fun hp => hstore ⟨t, hc, hp⟩
      · rfl
    rw [hnone]
    cases act_tries h with
    | still hstill => exact hstill.token
    | stores hc hp => exact absurd ⟨_, hc, hp⟩ hstore
    | asks hasks => rw [hasks.link]; rfl

/-- **After a run the token is the one that was stored last.** -/
theorem actAll_token {as : List Action} (h : w.actAll as = some w') :
    w'.link.token = (observed tokens w as).getLast?.getD w.link.token := by
  induction as generalizing w with
  | nil =>
      obtain rfl := Option.some.inj h
      rfl
  | cons a rest ih =>
      obtain ⟨v, hv, hrest⟩ := Option.bind_eq_some_iff.mp h
      rw [ih hrest, act_token hv, observed_cons hv, List.getLast?_append]
      cases (observed tokens v rest).getLast? <;> rfl

/-! ## Attempts that wait for an answer -/

/-- The last attempt of a supervisor. -/
def latest (ts : List Attempt) (id : Nat) : Option Attempt :=
  (ts.filter (·.supervisor = id)).getLast?

theorem latest_concat (ts : List Attempt) (t : Attempt) (id : Nat) :
    latest (ts ++ [t]) id = if t.supervisor = id then some t else latest ts id := by
  unfold latest
  rw [List.filter_append]
  split
  · rename_i hid
    rw [List.filter_cons_of_pos (by simpa using hid), List.filter_nil, List.getLast?_concat]
  · rename_i hid
    rw [List.filter_cons_of_neg (by simpa using hid), List.filter_nil, List.append_nil]

/-- Whoever waits for an answer waits for that of its latest attempt. -/
def Standing (w : World) : Prop :=
  ∀ id t, underway w id = some t → latest (attempts w) id = some t

theorem standing_act {a : Action} (hst : Standing w) (h : w.act a = some w') : Standing w' := by
  -- what is under way was under way before, and its attempt is still the latest
  have kept : ∀ {v : World}, Still v w' → attempts v = attempts w →
      (∀ id, underway v id = underway w id) → Standing w' := by
    intro v hstill hattempts hunder id t ht
    rw [hstill.attempts, hattempts]
    exact hst id t (hunder id ▸ hstill.underway id t ht)
  cases act_tries h with
  | still hstill => exact kept hstill rfl fun _ => rfl
  | stores hc hp hstill => exact kept hstill rfl fun _ => rfl
  | @asks id s hasks =>
      intro j t ht
      rw [hasks.underway] at ht
      -- the new attempt is the latest of this supervisor and of no other
      rw [hasks.attempt, latest_concat]
      split at ht
      · rename_i hj
        rw [if_pos hj, ht]
      · rename_i hj
        rw [if_neg hj]
        exact hst j t ht

theorem standing_run {as : List Action} (hst : Standing w) (h : w.actAll as = some w') :
    Standing w' := by
  induction as generalizing w with
  | nil =>
      obtain rfl := Option.some.inj h
      exact hst
  | cons a rest ih =>
      obtain ⟨v, hv, hrest⟩ := Option.bind_eq_some_iff.mp h
      exact ih (standing_act hst hv) hrest

theorem act_more {a : Action} (h : w.act a = some w') :
    ∃ more, attempts w' = attempts w ++ more := by
  rcases act_attempts h with hsame | ⟨id, s, hasks⟩
  · exact ⟨[], by rw [hsame, List.append_nil]⟩
  · exact ⟨_, hasks.attempt⟩

/-- Attempts that have been made stay as they are. -/
theorem actAll_more {as : List Action} (h : w.actAll as = some w') :
    ∃ more, attempts w' = attempts w ++ more := by
  induction as generalizing w with
  | nil =>
      obtain rfl := Option.some.inj h
      exact ⟨[], (List.append_nil _).symm⟩
  | cons a rest ih =>
      obtain ⟨v, hv, hrest⟩ := Option.bind_eq_some_iff.mp h
      obtain ⟨first, hfirst⟩ := act_more hv
      obtain ⟨more, hmore⟩ := ih hrest
      exact ⟨first ++ more, by rw [hmore, hfirst, List.append_assoc]⟩

/-! ## The URLs of attempts -/

theorem actAll_setup {as : List Action} (h : w.actAll as = some w') : w'.setup = w.setup := by
  induction as generalizing w with
  | nil =>
      obtain rfl := Option.some.inj h
      rfl
  | cons a rest ih =>
      obtain ⟨v, hv, hrest⟩ := Option.bind_eq_some_iff.mp h
      exact (ih hrest).trans (steps_setup (act_steps hv))

/-- Where attempts go, given what the client was set up with and the token that was stored last. -/
structure Addressed (setup : Setup) (stored : Option String) (w : World) : Prop where
  token : w.link.token = stored
  /-- Whoever asks for a socket next does so with that token, and leaves it stored. -/
  url : ∀ a w' new, w.act a = some w' → attempts w' = attempts w ++ new → ∀ t ∈ new,
    t.url = setup.url.withToken setup.tokenParam stored ∧ w'.link.token = stored
  /-- Whoever waits for an answer waits for that of its latest attempt, at the URL which that
  attempt was made with. -/
  standing : Standing w
  /-- Whatever is done later, the attempts made so far stay as they are. -/
  lasting : ∀ as v, w.actAll as = some v → ∃ more, attempts v = attempts w ++ more

/-- **Every attempt goes to the URL of the client with the token that was stored last before it**,
and keeps it. -/
theorem addressed_reachable {parts : Parts} {setup : Setup} {hasRuntime : Bool}
    {stamps : Nat → Stamp} {as : List Action} {w : World}
    (h : (World.initial parts setup hasRuntime stamps).actAll as = some w) :
    Addressed setup ((observed tokens (World.initial parts setup hasRuntime stamps)
      as).getLast?.getD none) w := by
  have htoken := actAll_token h
  have hsetup : w.setup = setup := actAll_setup h
  have hstanding : Standing w := by
    refine standing_run (fun id t ht => ?_) h
    exact absurd ht (by simp [underway, World.initial])
  refine ⟨htoken, ?_, hstanding, fun _ _ => actAll_more⟩
  intro a w' new ha hnew t ht
  obtain ⟨id, s, hasks, rfl⟩ := asks_of_new ha hnew ht
  refine ⟨?_, by rw [hasks.link]; exact htoken⟩
  -- the URL is made when the attempt begins, from what is stored then
  change w.endpoint = _
  rw [World.endpoint, hsetup, htoken]
  rfl

end LiveLink.Proofs
