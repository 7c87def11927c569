import LiveLink.Proofs.Unaffected
import LiveLink.Proofs.Callers
import Mathlib.Data.List.Nodup

/-!
# What sessions read reaches the handlers

A session that reads a frame delivers the envelope in it, if there is one, before
anything else happens; whoever is registered then is called once. Registrations
belong to the client and not to a session, so a handler that stays registered is
called with every envelope that any session ever reads and that it listens for, in
the order in which they were read, however often the connection is lost, made or
given up in between.

The argument counts calls. Every action either makes a call that was due or
reads an envelope whose calls become due (`session_step`), so along a run the calls
made and those still due are the calls that were offered (`session_run`). A
registered handler is offered each envelope it wants exactly once (`offered_once`).
What a handler of the application has noted down tells the same: it notes each call
with the envelope it is called with (`handler_notes`).
-/

namespace LiveLink.Proofs

open LiveLink Relation

/-- The handler that an action calls, and the envelope that it is called with. -/
def calls (w : World) : Action → List (Nat × Envelope)
  | .go =>
    match w.stack with
    | .delivery _ e (l :: _) _ :: _ => [(l.id, e)]
    | _ => []
  | _ => []

/-- The same, if the envelope was read by a session. -/
def sessionCalls (w : World) : Action → List (Nat × Envelope)
  | .go =>
    match w.stack with
    | [.delivery _ e (l :: _) _, .supervisor _ _] => [(l.id, e)]
    | _ => []
  | _ => []

/-- The envelopes that sessions read along a run. -/
def arrivals (w : World) (as : List Action) : List Envelope :=
  observed (fun v a => (arrival v a).toList) w as

/-- The command that an action carries out, if it hands an envelope to the router. -/
def handed (w : World) (a : Action) : List Command :=
  match cause w a with
  | .asked c => if dispatches c then [c] else []
  | _ => []

/-- An envelope is for those who are registered for a scope. -/
def wants : Scope → Envelope → Bool
  | .topic t, e => e.topic = t
  | .all, _ => true

/-- The envelopes that one handler is called with. -/
def callsOf (x : Nat) (made : List (Nat × Envelope)) : List Envelope :=
  (made.filter (·.1 = x)).map (·.2)

theorem callsOf_append (x : Nat) (made more : List (Nat × Envelope)) :
    callsOf x (made ++ more) = callsOf x made ++ callsOf x more := by
  simp [callsOf]

variable {w w' : World} {a : Action}

/-! ## Calls that are due -/

theorem no_calls (hs : ∀ n e l rest k tail, w.stack ≠ .delivery n e (l :: rest) k :: tail) :
    calls w a = [] ∧ sessionCalls w a = [] := by
  cases a with
  | go =>
      constructor
      · unfold calls
        dsimp only
        split
        · rename_i n e l rest k tail hstack
          exact absurd hstack (hs n e l rest k tail)
        · rfl
      · unfold sessionCalls
        dsimp only
        split
        · rename_i n e l rest k id next hstack
          exact absurd hstack (hs n e l rest k _)
        · rfl
  | _ => exact ⟨rfl, rfl⟩

/-- The calls that are due once an action has read an envelope. -/
def offered (w : World) (a : Action) : List (Nat × Envelope) :=
  (arrival w a).elim [] fun e => (w.router.audience e.topic).map fun l => (l.id, e)

/-- **A call that is made was due, and a call that is due was offered.** -/
theorem session_step (h : w.act a = some w') :
    sessionCalls w a ++ due true w'.stack = due true w.stack ++ offered w a := by
  cases act_effect h with
  | @asked c stack reply hc hn hd hs hw hw' =>
      -- if a command begins a delivery, it is no session's
      rw [(no_calls hs).2, offered, hn, hw', perform_due hw (.inl rfl)]
      simpa using hd true
  | @called n k e l rest tail ha hs hb =>
      subst ha
      have hleft : due true w'.stack = due true (.delivery n e rest k :: tail) := hb.due true
      have hoffered : offered w .go = [] := rfl
      rw [hleft, hoffered, List.append_nil, hs]
      rcases session_or tail with ⟨id, next, rfl⟩ | ht
      · simp [sessionCalls, hs, due]
      · -- a delivery of someone else makes the call
        have hnone : sessionCalls w .go = [] := by
          unfold sessionCalls
          dsimp only
          split
          · rename_i n' e' l' rest' k' id next hstack
            rw [hs] at hstack
            exact absurd (List.cons.inj hstack).2 (ht id next)
          · rfl
        rw [hnone, due_delivery ht, due_delivery ht]
        rfl
  | @received e id socket hc hs hn ho hs' =>
      have hquiet : ∀ n e l rest k tail, w.stack ≠ .delivery n e (l :: rest) k :: tail := by
        simp [hs]
      rw [(no_calls hquiet).2, offered, hn, hs', hs]
      simp [due]
  | other hc hn hs hb =>
      rw [(no_calls hs).2, offered, hn, hb.due true]
      simp

theorem session_run {as : List Action} (h : w.actAll as = some w') :
    observed sessionCalls w as ++ due true w'.stack
      = due true w.stack ++ observed offered w as := by
  induction as generalizing w with
  | nil =>
      obtain rfl := Option.some.inj h
      simp [observed]
  | cons a rest ih =>
      obtain ⟨v, hv, hrest⟩ := Option.bind_eq_some_iff.mp h
      rw [observed_cons hv, observed_cons hv, List.append_assoc, ih hrest, ← List.append_assoc,
        session_step hv, List.append_assoc]

/-! ## Who is offered what -/

theorem callsOf_map {α : Type} (x : Nat) (e : Envelope) (audience : List (Entry α)) :
    callsOf x (audience.map fun l => (l.id, e))
      = List.replicate ((audience.map Entry.id).count x) e := by
  induction audience with
  | nil => rfl
  | cons l rest ih =>
      have hsplit := callsOf_append x [(l.id, e)] (rest.map fun l => (l.id, e))
      rw [List.singleton_append, ih] at hsplit
      rw [List.map_cons, List.map_cons, List.count_cons, hsplit]
      by_cases hl : l.id = x
      · simp [callsOf, hl, ← List.replicate_succ]
      · simp [callsOf, hl]

/-- **A registered handler is offered an envelope once if it wants it**, and otherwise not at
all. -/
theorem offered_once {α : Type} {r : Registry α} {history : List Event} (hr : RegistryInv r history)
    {s : Scope} {x : Nat} (hx : x ∈ standing (.router s) history) (e : Envelope) :
    callsOf x ((r.audience e.topic).map fun l => (l.id, e))
      = if wants s e = true then [e] else [] := by
  have haudience : (r.audience e.topic).map Entry.id
      = standing (.router (.topic e.topic)) history ++ standing (.router .all) history := by
    rw [← hr.registered, ← hr.registered, ← List.map_append]
    rfl
  have hnodup : ((r.audience e.topic).map Entry.id).Nodup := (hr.begin 0 e.topic).fair.1.2
  have hmem : x ∈ (r.audience e.topic).map Entry.id ↔ wants s e = true := by
    rw [haudience, List.mem_append]
    cases s with
    | all => simp [wants, hx]
    | topic t =>
        have hall : x ∉ standing (.router .all) history :=
          hr.apart (.topic t) .all (by simp) x hx
        by_cases ht : e.topic = t
        · subst ht
          simp [wants, hx]
        · have htopic : x ∉ standing (.router (.topic e.topic)) history :=
            hr.apart (.topic t) (.topic e.topic) (by simpa using Ne.symm ht) x hx
          simp [wants, ht, hall, htopic]
  rw [callsOf_map]
  by_cases hw : wants s e = true
  · rw [if_pos hw, List.count_eq_one_of_mem hnodup (hmem.mpr hw)]
    rfl
  · rw [if_neg hw, List.count_eq_zero.mpr fun h => hw (hmem.mp h)]
    rfl

/-- A run adds to the history. -/
theorem history_of_run {as : List Action} (h : w.actAll as = some w') :
    ∃ new, w'.history = new ++ w.history := (runs_leads (actAll_runs h)).history

/-- What a handler is offered along a run is what it wants of what is read, as long as it stays
registered. -/
theorem callsOf_offered {as : List Action} {s : Scope} {x : Nat} (hw : DispatchInv w)
    (hx : x ∈ standing (.router s) w.history) (h : w.actAll as = some w')
    (hkept : .unsubscribed (.router s) x ∉ w'.history) :
    callsOf x (observed offered w as) = (arrivals w as).filter (wants s) := by
  induction as generalizing w with
  | nil => rfl
  | cons a rest ih =>
      obtain ⟨v, hv, hrest⟩ := Option.bind_eq_some_iff.mp h
      have hrun : w.actAll [a] = some v := by
        rw [World.actAll, hv]
        rfl
      obtain ⟨new, hnew⟩ := history_of_run hrun
      obtain ⟨later, hlater⟩ := history_of_run hrest
      -- nobody has withdrawn it when the next action comes
      have hx' : x ∈ standing (.router s) v.history := by
        rw [hnew]
        refine standing_append hx fun hmem => hkept ?_
        rw [hlater, hnew]
        exact List.mem_append_right _ (List.mem_append_left _ hmem)
      have hv' : DispatchInv v := dispatchInv_runs hw (act_steps hv).runs
      rw [arrivals, observed_cons hv, observed_cons hv, callsOf_append, List.filter_append,
        ih hv' hx' hrest]
      congr 1
      unfold offered
      cases arrival w a with
      | none => rfl
      | some e =>
          have honce : callsOf x ((w.router.audience e.topic).map fun l => (l.id, e))
              = if wants s e = true then [e] else [] := offered_once hw.2.registryInv hx e
          show callsOf x ((w.router.audience e.topic).map fun l => (l.id, e)) = _
          rw [honce]
          by_cases hwant : wants s e = true <;> simp [hwant]

/-! ## Nobody else delivers -/

/-- Where no command hands an envelope over, all calls are made for sessions. -/
theorem unprompted_step (h : w.act a = some w') (hd : due false w.stack = [])
    (hh : handed w a = []) : calls w a = sessionCalls w a ∧ due false w'.stack = [] := by
  cases act_effect h with
  | @asked c stack reply hc hn hd' hs hw hw' =>
      have hc' : dispatches c = false := by
        by_contra hne
        rw [handed, hc] at hh
        simp [hne] at hh
      rw [(no_calls hs).1, (no_calls hs).2, hw', perform_due hw (.inr hc')]
      exact ⟨rfl, (hd' false).trans hd⟩
  | @called n k e l rest tail ha hs hb =>
      subst ha
      rcases session_or tail with ⟨id, next, rfl⟩ | ht
      · refine ⟨by simp [calls, sessionCalls, hs], ?_⟩
        rw [hb.due false]
        rfl
      · -- the call would have been due from someone else's delivery
        rw [hs, due_delivery ht] at hd
        exact absurd hd (by simp)
  | received hc hs hn ho hs' =>
      have hquiet : ∀ n e l rest k tail, w.stack ≠ .delivery n e (l :: rest) k :: tail := by
        simp [hs]
      rw [(no_calls hquiet).1, (no_calls hquiet).2, hs']
      exact ⟨rfl, rfl⟩
  | other hc hn hs hb =>
      rw [(no_calls hs).1, (no_calls hs).2, hb.due false]
      exact ⟨rfl, hd⟩

theorem unprompted_run {as : List Action} (h : w.actAll as = some w')
    (hd : due false w.stack = []) (hh : observed handed w as = []) :
    observed calls w as = observed sessionCalls w as := by
  induction as generalizing w with
  | nil => rfl
  | cons a rest ih =>
      obtain ⟨v, hv, hrest⟩ := Option.bind_eq_some_iff.mp h
      rw [observed_cons hv] at hh
      obtain ⟨hhead, htail⟩ := List.append_eq_nil_iff.mp hh
      obtain ⟨hcalls, hd'⟩ := unprompted_step hv hd hhead
      rw [observed_cons hv, observed_cons hv, hcalls, ih hrest hd' htail]

/-! ## What one handler notes -/

/-- A handler that may be called under a number, now or later. -/
def Handles (w : World) (x : Nat) (h : Handler) : Prop :=
  ∀ as v l, w.actAll as = some v → KnownHandler v l → l.id = x → l.handler = h

theorem Handles.after {x : Nat} {h : Handler} (hh : Handles w x h) (ha : w.act a = some w') :
    Handles w' x h := by
  intro as v l has
  refine hh (a :: as) v l ?_
  rw [World.actAll, ha]
  exact has

section Notes

variable {x : Nat} {name : String} {full : Bool} {kind : Option PayloadKind} {script : Script}

/-- A handler that an action calls notes the envelope down, unless it reads another type, and it
notes nothing for a call that is not made. -/
theorem act_notes (hh : Handles w x (.app name full kind script)) (h : w.act a = some w') :
    ∃ new, w'.history = new ++ w.history ∧ (∀ e ∈ new.head?, calledHandler x e = false)
      ∧ notesBehind (calledHandler x) new
        = (callsOf x (calls w a)).filterMap (noteOf (.app name full kind script)) := by
  by_cases hcall : a = .go ∧ ∃ n e l rest k tail,
      w.stack = .delivery n e (l :: rest) k :: tail ∧ l.id = x
  · obtain ⟨rfl, n, e, l, rest, k, tail, hs, rfl⟩ := hcall
    -- the mark of the call, and behind it the note, if there is one
    have hknown : KnownHandler w l :=
      .inr ⟨n, e, l :: rest, k, hs ▸ List.mem_cons_self, List.mem_cons_self⟩
    have hhandler : l.handler = .app name full kind script := hh [] w l rfl hknown rfl
    have hcalls : callsOf l.id (calls w .go) = [e] := by simp [calls, hs, callsOf]
    rw [hcalls]
    obtain ⟨v, hgo, hinvoked⟩ := go_invokes hs
    obtain rfl : v = w' := Option.some.inj (hgo.symm.trans h)
    cases hinvoked with
    | runs hl hn =>
        rw [hhandler] at hn
        exact ⟨[_, _], rfl, by simp [calledHandler],
          by simp [notesBehind, noteAfter, calledHandler, hn]⟩
    | mismatched hm =>
        rw [hhandler] at hm
        cases hm with
        | app hm =>
            exact ⟨[_, _], rfl, by simp [calledHandler],
              by simp [notesBehind, noteAfter, noteOf, hm, Except.toOption]⟩
    | received hl hv hr => exact absurd (hl.symm.trans hhandler) (by simp)
    | absent hl hv => exact absurd (hl.symm.trans hhandler) (by simp)
  · obtain ⟨new, hnew, hmarks⟩ := act_marks h
    -- only a call leaves the mark of a call, and this action makes none
    have hnone : ∀ e ∈ new, calledHandler x e = false := by
      intro e he
      cases hmarks e he with
      | @called n k e l rest tail hs ha =>
          refine decide_eq_false fun hid => hcall ?_
          exact ⟨ha, n, e, l, rest, k, tail, hs, hid⟩
      | heard hs ha => rfl
      | other he =>
          cases e with
          | called n id => exact absurd he (by simp [isCall])
          | _ => rfl
    have hcalls : callsOf x (calls w a) = [] := by
      cases a with
      | go =>
          simp only [calls]
          split
          · rename_i n e l rest k tail hs
            have hid : l.id ≠ x := fun hid => hcall ⟨rfl, n, e, l, rest, k, tail, hs, hid⟩
            simp [callsOf, hid]
          · rfl
      | _ => rfl
    refine ⟨new, hnew, fun e he => hnone e (List.mem_of_head? he), ?_⟩
    rw [notesBehind_of_none hnone, hcalls]
    rfl

/-- **A handler notes down the envelopes that it is called with**, one after another. -/
theorem handler_notes {as : List Action} (hh : Handles w x (.app name full kind script))
    (h : w.actAll as = some w') :
    ∃ new, w'.history = new ++ w.history ∧ (∀ e ∈ new.head?, calledHandler x e = false)
      ∧ notesBehind (calledHandler x) new
        = (callsOf x (observed calls w as)).filterMap (noteOf (.app name full kind script)) := by
  induction as generalizing w with
  | nil =>
      obtain rfl := Option.some.inj h
      exact ⟨[], rfl, by simp, rfl⟩
  | cons a rest ih =>
      obtain ⟨v, hv, hrest⟩ := Option.bind_eq_some_iff.mp h
      obtain ⟨new, hnew, hhead, hnotes⟩ := act_notes hh hv
      obtain ⟨more, hmore, hhead', hnotes'⟩ := ih (hh.after hv) hrest
      refine ⟨more ++ new, by rw [hmore, hnew, List.append_assoc], ?_, ?_⟩
      · intro e he
        rw [List.head?_append] at he
        rcases Option.or_eq_some_iff.mp he with he | ⟨-, he⟩
        · exact hhead' e he
        · exact hhead e he
      · rw [notesBehind_append hhead, hnotes, hnotes', observed_cons hv, callsOf_append,
          List.filterMap_append]

end Notes

/-! ## Inbound delivery -/

/-- How a handler of a scope has fared along a run. -/
structure Served (s : Scope) (x : Nat) (w : World) (as : List Action) (w' : World) : Prop where
  /-- The envelopes that sessions have called it with, and the one that is due to it now, are those
  it wants of what sessions have read, in that order, and each as it was read. -/
  account : callsOf x (observed sessionCalls w as) ++ callsOf x (due true w'.stack)
    = (arrivals w as).filter (wants s)
  /-- Nothing is due once no code runs. -/
  complete : w'.stack = [] →
    callsOf x (observed sessionCalls w as) = (arrivals w as).filter (wants s)
  /-- It is called with nothing else, if nobody hands envelopes to the router besides. -/
  only : due false w.stack = [] → observed handed w as = [] →
    callsOf x (observed calls w as) = callsOf x (observed sessionCalls w as)
  /-- Whenever a delivery comes to call it, it is called with the envelope that is delivered. -/
  invoked : ∀ l ∈ w.router.inScope s, l.id = x → ∀ before v n e l' rest k tail,
    w.actAll before = some v → v.stack = .delivery n e (l' :: rest) k :: tail → l'.id = x →
    l' = l ∧ ∃ v', v.go = some v' ∧ Invoked v n e l rest k tail v'
  /-- So a handler of the application has noted down every envelope that it was called with, and if
  nobody else hands envelopes to the router, every envelope it wants of what sessions have read. -/
  noted : ∀ l ∈ w.router.inScope s, l.id = x → ∀ name full kind script,
    l.handler = .app name full kind script →
    ∃ new, w'.history = new ++ w.history
      ∧ notesBehind (calledHandler x) new
        = (callsOf x (observed calls w as)).filterMap (noteOf l.handler)
      ∧ (w'.stack = [] → due false w.stack = [] → observed handed w as = [] →
        notesBehind (calledHandler x) new
          = ((arrivals w as).filter (wants s)).filterMap (noteOf l.handler))
  /-- Text and bytes of one frame make the same envelope. -/
  bytes : ∀ (v : World) (id : Nat) (t : String),
    arrival v (.read id (.binary (Text.Utf8.encode t.toList))) = arrival v (.read id (.text t))

/-- **A handler that stays registered is called once with each envelope it wants that any session
reads, in order**, whatever happens to the connection and whatever other handlers do. -/
theorem inbound_delivery {parts : Parts} {setup : Setup} {hasRuntime : Bool}
    {stamps : Nat → Stamp} {before as : List Action} {w w' : World} {s : Scope} {x : Nat}
    (hw : (World.initial parts setup hasRuntime stamps).actAll before = some w)
    (hx : x ∈ (w.router.inScope s).map Entry.id) (hq : due true w.stack = [])
    (h : w.actAll as = some w') (hkept : .unsubscribed (.router s) x ∉ w'.history) :
    Served s x w as w' := by
  have hinv := dispatchInv_reachable hw
  have hregistered : (w.router.inScope s).map Entry.id = standing (.router s) w.history :=
    hinv.2.registryInv.registered s
  have haccount : callsOf x (observed sessionCalls w as) ++ callsOf x (due true w'.stack)
      = (arrivals w as).filter (wants s) := by
    rw [← callsOf_append, session_run h, hq, List.nil_append]
    exact callsOf_offered hinv (hregistered ▸ hx) h hkept
  have hcomplete : w'.stack = [] →
      callsOf x (observed sessionCalls w as) = (arrivals w as).filter (wants s) := by
    intro hs
    rw [hs] at haccount
    exact (List.append_nil _).symm.trans haccount
  -- whoever has the number of a handler is that handler
  have hsame : ∀ l ∈ w.router.inScope s, ∀ before v l', w.actAll before = some v →
      KnownHandler v l' → l'.id = l.id → l' = l :=
    fun l hl before v l' hrun hl' hid => handler_since hw hrun (.inl ⟨s, hl⟩) hl' hid
  exact
    { account := haccount
      complete := hcomplete
      only := by
        intro hd hh
        rw [unprompted_run h hd hh]
      invoked := by
        rintro l hl rfl before v n e l' rest k tail hrun hs hid
        have hknown : KnownHandler v l' :=
          .inr ⟨n, e, l' :: rest, k, hs ▸ List.mem_cons_self, List.mem_cons_self⟩
        obtain rfl := hsame l hl before v l' hrun hknown hid
        exact ⟨rfl, go_invokes hs⟩
      noted := by
        rintro l hl rfl name full kind script hhandler
        have hhandles : Handles w l.id (.app name full kind script) := by
          intro before v l' hrun hl' hid
          rw [hsame l hl before v l' hrun hl' hid]
          exact hhandler
        obtain ⟨new, hnew, -, hnotes⟩ := handler_notes hhandles h
        rw [hhandler]
        refine ⟨new, hnew, hnotes, fun hs hd hh => ?_⟩
        rw [hnotes, unprompted_run h hd hh, hcomplete hs]
      bytes := by
        intro v id t
        simp [arrival, textOf, Text.Utf8.decode?_encode] }

/-- Two listen to one topic, of whom the first always fails, and one to all of them. -/
def hearingSetup : List Action :=
  [.command (.subscribe true "first" (some "a") false fun _ => [.fail none]),
    .command (.subscribe true "second" (some "a") false fun _ => []),
    .command (.subscribe true "all" none false fun _ => [])]

/-- A frame for topic `a`. -/
def hearingFrame (payload : String) : String :=
  "\x7b\"type\":\"a\",\"payload\":" ++ payload ++ "\x7d"

/-- A frame as text and another one as bytes, then a few that hold nothing; the session ends, and
another one with a new token reads one more. -/
def hearingRun : List Action :=
  List.flatten [[.command .connect], List.replicate 3 .go, [.wake 0, .answered 0 true],
    List.replicate 3 .go, [.read 0 (.text (hearingFrame "1"))], List.replicate 8 .go,
    [.read 0 (.binary (Text.Utf8.encode (hearingFrame "true").toList))], List.replicate 8 .go,
    [.read 0 (.text "\x7b"), .go, .read 0 (.binary [0xff]), .read 0 .control, .read 0 .ended],
    List.replicate 3 .go, [.command (.setToken (some "t")), .pass 2000000000, .wake 0],
    List.replicate 3 .go, [.answered 0 true], List.replicate 3 .go,
    [.read 0 (.text (hearingFrame "[]"))], List.replicate 8 .go]

/-- The name, the topic and the written payload in a note of an envelope. -/
def gotten : Note → List String
  | .got name topic payload _ => [name, topic, payload.write]
  | _ => []

/-- The second handler is called by three deliveries, over two sessions, and each time with the
envelope that was read. -/
theorem inbound_delivery_resumed :
    ∃ w w', (World.initial ⟨true, false, true⟩ .standard true fun _ => ⟨"m1", .epoch⟩).actAll
        hearingSetup = some w
      ∧ w.actAll hearingRun = some w' ∧ w'.stack = []
      ∧ inOrder (fun | .called n 2 => some n | _ => none) w'.history = [0, 1, 2]
      ∧ (notesBehind (calledHandler 2) w'.history).map gotten
        = [["second", "a", "1"], ["second", "a", "true"], ["second", "a", "[]"]]
      ∧ Served (.topic "a") 2 w hearingRun w' := by
  have hrun : ((World.initial ⟨true, false, true⟩ .standard true fun _ => ⟨"m1", .epoch⟩).actAll
      hearingSetup).bind (fun w => (w.actAll hearingRun).map fun w' =>
        (w.stack.isEmpty && w'.stack.isEmpty,
          [(w.router.inScope (.topic "a")).map Entry.id,
            inOrder (fun | .unsubscribed _ id => some id | _ => none) w'.history,
            inOrder (fun | .called n 2 => some n | _ => none) w'.history],
          (notesBehind (calledHandler 2) w'.history).map gotten))
      = some (true, [[1, 2], [], [0, 1, 2]],
        [["second", "a", "1"], ["second", "a", "true"], ["second", "a", "[]"]]) := by
    decide +kernel
  obtain ⟨w, hw, hrest⟩ := Option.bind_eq_some_iff.mp hrun
  obtain ⟨w', hw', htuple⟩ := Option.map_eq_some_iff.mp hrest
  simp only [Prod.mk.injEq, Bool.and_eq_true, List.isEmpty_iff, List.cons.injEq] at htuple
  obtain ⟨⟨hq, hq'⟩, ⟨hids, hwithdrawn, hcalled, -⟩, hnotes⟩ := htuple
  have hkept : .unsubscribed (.router (.topic "a")) 2 ∉ w'.history := by
    intro hmem
    have hfound : 2 ∈ inOrder (fun | .unsubscribed _ id => some id | _ => none) w'.history :=
      mem_inOrder.mpr ⟨_, hmem, rfl⟩
    rw [hwithdrawn] at hfound
    exact absurd hfound List.not_mem_nil
  refine ⟨w, w', hw, hw', hq', hcalled, hnotes, ?_⟩
  exact inbound_delivery hw (by rw [hids]; simp) (by rw [hq]; rfl) hw' hkept

end LiveLink.Proofs
