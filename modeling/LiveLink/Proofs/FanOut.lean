import LiveLink.Proofs.Calls

/-!
# Who is called with an envelope

A delivery looks at the registry once, when it begins, and then calls whom it has
found, one after another. A handler may register and withdraw others, begin
deliveries of its own or fail; the list of the delivery around it stays as it is.

What is left of a world when everything else is taken away is a `Dispatcher`: the
registry, the deliveries that have begun and not ended, innermost first, and the
history. Only the innermost delivery moves, and it waits while a handler that it
has called runs. `step_dispatchSteps` shows that every small step of a world is made
of steps of its dispatcher, and `DispatcherInv` is what these keep: the history of
each delivery is that of its own list, whatever the others do.
-/

namespace LiveLink.Proofs

open LiveLink Relation

/-! ## The history of one delivery -/

/-- What happens in the course of a delivery. -/
inductive Mark where
  | began (topic : String) (audience : List Nat)
  | called (id : Nat)
  | crashed
  | ended (completed : Nat)
  deriving DecidableEq

/-- An event of the delivery of a number. -/
def markOf (n : Nat) : Event → Option Mark
  | .began m topic ids => if m = n then some (.began topic ids) else none
  | .called m id => if m = n then some (.called id) else none
  | .crashed m => if m = n then some .crashed else none
  | .ended m k => if m = n then some (.ended k) else none
  | _ => none

/-- What one call leaves in the history, given whether the handler came to its end. -/
def marks : Nat × Bool → List Mark
  | (id, true) => [.called id]
  | (id, false) => [.called id, .crashed]

/-- How many calls came to their end. -/
def completed (fates : List (Nat × Bool)) : Nat := fates.countP (·.2)

/-- A delivery that has begun and not ended. -/
structure Activation where
  number : Nat
  topic : String
  /-- Whom it has yet to call. -/
  rest : List Nat
  completed : Nat
  /-- Whether a handler that it has called is still at it. -/
  calling : Bool

/-- What has happened in a delivery so far: it has begun for a list of handlers, has called some of
them in order, and may be waiting for one more. -/
def Follows (a : Activation) (trace : List Mark) : Prop :=
  ∃ (fates : List (Nat × Bool)) (current : Option Nat),
    current.isSome = a.calling ∧ a.completed = completed fates
      ∧ trace = .began a.topic (fates.map Prod.fst ++ current.toList ++ a.rest)
        :: (fates.flatMap marks ++ (current.map Mark.called).toList)

/-- A delivery has called everyone it has begun for, and has ended with the number of those who came
to their end. -/
def Over (trace : List Mark) : Prop :=
  ∃ topic fates, trace = .began topic (fates.map Prod.fst)
    :: (fates.flatMap marks ++ [.ended (completed fates)])

/-- Whoever a delivery begins for is registered then, for its topic or else for all of them, and is
on its list once. -/
def Fair : List Event → Prop
  | [] => True
  | .began _ topic ids :: earlier =>
    (ids = standing (.router (.topic topic)) earlier ++ standing (.router .all) earlier
      ∧ ids.Nodup) ∧ Fair earlier
  | _ :: earlier => Fair earlier

/-! ## Dispatchers -/

/-- A registry, the deliveries that are under way, innermost first, how many have begun, and what
has happened. -/
structure Dispatcher (α : Type) where
  router : Registry α
  active : List Activation
  begun : Nat
  history : List Event

/-- An event that has to do neither with deliveries nor with the registry. -/
def aside : Event → Bool
  | .began .. | .called .. | .crashed _ | .ended .. => false
  | .subscribed (.router _) _ | .unsubscribed (.router _) _ => false
  | _ => true

/-- One step of a dispatcher. -/
inductive DispatchStep {α : Type} : Dispatcher α → Dispatcher α → Prop where
  | register {d : Dispatcher α} (s : Scope) (h : α) : DispatchStep d
      { d with
        router := d.router.register s h
        history := .subscribed (.router s) d.router.nextId :: d.history }
  | withdraw {d : Dispatcher α} (s : Scope) (id : Nat) : DispatchStep d
      { d with
        router := d.router.withdraw s id
        history := .unsubscribed (.router s) id :: d.history }
  | begin {d : Dispatcher α} (topic : String) : DispatchStep d
      { d with
        active := ⟨d.begun, topic, (d.router.audience topic).map Entry.id, 0, false⟩ :: d.active
        begun := d.begun + 1
        history := .began d.begun topic ((d.router.audience topic).map Entry.id) :: d.history }
  | call {r : Registry α} {n b k id : Nat} {topic : String} {rest : List Nat}
      {outer : List Activation} {history : List Event} :
      DispatchStep ⟨r, ⟨n, topic, id :: rest, k, false⟩ :: outer, b, history⟩
        ⟨r, ⟨n, topic, rest, k, true⟩ :: outer, b, .called n id :: history⟩
  | back {r : Registry α} {n b k : Nat} {topic : String} {rest : List Nat}
      {outer : List Activation} {history : List Event} :
      DispatchStep ⟨r, ⟨n, topic, rest, k, true⟩ :: outer, b, history⟩
        ⟨r, ⟨n, topic, rest, k + 1, false⟩ :: outer, b, history⟩
  /-- The handler that was called fails. -/
  | crash {r : Registry α} {n b k : Nat} {topic : String} {rest : List Nat}
      {outer : List Activation} {history : List Event} :
      DispatchStep ⟨r, ⟨n, topic, rest, k, true⟩ :: outer, b, history⟩
        ⟨r, ⟨n, topic, rest, k, false⟩ :: outer, b, .crashed n :: history⟩
  | finish {r : Registry α} {n b k : Nat} {topic : String} {outer : List Activation}
      {history : List Event} :
      DispatchStep ⟨r, ⟨n, topic, [], k, false⟩ :: outer, b, history⟩
        ⟨r, outer, b, .ended n k :: history⟩
  | other {d : Dispatcher α} (e : Event) (he : aside e = true) :
      DispatchStep d { d with history := e :: d.history }

/-! ## Registrations -/

/-- The registry is what the history says, and every delivery has begun for those it says. -/
structure RegistryInv {α : Type} (r : Registry α) (history : List Event) : Prop where
  registered : ∀ s, (r.inScope s).map Entry.id = standing (.router s) history
  fresh : ∀ s, ∀ id ∈ standing (.router s) history, id < r.nextId
  nodup : ∀ s, (standing (.router s) history).Nodup
  /-- No number is given out in two scopes. -/
  apart : ∀ s s', s ≠ s' → ∀ id ∈ standing (.router s) history,
    id ∉ standing (.router s') history
  fair : Fair history

variable {α : Type} {r : Registry α} {d d' : Dispatcher α} {history : List Event}

theorem router_ne {s s' : Scope} (h : s ≠ s') : Place.router s ≠ Place.router s' :=
  fun he => h (Place.router.inj he)

namespace RegistryInv

theorem empty : RegistryInv (.empty : Registry α) [] where
  registered := by intro s; cases s <;> rfl
  fresh := by simp
  nodup := by simp
  apart := by simp
  fair := trivial

/-- A handler is registered under a number that nobody has had. -/
theorem register (hr : RegistryInv r history) (s : Scope) (h : α) :
    RegistryInv (r.register s h) (.subscribed (.router s) r.nextId :: history) where
  registered := by
    intro s'
    -- only the list of its own scope gets longer
    by_cases hs : s = s'
    · subst hs
      rw [Registry.inScope_register, standing_subscribed, List.map_append, hr.registered]
      rfl
    · rw [Registry.inScope_register_ne r hs, standing_subscribed_ne (router_ne hs), hr.registered]
  fresh := by
    intro s' id hid
    rw [register_nextId]
    by_cases hs : s = s'
    · subst hs
      rw [standing_subscribed] at hid
      rcases List.mem_append.mp hid with hid | hid
      · exact Nat.lt_succ_of_lt (hr.fresh s id hid)
      · rw [List.mem_singleton.mp hid]
        exact Nat.lt_succ_self _
    · rw [standing_subscribed_ne (router_ne hs)] at hid
      exact Nat.lt_succ_of_lt (hr.fresh s' id hid)
  nodup := by
    intro s'
    by_cases hs : s = s'
    · subst hs
      rw [standing_subscribed]
      refine List.nodup_append.mpr ⟨hr.nodup s, by simp, ?_⟩
      intro a ha b hb
      rw [List.mem_singleton.mp hb]
      exact Nat.ne_of_lt (hr.fresh s a ha)
    · rw [standing_subscribed_ne (router_ne hs)]
      exact hr.nodup s'
  apart := by
    -- the new number is in no scope yet
    have hnew : ∀ t, r.nextId ∉ standing (.router t) history :=
      fun t h => Nat.lt_irrefl _ (hr.fresh t _ h)
    intro t t' ht id hid hid'
    by_cases hs : s = t
    · subst hs
      rw [standing_subscribed_ne (router_ne ht)] at hid'
      rw [standing_subscribed] at hid
      rcases List.mem_append.mp hid with hid | hid
      · exact hr.apart s t' ht id hid hid'
      · exact hnew t' (List.mem_singleton.mp hid ▸ hid')
    · rw [standing_subscribed_ne (router_ne hs)] at hid
      by_cases hs' : s = t'
      · subst hs'
        rw [standing_subscribed] at hid'
        rcases List.mem_append.mp hid' with hid' | hid'
        · exact hr.apart t s ht id hid hid'
        · exact hnew t (List.mem_singleton.mp hid' ▸ hid)
      · rw [standing_subscribed_ne (router_ne hs')] at hid'
        exact hr.apart t t' ht id hid hid'
  fair := hr.fair

/-- To withdraw a registration only makes lists shorter. -/
theorem standing_withdraw (s s' : Scope) (id : Nat) (history : List Event) :
    (standing (.router s') (.unsubscribed (.router s) id :: history)).Sublist
      (standing (.router s') history) := by
  by_cases hs : s = s'
  · subst hs
    rw [standing_unsubscribed]
    exact List.filter_sublist
  · rw [standing_unsubscribed_ne (router_ne hs)]

/-- A withdrawal takes one number out of one list. -/
theorem withdraw (hr : RegistryInv r history) (s : Scope) (id : Nat) :
    RegistryInv (r.withdraw s id) (.unsubscribed (.router s) id :: history) where
  registered := by
    intro s'
    by_cases hs : s = s'
    · subst hs
      rw [Registry.inScope_withdraw, standing_unsubscribed, ← hr.registered, List.filter_map]
      rfl
    · rw [Registry.inScope_withdraw_ne r hs, standing_unsubscribed_ne (router_ne hs),
        hr.registered]
  fresh := by
    intro s' i hi
    rw [withdraw_nextId]
    exact hr.fresh s' i ((standing_withdraw s s' id history).subset hi)
  nodup := fun s' => (hr.nodup s').sublist (standing_withdraw s s' id history)
  apart := by
    intro t t' ht i hi hi'
    exact hr.apart t t' ht i ((standing_withdraw s t id history).subset hi)
      ((standing_withdraw s t' id history).subset hi')
  fair := hr.fair

/-- An event that has to do with no registration. -/
theorem pass (hr : RegistryInv r history) {e : Event}
    (hs : ∀ s, standing (.router s) (e :: history) = standing (.router s) history)
    (hf : Fair (e :: history)) : RegistryInv r (e :: history) where
  registered := by intro s; rw [hs]; exact hr.registered s
  fresh := by intro s; rw [hs]; exact hr.fresh s
  nodup := by intro s; rw [hs]; exact hr.nodup s
  apart := by intro s s' h; rw [hs, hs]; exact hr.apart s s' h
  fair := hf

/-- A delivery begins for those who are registered. -/
theorem begin (hr : RegistryInv r history) (n : Nat) (topic : String) :
    RegistryInv r (.began n topic ((r.audience topic).map Entry.id) :: history) := by
  have haudience : (r.audience topic).map Entry.id
      = standing (.router (.topic topic)) history ++ standing (.router .all) history := by
    rw [← hr.registered, ← hr.registered, ← List.map_append]
    rfl
  refine hr.pass (fun s => rfl) ⟨⟨haudience, ?_⟩, hr.fair⟩
  -- nobody is registered both for the topic and for all, so nobody is called twice
  rw [haudience]
  refine List.nodup_append.mpr ⟨hr.nodup _, hr.nodup _, ?_⟩
  rintro a ha b hb rfl
  exact hr.apart _ _ (by simp) a ha hb

end RegistryInv

theorem standing_aside {e : Event} (he : aside e = true) (s : Scope) (history : List Event) :
    standing (.router s) (e :: history) = standing (.router s) history := by
  cases e with
  | subscribed p id => cases p <;> simp_all [aside]
  | unsubscribed p id => cases p <;> simp_all [aside]
  | _ => rfl

theorem fair_aside {e : Event} (he : aside e = true) (hf : Fair history) : Fair (e :: history) := by
  cases e with
  | began n topic ids => exact absurd he (by simp [aside])
  | _ => exact hf

/-- What was fair when a delivery began stays so. -/
theorem Fair.of_append {later earlier : List Event} (h : Fair (later ++ earlier)) :
    Fair earlier := by
  induction later with
  | nil => exact h
  | cons e rest ih =>
      cases e with
      | began n topic ids => exact ih h.2
      | _ => exact ih h

/-- **Every step keeps the registry as the history has it.** -/
theorem registryInv_step (hr : RegistryInv d.router d.history) (h : DispatchStep d d') :
    RegistryInv d'.router d'.history := by
  cases h with
  | register s h => exact hr.register s h
  | withdraw s id => exact hr.withdraw s id
  | begin topic => exact hr.begin d.begun topic
  | call => exact hr.pass (fun s => rfl) hr.fair
  | back => exact hr
  | crash => exact hr.pass (fun s => rfl) hr.fair
  | finish => exact hr.pass (fun s => rfl) hr.fair
  | other e he => exact hr.pass (fun s => standing_aside he s d.history) (fair_aside he hr.fair)

/-! ## Deliveries -/

/-- Every delivery has kept to its own list. -/
structure DeliveriesInv (active : List Activation) (begun : Nat) (history : List Event) : Prop where
  distinct : (active.map Activation.number).Nodup
  lt : ∀ a ∈ active, a.number < begun
  unbegun : ∀ n, begun ≤ n → inOrder (markOf n) history = []
  underway : ∀ a ∈ active, Follows a (inOrder (markOf a.number) history)
  finished : ∀ n < begun, n ∉ active.map Activation.number → Over (inOrder (markOf n) history)

/-- Calls are counted one by one. -/
theorem completed_append (xs ys : List (Nat × Bool)) :
    completed (xs ++ ys) = completed xs + completed ys := List.countP_append

namespace Follows

variable {n k id : Nat} {topic : String} {rest : List Nat} {trace : List Mark}

/-- The next handler of the list is called. -/
theorem call (hf : Follows ⟨n, topic, id :: rest, k, false⟩ trace) :
    Follows ⟨n, topic, rest, k, true⟩ (trace ++ [.called id]) := by
  obtain ⟨fates, current, hcurrent, hcompleted, rfl⟩ := hf
  obtain rfl : current = none := by simpa using hcurrent
  exact ⟨fates, some id, rfl, hcompleted, by simp⟩

/-- The handler that was called comes to its end. -/
theorem back (hf : Follows ⟨n, topic, rest, k, true⟩ trace) :
    Follows ⟨n, topic, rest, k + 1, false⟩ trace := by
  obtain ⟨fates, current, hcurrent, hcompleted, rfl⟩ := hf
  obtain ⟨id, rfl⟩ := Option.isSome_iff_exists.mp hcurrent
  -- the one who was at it joins those who are done
  refine ⟨fates ++ [(id, true)], none, rfl, ?_, by simp [marks]⟩
  rw [completed_append, ← hcompleted]
  rfl

/-- The handler that was called fails. -/
theorem crash (hf : Follows ⟨n, topic, rest, k, true⟩ trace) :
    Follows ⟨n, topic, rest, k, false⟩ (trace ++ [.crashed]) := by
  obtain ⟨fates, current, hcurrent, hcompleted, rfl⟩ := hf
  obtain ⟨id, rfl⟩ := Option.isSome_iff_exists.mp hcurrent
  refine ⟨fates ++ [(id, false)], none, rfl, ?_, by simp [marks]⟩
  rw [completed_append, ← hcompleted]
  rfl

end Follows

namespace DeliveriesInv

variable {active : List Activation} {begun : Nat}

theorem empty : DeliveriesInv [] 0 [] where
  distinct := .nil
  lt := by simp
  unbegun := fun n hn => rfl
  underway := by simp
  finished := by simp

/-- An event of no delivery. -/
theorem pass (ha : DeliveriesInv active begun history) {e : Event} (he : ∀ n, markOf n e = none) :
    DeliveriesInv active begun (e :: history) where
  distinct := ha.distinct
  lt := ha.lt
  unbegun := by intro n hn; rw [inOrder_of_none (he n)]; exact ha.unbegun n hn
  underway := by intro a hmem; rw [inOrder_of_none (he _)]; exact ha.underway a hmem
  finished := by intro n hn hmem; rw [inOrder_of_none (he n)]; exact ha.finished n hn hmem

variable {a a' : Activation} {outer : List Activation}

/-- The innermost delivery has another number than the ones around it. -/
theorem number_ne (ha : DeliveriesInv (a :: outer) begun history) {o : Activation}
    (ho : o ∈ outer) : o.number ≠ a.number := by
  intro he
  have hnot := (List.nodup_cons.mp ha.distinct).1
  exact hnot (he ▸ List.mem_map_of_mem ho)

/-- The innermost delivery moves on. -/
theorem head (ha : DeliveriesInv (a :: outer) begun history) {history' : List Event}
    (hn : a'.number = a.number)
    (hother : ∀ n, n ≠ a.number → inOrder (markOf n) history' = inOrder (markOf n) history)
    (hf : Follows a' (inOrder (markOf a.number) history')) :
    DeliveriesInv (a' :: outer) begun history' where
  distinct := by
    rw [List.map_cons, hn]
    exact ha.distinct
  lt := by
    intro o ho
    rcases List.mem_cons.mp ho with rfl | ho
    · rw [hn]
      exact ha.lt a List.mem_cons_self
    · exact ha.lt o (List.mem_cons_of_mem _ ho)
  unbegun := by
    intro n hle
    have hlt := ha.lt a List.mem_cons_self
    rw [hother n (by omega)]
    exact ha.unbegun n hle
  underway := by
    intro o ho
    rcases List.mem_cons.mp ho with rfl | ho
    · rw [hn]
      exact hf
    · -- the ones around it have no new events
      rw [hother _ (ha.number_ne ho)]
      exact ha.underway o (List.mem_cons_of_mem _ ho)
  finished := by
    intro n hlt hmem
    rw [List.map_cons, hn] at hmem
    rw [hother n fun h => hmem (h ▸ List.mem_cons_self)]
    exact ha.finished n hlt hmem

/-- A delivery begins. -/
theorem begin (ha : DeliveriesInv active begun history) (topic : String) (ids : List Nat) :
    DeliveriesInv (⟨begun, topic, ids, 0, false⟩ :: active) (begun + 1)
      (.began begun topic ids :: history) := by
  have hother : ∀ n, n ≠ begun → inOrder (markOf n) (.began begun topic ids :: history)
      = inOrder (markOf n) history := by
    intro n hn
    exact inOrder_of_none (by simp [markOf, Ne.symm hn]) history
  exact
    { distinct := by
        refine List.nodup_cons.mpr ⟨?_, ha.distinct⟩
        intro hmem
        obtain ⟨o, ho, hn⟩ := List.mem_map.mp hmem
        exact Nat.ne_of_lt (ha.lt o ho) hn
      lt := by
        intro o ho
        rcases List.mem_cons.mp ho with rfl | ho
        · exact Nat.lt_succ_self _
        · exact Nat.lt_succ_of_lt (ha.lt o ho)
      unbegun := by
        intro n hn
        rw [hother n (by omega)]
        exact ha.unbegun n (by omega)
      underway := by
        intro o ho
        rcases List.mem_cons.mp ho with rfl | ho
        · -- nothing has happened under its number before
          refine ⟨[], none, rfl, rfl, ?_⟩
          rw [inOrder_of_some (f := markOf begun) (b := .began topic ids) (by simp [markOf]),
            ha.unbegun begun (Nat.le_refl _)]
          rfl
        · rw [hother _ (Nat.ne_of_lt (ha.lt o ho))]
          exact ha.underway o ho
      finished := by
        intro n hlt hmem
        have hne : n ≠ begun := fun h => hmem (h ▸ List.mem_cons_self)
        have hmem := fun h => hmem (List.mem_cons_of_mem _ h)
        rw [hother n hne]
        exact ha.finished n (by omega) hmem }

/-- The innermost delivery ends. -/
theorem finish {n k : Nat} {topic : String}
    (ha : DeliveriesInv (⟨n, topic, [], k, false⟩ :: outer) begun history) :
    DeliveriesInv outer begun (.ended n k :: history) := by
  have hother : ∀ m, m ≠ n → inOrder (markOf m) (.ended n k :: history)
      = inOrder (markOf m) history := by
    intro m hm
    exact inOrder_of_none (by simp [markOf, Ne.symm hm]) history
  have hlt := ha.lt _ List.mem_cons_self
  exact
    { distinct := (List.nodup_cons.mp ha.distinct).2
      lt := fun o ho => ha.lt o (List.mem_cons_of_mem _ ho)
      unbegun := by
        intro m hm
        dsimp only at hlt
        rw [hother m (by omega)]
        exact ha.unbegun m hm
      underway := by
        intro o ho
        rw [hother _ (ha.number_ne ho)]
        exact ha.underway o (List.mem_cons_of_mem _ ho)
      finished := by
        intro m hm hmem
        by_cases hn : m = n
        · -- it has nobody left to call, and nobody it has called is still at it
          subst hn
          obtain ⟨fates, current, hcurrent, hcompleted, htrace⟩ :=
            ha.underway _ List.mem_cons_self
          obtain rfl : current = none := by simpa using hcurrent
          refine ⟨topic, fates, ?_⟩
          rw [inOrder_of_some (f := markOf m) (b := .ended k) (by simp [markOf]), htrace,
            ← hcompleted]
          simp
        · rw [hother m hn]
          refine ha.finished m hm fun h => ?_
          rcases List.mem_cons.mp h with h | h
          · exact hn h
          · exact hmem h }

end DeliveriesInv

theorem markOf_aside {e : Event} (he : aside e = true) (n : Nat) : markOf n e = none := by
  cases e with
  | began m topic ids => exact absurd he (by simp [aside])
  | called m id => exact absurd he (by simp [aside])
  | crashed m => exact absurd he (by simp [aside])
  | ended m k => exact absurd he (by simp [aside])
  | _ => rfl

/-- **Every step keeps each delivery to its own list.** -/
theorem deliveriesInv_step (ha : DeliveriesInv d.active d.begun d.history) (h : DispatchStep d d') :
    DeliveriesInv d'.active d'.begun d'.history := by
  cases h with
  | register s h => exact ha.pass fun n => rfl
  | withdraw s id => exact ha.pass fun n => rfl
  | begin topic => exact ha.begin topic _
  | @call r n b k id topic rest outer history =>
      refine ha.head rfl (fun m hm => inOrder_of_none (by simp [markOf, Ne.symm hm]) history) ?_
      rw [inOrder_of_some (f := markOf n) (b := .called id) (by simp [markOf])]
      exact (ha.underway _ List.mem_cons_self).call
  | back => exact ha.head rfl (fun m hm => rfl) (ha.underway _ List.mem_cons_self).back
  | @crash r n b k topic rest outer history =>
      refine ha.head rfl (fun m hm => inOrder_of_none (by simp [markOf, Ne.symm hm]) history) ?_
      rw [inOrder_of_some (f := markOf n) (b := .crashed) (by simp [markOf])]
      exact (ha.underway _ List.mem_cons_self).crash
  | finish => exact ha.finish
  | other e he => exact ha.pass (markOf_aside he)

/-- A dispatcher whose registry and whose deliveries agree with its history. -/
structure DispatcherInv {α : Type} (d : Dispatcher α) : Prop where
  registryInv : RegistryInv d.router d.history
  deliveriesInv : DeliveriesInv d.active d.begun d.history

/-- Any number of steps of a dispatcher. -/
abbrev DispatchSteps {α : Type} : Dispatcher α → Dispatcher α → Prop := ReflTransGen DispatchStep

/-- Hence any number of steps keeps both. -/
theorem dispatcherInv_steps (hl : DispatcherInv d) (h : DispatchSteps d d') : DispatcherInv d' := by
  induction h with
  | refl => exact hl
  | tail _ ht ih =>
      exact ⟨registryInv_step ih.registryInv ht, deliveriesInv_step ih.deliveriesInv ht⟩

/-! ## The stack -/

def delivers : Frame → Bool
  | .delivery .. => true
  | _ => false

/-- The code that runs is not a delivery about to move on. -/
def Bare (stack : List Frame) : Prop := ∀ f ∈ stack.head?, delivers f = false

/-- A delivery waits for nothing but a handler that it has called. -/
def Layered : List Frame → Prop
  | [] => True
  | f :: tail => (isScript f = true ∨ Bare tail) ∧ Layered tail

theorem bare_nil : Bare [] := by simp [Bare]

theorem bare_cons {f : Frame} {tail : List Frame} : Bare (f :: tail) ↔ delivers f = false := by
  simp [Bare]

theorem Layered.tail {f : Frame} {tail : List Frame} (h : Layered (f :: tail)) : Layered tail := h.2

theorem Layered.bare {f : Frame} {tail : List Frame} (h : Layered (f :: tail))
    (hf : isScript f = false) : Bare tail := by
  rcases h.1 with hs | hb
  · rw [hf] at hs
    exact absurd hs Bool.false_ne_true
  · exact hb

theorem Layered.push {f : Frame} {stack : List Frame} (h : Layered stack) (hb : Bare stack) :
    Layered (f :: stack) := ⟨.inr hb, h⟩

/-- Only what kind of code is on top matters. -/
theorem Layered.replace {f g : Frame} {tail : List Frame} (h : Layered (f :: tail))
    (hfg : isScript f = true → isScript g = true) : Layered (g :: tail) :=
  ⟨h.1.imp_left hfg, h.2⟩

theorem Layered.script {o : String} {cs : List Command} {a : Option String} {stack : List Frame}
    (h : Layered stack) : Layered (.script o cs a :: stack) := ⟨.inl rfl, h⟩

variable {u w w' : World} {act : Action}

theorem bare_acting (hw : Acting w) : Bare w.stack := by
  intro f hf
  have hacts := hw f hf
  cases f with
  | delivery n e rest k => exact absurd hacts (by simp [acts])
  | _ => rfl

theorem bare_rest {id : Nat} {s : Supervisor} (hr : AtRest w id s) : Bare w.stack := by
  rw [hr.stack]
  exact bare_nil

/-- To come to an end moves the delivery below on, and that stays where it is. -/
theorem complete_layered (h : Layered w.stack) : Layered w.complete.stack := by
  unfold World.complete
  split
  · rename_i n e rest k tail hs
    rw [hs] at h
    exact h.replace fun hf => hf
  · exact h

/-- A data step pushes a delivery only where no other one is about to move on. -/
theorem data_layered (h : Layered w.stack) (hc : DataStep u act w w') : Layered w'.stack := by
  cases hc with
  | counters h' => rw [h'.stack]; exact h
  | withdraw p id => cases p <;> exact h
  | script cs' a' hs => rw [hs] at h; exact h.replace fun _ => rfl
  | returned hs => rw [hs] at h; exact complete_layered h.tail
  | failed m hs =>
      rw [hs] at h
      rw [failCall_stack]
      exact h.tail
  | dispatch e hw => exact h.push (bare_acting hw)
  | @called n k e l rest tail o cs hs =>
      rw [hs] at h
      have hmoved : Layered (.delivery n e rest k :: tail) := h.replace fun hf => hf
      exact hmoved.script
  | calledOnce hs => rw [hs] at h; exact h.replace fun hf => hf
  | ended hs => rw [hs] at h; exact h.tail
  | _ => exact h

theorem offer_layered (h : Layered w.stack) (hb : Bare w.stack) (c : Change) :
    Layered (offer w c).stack := by
  unfold offer
  cases w.board.draining with
  | true => exact h
  | false => exact h.push hb

theorem shift_layered (h : Layered w.stack) (hb : Bare w.stack) (t : Link × Option Change) :
    Layered (shift w t).stack := by
  unfold shift
  split
  · rename_i c hc
    exact offer_layered (w := { w with link := t.1 }.happen (.changed c)) h hb c
  · exact h

/-- **Layering is preserved by every small change.** -/
theorem layered_step (h : Layered w.stack) (hd : SmallStep u act w w') : Layered w'.stack := by
  cases hd with
  | data hc => exact data_layered h hc
  | announce c hw hb => exact offer_layered h (bare_acting hw) c
  | heardOnce hs => rw [hs] at h; exact h.replace fun hf => hf
  | @heard c l rest tail o cs hs =>
      rw [hs] at h
      have hmoved : Layered (.announcement c rest :: tail) := h.replace fun hf => hf
      exact hmoved.script
  | drained hs hp => rw [hs] at h; exact h.tail
  | announced hs hp hd => rw [hs] at h; exact h.replace fun hf => hf
  | connect hy hw hr hm =>
      refine shift_layered ?_ (bare_cons.mpr rfl) _
      refine Layered.push ?_ ?_
      · rw [stopSupervisor_stack]
        exact h
      · rw [stopSupervisor_stack]
        exact bare_acting hw
  | disconnect hy hw =>
      refine shift_layered ?_ ?_ _
      · rw [stopSupervisor_stack]
        exact h
      · rw [stopSupervisor_stack]
        exact bare_acting hw
  | start hs =>
      rw [hs] at h
      rw [startSupervisor_stack]
      exact h.tail
  | resume hs =>
      rw [hs] at h
      rw [resume_stack]
      exact h.tail
  -- the supervisor acts from rest, so no code runs
  | giveUp hr hs hp hf hd =>
      rw [World.dial, World.happen, World.rest, stopSupervisor_stack]
      exact h
  | retry hy hr hs hp hd ht =>
      exact shift_layered (h.push (bare_rest hr)) (bare_cons.mpr rfl) _
  | opened hy hr hs hp ht =>
      exact shift_layered (h.push (bare_rest hr)) (bare_cons.mpr rfl) _
  | failed hy hr hs hp ht hl =>
      exact shift_layered (h.push (bare_rest hr)) (bare_cons.mpr rfl) _
  | enter hr hs hp => exact h.push (bare_rest hr)
  | _ => exact h

/-! ## The dispatcher of a world -/

/-- The deliveries in code that waits for a handler. -/
def paused (stack : List Frame) : List Activation :=
  stack.filterMap fun
    | .delivery n e rest k => some ⟨n, e.topic, rest.map Entry.id, k, true⟩
    | _ => none

/-- The deliveries in the code that runs. -/
def activations : List Frame → List Activation
  | .delivery n e rest k :: tail => ⟨n, e.topic, rest.map Entry.id, k, false⟩ :: paused tail
  | stack => paused stack

/-- The dispatcher of a world. -/
def dispatcher (w : World) : Dispatcher Handler :=
  ⟨w.router, activations w.stack, w.deliveries, w.history⟩

/-- Where no delivery is about to move on, all of them wait for a handler. -/
theorem activations_bare {stack : List Frame} (hb : Bare stack) :
    activations stack = paused stack := by
  rcases stack with _ | ⟨f, tail⟩
  · rfl
  · cases f with
    | delivery n e rest k => exact absurd (bare_cons.mp hb) (by simp [delivers])
    | _ => rfl

/-- Code that is no delivery stands over what waits for it. -/
theorem activations_cons {f : Frame} (hf : delivers f = false) (tail : List Frame) :
    activations (f :: tail) = paused tail := by
  cases f with
  | delivery n e rest k => exact absurd hf (by simp [delivers])
  | _ => rfl

theorem happen_dispatchSteps (w : World) {e : Event} (he : aside e = true) :
    DispatchSteps (dispatcher w) (dispatcher (w.happen e)) := .single (.other e he)

/-- Code that is neither a delivery nor a handler is over. -/
theorem dispatcher_pop {f : Frame} {tail : List Frame} (hl : Layered w.stack)
    (hs : w.stack = f :: tail) (hf : delivers f = false) (hf' : isScript f = false) :
    dispatcher { w with stack := tail } = dispatcher w := by
  rw [hs] at hl
  simp only [dispatcher, hs, activations_cons hf, activations_bare (hl.bare hf')]

theorem dispatcher_push {f : Frame} (hb : Bare w.stack) (hf : delivers f = false) :
    dispatcher (w.push f) = dispatcher w := by
  simp only [dispatcher, World.push, activations_cons hf, activations_bare hb]

/-- On top there is a delivery, or there is none. -/
theorem bare_or_delivery (stack : List Frame) :
    Bare stack ∨ ∃ n e rest k tail, stack = .delivery n e rest k :: tail := by
  rcases stack with _ | ⟨f, tail⟩
  · exact .inl bare_nil
  · cases f with
    | delivery n e rest k => exact .inr ⟨n, e, rest, k, tail, rfl⟩
    | _ => exact .inl (bare_cons.mpr rfl)

theorem complete_bare (hb : Bare w.stack) : w.complete = w := by
  unfold World.complete
  split
  · rename_i n e rest k tail hs
    rw [hs] at hb
    exact absurd (bare_cons.mp hb) (by simp [delivers])
  · rfl

theorem failCall_bare (hb : Bare w.stack) (m : Option String) :
    ∃ message, w.failCall m = w.happen (.warned .error (some w.failureTopic) message) := by
  unfold World.failCall
  split
  · -- only below a delivery a failure counts as one of its calls
    rename_i n e rest k tail hs
    rw [hs] at hb
    exact absurd (bare_cons.mp hb) (by simp [delivers])
  · exact ⟨_, rfl⟩

section Script

variable {o : String} {cs : List Command} {a : Option String} {tail : List Frame}

theorem dispatcher_script (hs : w.stack = .script o cs a :: tail) (hb : Bare tail) :
    dispatcher { w with stack := tail } = dispatcher w := by
  simp only [dispatcher, hs, activations_cons (f := .script o cs a) rfl, activations_bare hb]

/-- A handler comes to its end. -/
theorem returned_dispatchSteps (hs : w.stack = .script o cs a :: tail) :
    DispatchSteps (dispatcher w) (dispatcher { w with stack := tail }.complete) := by
  -- the handler was called by a delivery, or by somebody else
  rcases bare_or_delivery tail with hb | ⟨n, e, rest, k, below, rfl⟩
  · rw [complete_bare (w := { w with stack := tail }) hb, dispatcher_script hs hb]
  · have hw : dispatcher w = ⟨w.router, ⟨n, e.topic, rest.map Entry.id, k, true⟩ :: paused below,
        w.deliveries, w.history⟩ := by
      simp [dispatcher, hs, activations, paused]
    rw [hw]
    exact .single .back

/-- A handler fails. -/
theorem failed_dispatchSteps (m : Option String) (hs : w.stack = .script o cs a :: tail) :
    DispatchSteps (dispatcher w) (dispatcher ({ w with stack := tail }.failCall m)) := by
  rcases bare_or_delivery tail with hb | ⟨n, e, rest, k, below, rfl⟩
  · obtain ⟨message, hfail⟩ := failCall_bare (w := { w with stack := tail }) hb m
    rw [hfail, ← dispatcher_script hs hb]
    exact happen_dispatchSteps _ rfl
  · have hw : dispatcher w = ⟨w.router, ⟨n, e.topic, rest.map Entry.id, k, true⟩ :: paused below,
        w.deliveries, w.history⟩ := by
      simp [dispatcher, hs, activations, paused]
    rw [hw]
    exact (ReflTransGen.single (.other _ rfl)).tail .crash

end Script

/-- A delivery calls a handler. -/
theorem called_dispatchSteps {n k : Nat} {e : Envelope} {l : Entry Handler}
    {rest : List (Entry Handler)} {tail : List Frame}
    (hs : w.stack = .delivery n e (l :: rest) k :: tail) :
    DispatchSteps (dispatcher w)
      ⟨w.router, ⟨n, e.topic, rest.map Entry.id, k, true⟩ :: paused tail, w.deliveries,
        .called n l.id :: w.history⟩ := by
  have hw : dispatcher w
      = ⟨w.router, ⟨n, e.topic, l.id :: rest.map Entry.id, k, false⟩ :: paused tail,
      w.deliveries, w.history⟩ := by
    simp [dispatcher, hs, activations]
  rw [hw]
  exact .single .call

/-- A data step registers, withdraws, moves the innermost delivery on, or has to do with none of
it. -/
theorem data_dispatchSteps (hl : Layered w.stack) (hc : DataStep u act w w') :
    DispatchSteps (dispatcher w) (dispatcher w') := by
  cases hc with
  | counters h =>
      -- counters are no part of the dispatcher
      have hsame : dispatcher w' = dispatcher w := by
        simp only [dispatcher, h.router, h.stack, h.deliveries, h.history]
      rw [hsame]
  | report e he =>
      cases e with
      | noted n => exact happen_dispatchSteps w rfl
      | warned level topic message => exact happen_dispatchSteps w rfl
      | _ => exact absurd he (by simp [isReport])
  | addHandler s h => exact .single (.register s h)
  | addListener l => exact happen_dispatchSteps w rfl
  | withdraw p id =>
      cases p with
      | router s => exact .single (.withdraw s id)
      | board => exact happen_dispatchSteps w rfl
  | enqueue e hs => exact happen_dispatchSteps w rfl
  | @script o cs a tail cs' a' hs =>
      have hsame : dispatcher { w with stack := .script o cs' a' :: tail } = dispatcher w := by
        simp only [dispatcher, hs, activations, paused, List.filterMap_cons]
      rw [hsame]
  | returned hs => exact returned_dispatchSteps hs
  | failed m hs => exact failed_dispatchSteps m hs
  | dispatch e hw =>
      -- whoever dispatches is at rest or in a script, so no handler is being called on top
      have hstep : DispatchStep (dispatcher w) _ := .begin e.topic
      simp only [dispatcher, activations_bare (bare_acting hw)] at hstep
      simp only [dispatcher, activations_bare (bare_acting hw)]
      exact .single hstep
  | called o cs hs => exact called_dispatchSteps hs
  | calledOnce hs => exact (called_dispatchSteps hs).tail .back
  | @ended n k e tail hs =>
      have hw : dispatcher w = ⟨w.router, ⟨n, e.topic, [], k, false⟩ :: paused tail, w.deliveries,
          w.history⟩ := by
        simp [dispatcher, hs, activations]
      rw [hs] at hl
      rw [hw]
      simp only [dispatcher, World.happen, activations_bare (hl.bare rfl)]
      exact .single .finish
  | _ => exact .refl

theorem offer_dispatchSteps (hb : Bare w.stack) (c : Change) :
    DispatchSteps (dispatcher w) (dispatcher (offer w c)) := by
  have hsame : dispatcher (offer w c) = dispatcher (w.happen (.posted c)) := by
    unfold offer
    cases w.board.draining with
    | true => rfl
    | false =>
        change (⟨_, activations (.announcement c [] :: w.stack), _, _⟩ : Dispatcher Handler)
          = ⟨_, activations w.stack, _, _⟩
        rw [activations_bare hb, activations_cons rfl]
        rfl
  rw [hsame]
  exact happen_dispatchSteps w rfl

/-- A change of the connection is an event that no delivery looks at. -/
theorem shift_dispatchSteps (hb : Bare w.stack) (t : Link × Option Change) :
    DispatchSteps (dispatcher w) (dispatcher (shift w t)) := by
  unfold shift
  split
  · rename_i c hc
    exact ReflTransGen.trans (happen_dispatchSteps { w with link := t.1 } rfl)
      (offer_dispatchSteps (w := { w with link := t.1 }.happen (.changed c)) hb c)
  · exact .refl

/-- The connection changes, and the one who has changed it is to go on afterwards. -/
theorem push_shift_dispatchSteps {f : Frame} (hf : delivers f = false) (hb : Bare w.stack)
    (t : Link × Option Change) :
    DispatchSteps (dispatcher w) (dispatcher (shift (w.push f) t)) := by
  rw [← dispatcher_push hb hf]
  exact shift_dispatchSteps (bare_cons.mpr hf) t

theorem stopSupervisor_dispatcher (w : World) (id : Option Nat) :
    dispatcher (w.stopSupervisor id) = dispatcher w := by
  cases id <;> rfl

theorem startSupervisor_dispatcher (w : World) (g : Nat) (previous : Option Nat) :
    dispatcher (w.startSupervisor g previous) = dispatcher w := by
  unfold World.startSupervisor
  dsimp only
  split
  · rfl
  · exact stopSupervisor_dispatcher _ _

theorem resume_dispatchSteps (w : World) (id : Nat) (next : Resumption) :
    DispatchSteps (dispatcher w) (dispatcher (w.resume id next)) := by
  unfold World.resume
  split
  · exact .refl
  · exact .refl
  · exact happen_dispatchSteps w rfl
  · exact .refl

/-- **Every small step of a world is made of steps of its dispatcher.** -/
theorem step_dispatchSteps (hl : Layered w.stack) (hd : SmallStep u act w w') :
    DispatchSteps (dispatcher w) (dispatcher w') := by
  cases hd with
  | data hc => exact data_dispatchSteps hl hc
  | pass nanos hs => exact .refl
  | announce c hw hb => exact offer_dispatchSteps (bare_acting hw) c
  | @heardOnce c l rest tail hs =>
      have hsame : dispatcher { w with stack := .announcement c rest :: tail } = dispatcher w := by
        simp [dispatcher, hs, activations, paused]
      rw [← hsame]
      exact happen_dispatchSteps _ rfl
  | @heard c l rest tail o cs hs =>
      have hsame : dispatcher { w with stack := .script o cs none :: .announcement c rest :: tail }
          = dispatcher w := by
        simp [dispatcher, hs, activations, paused]
      rw [← hsame]
      exact happen_dispatchSteps _ rfl
  | @drained c tail hs hp =>
      have hsame : dispatcher { w with stack := tail } = dispatcher w :=
          dispatcher_pop hl hs rfl rfl
      rw [← hsame]
      exact .refl
  | skipped hs hp hd => exact happen_dispatchSteps w rfl
  | @announced c new rest tail hs hp hd =>
      have hsame : dispatcher { w with stack := .announcement new w.board.listeners :: tail }
          = dispatcher w := by
        simp [dispatcher, hs, activations, paused]
      rw [← hsame]
      exact .single (.other _ rfl)
  | @connect hy hw hr hm =>
      -- supervisors are no part of the dispatcher; only what is pushed is looked at
      rw [← stopSupervisor_dispatcher w w.link.supervisor]
      refine push_shift_dispatchSteps rfl ?_ _
      rw [stopSupervisor_stack]
      exact bare_acting hw
  | disconnect hy hw =>
      rw [← stopSupervisor_dispatcher w w.link.idleSupervisor]
      refine shift_dispatchSteps ?_ _
      rw [stopSupervisor_stack]
      exact bare_acting hw
  | start hs =>
      -- what lies below the frame of a connection is no delivery that waits for its end
      rw [startSupervisor_dispatcher, dispatcher_pop hl hs rfl rfl]
  | resume hs =>
      rw [← dispatcher_pop hl hs rfl rfl]
      exact resume_dispatchSteps _ _ _
  | dial hr hs hp => exact happen_dispatchSteps w rfl
  | wait hr hs hp hf => exact .refl
  | @giveUp id p d s hr hs hp hf hd =>
      rw [← stopSupervisor_dispatcher w (some p)]
      exact happen_dispatchSteps _ rfl
  | retry hy hr hs hp hd ht => exact push_shift_dispatchSteps rfl (bare_rest hr) _
  | @leave id s sockets hr hs hg hl => exact happen_dispatchSteps { w with sockets := sockets } rfl
  | halt hr hs hp => exact happen_dispatchSteps w rfl
  | @opened id s url t hy hr hs hp ht =>
      refine .trans (happen_dispatchSteps ({ w with sockets := w.sockets ++ [Socket.mk []] }.rest id
        (.inSession w.sockets.length)) ?_) (push_shift_dispatchSteps ?_ ?_ t)
      · rfl
      · rfl
      · exact bare_rest (w := w) hr
  | @failed id s t sockets hy hr hs hp ht hl =>
      refine .trans (happen_dispatchSteps { w with sockets := sockets } ?_)
        (push_shift_dispatchSteps ?_ ?_ _)
      · rfl
      · rfl
      · exact bare_rest (w := w) hr
  | dropped hr hp => exact happen_dispatchSteps w rfl
  | wrote hr hs hp hq => exact happen_dispatchSteps w rfl
  | wroteClose hr hs hp hq ho => exact happen_dispatchSteps w rfl
  | read i hr hs hp => exact happen_dispatchSteps w rfl
  | enter hr hs hp => rw [dispatcher_push (bare_rest hr) rfl]

/-- A world in which deliveries are layered and the invariant of its dispatcher holds. -/
def DispatchInv (w : World) : Prop := Layered w.stack ∧ DispatcherInv (dispatcher w)

theorem dispatchInv_runs (hw : DispatchInv w) (h : Runs w w') : DispatchInv w' :=
  runs_keep (P := DispatchInv)
    (fun hv hd => ⟨layered_step hv.1 hd, dispatcherInv_steps hv.2 (step_dispatchSteps hv.1 hd)⟩) hw
      h

theorem dispatchInv_reachable {parts : Parts} {setup : Setup} {hasRuntime : Bool}
    {stamps : Nat → Stamp} {as : List Action}
    (h : (World.initial parts setup hasRuntime stamps).actAll as = some w) : DispatchInv w := by
  have hstart : DispatchInv (World.initial parts setup hasRuntime stamps) :=
    ⟨trivial, RegistryInv.empty, DeliveriesInv.empty⟩
  exact dispatchInv_runs hstart (actAll_runs h)

theorem dispatcherInv_reachable {parts : Parts} {setup : Setup} {hasRuntime : Bool}
    {stamps : Nat → Stamp} {as : List Action}
    (h : (World.initial parts setup hasRuntime stamps).actAll as = some w) :
    DispatcherInv (dispatcher w) :=
  (dispatchInv_reachable h).2

/-! ## Exact fan-out -/

def isBegun : Mark → Bool
  | .began .. => true
  | _ => false

theorem calls_not_begun (fates : List (Nat × Bool)) :
    ∀ m ∈ fates.flatMap marks, isBegun m = false := by
  intro m hm
  obtain ⟨⟨id, ok⟩, -, hm⟩ := List.mem_flatMap.mp hm
  cases ok with
  | true =>
      obtain rfl := List.mem_singleton.mp hm
      rfl
  | false =>
      rcases List.mem_cons.mp hm with rfl | hm
      · rfl
      · obtain rfl := List.mem_singleton.mp hm
        rfl

/-- A delivery begins once, and nothing of it happens before. -/
theorem begun_once {before after rest : List Mark} {topic topic' : String} {ids ids' : List Nat}
    (h : before ++ .began topic ids :: after = .began topic' ids' :: rest)
    (hrest : ∀ m ∈ rest, isBegun m = false) :
    topic = topic' ∧ ids = ids' ∧ after = rest := by
  rcases before with _ | ⟨m, before⟩
  · obtain ⟨hhead, htail⟩ := List.cons.inj h
    obtain ⟨htopic, hids⟩ := Mark.began.inj hhead
    exact ⟨htopic, hids, htail⟩
  · obtain ⟨-, htail⟩ := List.cons.inj h
    have hmem : Mark.began topic ids ∈ rest := by
      rw [← htail]
      exact List.mem_append_right _ List.mem_cons_self
    exact absurd (hrest _ hmem) (by simp [isBegun])

/-- How a delivery that has begun for a list of handlers stands, given what has happened since. -/
inductive Account (w : World) (n : Nat) (topic : String) (ids : List Nat) (later : List Event) :
    Prop where
  /-- It has called all of them in order and has ended with the number of those who did not fail. -/
  | finished (fates : List (Nat × Bool)) (hids : ids = fates.map Prod.fst)
      (htrace : inOrder (markOf n) later = fates.flatMap marks ++ [.ended (completed fates)])
  /-- It has called some of them in order, one of them may be at it, and the rest is to come. -/
  | underway (a : Activation) (ha : a ∈ activations w.stack) (hn : a.number = n)
      (htopic : a.topic = topic) (fates : List (Nat × Bool)) (current : Option Nat)
      (hcurrent : current.isSome = a.calling) (hcompleted : a.completed = completed fates)
      (hids : ids = fates.map Prod.fst ++ current.toList ++ a.rest)
      (htrace : inOrder (markOf n) later
        = fates.flatMap marks ++ (current.map Mark.called).toList)

/-- **How every delivery that has begun stands.** -/
theorem DispatcherInv.account (hl : DispatcherInv (dispatcher w)) {later earlier : List Event}
    {n : Nat} {topic : String} {ids : List Nat}
    (hsplit : w.history = later ++ .began n topic ids :: earlier) :
    Account w n topic ids later := by
  have hhistory : inOrder (markOf n) w.history
      = inOrder (markOf n) earlier ++ .began topic ids :: inOrder (markOf n) later := by
    rw [hsplit, inOrder_append,
      inOrder_of_some (f := markOf n) (b := .began topic ids) (by simp [markOf])]
    simp
  -- a delivery that has left a mark has begun
  have hbegun : n < w.deliveries := by
    refine Nat.lt_of_not_le fun hle => ?_
    have hnone : inOrder (markOf n) w.history = [] := hl.deliveriesInv.unbegun n hle
    rw [hhistory] at hnone
    exact absurd hnone (by simp)
  -- what has happened since is what is left of the trace once its first mark is taken away
  by_cases hactive : n ∈ (activations w.stack).map Activation.number
  · obtain ⟨a, ha, rfl⟩ := List.mem_map.mp hactive
    obtain ⟨fates, current, hcurrent, hcompleted, htrace⟩ := hl.deliveriesInv.underway a ha
    obtain ⟨htopic, hids, hlater⟩ := begun_once (hhistory.symm.trans htrace) (by
      intro m hm
      rcases List.mem_append.mp hm with hm | hm
      · exact calls_not_begun fates m hm
      · cases current with
        | none => exact absurd hm (by simp)
        | some id =>
            obtain rfl := List.mem_singleton.mp hm
            rfl)
    exact .underway a ha rfl htopic.symm fates current hcurrent hcompleted hids hlater
  · obtain ⟨topic', fates, htrace⟩ := hl.deliveriesInv.finished n hbegun hactive
    obtain ⟨-, hids, hlater⟩ := begun_once (hhistory.symm.trans htrace) (by
      intro m hm
      rcases List.mem_append.mp hm with hm | hm
      · exact calls_not_begun fates m hm
      · obtain rfl := List.mem_singleton.mp hm
        rfl)
    exact .finished fates hids hlater

/-- The code that runs can always go on. -/
theorem exists_go (hs : w.stack ≠ []) : ∃ w', w.go = some w' := by
  unfold World.go
  split
  · rename_i hnil
    exact absurd hnil hs
  all_goals exact ⟨_, rfl⟩

theorem go_ended {n k : Nat} {e : Envelope} {tail : List Frame}
    (hs : w.stack = .delivery n e [] k :: tail) :
    w.go = some (({ w with stack := tail }.happen (.ended n k)).answer (.count k)) := by
  simp only [World.go, hs]

theorem failCall_history (w : World) (m : Option String) :
    ∃ es, w.failCall m = { w with history := es ++ w.history } := by
  unfold World.failCall
  split
  · exact ⟨[_, _], rfl⟩
  · exact ⟨[_], rfl⟩

/-- A handler that fails leaves everything it has done. -/
theorem go_failed {o : String} {m : Option String} {cs : List Command} {a : Option String}
    {tail : List Frame} (hs : w.stack = .script o (.fail m :: cs) a :: tail) :
    ∃ es, w.go = some { w with stack := tail, history := es ++ w.history } := by
  obtain ⟨es, hes⟩ := failCall_history { w with stack := tail } m
  refine ⟨es, ?_⟩
  simp only [World.go, hs, World.perform]
  rw [hes]

/-- A handler that reads another type than it is called with has nothing to do. -/
theorem go_mismatch {n k : Nat} {e : Envelope} {l : Entry Handler} {rest : List (Entry Handler)}
    {tail : List Frame} {name : String} {full : Bool} {kind : PayloadKind} {script : Script}
    {m : Json.Mismatch} (hs : w.stack = .delivery n e (l :: rest) k :: tail)
    (hl : l.handler = .app name full (some kind) script)
    (hm : kind.reread e.payload = .error m) :
    w.go = some { w with
      stack := .delivery n e rest (k + 1) :: tail
      history := .warned .warning (some e.topic)
        ("payload does not match subscriber type: " ++ Envelope.mismatchMessage m)
          :: .called n l.id :: w.history } := by
  simp only [World.go, hs, World.callHandler, hl, hm]
  rfl

/-- What holds of the deliveries in a world. -/
structure FansOut (w : World) : Prop where
  /-- A delivery begins for those who are registered then: for its topic, in the order of
  registration, and then for all topics, in that order. -/
  audience : ∀ later n topic ids earlier, w.history = later ++ .began n topic ids :: earlier →
    ids = standing (.router (.topic topic)) earlier ++ standing (.router .all) earlier ∧ ids.Nodup
  /-- It calls them in order, each of them once, and no one else, whatever happens meanwhile. -/
  calls : ∀ later n topic ids earlier, w.history = later ++ .began n topic ids :: earlier →
    Account w n topic ids later
  /-- When no code runs it has called all of them. -/
  complete : w.stack = [] → ∀ later n topic ids earlier,
    w.history = later ++ .began n topic ids :: earlier →
    ∃ fates, ids = fates.map Prod.fst
      ∧ inOrder (markOf n) later = fates.flatMap marks ++ [.ended (completed fates)]
  progress : w.stack ≠ [] → ∃ w', w.go = some w'
  /-- Whoever is called is called with the envelope that is delivered. -/
  invoked : ∀ n e (l : Entry Handler) rest k tail, w.stack = .delivery n e (l :: rest) k :: tail →
    ∃ w', w.go = some w' ∧ Invoked w n e l rest k tail w'
  /-- A number stands for one handler, registered or still to be called. -/
  distinct : ∀ l l', KnownHandler w l → KnownHandler w l' → l.id = l'.id → l = l'
  /-- The number that is counted is the reply. -/
  reply : ∀ n e k tail, w.stack = .delivery n e [] k :: tail →
    w.go = some (({ w with stack := tail }.happen (.ended n k)).answer (.count k))
  /-- A handler that fails ends there; everything else stays as it has left it. -/
  failure : ∀ o m cs a tail, w.stack = .script o (.fail m :: cs) a :: tail →
    ∃ es, w.go = some { w with stack := tail, history := es ++ w.history }
  /-- A handler whose type the payload does not have counts, and does not run. -/
  mismatch : ∀ n e (l : Entry Handler) rest k tail name full kind script m,
    w.stack = .delivery n e (l :: rest) k :: tail →
    l.handler = .app name full (some kind) script → kind.reread e.payload = .error m →
    w.go = some { w with
      stack := .delivery n e rest (k + 1) :: tail
      history := .warned .warning (some e.topic)
        ("payload does not match subscriber type: " ++ Envelope.mismatchMessage m)
          :: .called n l.id :: w.history }

/-- **Every delivery calls exactly those who were registered when it began**, in order and each of
them once, however its handlers change the registry, begin other deliveries or fail. -/
theorem exact_fan_out {parts : Parts} {setup : Setup} {hasRuntime : Bool} {stamps : Nat → Stamp}
    {as : List Action} {w : World}
    (h : (World.initial parts setup hasRuntime stamps).actAll as = some w) : FansOut w := by
  have hl := dispatcherInv_reachable h
  have hcalls : ∀ later n topic ids earlier, w.history = later ++ .began n topic ids :: earlier →
      Account w n topic ids later := fun later n topic ids earlier hsplit => hl.account hsplit
  refine ⟨?_, hcalls, ?_, exists_go, fun n e l rest k tail hs => go_invokes hs,
    (distinct_handlers h).eq_of_id, fun n e k tail hs => go_ended hs,
    fun o m cs a tail hs => go_failed hs,
    fun n e l rest k tail name full kind script m hs hh hm => go_mismatch hs hh hm⟩
  · intro later n topic ids earlier hsplit
    -- what was fair when the delivery began can be read in the history still
    have hfair : Fair w.history := hl.registryInv.fair
    rw [hsplit] at hfair
    exact hfair.of_append.1
  · intro hq later n topic ids earlier hsplit
    cases hcalls later n topic ids earlier hsplit with
    | finished fates hids htrace => exact ⟨fates, hids, htrace⟩
    | underway a ha hn htopic fates current hcurrent hcompleted hids htrace =>
        rw [hq] at ha
        exact absurd ha (by simp [activations, paused])

/-- The first of three handlers for a topic withdraws the second, registers one more for all topics,
dispatches an envelope of its own and fails; the third one reads another type than there is. -/
def tangledRun : List Action :=
  [.command (.subscribe false "first" (some "a") false fun _ =>
      [.unsubscribe "second", .subscribe false "late" none false fun _ => [], .dispatch "b" .null,
        .fail none]),
    .command (.subscribe false "second" (some "a") false fun _ => []),
    .command (.subscribeTyped "typed" "a" .chatMessage fun _ => []),
    .command (.subscribe false "all" none false fun _ => []),
    .command (.dispatch "a" (.bool true))] ++ List.replicate 16 .go

/-- The delivery still calls the second handler and not the new one, which the nested delivery
calls. The handler that both of them call is called with the envelope of each. -/
theorem exact_fan_out_tangled :
    ∃ w, (World.initial ⟨true, false, false⟩ .standard true fun _ => ⟨"m1", .epoch⟩).actAll
        tangledRun = some w
      ∧ w.stack = []
      ∧ inOrder (markOf 0) w.history = [.began "a" [1, 2, 3, 4], .called 1, .crashed, .called 2,
        .called 3, .called 4, .ended 3]
      ∧ inOrder (markOf 1) w.history = [.began "b" [4, 5], .called 4, .called 5, .ended 2]
      ∧ notesBehind (calledHandler 2) w.history = [.got "second" "a" (.bool true) none]
      ∧ notesBehind (calledHandler 4) w.history
        = [.got "all" "b" .null none, .got "all" "a" (.bool true) none]
      ∧ FansOut w := by
  obtain ⟨w, h, hq, houter, hnested, hsecond, hall⟩ :
      ∃ w, (World.initial ⟨true, false, false⟩ .standard true fun _ => ⟨"m1", .epoch⟩).actAll
          tangledRun = some w
        ∧ w.stack = []
        ∧ inOrder (markOf 0) w.history = [.began "a" [1, 2, 3, 4], .called 1, .crashed, .called 2,
          .called 3, .called 4, .ended 3]
        ∧ inOrder (markOf 1) w.history = [.began "b" [4, 5], .called 4, .called 5, .ended 2]
        ∧ notesBehind (calledHandler 2) w.history = [.got "second" "a" (.bool true) none]
        ∧ notesBehind (calledHandler 4) w.history
          = [.got "all" "b" .null none, .got "all" "a" (.bool true) none] :=
    ⟨_, rfl, rfl, rfl, rfl, rfl, rfl⟩
  exact ⟨w, h, hq, houter, hnested, hsecond, hall, exact_fan_out h⟩

end LiveLink.Proofs
