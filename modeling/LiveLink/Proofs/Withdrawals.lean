import LiveLink.Proofs.SessionSteps

/-!
# Withdrawals

A view that ends takes back what it wanted, and nothing more is said for it. There is
one exception. Who is called with a *connected* is fixed when its delivery begins, and a
view that ends while it is still to be called is called all the same: then it asks
once more, in the session that it was called about, for what it wanted. After that it
is silent too.
-/

namespace LiveLink.Proofs

open LiveLink

/-- What was said for a view, in whatever session. -/
def messagesOf (m : List ViewMessage) (n : Nat) : List ViewMessage := m.filter (·.sender = some n)

section Messages

variable {s : ViewSession} {m : List ViewMessage} {n : Nat}

theorem messagesOf_append (m m' : List ViewMessage) (n : Nat) :
    messagesOf (m ++ m') n = messagesOf m n ++ messagesOf m' n := List.filter_append ..

theorem messagesOf_self (notices : List Notice) :
    messagesOf (s.sayFor (some n) notices) n = s.sayFor (some n) notices :=
  List.filter_eq_self.mpr fun _ hu => decide_eq_true (mem_sayFor.mp hu).2.1

theorem messagesOf_other {sender : Option Nat} (h : sender ≠ some n) (notices : List Notice) :
    messagesOf (s.sayFor sender notices) n = [] := by
  refine List.filter_eq_nil_iff.mpr fun u hu => ?_
  rw [(mem_sayFor.mp hu).2.1]
  simpa using h

end Messages

/-- A view does not live any more. Since the state in which that was so first, nothing was said for
it, unless it was still to be called then. -/
structure Gone (first : ViewSession) (n : Nat) (i : Interest) (s : ViewSession)
    (m : List ViewMessage) : Prop where
  member : s.members[n]? = some ⟨i, false⟩
  listening : s.uncalled.Nodup
  /-- Until it is called it is silent, and no other session begins. -/
  waiting : n ∈ s.uncalled → n ∈ first.uncalled ∧ messagesOf m n = []
    ∧ (s.socket = first.socket ∨ s.socket = none)
  said : messagesOf m n = [] ∨ n ∈ first.uncalled ∧ ∃ k, first.socket = some k
    ∧ messagesOf m n = i.announcements.map fun notice => ⟨k, some n, notice⟩

namespace Gone

variable {first s s' : ViewSession} {n : Nat} {i : Interest} {m said : List ViewMessage}

theorem start (hn : first.members[n]? = some ⟨i, false⟩) (hlistening : first.uncalled.Nodup) :
    Gone first n i first [] :=
  ⟨hn, hlistening, fun hmem => ⟨hmem, rfl, .inl rfl⟩, .inl rfl⟩

/-- Who lives is another one. -/
theorem ne_of_live (h : Gone first n i s m) {d : Nat} {j : Interest}
    (hd : s.members[d]? = some ⟨j, true⟩) : d ≠ n := by
  rintro rfl
  exact absurd (Member.mk.inj (Option.some.inj (hd.symm.trans h.member))).2 (by simp)

theorem ne_of_lives (h : Gone first n i s m) {d : Nat} (hd : s.Lives d) : d ≠ n := by
  obtain ⟨⟨j, live⟩, hj, hlive⟩ := hd
  obtain rfl : live = true := hlive
  exact h.ne_of_live hj

/-- Others say something, and who is still to be called stays the same. -/
theorem keep (h : Gone first n i s m) (hmember : s'.members[n]? = s.members[n]?)
    (hlistening : s'.uncalled = s.uncalled) (hsocket : s'.socket = s.socket)
    (hsaid : messagesOf said n = []) : Gone first n i s' (m ++ said) := by
  have hmessages : messagesOf (m ++ said) n = messagesOf m n := by
    rw [messagesOf_append, hsaid, List.append_nil]
  refine ⟨hmember.trans h.member, hlistening ▸ h.listening, ?_, ?_⟩
  · rw [hlistening, hmessages, hsocket]
    exact h.waiting
  · rw [hmessages]
    exact h.said

theorem viewAdded (h : Gone first n i s m) (j : Interest) :
    n ≠ s.members.length ∧ (s.addView j).members[n]? = s.members[n]? := by
  have hlt := (List.getElem?_eq_some_iff.mp h.member).1
  exact ⟨Nat.ne_of_lt hlt, List.getElem?_append_left hlt⟩

/-- The call of a view that does not live. -/
theorem call (h : Gone first n i s m) {c : Nat} {rest : List Nat} (hu : s.uncalled = c :: rest) :
    Gone first n i { s with uncalled := rest } (m ++ s.announcement c) := by
  have hlistening := h.listening
  rw [hu] at hlistening
  obtain ⟨hfirst, hnodup⟩ := List.nodup_cons.mp hlistening
  by_cases hc : c = n
  · subst hc
    -- this is the one call that is still to come, in the session it is about or in none
    obtain ⟨hmem, hsilent, hsocket⟩ := h.waiting (hu ▸ List.mem_cons_self)
    have hmessages : messagesOf (m ++ s.announcement c) c = s.sayFor (some c) i.announcements := by
      rw [messagesOf_append, hsilent, ViewSession.announcement, h.member, messagesOf_self]
      rfl
    refine ⟨h.member, hnodup, fun hmem' => absurd hmem' hfirst, ?_⟩
    rw [hmessages, ViewSession.sayFor]
    cases hs : s.socket with
    | none => exact .inl rfl
    | some k =>
        have hk : first.socket = some k := by
          rcases hsocket with heq | hnone
          · exact heq.symm.trans hs
          · exact absurd (hs.symm.trans hnone) (by simp)
        refine .inr ⟨hmem, k, hk, ?_⟩
        rw [addressed, List.map_map]
        rfl
  · have hmessages : messagesOf (m ++ s.announcement c) n = messagesOf m n := by
      rw [messagesOf_append, ViewSession.announcement,
        messagesOf_other fun heq => hc (Option.some.inj heq),
        List.append_nil]
    refine ⟨h.member, hnodup, ?_, hmessages ▸ h.said⟩
    intro hmem
    rw [hmessages]
    exact h.waiting (hu ▸ List.mem_cons_of_mem _ hmem)

/-- **Who is gone stays gone**, and is silent once it is not to be called any more. -/
theorem sessionStep (h : Gone first n i s m) (he : SessionStep s said s') :
    Gone first n i s' (m ++ said) := by
  have of_others : ∀ {d : Nat} {notices}, d ≠ n → messagesOf (s.sayFor (some d) notices) n = [] :=
    fun hne => messagesOf_other (fun heq => hne (Option.some.inj heq)) _
  cases he with
  | pass => exact h.keep rfl rfl rfl rfl
  | lost =>
      refine ⟨h.member, h.listening, ?_, by simpa using h.said⟩
      intro hmem
      obtain ⟨hfirst, hsilent, -⟩ := h.waiting hmem
      exact ⟨hfirst, by simpa using hsilent, .inr rfl⟩
  | opened hs hu hnodup hlive =>
      -- only views that live listen when a delivery begins
      refine ⟨h.member, hnodup, fun hmem => ?_, by simpa using h.said⟩
      exact absurd rfl (h.ne_of_lives ((hlive n).mp hmem))
  | tell notice => exact h.keep rfl rfl rfl (messagesOf_other (by simp) _)
  | addView j =>
      obtain ⟨hne, hmember⟩ := h.viewAdded j
      exact h.keep hmember rfl rfl (of_others hne.symm)
  | replace j others hlive =>
      obtain ⟨hne, hmember⟩ := h.viewAdded j
      have hother := h.ne_of_lives hlive
      refine h.keep ((List.getElem?_modify_ne _ _ hother).trans hmember) rfl rfl ?_
      rw [messagesOf_append, of_others hne.symm, ViewSession.farewell, of_others hother]
      rfl
  | endView others hlive =>
      have hother := h.ne_of_lives hlive
      exact h.keep (List.getElem?_modify_ne _ _ hother) rfl rfl (of_others hother)
  | widen hmember hs =>
      have hother := h.ne_of_live hmember
      exact h.keep (List.getElem?_modify_ne _ _ hother) rfl rfl (of_others hother)
  | narrow hmember hstream hs =>
      have hother := h.ne_of_live hmember
      exact h.keep (List.getElem?_modify_ne _ _ hother) rfl rfl (of_others hother)
  | call hu => exact h.call hu

end Gone

/-- **What is taken back stays taken back**, except by who is still to be called.

Let a view have ended at any time, in a listener or a handler too, and let anything happen
afterwards. Unless a delivery of *connected* that was under way has it still to call, not one
message is queued for it any more, in any session. If it has, either nothing is queued for it, or
what it wanted is asked for once more, in the session that was there when it ended, and nothing else
is. -/
theorem withdrawal_is_final {router client : Bool} {setup : Setup} {hasRuntime : Bool}
    {stamps : Nat → Stamp} {as₀ as : List Action} {w₀ w : World}
    (h₀ : (World.initial ⟨router, false, client⟩ setup hasRuntime stamps).actAll as₀ = some w₀)
    {n : Nat} {a : Adapter} (ha : w₀.adapters[n]? = some a) (hended : a.live = false)
    (h : w₀.actAll as = some w) :
    inOrder queued? w.history
        = inOrder queued? w₀.history ++ (messagesAlong w₀ as).map (fun u => (u.socket, u.notice))
      ∧ (n ∉ calling w₀.stack → messagesOf (messagesAlong w₀ as) n = [])
      ∧ (messagesOf (messagesAlong w₀ as) n = [] ∨ ∃ k, w₀.link.sendsTo = some k
          ∧ messagesOf (messagesAlong w₀ as) n
            = a.view.announcements.map fun notice => ⟨k, some n, notice⟩) := by
  obtain ⟨hw₀, hconsistent⟩ := consistent_reachable h₀
  have hmember : (viewSession w₀).members[n]? = some ⟨interest a.view, false⟩ :=
    hended ▸ member_viewSession (g := viewWorld w₀) ha
  -- a delivery that is still to begin will call only views that live
  have hlistening : n ∈ (viewSession w₀).uncalled → n ∈ calling w₀.stack := by
    intro hmem
    rcases List.mem_append.mp hmem with hmem | hmem
    · exact hmem
    · split at hmem
      · obtain ⟨b, hb, hlive⟩ := hw₀.listeners.mem_callees.mp hmem
        obtain rfl := Option.some.inj (ha.symm.trans hb)
        exact absurd (hended.symm.trans hlive) (by simp)
      · exact absurd hmem List.not_mem_nil
  obtain ⟨-, hgone⟩ := hw₀.along Gone.sessionStep h (Gone.start hmember hconsistent.listening)
  rw [List.nil_append] at hgone
  refine ⟨messagesAlong_queued h, fun hnot => ?_, ?_⟩
  · exact hgone.said.resolve_right fun hsaid => hnot (hlistening hsaid.1)
  · rcases hgone.said with hsilent | ⟨-, k, hk, hsaid⟩
    · exact .inl hsilent
    · exact .inr ⟨k, hk, announcements_interest a.view ▸ hsaid⟩

/-- A chat joins and is left, in one session. -/
def leftEarly : List Action :=
  List.flatten [[.command (.joinChat "room" "talk"), .command .connect], List.replicate 4 .go,
    [.wake 0, .answered 0 true], List.replicate 4 .go, [.command (.leaveChat "room")]]

/-- The session is lost, and another one begins. -/
def nextSession : List Action :=
  List.flatten [[.read 0 .ended], List.replicate 3 .go, [.pass 1000000000, .wake 0],
    List.replicate 3 .go, [.answered 0 true], List.replicate 3 .go]

theorem withdrawal_is_final_early :
    ∃ w₀ w, (World.initial ⟨true, false, true⟩ .standard true fun _ => ⟨"m1", .epoch⟩).actAll
        leftEarly = some w₀
      ∧ w₀.actAll nextSession = some w ∧ w.link.outbound = some 1
      ∧ messagesOf (messagesAlong w₀ nextSession) 0 = [] := by
  obtain ⟨w₀, w, a, h₀, h, hout, hq, ha, hended⟩ :
      ∃ (w₀ w : World) (a : Adapter),
        (World.initial ⟨true, false, true⟩ .standard true fun _ => ⟨"m1", .epoch⟩).actAll
          leftEarly = some w₀
        ∧ w₀.actAll nextSession = some w ∧ w.link.outbound = some 1 ∧ calling w₀.stack = []
        ∧ w₀.adapters[0]? = some a ∧ a.live = false := ⟨_, _, _, rfl, rfl, rfl, rfl, rfl, rfl⟩
  obtain ⟨-, hsilent, -⟩ := withdrawal_is_final h₀ ha hended h
  exact ⟨w₀, w, h₀, h, hout, hsilent (hq ▸ List.not_mem_nil)⟩

/-- A listener that is called before a chat leaves it when the client is connected. -/
def leftDuringDelivery : List Action :=
  List.flatten [[.command (.listen "guest" (some .connected) fun _ => [.leaveChat "room"]),
    .command (.joinChat "room" "talk"), .command .connect], List.replicate 5 .go,
    [.wake 0, .answered 0 true], List.replicate 3 .go]

/-- The chat has ended and has left; then it is called, and joins once more. Nobody will leave. -/
theorem withdrawal_overtaken :
    ∃ w₀ w, (World.initial ⟨true, false, true⟩ .standard true fun _ => ⟨"m1", .epoch⟩).actAll
        leftDuringDelivery = some w₀
      ∧ (w₀.adapters.map fun a => (interest a.view, a.live)) = [(.chat "talk", false)]
      ∧ inOrder queued? w₀.history = [(0, "chat.leave", View.named "eventId" "talk")]
      ∧ w₀.actAll (List.replicate 4 .go) = some w ∧ w.stack = [] ∧ w.link.status = .connected
      ∧ messagesAlong w₀ (List.replicate 4 .go)
        = [⟨0, some 0, "chat.join", View.named "eventId" "talk"⟩]
      ∧ inOrder queued? w.history = [(0, "chat.leave", View.named "eventId" "talk"),
        (0, "chat.join", View.named "eventId" "talk")] :=
  ⟨_, _, rfl, rfl, rfl, rfl, rfl, rfl, rfl, rfl⟩

end LiveLink.Proofs
