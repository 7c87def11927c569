import LiveLink.Proofs.SessionSteps

/-!
# Shared interests

Views ask for things by name, and two views may ask for the same thing. The server
knows one client only: it goes by the last message about a thing. So a view harms
another if it takes back, in the session, what the other still wants.

`conflicts` lists where that happens, by session and by thing; it looks at what the views
want, not at what is sent. Wherever it does not happen, the last message about what a
view wants is one that asks for it (`last_request_kept`).
-/

namespace LiveLink.Proofs

open LiveLink

/-! ## Wants -/

/-- What a view wants, thing by thing. -/
def Interest.wants : Interest → List Want
  | .chat eventId => [.event eventId]
  | .notices => []
  | .health streams => streams.map .stream

/-- What the view of a number wants, as long as it lives. -/
def wantedBy (w : World) (n : Nat) : List Want :=
  (w.adapters[n]?).elim [] fun a => if a.live then (interest a.view).wants else []

/-- What is wanted by views that live. -/
def wanted (w : World) : List Want := (List.range w.adapters.length).flatMap (wantedBy w)

/-- What views do not want any more. -/
def unwanted (w w' : World) : List Want :=
  (List.range w.adapters.length).flatMap fun n => (wantedBy w n).filter (· ∉ wantedBy w' n)

/-- What the application takes back for itself. -/
def retracted (said : List ViewMessage) : List Want :=
  said.filterMap fun u =>
    match u.sender, request? u.notice with
    | none, some (x, false) => some x
    | _, _ => none

/-- What is taken back in a session, on the way to a world, although a view wants it there. -/
def conflictsUntil (w : World) (a : Action) (w' : World) : List (Nat × Want) :=
  match w.link.sendsTo with
  | some k => ((unwanted w w' ++ retracted (said w a)).filter (· ∈ wanted w')).map fun x => (k, x)
  | none => []

/-- What is taken back in an action although others want it, and the session in which it is. -/
def conflicts (w : World) (a : Action) : List (Nat × Want) := (w.act a).elim [] (conflictsUntil w a)

/-- Whether the last message about a thing asks for it or takes it back. -/
def lastRequest (x : Want) (notices : List Notice) : Option Bool :=
  (notices.filterMap fun n =>
    (request? n).bind fun r => if r.1 = x then some r.2 else none).getLast?

/-- What was queued for a socket. -/
def queuedFor (w : World) (socket : Nat) : List Notice :=
  ((inOrder queued? w.history).filter (·.1 = socket)).map Prod.snd

/-- What was said on a socket. -/
def saidOn (m : List ViewMessage) (socket : Nat) : List Notice :=
  (m.filter (·.socket = socket)).map (·.notice)

section LastRequest

variable {x : Want} {b : Bool} {notices : List Notice}

theorem mem_requests : b ∈ (notices.filterMap fun n =>
      (request? n).bind fun r => if r.1 = x then some r.2 else none)
    ↔ ∃ n ∈ notices, request? n = some (x, b) := by
  simp only [List.mem_filterMap, Option.bind_eq_some_iff]
  constructor
  · rintro ⟨n, hn, ⟨y, b'⟩, hr, hx⟩
    split at hx
    · rename_i hy
      obtain rfl := Option.some.inj hx
      exact ⟨n, hn, hy ▸ hr⟩
    · exact absurd hx (by simp)
  · rintro ⟨n, hn, hr⟩
    exact ⟨n, hn, (x, b), hr, if_pos rfl⟩

theorem exists_of_lastRequest (h : lastRequest x notices = some b) :
    ∃ n ∈ notices, request? n = some (x, b) :=
  mem_requests.mp (List.mem_of_getLast? h)

theorem lastRequest_append (x : Want) (before after : List Notice) :
    lastRequest x (before ++ after) = (lastRequest x after).or (lastRequest x before) := by
  rw [lastRequest, List.filterMap_append, List.getLast?_append]
  rfl

/-- If something is asked for and not taken back, the last message asks for it. -/
theorem lastRequest_of_asked {n : Notice} (hn : n ∈ notices) (hr : request? n = some (x, true))
    (hkept : ∀ n ∈ notices, request? n ≠ some (x, false)) : lastRequest x notices = some true := by
  cases hlast : lastRequest x notices with
  | none =>
      have hnone := List.getLast?_eq_none_iff.mp hlast
      exact absurd (hnone ▸ mem_requests.mpr ⟨n, hn, hr⟩) List.not_mem_nil
  | some b =>
      obtain ⟨n', hn', hr'⟩ := exists_of_lastRequest hlast
      cases b with
      | true => rfl
      | false => exact absurd hr' (hkept n' hn')

/-- What is not taken back stays as it was, or is asked for. -/
theorem lastRequest_kept {before : List Notice} (hbefore : lastRequest x before = some true)
    (hkept : ∀ n ∈ notices, request? n ≠ some (x, false)) :
    lastRequest x (before ++ notices) = some true := by
  rw [lastRequest_append]
  cases hlast : lastRequest x notices with
  | none => exact hbefore
  | some b =>
      obtain ⟨n, hn, hr⟩ := exists_of_lastRequest hlast
      cases b with
      | true => rfl
      | false => exact absurd hr (hkept n hn)

end LastRequest

section Wants

variable {i : Interest} {x : Want} {b : Bool} {n : Notice}

theorem exists_announcement (hx : x ∈ i.wants) :
    ∃ n ∈ i.announcements, request? n = some (x, true) := by
  cases i with
  | chat eventId =>
      obtain rfl := List.mem_singleton.mp hx
      exact ⟨_, List.mem_singleton_self _, request?_join eventId⟩
  | notices => exact absurd hx List.not_mem_nil
  | health streams =>
      obtain ⟨stream, hstream, rfl⟩ := List.mem_map.mp hx
      exact ⟨_, List.mem_map_of_mem hstream, request?_watch stream⟩

/-- An announcement takes nothing back. -/
theorem request_announcements (hn : n ∈ i.announcements) (hr : request? n = some (x, b)) :
    b = true := by
  cases i with
  | chat eventId =>
      obtain rfl := List.mem_singleton.mp hn
      exact (Prod.mk.inj (Option.some.inj (hr.symm.trans (request?_join eventId)))).2
  | notices =>
      obtain rfl := List.mem_singleton.mp hn
      exact absurd hr (by simp [request?])
  | health streams =>
      obtain ⟨stream, -, rfl⟩ := List.mem_map.mp hn
      exact (Prod.mk.inj (Option.some.inj (hr.symm.trans (request?_watch stream)))).2

/-- A farewell is about what the view wanted. -/
theorem request_farewells {others : Bool} (hn : n ∈ i.farewells others)
    (hr : request? n = some (x, b)) : x ∈ i.wants := by
  cases i with
  | chat eventId =>
      obtain rfl := List.mem_singleton.mp hn
      rw [(Prod.mk.inj (Option.some.inj (hr.symm.trans (request?_leave eventId)))).1]
      exact List.mem_singleton_self _
  | notices =>
      cases others with
      | true => exact absurd hn List.not_mem_nil
      | false =>
          obtain rfl := List.mem_singleton.mp hn
          exact absurd hr (by simp [request?])
  | health streams =>
      obtain ⟨stream, hstream, rfl⟩ := List.mem_map.mp hn
      rw [(Prod.mk.inj (Option.some.inj (hr.symm.trans (request?_unwatch stream)))).1]
      exact List.mem_map_of_mem hstream

end Wants

/-! ## The messages about a thing -/

/-- A view lives and wants a thing. -/
def ViewSession.Wants (s : ViewSession) (n : Nat) (x : Want) : Prop :=
  ∃ i, s.members[n]? = some ⟨i, true⟩ ∧ x ∈ i.wants

section Story

variable {s s' : ViewSession} {said : List ViewMessage} {n k : Nat} {x : Want}

theorem mem_saidOn {m : List ViewMessage} {notice : Notice} :
    notice ∈ saidOn m k ↔ ∃ u ∈ m, u.socket = k ∧ u.notice = notice := by
  simp [saidOn, and_assoc]

/-- A step in which something is said leaves the session. -/
theorem SessionStep.socket_eq (h : SessionStep s said s') {u : ViewMessage} (hu : u ∈ said) :
    s'.socket = s.socket := by
  cases h with
  | lost | opened => exact absurd hu List.not_mem_nil
  | _ => rfl

/-- Who wants a thing and is not to be called wanted it before, or somebody asks for it. -/
theorem SessionStep.wanted (h : SessionStep s said s') (hk : s'.socket = some k) (hx : s'.Wants n x)
    (hn : n ∉ s'.uncalled) :
    (∃ u ∈ said, request? u.notice = some (x, true))
      ∨ s.socket = some k ∧ s.Wants n x ∧ n ∉ s.uncalled := by
  obtain ⟨i, hi, hxi⟩ := hx
  -- who announces itself asks for all that it wants
  have announced : ∀ {d}, s.socket = some k → (∃ u ∈ s.sayFor (some d) i.announcements,
      request? u.notice = some (x, true)) := by
    intro d hsocket
    obtain ⟨notice, hnotice, hr⟩ := exists_announcement hxi
    exact ⟨⟨k, some d, notice⟩, mem_sayFor.mpr ⟨hsocket, rfl, hnotice⟩, hr⟩
  cases h with
  | pass => exact .inr ⟨hk, ⟨i, hi, hxi⟩, hn⟩
  | lost => exact absurd hk (by simp)
  | opened hs hu hnodup hlive => exact absurd ((hlive n).mpr ⟨_, hi, rfl⟩) hn
  | tell notice => exact .inr ⟨hk, ⟨i, hi, hxi⟩, hn⟩
  | addView j =>
      rcases live_addView hi with hold | ⟨rfl, rfl⟩
      · exact .inr ⟨hk, ⟨i, hold, hxi⟩, hn⟩
      · exact .inl (announced hk)
  | replace j others hlive =>
      rcases live_addView (live_endView hi).2 with hold | ⟨rfl, rfl⟩
      · exact .inr ⟨hk, ⟨i, hold, hxi⟩, hn⟩
      · obtain ⟨u, hu, hr⟩ := announced hk
        exact .inl ⟨u, List.mem_append_left _ hu, hr⟩
  | endView others hlive => exact .inr ⟨hk, ⟨i, (live_endView hi).2, hxi⟩, hn⟩
  | @widen d streams streams' stream hmember hs =>
      rcases live_setInterest hi with ⟨rfl, rfl⟩ | ⟨-, hold⟩
      · obtain ⟨y, hy, rfl⟩ := List.mem_map.mp hxi
        rcases (hs y).mp hy with rfl | hold
        · exact .inl ⟨⟨k, some n, _⟩, mem_sayFor.mpr ⟨hk, rfl, List.mem_singleton_self _⟩,
            request?_watch y⟩
        · exact .inr ⟨hk, ⟨_, hmember, List.mem_map_of_mem hold⟩, hn⟩
      · exact .inr ⟨hk, ⟨i, hold, hxi⟩, hn⟩
  | narrow hmember hstream hs =>
      rcases live_setInterest hi with ⟨rfl, rfl⟩ | ⟨-, hold⟩
      · obtain ⟨y, hy, rfl⟩ := List.mem_map.mp hxi
        exact .inr ⟨hk, ⟨_, hmember, List.mem_map_of_mem ((hs y).mp hy).2⟩, hn⟩
      · exact .inr ⟨hk, ⟨i, hold, hxi⟩, hn⟩
  | @call c rest hu =>
      by_cases hc : c = n
      · subst hc
        refine .inl ?_
        have hmember : s.members[c]? = some ⟨i, true⟩ := hi
        rw [ViewSession.announcement, hmember]
        exact announced hk
      · refine .inr ⟨hk, ⟨i, hi, hxi⟩, fun hmem => hn ?_⟩
        rw [hu] at hmem
        exact (List.mem_cons.mp hmem).resolve_left fun heq => hc heq.symm

/-- Who takes a thing back for a view does so because the view does not want it any more. -/
theorem SessionStep.takes_back (h : SessionStep s said s') {u : ViewMessage} (hu : u ∈ said)
    (hr : request? u.notice = some (x, false)) :
    u.sender = none ∨ ∃ n, s.Wants n x ∧ ¬ s'.Wants n x := by
  have asked : ∀ {i : Interest} {sp}, u ∈ s.sayFor sp i.announcements → False := fun hu =>
    Bool.false_ne_true (request_announcements (mem_sayFor.mp hu).2.2 hr)
  -- a farewell is for a view that lived and does not live any more
  have left : ∀ {d : Nat} {t : ViewSession} {others}, s.Lives d → u ∈ s.farewell d others →
      s.Wants d x ∧ ¬ (t.endView d).Wants d x := by
    rintro d t others ⟨⟨i, live⟩, hi, hlive⟩ hu
    obtain rfl : live = true := hlive
    rw [ViewSession.farewell, hi] at hu
    refine ⟨⟨i, hi, request_farewells (mem_sayFor.mp hu).2.2 hr⟩, ?_⟩
    rintro ⟨j, hj, -⟩
    exact absurd rfl (live_endView hj).1
  cases h with
  | pass | lost | opened => exact absurd hu List.not_mem_nil
  | tell notice => exact .inl (mem_sayFor.mp hu).2.1
  | addView j => exact (asked hu).elim
  | @replace j former others hlive =>
      rcases List.mem_append.mp hu with hu | hu
      · exact (asked hu).elim
      · exact .inr ⟨former, left hlive hu⟩
  | @endView d others hlive => exact .inr ⟨d, left hlive hu⟩
  | @widen d streams streams' stream hmember hs =>
      have hnotice := List.mem_singleton.mp (mem_sayFor.mp hu).2.2
      rw [hnotice, request?_watch] at hr
      exact absurd hr (by simp)
  | @narrow d streams streams' stream hmember hstream hs =>
      have hnotice := List.mem_singleton.mp (mem_sayFor.mp hu).2.2
      rw [hnotice, request?_unwatch] at hr
      obtain rfl := (Prod.mk.inj (Option.some.inj hr)).1
      refine .inr ⟨d, ⟨_, hmember, List.mem_map_of_mem hstream⟩, ?_⟩
      rintro ⟨i, hi, hxi⟩
      rcases live_setInterest hi with ⟨-, rfl⟩ | ⟨hne, -⟩
      · obtain ⟨y, hy, heq⟩ := List.mem_map.mp hxi
        obtain rfl := Want.stream.inj heq
        exact ((hs y).mp hy).1 rfl
      · exact hne rfl
  | @call c rest hu' =>
      unfold ViewSession.announcement at hu
      cases hc : s.members[c]? with
      | none =>
          rw [hc] at hu
          exact absurd (mem_sayFor.mp hu).2.2 List.not_mem_nil
      | some member =>
          rw [hc] at hu
          exact (asked hu).elim

end Story

/-! ## Along a run -/

section Run

variable {w w' : World} {a : Action} {as : List Action} {n k : Nat} {x : Want}
  {m : List ViewMessage} {sl : List (Nat × Want)}

theorem mem_wantedBy : x ∈ wantedBy w n ↔ (viewSession w).Wants n x := by
  unfold wantedBy ViewSession.Wants viewSession
  cases ha : w.adapters[n]? with
  | none =>
      have hnone : (viewWorld w).viewSession.members[n]? = none :=
        (List.getElem?_map ..).trans (congrArg _ ha)
      simp [hnone]
  | some a =>
      rw [member_viewSession (g := viewWorld w) ha]
      by_cases hlive : a.live = true <;> simp [hlive]

theorem mem_wanted : x ∈ wanted w ↔ ∃ n, (viewSession w).Wants n x := by
  simp only [wanted, List.mem_flatMap, List.mem_range, mem_wantedBy]
  constructor
  · rintro ⟨n, -, hx⟩
    exact ⟨n, hx⟩
  · rintro ⟨n, i, hi, hx⟩
    have hlt := (List.getElem?_eq_some_iff.mp hi).1
    exact ⟨n, by simpa [viewSession, ViewWorld.viewSession, viewWorld] using hlt, i, hi, hx⟩

/-- What is taken back in an action while somebody wants it is a conflict. -/
theorem conflicted (hep : SessionStep (viewSession w) (said w a) (viewSession w'))
    (h : w.act a = some w') {u : ViewMessage} (hu : u ∈ said w a)
    (hr : request? u.notice = some (x, false)) (hx : (viewSession w').Wants n x) :
    (u.socket, x) ∈ conflicts w a := by
  have hsocket : w.link.sendsTo = some u.socket := hep.addressed u hu
  -- a view no longer wants it, or the application takes it back
  have hback : x ∈ unwanted w w' ++ retracted (said w a) := by
    rcases hep.takes_back hu hr with hnobody | ⟨d, hwanted, hleft⟩
    · refine List.mem_append_right _ (List.mem_filterMap.mpr ⟨u, hu, ?_⟩)
      rw [hnobody, hr]
    · refine List.mem_append_left _ (List.mem_flatMap.mpr ⟨d, ?_, ?_⟩)
      · obtain ⟨i, hi, -⟩ := hwanted
        have hlt := (List.getElem?_eq_some_iff.mp hi).1
        exact List.mem_range.mpr
          (by simpa [viewSession, ViewWorld.viewSession, viewWorld] using hlt)
      · refine List.mem_filter.mpr ⟨mem_wantedBy.mpr hwanted, decide_eq_true ?_⟩
        exact fun hmem => hleft (mem_wantedBy.mp hmem)
  rw [conflicts, h, Option.elim_some, conflictsUntil, hsocket]
  exact List.mem_map_of_mem (List.mem_filter.mpr
    ⟨hback, decide_eq_true (mem_wanted.mpr ⟨n, hx⟩)⟩)

/-- What a view wants that is not to be called was asked for last, unless there was a conflict
about it. -/
def RequestInv (sl : List (Nat × Want)) (s : ViewSession) (m : List ViewMessage) : Prop :=
  ∀ k, s.socket = some k → ∀ n x, s.Wants n x → n ∉ s.uncalled → (k, x) ∉ sl →
    lastRequest x (saidOn m k) = some true

/-- **Without a conflict the last word is with those who ask.** -/
theorem RequestInv.act (ht : RequestInv sl (viewSession w) m) (hw : ViewsInv w)
    (h : w.act a = some w') :
    RequestInv (sl ++ conflicts w a) (viewSession w') (m ++ said w a) := by
  obtain ⟨-, hep⟩ := hw.act h
  intro k hk n x hx hn hsl
  -- nothing is taken back that is wanted after the action: that would be a conflict
  have hkept : ∀ notice ∈ saidOn (said w a) k, request? notice ≠ some (x, false) := by
    intro notice hnotice hr
    obtain ⟨u, hu, rfl, rfl⟩ := mem_saidOn.mp hnotice
    exact hsl (List.mem_append_right _ (conflicted hep h hu hr hx))
  have hsaid : saidOn (m ++ said w a) k = saidOn m k ++ saidOn (said w a) k := by
    rw [saidOn, List.filter_append, List.map_append]
    rfl
  rw [hsaid]
  -- it was asked for in this action, or it was wanted in this session before
  rcases hep.wanted hk hx hn with ⟨u, hu, hr⟩ | ⟨hk', hx', hn'⟩
  · have hsocket : u.socket = k := by
      have hsame := (hep.addressed u hu).symm.trans ((hep.socket_eq hu).symm.trans hk)
      exact Option.some.inj hsame
    rw [lastRequest_append,
      lastRequest_of_asked (mem_saidOn.mpr ⟨u, hu, hsocket, rfl⟩) hr hkept]
    rfl
  · exact lastRequest_kept
      (ht k hk' n x hx' hn' fun hmem => hsl (List.mem_append_left _ hmem)) hkept

theorem RequestInv.run (ht : RequestInv sl (viewSession w) m) (hw : ViewsInv w)
    (h : w.actAll as = some w') :
    RequestInv (sl ++ observed conflicts w as) (viewSession w') (m ++ messagesAlong w as) := by
  induction as generalizing w m sl with
  | nil =>
      obtain rfl := Option.some.inj h
      simpa [messagesAlong, observed] using ht
  | cons a rest ih =>
      obtain ⟨v, hv, hrest⟩ := Option.bind_eq_some_iff.mp h
      rw [messagesAlong_cons hv, observed_cons hv, ← List.append_assoc, ← List.append_assoc]
      exact ih (ht.act hw hv) (hw.act hv).1 hrest

end Run

/-- What was queued for a socket is what was said on it. -/
theorem queuedFor_eq {router client : Bool} {setup : Setup} {hasRuntime : Bool}
    {stamps : Nat → Stamp} {as : List Action} {w : World}
    (h : (World.initial ⟨router, false, client⟩ setup hasRuntime stamps).actAll as = some w)
    (k : Nat) : queuedFor w k
      = saidOn (messagesAlong (.initial ⟨router, false, client⟩ setup hasRuntime stamps) as) k := by
  rw [queuedFor, messagesAlong_queued h, saidOn]
  simp [World.initial, inOrder, List.filter_map, Function.comp_def]

/-- **The last word about what a view wants is that it is wanted**, unless there was a conflict.

Take any run in which any number of views start, end, take each other's names and change their
streams, in whatever order and from wherever. Whenever the client is connected and no code runs, the
last message about a thing that a view which lives wants, among all that was queued in the session,
asks for it; except for things that were taken back in this session by a view, or by the
application, while another view that lived wanted them. -/
theorem last_request_kept {router client : Bool} {setup : Setup} {hasRuntime : Bool}
    {stamps : Nat → Stamp} {as : List Action} {w : World}
    (h : (World.initial ⟨router, false, client⟩ setup hasRuntime stamps).actAll as = some w)
    (hq : w.stack = []) (hc : w.link.status = .connected) :
    ∃ k, w.link.outbound = some k ∧ ∀ x ∈ wanted w,
      (k, x) ∉ observed conflicts
        (World.initial ⟨router, false, client⟩ setup hasRuntime stamps) as →
      lastRequest x (queuedFor w k) = some true := by
  obtain ⟨k, hk⟩ : ∃ k, w.link.outbound = some k :=
    Option.isSome_iff_exists.mp ((supervisor_coherence h hq).2.2.mpr hc)
  refine ⟨k, hk, fun x hx hsl => ?_⟩
  have hstart := viewsInv_initial router client setup hasRuntime stamps
  -- without views nothing is wanted, so the invariant holds at the start
  have hnobody :
      RequestInv [] (viewSession (.initial ⟨router, false, client⟩ setup hasRuntime stamps))
        [] := by
    rintro k - n x ⟨i, hi, -⟩
    exact absurd hi (by simp [viewSession, viewWorld, ViewWorld.viewSession, World.initial])
  obtain ⟨hviewsInv, -⟩ := consistent_reachable h
  obtain ⟨n, hn⟩ := mem_wanted.mp hx
  have hsocket : (viewSession w).socket = some k := (if_pos hc).trans hk
  rw [queuedFor_eq h]
  refine hnobody.run hstart h k hsocket n x hn ?_ hsl
  rw [hviewsInv.uncalled hq]
  exact List.not_mem_nil

/-- Two chats are of one event, and one of them is left; a monitor takes the place of another that
watches the same stream. -/
def sharedSession : List Action :=
  List.flatten [[.command .connect], List.replicate 3 .go, [.wake 0, .answered 0 true],
    List.replicate 3 .go, [.command (.joinChat "stage" "talk"), .command (.joinChat "lobby" "talk"),
    .command (.watch "wall" ["north"]), .command (.watch "wall" ["north"]),
    .command (.leaveChat "lobby")]]

/-- The session is lost, and in the next one nobody takes back what others want. -/
def renewedSession : List Action :=
  List.flatten [sharedSession, [.read 0 .ended], List.replicate 5 .go, [.pass 1000000000, .wake 0],
    List.replicate 5 .go, [.answered 0 true], List.replicate 5 .go,
    [.command (.addStream "wall" "south"), .command (.removeStream "wall" "south")]]

theorem last_request_kept_renewed :
    ∃ w, (World.initial ⟨true, false, true⟩ .standard true fun _ => ⟨"m1", .epoch⟩).actAll
        renewedSession = some w
      ∧ w.stack = [] ∧ w.link.status = .connected ∧ w.link.outbound = some 1
      ∧ wanted w = [.event "talk", .stream "north"]
      ∧ lastRequest (.event "talk") (queuedFor w 1) = some true
      ∧ lastRequest (.stream "north") (queuedFor w 1) = some true := by
  obtain ⟨w, h, hq, hc, hout, hwanted⟩ :
      ∃ w, (World.initial ⟨true, false, true⟩ .standard true fun _ => ⟨"m1", .epoch⟩).actAll
          renewedSession = some w
        ∧ w.stack = [] ∧ w.link.status = .connected ∧ w.link.outbound = some 1
        ∧ wanted w = [.event "talk", .stream "north"] := ⟨_, rfl, rfl, rfl, rfl, rfl⟩
  -- what was taken back from others was taken back in the session before
  have hconflicts : observed conflicts
      (World.initial ⟨true, false, true⟩ .standard true fun _ => ⟨"m1", .epoch⟩) renewedSession
      = [(0, .stream "north"), (0, .event "talk")] := rfl
  obtain ⟨k, hk, hlast⟩ := last_request_kept h hq hc
  obtain rfl : k = 1 := Option.some.inj (hk.symm.trans hout)
  rw [hwanted, hconflicts] at hlast
  exact ⟨w, h, hq, hc, hout, hwanted, hlast _ (by simp) (by simp), hlast _ (by simp) (by simp)⟩

/-- In the session before, the last word about the event and about the stream is that nobody wants
them, and yet a chat and a monitor that live do. -/
theorem last_word_taken_back :
    ∃ w, (World.initial ⟨true, false, true⟩ .standard true fun _ => ⟨"m1", .epoch⟩).actAll
        sharedSession = some w
      ∧ w.stack = [] ∧ w.link.status = .connected ∧ w.link.outbound = some 0
      ∧ wanted w = [.event "talk", .stream "north"]
      ∧ (queuedFor w 0).map Prod.fst = ["chat.join", "chat.join", "stream.health.subscribe",
        "stream.health.subscribe", "stream.health.unsubscribe", "chat.leave"]
      ∧ lastRequest (.event "talk") (queuedFor w 0) = some false
      ∧ lastRequest (.stream "north") (queuedFor w 0) = some false :=
  ⟨_, rfl, rfl, rfl, rfl, rfl, rfl, rfl, rfl⟩

end LiveLink.Proofs
