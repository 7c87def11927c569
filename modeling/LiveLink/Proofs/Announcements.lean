import LiveLink.Proofs.SessionSteps
import Mathlib.Data.Finset.Lattice.Lemmas

/-!
# Announcements

Every view that lives has told the server what it wants, in every session and no
more than once. A view tells it in two ways: at once, if it starts while the client
is connected, and as one of those who are called with *connected*. Who is to be
called is fixed when the session begins. So a view that starts meanwhile is not
among them, one that is still to be called has said nothing but what it changed
itself, and calling it makes up for the rest.
-/

namespace LiveLink.Proofs

open LiveLink

/-! ## What one view has said -/

/-- What was said for a view on a socket. -/
def own (messagesAlong : List ViewMessage) (socket n : Nat) : List Notice :=
  (messagesAlong.filter fun u => u.socket = socket ∧ u.sender = some n).map (·.notice)

section Own

variable {s : ViewSession} {m : List ViewMessage} {k n : Nat}

theorem own_append (m m' : List ViewMessage) (k n : Nat) :
    own (m ++ m') k n = own m k n ++ own m' k n := by
  simp [own, List.filter_append]

/-- A view has said nothing as long as no message is in its name. -/
theorem own_of_silent (h : ∀ u ∈ m, u.socket = k → u.sender ≠ some n) : own m k n = [] := by
  refine List.map_eq_nil_iff.mpr (List.filter_eq_nil_iff.mpr fun u hu => ?_)
  simpa using h u hu

/-- What is said for a view in a session is its own, to the last message, -/
theorem own_sayFor_self (hk : s.socket = some k) (notices : List Notice) :
    own (s.sayFor (some n) notices) k n = notices := by
  simp [own, ViewSession.sayFor, hk, addressed, List.filter_map, Function.comp_def]

/-- and what is said for another is not. -/
theorem own_sayFor_other {sender : Option Nat} (h : sender ≠ some n) (notices : List Notice) :
    own (s.sayFor sender notices) k n = [] :=
  own_of_silent fun _ hu _ hsender => h ((mem_sayFor.mp hu).2.1.symm.trans hsender)

end Own

/-! ## What it comes to -/

section Replay

variable (notices : List Notice) (stream : String)

/-- A stream that is asked for is watched from then on. -/
theorem replay_watch :
    replay (notices ++ [("stream.health.subscribe", View.named "streamId" stream)])
      = insert stream (replay notices) := by
  rw [replay, List.foldl_append]
  rfl

/-- A stream that is taken back is not watched any more, however often it was asked for. -/
theorem replay_unwatch :
    replay (notices ++ [("stream.health.unsubscribe", View.named "streamId" stream)])
      = (replay notices).erase stream := by
  rw [replay, List.foldl_append]
  rfl

/-- A monitor that announces itself asks for all its streams, and takes none back. -/
theorem replay_announcements (streams : List String) :
    replay (notices ++ (Interest.health streams).announcements)
      = replay notices ∪ streams.toFinset := by
  induction streams generalizing notices with
  | nil => simp [Interest.announcements]
  | cons stream rest ih =>
      -- the first stream counts as said before, and the rest is the induction
      have hfirst := ih (notices ++ [("stream.health.subscribe", View.named "streamId" stream)])
      rw [List.append_assoc, replay_watch] at hfirst
      rw [Finset.insert_union, ← Finset.union_insert, ← List.toFinset_cons] at hfirst
      exact hfirst

end Replay

/-- A view that is not called yet has said nothing but what it changed. -/
def Pending : Interest → List Notice → Prop
  | .health streams, said => replay said ⊆ streams.toFinset
  | _, said => said = []

/-- The server has heard from a view what it wants, and once. -/
def Announced : Interest → List Notice → Prop
  | .health streams, said => replay said = streams.toFinset
  | i, said => said = i.announcements

/-- In a new session every view that is to be called has said nothing. -/
theorem pending_nil (i : Interest) : Pending i [] := by
  cases i with
  | health streams => exact Finset.empty_subset _
  | _ => rfl

/-- To be called makes up for what a view has not said. -/
theorem Pending.called {i : Interest} {said : List Notice} (h : Pending i said) :
    Announced i (said ++ i.announcements) := by
  cases i with
  | chat eventId =>
      obtain rfl : said = [] := h
      rfl
  | notices =>
      obtain rfl : said = [] := h
      rfl
  | health streams =>
      have hsub : replay said ⊆ streams.toFinset := h
      show replay _ = _
      rw [replay_announcements]
      exact Finset.union_eq_right.mpr hsub

section Streams

variable {streams streams' : List String} {stream : String} {said : List Notice}

theorem toFinset_widen (hs : ∀ x, x ∈ streams' ↔ x = stream ∨ x ∈ streams) :
    streams'.toFinset = insert stream streams.toFinset := by
  ext x
  simp [hs]

theorem toFinset_narrow (hs : ∀ x, x ∈ streams' ↔ x ≠ stream ∧ x ∈ streams) :
    streams'.toFinset = streams.toFinset.erase stream := by
  ext x
  simp [hs]

/-- A monitor may ask for a stream before it is called. -/
theorem Pending.widen (hs : ∀ x, x ∈ streams' ↔ x = stream ∨ x ∈ streams)
    (h : Pending (.health streams) said) : Pending (.health streams')
      (said ++ [("stream.health.subscribe", View.named "streamId" stream)]) := by
  have hsub : replay said ⊆ streams.toFinset := h
  show replay _ ⊆ _
  rw [replay_watch, toFinset_widen hs]
  exact Finset.insert_subset_insert _ hsub

theorem Pending.narrow (hs : ∀ x, x ∈ streams' ↔ x ≠ stream ∧ x ∈ streams)
    (h : Pending (.health streams) said) : Pending (.health streams')
      (said ++ [("stream.health.unsubscribe", View.named "streamId" stream)]) := by
  have hsub : replay said ⊆ streams.toFinset := h
  show replay _ ⊆ _
  rw [replay_unwatch, toFinset_narrow hs]
  exact Finset.erase_subset_erase _ hsub

theorem Announced.widen (hs : ∀ x, x ∈ streams' ↔ x = stream ∨ x ∈ streams)
    (h : Announced (.health streams) said) : Announced (.health streams')
      (said ++ [("stream.health.subscribe", View.named "streamId" stream)]) := by
  have heq : replay said = streams.toFinset := h
  show replay _ = _
  rw [replay_watch, toFinset_widen hs, heq]

/-- A monitor that has announced itself takes back a stream that the server knows of. -/
theorem Announced.narrow (hs : ∀ x, x ∈ streams' ↔ x ≠ stream ∧ x ∈ streams)
    (h : Announced (.health streams) said) : Announced (.health streams')
      (said ++ [("stream.health.unsubscribe", View.named "streamId" stream)]) := by
  have heq : replay said = streams.toFinset := h
  show replay _ = _
  rw [replay_unwatch, toFinset_narrow hs, heq]

end Streams

/-- What a view has said is as it should be, whether it is still to be called or not. -/
structure Heard (waiting : Prop) (i : Interest) (said : List Notice) : Prop where
  pending : waiting → Pending i said
  announced : ¬ waiting → Announced i said

/-! ## What every session step keeps -/

/-- In every session, the views that live have said what they want, except those still to be
called. -/
structure AnnounceInv (s : ViewSession) (m : List ViewMessage) : Prop where
  consistent : Consistent s m
  heard : ∀ k, s.socket = some k → ∀ n i, s.members[n]? = some ⟨i, true⟩ →
    Heard (n ∈ s.uncalled) i (own m k n)

namespace AnnounceInv

variable {s s' : ViewSession} {m said : List ViewMessage} {k n : Nat}

/-- A view that starts says what it wants, and nobody else does. -/
theorem addView (h : AnnounceInv s m) {i j : Interest} (hk : s.socket = some k)
    (hn : (s.addView j).members[n]? = some ⟨i, true⟩) :
    Heard (n ∈ s.uncalled) i
      (own m k n ++ own (s.sayFor (some s.members.length) j.announcements) k n) := by
  rcases live_addView hn with hold | ⟨rfl, rfl⟩
  · have hne : s.members.length ≠ n := Nat.ne_of_gt (List.getElem?_eq_some_iff.mp hold).1
    rw [own_sayFor_other fun heq => hne (Option.some.inj heq), List.append_nil]
    exact h.heard k hk n i hold
  · -- no message is in the name of a number that nobody has yet
    have hnew : own m k s.members.length = [] := own_of_silent fun u hu _ hsender =>
      Nat.lt_irrefl _ (h.consistent.senders u hu _ hsender)
    rw [hnew, own_sayFor_self hk]
    exact ⟨fun hmem => absurd (h.consistent.known _ hmem) (Nat.lt_irrefl _),
      fun _ => (pending_nil i).called⟩

/-- **In every session step, a view that has to announce itself does so once.** -/
theorem sessionStep (h : AnnounceInv s m) (he : SessionStep s said s') :
    AnnounceInv s' (m ++ said) := by
  refine ⟨h.consistent.sessionStep he, fun k hk n i hn => ?_⟩
  rw [own_append]
  -- what others say does not count
  have other : ∀ {sender notices}, sender ≠ some n →
      own m k n ++ own (s.sayFor sender notices) k n = own m k n := by
    intro sender notices hne
    rw [own_sayFor_other hne, List.append_nil]
  cases he with
  | pass => simpa [own] using h.heard k hk n i hn
  | lost => exact absurd hk (by simp)
  | opened hs hu hnodup hlive =>
      -- nothing was said on a new socket, and every view that lives is to be called
      obtain rfl := Option.some.inj hk
      have hnew : own m s.sockets n = [] := own_of_silent fun u hu hsocket =>
        absurd (h.consistent.sockets u hu) (hsocket ▸ Nat.lt_irrefl _)
      have hmem := (hlive n).mpr ⟨_, hn, rfl⟩
      rw [hnew]
      exact ⟨fun _ => pending_nil i, fun hnot => absurd hmem hnot⟩
  | tell notice =>
      rw [other (by simp)]
      exact h.heard k hk n i hn
  | addView j => exact h.addView hk hn
  -- the new view speaks first, and the farewell is not in its name
  | replace j others hlive =>
      obtain ⟨hne, hn'⟩ := live_endView hn
      rw [own_append, ViewSession.farewell,
        own_sayFor_other (s := s) fun heq => hne (Option.some.inj heq).symm, List.append_nil]
      exact h.addView hk hn'
  | endView others hlive =>
      obtain ⟨hne, hn'⟩ := live_endView hn
      rw [ViewSession.farewell, other fun heq => hne (Option.some.inj heq).symm]
      exact h.heard k hk n i hn'
  -- the monitor itself may be still to be called; then it has said no more than it wants
  | widen hmember hs =>
      rcases live_setInterest hn with ⟨rfl, rfl⟩ | ⟨hne, hn'⟩
      · obtain ⟨hpending, hannounced⟩ := h.heard k hk n _ hmember
        rw [own_sayFor_self (s := s) hk]
        exact ⟨fun hmem => (hpending hmem).widen hs, fun hmem => (hannounced hmem).widen hs⟩
      · rw [other fun heq => hne (Option.some.inj heq).symm]
        exact h.heard k hk n i hn'
  | narrow hmember hstream hs =>
      rcases live_setInterest hn with ⟨rfl, rfl⟩ | ⟨hne, hn'⟩
      · obtain ⟨hpending, hannounced⟩ := h.heard k hk n _ hmember
        rw [own_sayFor_self (s := s) hk]
        exact ⟨fun hmem => (hpending hmem).narrow hs, fun hmem => (hannounced hmem).narrow hs⟩
      · rw [other fun heq => hne (Option.some.inj heq).symm]
        exact h.heard k hk n i hn'
  | @call c rest hu =>
      have hlistening := h.consistent.listening
      rw [hu] at hlistening
      obtain ⟨hfirst, -⟩ := List.nodup_cons.mp hlistening
      have hheard := h.heard k hk n i hn
      rw [hu] at hheard
      -- who is called is not to be called again, since nobody is on the list twice
      by_cases hc : c = n
      · subst hc
        rw [ViewSession.announcement, hn, own_sayFor_self (s := s) hk]
        exact ⟨fun hmem => absurd hmem hfirst,
          fun _ => (hheard.pending List.mem_cons_self).called⟩
      · rw [ViewSession.announcement, other fun heq => hc (Option.some.inj heq)]
        exact ⟨fun hmem => hheard.pending (List.mem_cons_of_mem _ hmem),
          fun hnot => hheard.announced fun hmem =>
            hnot ((List.mem_cons.mp hmem).resolve_left fun heq => hc heq.symm)⟩

end AnnounceInv

/-- The messages of a run are those of its session steps, so the invariant holds along it. -/
theorem announceInv_reachable {router client : Bool} {setup : Setup} {hasRuntime : Bool}
    {stamps : Nat → Stamp} {as : List Action} {w : World}
    (h : (World.initial ⟨router, false, client⟩ setup hasRuntime stamps).actAll as = some w) :
    ViewsInv w
      ∧ AnnounceInv (viewSession w)
        (messagesAlong (.initial ⟨router, false, client⟩ setup hasRuntime stamps) as) := by
  have hstart : AnnounceInv (viewSession (.initial ⟨router, false, client⟩ setup hasRuntime stamps))
      [] :=
    ⟨.initial .., fun k hk n i hn =>
      absurd hn (by simp [viewSession, viewWorld, ViewWorld.viewSession, World.initial])⟩
  exact (viewsInv_initial router client setup hasRuntime stamps).along AnnounceInv.sessionStep h
    hstart

/-- **In every session, every view that lives has told the server what it wants.**

Take any run: views may start and end and monitors may change their streams at any time, in
handlers and in listeners too, while the client connects, disconnects and loses its sessions.
`messagesAlong` has, message by message, everything that was queued. Whenever the client is
connected and no code runs, all that was ever said for a chat in the session is that it joins, once,
and all that was said for a feed is that it subscribes, once; and who follows what was said for a
monitor in the session, in order, ends with the streams that it watches. -/
theorem announced_in_every_session {router client : Bool} {setup : Setup} {hasRuntime : Bool}
    {stamps : Nat → Stamp} {as : List Action} {w : World}
    (h : (World.initial ⟨router, false, client⟩ setup hasRuntime stamps).actAll as = some w)
    (hq : w.stack = []) (hc : w.link.status = .connected) :
    let m := messagesAlong (World.initial ⟨router, false, client⟩ setup hasRuntime stamps) as
    inOrder queued? w.history = m.map (fun u => (u.socket, u.notice))
    ∧ ∃ k, w.link.outbound = some k
      ∧ ∀ (n : Nat) (a : Adapter), w.adapters[n]? = some a → a.live = true →
        match a.view with
        | .chat v => own m k n = [("chat.join", View.named "eventId" v.eventId)]
        | .notices _ => own m k n = [("notification.subscribe", .object [])]
        | .health v => replay (own m k n) = v.streamIds.toFinset := by
  obtain ⟨hviewsInv, hannounceInv⟩ := announceInv_reachable h
  obtain ⟨k, hk⟩ : ∃ k, w.link.outbound = some k :=
    Option.isSome_iff_exists.mp ((supervisor_coherence h hq).2.2.mpr hc)
  refine ⟨messagesAlong_queued h, k, hk, fun n a ha hlive => ?_⟩
  have hsocket : (viewSession w).socket = some k := (if_pos hc).trans hk
  have hmember : (viewSession w).members[n]? = some ⟨interest a.view, true⟩ :=
    hlive ▸ member_viewSession (g := viewWorld w) ha
  have hcalled : n ∉ (viewSession w).uncalled := by
    rw [hviewsInv.uncalled hq]
    exact List.not_mem_nil
  have hsaid := (hannounceInv.heard k hsocket n _ hmember).announced hcalled
  obtain ⟨view, handlers, listener, live⟩ := a
  cases view with
  | chat v => exact hsaid
  | notices v => exact hsaid
  | health v => exact hsaid

/-- While *connected* is delivered, a listener starts a chat and changes the streams of a monitor
that is still to be called; later another monitor drops a stream, and the session is lost and
replaced. -/
def crowdedSessions : List Action :=
  List.flatten [[.command (.watch "early" ["a", "b"]),
    .command (.listen "host" (some .connected) fun run =>
      if run = 0 then [.joinChat "room" "talk", .addStream "late" "d", .removeStream "late" "c"]
      else []),
    .command (.watch "late" ["c"]), .command (.openFeed "feed"), .command .connect],
    List.replicate 7 .go, [.wake 0, .answered 0 true], List.replicate 11 .go,
    [.command (.removeStream "early" "a"), .read 0 .ended], List.replicate 8 .go,
    [.pass 1000000000, .wake 0], List.replicate 8 .go, [.answered 0 true], List.replicate 9 .go]

/-- A monitor changes its streams while it is still to be called, and a chat starts meanwhile. -/
theorem announced_in_every_session_crowded :
    ∃ w, (World.initial ⟨true, false, true⟩ .standard true fun _ => ⟨"m1", .epoch⟩).actAll
        crowdedSessions = some w
      ∧ w.stack = [] ∧ w.link.status = .connected ∧ w.link.outbound = some 1
      ∧ own
        (messagesAlong (World.initial ⟨true, false, true⟩ .standard true fun _ => ⟨"m1", .epoch⟩)
          crowdedSessions) 1 3 = [("chat.join", View.named "eventId" "talk")]
      ∧ replay (own (messagesAlong (World.initial ⟨true, false, true⟩ .standard true
          fun _ => ⟨"m1", .epoch⟩) crowdedSessions) 1 1) = {"d"} := by
  obtain ⟨w, room, late, h, hq, hc, hout, hroom, hroomView, hroomLive, hlate, hlateView,
      hlateLive⟩ :
      ∃ (w : World) (room late : Adapter),
        (World.initial ⟨true, false, true⟩ .standard true fun _ => ⟨"m1", .epoch⟩).actAll
          crowdedSessions = some w
        ∧ w.stack = [] ∧ w.link.status = .connected ∧ w.link.outbound = some 1
        ∧ w.adapters[3]? = some room
        ∧ room.view = .chat (.empty "talk" Setup.standard.chatLimit) ∧ room.live = true
        ∧ w.adapters[1]? = some late
        ∧ late.view = .health (.watching Setup.standard.alertLimit ["d"]) ∧ late.live = true :=
    ⟨_, _, _, rfl, rfl, rfl, rfl, rfl, rfl, rfl, rfl, rfl, rfl⟩
  obtain ⟨-, k, hk, hsaid⟩ := announced_in_every_session h hq hc
  obtain rfl : k = 1 := Option.some.inj (hk.symm.trans hout)
  have hroomSaid := hsaid 3 room hroom hroomLive
  have hlateSaid := hsaid 1 late hlate hlateLive
  rw [hroomView] at hroomSaid
  rw [hlateView] at hlateSaid
  exact ⟨w, h, hq, hc, hout, hroomSaid, hlateSaid⟩

end LiveLink.Proofs
