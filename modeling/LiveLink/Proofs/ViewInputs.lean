import LiveLink.Proofs.Endpoints
import LiveLink.Proofs.ViewRecords

/-!
# What views show comes from their inputs

The inputs of a view are the envelopes that a delivery brings to it, and the commands of
whoever holds it: to mark something as read, to watch one stream more or one less.
Nothing else changes what it shows, however many handlers call each other meanwhile
and whatever the connection does. So in every run a view shows what its inputs, taken
one after another from its start, make of it (`views_along`); what it shows can be
described without any world at all.
-/

namespace LiveLink.Proofs

open LiveLink

/-- An input of a view. -/
inductive ViewInput where
  /-- An envelope comes to it. -/
  | envelope (e : Envelope)
  | markRead (id : String)
  | markAllRead
  | addStream (stream : String)
  | removeStream (stream : String)

/-- What a view shows after an input. One that is for views of another kind does nothing. -/
def receiveInput : ViewInput → View → View
  | .envelope e, v => heard e v
  | .markRead id, .notices v => .notices (v.setRead id true)
  | .markAllRead, .notices v => .notices v.readAll
  | .addStream stream, .health v => .health (v.add stream)
  | .removeStream stream, .health v => .health (v.remove stream)
  | _, v => v

/-- What a view shows after some inputs, in order. -/
def after (v : View) (ds : List ViewInput) : View := ds.foldl (fun v d => receiveInput d v) v

@[simp] theorem after_nil (v : View) : after v [] = v := rfl

theorem after_append (v : View) (ds ds' : List ViewInput) :
    after v (ds ++ ds') = after (after v ds) ds' := List.foldl_append

/-- No input makes a view one of another kind. -/
theorem viewKind_receiveInput (d : ViewInput) (v : View) :
    viewKind (interest (receiveInput d v)) = viewKind (interest v) := by
  cases d with
  | envelope e =>
      show viewKind (interest ((v.receive e).toOption.getD v)) = _
      cases hr : v.receive e with
      | error m => rfl
      | ok v' => exact congrArg viewKind (interest_receive hr)
  | _ => cases v <;> rfl

/-- So a view is of the same kind after all its inputs. -/
theorem viewKind_after (v : View) (ds : List ViewInput) :
    viewKind (interest (after v ds)) = viewKind (interest v) := by
  induction ds generalizing v with
  | nil => rfl
  | cons d rest ih => exact (ih (receiveInput d v)).trans (viewKind_receiveInput d v)

/-- The view that a command is an input of, by the name it has, and the input. -/
def viewCommand (w : World) : Command → Option (Nat × ViewInput)
  | .markRead name id => (w.feeds.get? name).map fun n => (n, .markRead id)
  | .markAllRead name => (w.feeds.get? name).map fun n => (n, .markAllRead)
  | .addStream name stream => (w.monitors.get? name).map fun n => (n, .addStream stream)
  | .removeStream name stream => (w.monitors.get? name).map fun n => (n, .removeStream stream)
  | _ => none

/-- The view that an action is an input of, and the input. -/
def viewInput (w : World) (a : Action) : Option (Nat × ViewInput) :=
  match cause w a with
  | .asked c => viewCommand w c
  | _ => (viewCall w a).map fun p => (p.1, .envelope p.2)

/-- The inputs of the view of a number in an action. Before it starts it has none. -/
def viewInputs (n : Nat) (w : World) (a : Action) : List ViewInput :=
  ((viewInput w a).toList.filter fun p => p.1 = n ∧ n < w.adapters.length).map (·.2)

/-- The view that a command starts. -/
def opening (w : World) : Command → Option View
  | .joinChat _ eventId =>
    if w.parts.client then some (.chat (.empty eventId w.setup.chatLimit)) else none
  | .openFeed _ => if w.parts.client then some (.notices (.empty w.setup.noticeLimit)) else none
  | .watch _ streams =>
    if w.parts.client then some (.health (.watching w.setup.alertLimit streams)) else none
  | _ => none

/-- The views that an action starts. -/
def openings (w : World) (a : Action) : List View :=
  match cause w a with
  | .asked c => (opening w c).toList
  | _ => []

/-- What the views show, in the order of their numbers. -/
def ViewRecords.views (g : ViewRecords) : List View := g.adapters.map Adapter.view

def views (w : World) : List View := (viewRecords w).views

theorem viewOf_views (w : World) (n : Nat) : w.viewOf? n = (views w)[n]? :=
  (List.getElem?_map ..).symm

variable {w w' : World} {n : Nat} {a : Action}

/-! ## Commands -/

theorem views_of_viewRecords (h : viewRecords w' = viewRecords w) : views w' = views w :=
  congrArg ViewRecords.views h

theorem views_of_viewWorld {g : ViewWorld} (h : viewWorld w' = g) :
    views w' = g.viewRecords.views :=
  congrArg (fun g : ViewWorld => g.viewRecords.views) h

/-- What the views show, once one of them has had its input. -/
def withInput (vs : List View) (d : Option (Nat × ViewInput)) : List View :=
  match d with
  | some (n, d) => vs.modify n (receiveInput d)
  | none => vs

/-- A view for which nothing changes. -/
theorem withInput_same {vs : List View} {d : ViewInput}
    (h : ∀ v, vs[n]? = some v → receiveInput d v = v) : withInput vs (some (n, d)) = vs :=
  modify_of_same h

/-- A view that shows something else. -/
theorem withInput_set {vs : List View} {d : ViewInput} {v : View}
    (h : ∀ u, vs[n]? = some u → receiveInput d u = v) :
    withInput vs (some (n, d)) = vs.modify n fun _ => v := by
  refine List.ext_getElem? fun m => ?_
  simp only [withInput, List.getElem?_modify]
  cases hm : vs[m]? with
  | none => rfl
  | some u =>
      -- only the one view changes
      by_cases hn : n = m
      · subst hn
        simp [h u hm]
      · simp [hn]

/-- A view that ends goes on showing what it showed to whoever still has its number. -/
theorem views_finish (g : ViewWorld) (n : Nat) (others : Bool) :
    (g.finish n others).viewRecords.views = g.viewRecords.views := by
  unfold ViewWorld.finish
  split
  · exact map_modify _ _ fun _ => rfl
  · rfl

theorem views_finishFormer (g : ViewWorld) (former : Option Nat) (others : Bool) :
    (g.finishFormer former others).viewRecords.views = g.viewRecords.views := by
  cases former with
  | none => rfl
  | some n => exact views_finish g n others

/-- A view that starts gets the next number, whatever its name was for before. -/
theorem views_startNamed (w : World) (s : ViewKind) (name : String) (v : View) :
    views (w.startNamed ((names w s).get? name) v
      fun x n => withNames x s ((names x s).insert name n)) = views w ++ [v] := by
  obtain ⟨handlers, hviewWorld⟩ := viewWorld_startNamed w s name v
  refine (views_of_viewWorld hviewWorld).trans ?_
  rw [views_finishFormer]
  exact List.map_append

/-- To give a name up changes nothing that is shown. -/
theorem views_endNamed (w : World) (s : ViewKind) (name : String) :
    views (w.endNamed (names w s) name fun x => withNames x s ((names x s).erase name))
      = views w := by
  refine (views_of_viewWorld (viewWorld_endNamed w s name)).trans ?_
  cases (names w s).get? name with
  | none => rfl
  | some n => exact views_finish _ n _

/-- Without a client no view starts. -/
theorem views_requiring {f : World} {v : View} (part : Bool) (h : views f = views w ++ [v]) :
    views (w.requiring part f) = views w ++ (if part then some v else none).toList := by
  unfold World.requiring
  split
  · exact h
  · rw [views_of_viewRecords (viewRecords_of_viewWorld (viewWorld_answer w _))]
    exact (List.append_nil _).symm

/-- A command of the holder, who has a name for the view; a view of another kind has no part in
it. -/
theorem views_withView {names : Table Nat} {name : String} {d : ViewInput} {f : Nat → View → World}
    (h : ∀ n v, w.viewOf? n = some v →
      views (f n v) = (views w).modify n fun _ => receiveInput d v) :
    views (w.withView names name f)
      = withInput (views w) ((names.get? name).map fun n => (n, d)) := by
  unfold World.withView
  cases names.get? name with
  | none => exact views_of_viewRecords (viewRecords_of_viewWorld (viewWorld_answer w _))
  | some n =>
      dsimp only [Option.map_some]
      have hviews := viewOf_views w n
      cases hv : w.viewOf? n with
      | none =>
          rw [withInput_same fun v hv' => absurd ((hviews.symm.trans hv).symm.trans hv') (by simp)]
          exact views_of_viewRecords (viewRecords_of_viewWorld (viewWorld_answer w _))
      | some v =>
          rw [withInput_set fun u hu =>
            congrArg (receiveInput d) (Option.some.inj (hu.symm.trans (hviews.symm.trans hv)))]
          exact h n v hv

/-- A view stays as it is, and its holder is told so. -/
theorem views_kept {v : View} {d : ViewInput} (hv : w.viewOf? n = some v)
    (hd : receiveInput d v = v) (h : views w' = views w) :
    views w' = (views w).modify n fun _ => receiveInput d v := by
  rw [h, modify_of_same fun u hu => ?_]
  rw [hd]
  exact Option.some.inj (((viewOf_views w n).symm.trans hv).symm.trans hu)

/-- What is stored for a view is what it shows. -/
theorem views_setView (w : World) (n : Nat) (v : View) :
    views (w.setView n v) = (views w).modify n fun _ => v :=
  map_modify_comm (h := Adapter.view) (k := fun _ => v) (fun _ => rfl) w.adapters n

theorem views_sendReplying (w : World) (topic : String) (payload : Json) :
    views (w.sendReplying topic payload) = views w :=
  (views_of_viewWorld (viewWorld_answered_send w topic payload)).trans rfl

theorem views_answer (w : World) (r : Reply) : views (w.answer r) = views w :=
  views_of_viewRecords (viewRecords_of_viewWorld (viewWorld_answer w r))

theorem views_sendPayload (w : World) (topic : String) (payload : Json) :
    views (w.sendPayload topic payload).1 = views w :=
  (views_of_viewWorld (viewWorld_sendPayload w topic payload)).trans rfl

theorem views_withRoom {name : String} {f : ChatView → World} (h : ∀ v, views (f v) = views w) :
    views (w.withRoom name f) = views w :=
  withRoom_cases (P := fun x => views x = views w) (views_answer w) h

/-- **What a command makes of the views.** -/
theorem perform_views (hw : Asking w) (c : Command) :
    views (w.perform c) = withInput (views w) (viewCommand w c) ++ (opening w c).toList := by
  have hsame : ∀ {x : World}, views x = views w →
      views x = withInput (views w) none ++ (none : Option View).toList :=
    fun h => h.trans (List.append_nil _).symm
  have hcommand : ∀ {x : World} {d}, views x = withInput (views w) d →
      views x = withInput (views w) d ++ (none : Option View).toList :=
    fun h => h.trans (List.append_nil _).symm
  have hquiet : ∀ {c}, registers c = false → tellsServer c = false →
      views (w.perform c) = views w :=
    fun ht hs => views_of_viewRecords (perform_viewRecords hw ht hs)
  cases c with
  | subscribe onClient name topic full script =>
      refine hsame (requiring_cases (P := fun x => views x = views w) _ (views_answer w)
        fun _ => ?_)
      exact (views_answer _ _).trans
        ((views_of_viewWorld (viewWorld_subscribe w name _ _)).trans rfl)
  | subscribeTyped name topic kind script =>
      refine hsame (requiring_cases (P := fun x => views x = views w) _ (views_answer w)
        fun _ => ?_)
      exact (views_answer _ _).trans
        ((views_of_viewWorld (viewWorld_subscribe w name _ _)).trans rfl)
  | listen name only script =>
      refine hsame (requiring_cases (P := fun x => views x = views w) _ (views_answer w)
        fun _ => ?_)
      exact (views_answer _ _).trans ((views_of_viewWorld (viewWorld_listen w name _)).trans rfl)
  | unsubscribe name =>
      refine hsame (withSubscription_cases (P := fun x => views x = views w) (views_answer w) ?_)
      intro s hs
      refine (views_answer _ _).trans ?_
      unfold World.unsubscribe
      split
      · cases s.place <;> rfl
      · rfl
  | forget name =>
      exact hsame (withSubscription_cases (P := fun x => views x = views w) (views_answer w)
        fun s hs => views_answer _ _)
  | joinChat name eventId =>
      exact views_requiring _ (views_startNamed w .chat name _)
  | openFeed name =>
      exact views_requiring _ (views_startNamed w .notices name _)
  | watch name streams =>
      exact views_requiring _ (views_startNamed w .health name _)
  | leaveChat name => exact hsame (views_endNamed w .chat name)
  | closeFeed name => exact hsame (views_endNamed w .notices name)
  | closeMonitor name => exact hsame (views_endNamed w .health name)
  | send topic payload =>
      exact hsame (requiring_cases (P := fun x => views x = views w) _ (views_answer w)
        fun _ => views_sendReplying w topic payload)
  | say name text => exact hsame (views_withRoom fun v => views_sendReplying w _ _)
  | moderate name messageId action reason =>
      exact hsame (views_withRoom fun v => views_sendReplying w _ _)
  -- the feed changes first, and the message that says so changes no view
  | markRead name id =>
      refine hcommand (views_withView (d := .markRead id) fun n v hv => ?_)
      cases v with
      | notices v => exact (views_sendReplying _ _ _).trans (views_setView w n _)
      | chat v => exact views_kept hv rfl (views_answer w _)
      | health v => exact views_kept hv rfl (views_answer w _)
  | markAllRead name =>
      refine hcommand (views_withView (d := .markAllRead) fun n v hv => ?_)
      cases v with
      | notices v => exact (views_sendReplying _ _ _).trans (views_setView w n _)
      | chat v => exact views_kept hv rfl (views_answer w _)
      | health v => exact views_kept hv rfl (views_answer w _)
  | addStream name stream =>
      refine hcommand (views_withView (d := .addStream stream) fun n v hv => ?_)
      cases v with
      | health v =>
          dsimp only
          split
          · -- a stream that is watched already is not taken up again
            rename_i hwatched
            refine views_kept hv ?_ (views_answer w _)
            exact congrArg View.health (if_pos hwatched)
          · exact (views_answer _ _).trans
              ((views_sendPayload _ _ _).trans (views_setView w n _))
      | chat v => exact views_kept hv rfl (views_answer w _)
      | notices v => exact views_kept hv rfl (views_answer w _)
  | removeStream name stream =>
      refine hcommand (views_withView (d := .removeStream stream) fun n v hv => ?_)
      cases v with
      | health v =>
          dsimp only
          split
          · exact (views_answer _ _).trans
              ((views_sendPayload _ _ _).trans (views_setView w n _))
          · rename_i hwatched
            refine views_kept hv ?_ (views_answer w _)
            exact congrArg View.health (if_neg hwatched)
      | chat v => exact views_kept hv rfl (views_answer w _)
      | notices v => exact views_kept hv rfl (views_answer w _)
  | _ => exact hsame (hquiet rfl rfl)

/-! ## Actions and runs -/

/-- **What an action makes of the views.** A command changes the view it names, the call of a
handler the view that is called, and any other action none. -/
theorem act_views (h : w.act a = some w') :
    views w' = withInput (views w) (viewInput w a) ++ openings w a := by
  -- a command may name a view and may start one; other actions do neither
  by_cases hc : ∃ c, cause w a = .asked c
  · obtain ⟨c, hc⟩ := hc
    obtain ⟨r, stack, rfl, -, hw, -⟩ := asked_viewWorld hc h
    rw [perform_views hw c, viewInput, openings, hc]
    cases c <;> rfl
  · have hc : ∀ c, cause w a ≠ .asked c := fun c hasked => hc ⟨c, hasked⟩
    have hviews : views w'
        = withInput (views w) ((viewCall w a).map fun p => (p.1, .envelope p.2)) := by
      refine (congrArg ViewRecords.views (act_viewRecords hc h)).trans ?_
      cases viewCall w a with
      | none => rfl
      | some p =>
          exact map_modify_comm (h := Adapter.view) (k := heard p.2) (fun _ => rfl) w.adapters p.1
    have hviewInput : viewInput w a = (viewCall w a).map fun p => (p.1, .envelope p.2) := by
      unfold viewInput
      split
      · rename_i c hasked
        exact absurd hasked (hc c)
      · rfl
    have hopenings : openings w a = [] := by
      unfold openings
      split
      · rename_i c hasked
        exact absurd hasked (hc c)
      · rfl
    rw [hviews, hviewInput, hopenings, List.append_nil]

/-- A view that has started shows what its inputs in an action make of it; a view that starts has
none. -/
theorem act_view (h : w.act a = some w') (n : Nat) :
    (views w')[n]? = ((views w ++ openings w a)[n]?).map (after · (viewInputs n w a)) := by
  have hlength : (views w).length = w.adapters.length := List.length_map ..
  have hinput : (withInput (views w) (viewInput w a)).length = (views w).length := by
    unfold withInput
    split
    · exact List.length_modify ..
    · rfl
  rw [act_views h]
  -- views that have started come first in the list, in front of the one that may start
  by_cases hn : n < (views w).length
  · rw [List.getElem?_append_left (hinput ▸ hn), List.getElem?_append_left hn]
    have hstarted : n < w.adapters.length := hlength ▸ hn
    unfold viewInputs
    cases hd : viewInput w a with
    | none => simp [withInput]
    | some p =>
        obtain ⟨m, d⟩ := p
        by_cases hm : m = n
        · subst hm
          simp [withInput, hstarted, after]
        · simp [withInput, hm]
  · have hnone : viewInputs n w a = [] := by
      unfold viewInputs
      rw [List.filter_eq_nil_iff.mpr fun p _ => by simp; omega]
      rfl
    rw [List.getElem?_append_right (by omega), List.getElem?_append_right (by omega), hinput, hnone]
    simp

/-- **In a run, views show what their inputs make of them.** -/
theorem views_run {as : List Action} (h : w.actAll as = some w') (n : Nat) :
    (views w')[n]? = ((views w ++ observed openings w as)[n]?).map
      (after · (observed (viewInputs n) w as)) := by
  induction as generalizing w with
  | nil =>
      obtain rfl := Option.some.inj h
      simp [observed]
  | cons a rest ih =>
      obtain ⟨v, hv, hrest⟩ := Option.bind_eq_some_iff.mp h
      rw [ih hrest, observed_cons hv, observed_cons hv]
      have hact := act_view hv n
      have hlength : (views v).length = (views w ++ openings w a).length := by
        have hlists := congrArg List.length (act_views hv)
        simp only [List.length_append] at hlists ⊢
        rw [hlists]
        unfold withInput
        split <;> simp
      rw [← List.append_assoc]
      -- a view that has not started yet has no input in this action
      by_cases hn : n < (views v).length
      · rw [List.getElem?_append_left hn, List.getElem?_append_left (hlength ▸ hn), hact,
          Option.map_map]
        exact congrArg (fun f => Option.map f _) (funext fun u => (after_append u _ _).symm)
      · have hnone : viewInputs n w a = [] := by
          unfold viewInputs
          have hlarge : ¬ n < w.adapters.length := by
            have : (views w).length = w.adapters.length := List.length_map ..
            simp only [List.length_append] at hlength
            omega
          rw [List.filter_eq_nil_iff.mpr fun p _ => by simp [hlarge]]
          rfl
        rw [List.getElem?_append_right (by omega), List.getElem?_append_right (by omega), hlength,
          hnone, List.nil_append]

/-! ## From the start -/

/-- A view as it starts, under the limits that the client was set up with. -/
def Fresh (s : Setup) : View → Prop
  | .chat v => ∃ eventId, v = .empty eventId s.chatLimit
  | .notices v => v = .empty s.noticeLimit
  | .health v => ∃ streams, v = .watching s.alertLimit streams

namespace Fresh

variable {s : Setup} {u : View}

theorem chat (h : Fresh s u) (hu : viewKind (interest u) = .chat) :
    ∃ eventId, u = .chat (.empty eventId s.chatLimit) := by
  cases u with
  | chat v =>
      obtain ⟨eventId, rfl⟩ : ∃ eventId, v = .empty eventId s.chatLimit := h
      exact ⟨eventId, rfl⟩
  | notices v => exact absurd hu ViewKind.noConfusion
  | health v => exact absurd hu ViewKind.noConfusion

theorem notices (h : Fresh s u) (hu : viewKind (interest u) = .notices) :
    u = .notices (.empty s.noticeLimit) := by
  cases u with
  | notices v => exact congrArg View.notices h
  | chat v => exact absurd hu ViewKind.noConfusion
  | health v => exact absurd hu ViewKind.noConfusion

theorem health (h : Fresh s u) (hu : viewKind (interest u) = .health) :
    ∃ streams, u = .health (.watching s.alertLimit streams) := by
  cases u with
  | health v =>
      obtain ⟨streams, rfl⟩ : ∃ streams, v = .watching s.alertLimit streams := h
      exact ⟨streams, rfl⟩
  | chat v => exact absurd hu ViewKind.noConfusion
  | notices v => exact absurd hu ViewKind.noConfusion

end Fresh

/-- Whatever view an action starts, it is a fresh one. -/
theorem openings_fresh {u : View} (h : u ∈ openings w a) : Fresh w.setup u := by
  have part : ∀ {p : Bool} {v : View}, Fresh w.setup v →
      u ∈ (if p = true then some v else none).toList → Fresh w.setup u := by
    intro p v hv hmem
    split at hmem
    · obtain rfl := List.mem_singleton.mp hmem
      exact hv
    · exact absurd hmem List.not_mem_nil
  unfold openings at h
  split at h
  · rename_i c hc
    cases c with
    | joinChat name eventId => exact part (v := .chat _) ⟨eventId, rfl⟩ h
    | openFeed name => exact part (v := .notices _) rfl h
    | watch name streams => exact part (v := .health _) ⟨streams, rfl⟩ h
    | _ => exact absurd h List.not_mem_nil
  · exact absurd h List.not_mem_nil

theorem observed_fresh {as : List Action} {u : View} (h : u ∈ observed openings w as) :
    Fresh w.setup u := by
  induction as generalizing w with
  | nil => exact absurd h List.not_mem_nil
  | cons a rest ih =>
      rcases List.mem_append.mp h with h | h
      · exact openings_fresh h
      · cases hv : w.act a with
        | none =>
            rw [hv] at h
            exact absurd h List.not_mem_nil
        | some v =>
            rw [hv] at h
            exact steps_setup (act_steps hv) ▸ ih h

/-- **Every view of a client shows what its inputs have made of it since it started.** -/
theorem views_along {parts : Parts} {setup : Setup} {hasRuntime : Bool} {stamps : Nat → Stamp}
    {as : List Action} (h : (World.initial parts setup hasRuntime stamps).actAll as = some w)
    {v : View} (hv : w.viewOf? n = some v) :
    ∃ u, (observed openings (.initial parts setup hasRuntime stamps) as)[n]? = some u
      ∧ Fresh setup u ∧ viewKind (interest u) = viewKind (interest v)
      ∧ v = after u (observed (viewInputs n) (.initial parts setup hasRuntime stamps) as) := by
  have hrun := views_run h n
  rw [← viewOf_views, hv] at hrun
  obtain ⟨u, hu, hafter⟩ := Option.map_eq_some_iff.mp hrun.symm
  refine ⟨u, hu, observed_fresh (List.mem_of_getElem? hu), ?_, hafter.symm⟩
  rw [← hafter, viewKind_after]

end LiveLink.Proofs
