import LiveLink.Proofs.Reads

/-!
# How a feed is arranged

A feed keeps no more notifications than its limit, each id once, and an id that it
keeps is not among those it remembers of what it let go (`Arranged`). What keeps this
up is what news may do to it (`Rearranged`): only an id that is not kept changes the
order when it arrives, by going to the front and pushing the last one out if there is
no room; what is kept already is replaced where it stands; and everything else changes
notifications in their places, and none that it does not name.

So the order of the ids can be told from what has arrived, without looking at reads and
changes at all (`reorder`); with a limit of zero nothing is kept, and what arrives is
let go at once (`feed_arrangement`).
-/

namespace LiveLink.Proofs

open LiveLink

/-! ## The order of the ids -/

/-- The ids of what a feed keeps, in order. -/
def keptIds (v : NoticeView) : List String := v.items.map (·.id)

/-- The order of the ids after some news: one that is not kept goes to the front when it arrives,
and those beyond the limit are let go. -/
def reorder (limit : Nat) (ids : List String) : News → List String
  | .arrived n => if n.id ∈ ids then ids else (n.id :: ids).take limit
  | _ => ids

/-- Whether some news are about the notification of an id. -/
def mentions (id : String) : News → Bool
  | .arrived n => n.id = id
  | .changed u => u.id = id
  | .read b => b.ids.all (·.contains id)
  | .markRead key => key = id
  | .markAllRead => true

/-- A feed keeps no more notifications than its limit, each id once, and none that it let go. -/
structure Arranged (limit : Nat) (v : NoticeView) : Prop where
  bounded : v.items.length ≤ limit
  distinct : (keptIds v).Nodup
  apart : ∀ id ∈ keptIds v, id ∉ v.evictedUnread.keys

/-- What some news may do to the notifications of a feed. -/
structure Rearranged (limit : Nat) (e : News) (v v' : NoticeView) : Prop where
  /-- The order of the ids changes only if one arrives that is not kept. -/
  order : keptIds v' = reorder limit (keptIds v) e
  /-- That one goes to the front, and what is beyond the limit is let go. -/
  fresh : ∀ n, e = .arrived n → n.id ∉ keptIds v → v'.items = (n :: v.items).take limit
  /-- One that is kept already is replaced where it stands, and the others stay as they are. -/
  replaced : ∀ n front m back, e = .arrived n → v.items = front ++ m :: back → m.id = n.id →
    v'.items = front ++ n :: back
  /-- Other news leave each notification in its place, and do nothing to those they are not
  about. -/
  others : (∀ n, e ≠ .arrived n) → ∀ (i : Nat) (m : Notification), v.items[i]? = some m →
    ∃ m', v'.items[i]? = some m' ∧ m'.id = m.id ∧ (mentions m.id e = false → m' = m)

/-! ## Notifications in their places -/

/-- What some news make of a notification that is kept. -/
def revised : News → Notification → Notification
  | .arrived n, m => if m.id = n.id then n else m
  | .changed u, m =>
    if m.id = u.id then { NoticeView.retitle u m with read := u.read.getD m.read } else m
  | .read b, m => marked (fun id => b.ids.all (·.contains id)) m
  | .markRead key, m => marked (fun id => decide (id = key)) m
  | .markAllRead, m => marked (fun _ => true) m

section Places

variable {v : NoticeView} {e : News} {m n : Notification} {key : String}

theorem revised_id (e : News) (m : Notification) : (revised e m).id = m.id := by
  cases e with
  | arrived n =>
      rw [revised]
      split
      · rename_i h
        exact h.symm
      · rfl
  | changed u =>
      rw [revised]
      split <;> rfl
  | _ => exact marked_id _ m

/-- News do nothing to what they are not about. -/
theorem revised_other (h : mentions m.id e = false) : revised e m = m := by
  cases e with
  | arrived n => exact if_neg fun heq => of_decide_eq_false h heq.symm
  | changed u => exact if_neg fun heq => of_decide_eq_false h heq.symm
  | read b =>
      rw [revised]
      exact marked_of_not h
  | markRead key =>
      have hne : m.id ≠ key := fun heq => of_decide_eq_false h heq.symm
      rw [revised]
      exact marked_of_not (decide_eq_false hne)
  | markAllRead => exact absurd h Bool.noConfusion

theorem not_kept (h : n.id ∉ keptIds v) : v.holds n.id = false := by
  rw [← Bool.not_eq_true, holds_iff_mem]
  exact h

theorem setRead_items (h : Neat v) (key : String) (read : Bool) : (v.setRead key read).items
    = v.items.map fun m => if m.id = key then { m with read := read } else m := by
  cases hheld : v.holds key with
  | true =>
      rw [setRead_kept hheld]
      exact modifyFirst_eq_map key _ h.distinct
  | false =>
      have hitems : (v.setRead key read).items = v.items := by
        cases read with
        | true => rw [setRead_gone hheld]
        | false => rw [setRead_lost hheld]
      rw [hitems]
      exact (map_fixed fun m hm => if_neg (ne_of_not_held hheld m hm)).symm

theorem update_items (h : Neat v) (u : NotificationUpdate) :
    (v.update u).items = v.items.map (revised (.changed u)) := by
  -- a new title leaves the id, so ids stay distinct for what comes next
  have hid : ∀ m : Notification, m.id = u.id → (NoticeView.retitle u m).id = u.id := fun _ hm => hm
  have htouched : (touch v u.id (NoticeView.retitle u)).items
      = v.items.map fun m => if m.id = u.id then NoticeView.retitle u m else m :=
    modifyFirst_eq_map u.id _ h.distinct
  cases hread : u.read with
  | none =>
      have hupdate : v.update u = touch v u.id (NoticeView.retitle u) := by
        unfold NoticeView.update
        rw [hread]
        rfl
      rw [hupdate, htouched]
      refine List.map_congr_left fun m _ => ?_
      rw [revised, hread]
      rfl
  | some read =>
      have hupdate : v.update u = (touch v u.id (NoticeView.retitle u)).setRead u.id read := by
        unfold NoticeView.update
        rw [hread]
        rfl
      rw [hupdate, setRead_items (h.touch hid), htouched, List.map_map]
      refine List.map_congr_left fun m _ => ?_
      rw [revised, hread]
      by_cases hm : m.id = u.id
      · simp only [Function.comp_apply, if_pos hm, hid m hm, if_true]
        rfl
      · simp only [Function.comp_apply, if_neg hm]

/-- **News about what is kept change notifications in their places.** -/
theorem told_items (h : Neat v) (he : ∀ n, e = .arrived n → v.holds n.id = true) :
    (told e v).items = v.items.map (revised e) := by
  cases e with
  | arrived n =>
      show (v.receive n).items = _
      rw [receive_kept (he n rfl)]
      exact modifyFirst_eq_map n.id _ h.distinct
  | changed u => exact update_items h u
  | read b => rw [told_read h rfl]; rfl
  | markRead key =>
      show (v.setRead key true).items = _
      rw [setRead_eq h]
      rfl
  | markAllRead => rw [told_read h rfl]; rfl

theorem told_fresh (hnew : n.id ∉ keptIds v) :
    (told (.arrived n) v).items = (n :: v.items).take v.limit := by
  show (v.receive n).items = _
  rw [receive_new (not_kept hnew)]

theorem told_order (h : Neat v) (e : News) :
    keptIds (told e v) = reorder v.limit (keptIds v) e := by
  -- whatever is not an arrival of something new changes notifications in their places
  have hplaces : (∀ n, e = .arrived n → v.holds n.id = true) → keptIds (told e v) = keptIds v := by
    intro he
    unfold keptIds
    rw [told_items h he, List.map_map]
    exact List.map_congr_left fun m _ => revised_id e m
  cases e with
  | arrived n =>
      rw [reorder]
      by_cases hn : n.id ∈ keptIds v
      · rw [if_pos hn]
        refine hplaces fun m hm => ?_
        obtain rfl := News.arrived.inj hm
        exact holds_iff_mem.mpr hn
      · rw [if_neg hn, keptIds, told_fresh hn, List.map_take, List.map_cons]
        rfl
  | _ => exact hplaces fun n hn => News.noConfusion hn

/-- **What news may do to a feed that knows every id once.** -/
theorem told_rearranged (h : Neat v) (e : News) : Rearranged v.limit e v (told e v) where
  order := told_order h e
  fresh := by
    rintro n rfl hnew
    exact told_fresh hnew
  replaced := by
    rintro n front m back rfl hitems hid
    have hdistinct := h.distinct
    rw [hitems, List.map_append, List.map_cons] at hdistinct
    obtain ⟨hmiddle, hrest⟩ := List.nodup_cons.mp (List.perm_middle.nodup_iff.mp hdistinct)
    -- no other one has the id, so the others are as they were
    have hsame : ∀ l : List Notification, m.id ∉ l.map (·.id) →
        l.map (revised (.arrived n)) = l := by
      intro l hl
      refine map_fixed fun x hx => if_neg fun heq => hl ?_
      rw [hid, ← heq]
      exact List.mem_map_of_mem hx
    have hheld : v.holds n.id = true := by
      rw [holds_iff_mem, hitems, ← hid]
      exact List.mem_map_of_mem (List.mem_append_right _ List.mem_cons_self)
    have hkept : ∀ n', News.arrived n = .arrived n' → v.holds n'.id = true := by
      intro n' hn'
      obtain rfl := News.arrived.inj hn'
      exact hheld
    rw [told_items h hkept, hitems, List.map_append, List.map_cons,
      hsame front fun hmem => hmiddle (List.mem_append_left _ hmem),
      hsame back fun hmem => hmiddle (List.mem_append_right _ hmem)]
    congr 2
    exact if_pos hid
  others := by
    intro he i m hm
    refine ⟨revised e m, ?_, revised_id e m, fun hother => revised_other hother⟩
    rw [told_items h fun n hn => absurd hn (he n), List.getElem?_map, hm]
    rfl

theorem setRead_limit (v : NoticeView) (key : String) (read : Bool) :
    (v.setRead key read).limit = v.limit := by
  unfold NoticeView.setRead
  split
  · rfl
  · split <;> rfl

/-- The limit of a feed is never changed. -/
theorem told_limit (h : Neat v) (e : News) : (told e v).limit = v.limit := by
  cases e with
  | arrived n =>
      show (v.receive n).limit = v.limit
      unfold NoticeView.receive
      split <;> rfl
  | changed u =>
      show (v.update u).limit = v.limit
      unfold NoticeView.update
      dsimp only
      split
      · rw [setRead_limit]
      · rfl
  | read b => rw [told_read h rfl]; rfl
  | markRead key => exact setRead_limit v key true
  | markAllRead => rfl

end Places

/-! ## The feed along its news -/

section Along

variable {limit : Nat}

/-- What a feed shows after one more piece of news. -/
theorem feedAfter_concat (limit : Nat) (news : List News) (e : News) :
    feedAfter limit (news ++ [e]) = told e (feedAfter limit news) := List.foldl_append

theorem feedAfter_neat (limit : Nat) (news : List News) : Neat (feedAfter limit news) :=
  (tallied_ledger limit news).neat

theorem feedAfter_limit (limit : Nat) (news : List News) :
    (feedAfter limit news).limit = limit := by
  induction news using List.reverseRecOn with
  | nil => rfl
  | append_singleton news e ih =>
      rw [feedAfter_concat, told_limit (feedAfter_neat limit news), ih]

/-- One more piece of news does what it may. -/
theorem feedAfter_rearranged (limit : Nat) (news : List News) (e : News) :
    Rearranged limit e (feedAfter limit news) (told e (feedAfter limit news)) := by
  have hstep := told_rearranged (feedAfter_neat limit news) e
  rwa [feedAfter_limit] at hstep

/-- The order of the ids is that of the arrivals that were not kept. -/
theorem feedAfter_order (limit : Nat) (news : List News) :
    keptIds (feedAfter limit news) = news.foldl (reorder limit) [] := by
  induction news using List.reverseRecOn with
  | nil => rfl
  | append_singleton news e ih =>
      rw [feedAfter_concat, (feedAfter_rearranged limit news e).order, ih, List.foldl_append]
      rfl

theorem reorder_length {ids : List String} (h : ids.length ≤ limit) (e : News) :
    (reorder limit ids e).length ≤ limit := by
  cases e with
  | arrived n =>
      rw [reorder]
      split
      · exact h
      · exact List.length_take_le limit _
  | _ => exact h

theorem feedAfter_bounded (limit : Nat) (news : List News) :
    (feedAfter limit news).items.length ≤ limit := by
  have hids : (keptIds (feedAfter limit news)).length ≤ limit := by
    rw [feedAfter_order]
    induction news using List.reverseRecOn with
    | nil => exact Nat.zero_le limit
    | append_singleton news e ih =>
        rw [List.foldl_append]
        exact reorder_length ih e
  rwa [keptIds, List.length_map] at hids

theorem feedAfter_arranged (limit : Nat) (news : List News) :
    Arranged limit (feedAfter limit news) where
  bounded := feedAfter_bounded limit news
  distinct := (feedAfter_neat limit news).distinct
  apart := fun id hkept hgone => (feedAfter_neat limit news).apart id hgone hkept

end Along

/-! ## The feeds of a client -/

/-- In one action, a feed hears of one thing at most. -/
theorem newsTo_one (n : Nat) (w : World) (a : Action) :
    newsTo n w [a] = [] ∨ ∃ e, newsTo n w [a] = [e] := by
  have hone : (newsTo n w [a]).length ≤ 1 := by
    -- nothing is observed behind a single action
    have hrest : observed (viewInputs n) w [a] = viewInputs n w a := by
      rw [observed]
      cases w.act a <;> exact List.append_nil _
    have hviewInputs : (viewInputs n w a).length ≤ 1 := by
      unfold viewInputs
      rw [List.length_map]
      refine (List.length_filter_le _ _).trans ?_
      cases viewInput w a with
      | none => exact Nat.zero_le 1
      | some p => exact Nat.le_refl 1
    rw [newsTo, hrest]
    exact (List.length_filterMap_le _ _).trans hviewInputs
  rcases Nat.le_one_iff_eq_zero_or_eq_one.mp hone with hnone | hone
  · exact .inl (List.eq_nil_of_length_eq_zero hnone)
  · exact .inr (List.length_eq_one_iff.mp hone)

/-- **A feed stays arranged**, for every limit and all news, and each piece of news does only what
it may. The order of the ids depends on the arrivals alone. In every run of a client this is so of
every feed: an action leaves it as it is, or brings it one piece of news. -/
theorem feed_arrangement (limit : Nat) (news : List News) :
    Arranged limit (feedAfter limit news)
      ∧ (∀ e, Rearranged limit e (feedAfter limit news) (feedAfter limit (news ++ [e])))
      ∧ keptIds (feedAfter limit news) = news.foldl (reorder limit) []
      ∧ ∀ (parts : Parts) (setup : Setup) (hasRuntime : Bool) (stamps : Nat → Stamp)
          (as : List Action) (w : World),
        (World.initial parts setup hasRuntime stamps).actAll as = some w →
        ∀ n v, w.viewOf? n = some (.notices v) →
          Arranged setup.noticeLimit v
          ∧ ∀ a w', w.act a = some w' → ∃ v', w'.viewOf? n = some (.notices v')
            ∧ ((newsTo n w [a] = [] ∧ v' = v)
              ∨ ∃ e, newsTo n w [a] = [e] ∧ Rearranged setup.noticeLimit e v v') := by
  refine ⟨feedAfter_arranged limit news, ?_, feedAfter_order limit news, ?_⟩
  · intro e
    rw [feedAfter_concat]
    exact feedAfter_rearranged limit news e
  · intro parts setup hasRuntime stamps as w h n v hv
    obtain rfl := notices_along h hv
    refine ⟨feedAfter_arranged _ _, ?_⟩
    intro a w' ha
    -- one action is a run of its own
    have hrun : w.actAll [a] = some w' := by
      rw [World.actAll, ha]
      rfl
    have hshown := notices_run hv hrun
    rcases newsTo_one n w a with hnone | ⟨e, hone⟩
    · rw [hnone] at hshown
      exact ⟨_, hshown, .inl ⟨hnone, rfl⟩⟩
    · rw [hone] at hshown
      exact ⟨_, hshown, .inr ⟨e, hone, feedAfter_rearranged _ _ e⟩⟩

/-- What a full feed let go comes once more. -/
def returning : List Action := crowding ++ (noticed "a").take 1

/-- It takes the place of what is kept. With a limit of zero it would be let go at once. -/
theorem feed_arrangement_returning :
    let a : Notification := ⟨"a", none, "t", none, none, false, none⟩
    let b : Notification := ⟨"b", none, "t", none, none, false, none⟩
    feedAfter 0 [.arrived a] = ⟨0, [], [("a", ())]⟩
      ∧ Arranged 0 (feedAfter 0 [.arrived a])
      ∧ ∃ w w', smallClient.actAll returning = some w ∧ w.act .go = some w'
        ∧ newsTo 0 w [.go] = [.arrived a]
        ∧ w.viewOf? 0 = some (.notices ⟨1, [b], [("a", ())]⟩)
        ∧ w'.viewOf? 0 = some (.notices ⟨1, [a], [("b", ())]⟩)
        ∧ Rearranged 1 (.arrived a) ⟨1, [b], [("a", ())]⟩ ⟨1, [a], [("b", ())]⟩ := by
  intro a b
  obtain ⟨hnothing, -, -, hclient⟩ := feed_arrangement 0 [.arrived a]
  have hnews : (smallClient.actAll returning).map (newsTo 0 · [.go]) = some [.arrived a] := rfl
  have hview : (smallClient.actAll returning).bind (·.viewOf? 0)
      = some (.notices ⟨1, [b], [("a", ())]⟩) := by decide +kernel
  have hafter : ((smallClient.actAll returning).bind (·.act .go)).bind (·.viewOf? 0)
      = some (.notices ⟨1, [a], [("b", ())]⟩) := by decide +kernel
  obtain ⟨w, hw, hone⟩ := Option.map_eq_some_iff.mp hnews
  rw [hw] at hview hafter
  obtain ⟨w', hgo, hshown⟩ := Option.bind_eq_some_iff.mp hafter
  obtain ⟨v', hv', hdone⟩ := (hclient _ _ _ _ _ w hw 0 _ hview).2 .go w' hgo
  obtain rfl : _ = v' := View.notices.inj (Option.some.inj (hshown.symm.trans hv'))
  refine ⟨rfl, hnothing, w, w', hw, hgo, hone, hview, hshown, ?_⟩
  rcases hdone with ⟨hnone, -⟩ | ⟨e, he, hdone⟩
  · exact absurd (hone.symm.trans hnone) (List.cons_ne_nil _ _)
  · obtain rfl : News.arrived a = e := (List.cons.inj (hone.symm.trans he)).1
    exact hdone

end LiveLink.Proofs
