import LiveLink.Proofs.Unread

/-!
# Reads come in any order

That a notification was read is told to a feed by three routes: by its holder, by a
change that says nothing else, and by a list of ids. A holder's own mark and its echoes
from the server come in any order, in any grouping, more than once, and for
notifications that the feed let go or never had. All of this makes no difference: what
a reading leaves of a feed depends on the ids that it names only (`reads_commute`).

The argument is that a read of whatever kind passes a test on ids over the feed, and
what passes is read (`readOff`). Two tests one after the other are one (`readOff_or`),
so a reading is a single test, that of the ids it names. A feed knows every id once
(`Neat`), and that is why it does not matter that a read looks for one notification only.
-/

namespace LiveLink.Proofs

open LiveLink

/-! ## News that say nothing but that notifications were read -/

/-- Whether some news says nothing but that notifications were read. -/
def onlyReads : News → Bool
  | .arrived _ => false
  | .changed u => u.read = some true ∧ u.title = none ∧ u.body = none
  | .read _ | .markRead _ | .markAllRead => true

/-- The ids that are named as read. -/
def readIds : News → List String
  | .arrived _ | .markAllRead => []
  | .changed u => [u.id]
  | .read b => b.ids.getD []
  | .markRead id => [id]

/-- Whether everything was read. -/
def readsAll : News → Bool
  | .arrived _ | .changed _ | .markRead _ => false
  | .read b => b.ids.isNone
  | .markAllRead => true

/-- Two readings name the same ids, or they both read everything, whatever ids they name. -/
inductive SameReading (es es' : List News) : Prop
  | ids (plain : ∀ e ∈ es, readsAll e = false) (plain' : ∀ e ∈ es', readsAll e = false)
      (same : ∀ id, (∃ e ∈ es, id ∈ readIds e) ↔ ∃ e ∈ es', id ∈ readIds e)
  | all (all : ∃ e ∈ es, readsAll e = true) (all' : ∃ e ∈ es', readsAll e = true)

/-- A notification that passes a test on ids is read. -/
def marked (test : String → Bool) (m : Notification) : Notification :=
  if test m.id then { m with read := true } else m

/-- What is left of a feed when all that passes a test on ids was read. -/
def readOff (test : String → Bool) (v : NoticeView) : NoticeView :=
  { v with
    items := v.items.map (marked test)
    evictedUnread := v.evictedUnread.filter fun p => !test p.1 }

section Reads

variable {v : NoticeView} {id : String} {e : News} {es es' : List News}

theorem reads_iff (he : onlyReads e = true) :
    reads id e = true ↔ readsAll e = true ∨ id ∈ readIds e := by
  cases e with
  | arrived n => exact absurd he Bool.false_ne_true
  | changed u =>
      obtain ⟨hread, -, -⟩ := of_decide_eq_true he
      simp [reads, readsAll, readIds, hread, eq_comm]
  | read b =>
      obtain ⟨ids⟩ := b
      cases ids <;> simp [reads, readsAll, readIds]
  | markRead key => simp [reads, readsAll, readIds, eq_comm]
  | markAllRead => simp [reads, readsAll]

/-- Two readings that name the same ids read the same. -/
theorem SameReading.reads (h : SameReading es es') (hes : ∀ e ∈ es, onlyReads e = true)
    (hes' : ∀ e ∈ es', onlyReads e = true) (id : String) :
    es.any (Proofs.reads id) = es'.any (Proofs.reads id) := by
  -- a reading reads an id if it reads everything or names the id
  have hany : ∀ {l : List News}, (∀ e ∈ l, onlyReads e = true) →
      (l.any (Proofs.reads id) = true
        ↔ (∃ e ∈ l, readsAll e = true) ∨ ∃ e ∈ l, id ∈ readIds e) := by
    intro l hl
    rw [List.any_eq_true, ← exists_or]
    refine exists_congr fun e => ?_
    rw [← and_or_left]
    exact and_congr_right fun he => reads_iff (hl e he)
  have hnone : ∀ {l : List News}, (∀ e ∈ l, readsAll e = false) →
      ¬ ∃ e ∈ l, readsAll e = true := by
    rintro l hl ⟨e, he, hall⟩
    exact Bool.false_ne_true ((hl e he).symm.trans hall)
  rw [Bool.eq_iff_iff, hany hes, hany hes']
  cases h with
  | ids plain plain' same => exact or_congr (iff_of_false (hnone plain) (hnone plain')) (same id)
  | all all all' => exact iff_of_true (.inl all) (.inl all')

/-! ## Tests on ids -/

@[simp] theorem marked_id (test : String → Bool) (m : Notification) :
    (marked test m).id = m.id := by
  unfold marked
  split <;> rfl

theorem marked_of_not {test : String → Bool} {m : Notification} (h : test m.id = false) :
    marked test m = m := if_neg (by simp [h])

theorem marked_or (test other : String → Bool) (m : Notification) :
    marked other (marked test m) = marked (fun id => test id || other id) m := by
  unfold marked
  by_cases htest : test m.id = true
  · simp [htest]
  · simp [htest]

/-- What a change does nothing to stays as it is. -/
theorem map_fixed {α : Type} {f : α → α} {l : List α} (h : ∀ a ∈ l, f a = a) : l.map f = l :=
  (List.map_congr_left h).trans (List.map_id l)

theorem ne_of_not_held {key : String} (h : v.holds key = false) :
    ∀ m ∈ v.items, m.id ≠ key := by
  rintro m hm rfl
  exact Bool.false_ne_true (h.symm.trans (holds_iff_mem.mpr (List.mem_map_of_mem hm)))

theorem readOff_false (v : NoticeView) : readOff (fun _ => false) v = v := by
  have hitems : v.items.map (marked fun _ => false) = v.items :=
    map_fixed fun m _ => marked_of_not rfl
  have hgone : v.evictedUnread.filter (fun _ => !false) = v.evictedUnread :=
    List.filter_eq_self.mpr fun _ _ => rfl
  unfold readOff
  rw [hitems, hgone]

theorem readOff_congr {test other : String → Bool} (h : ∀ id, test id = other id)
    (v : NoticeView) : readOff test v = readOff other v := by rw [funext h]

/-- **Two tests one after the other are one.** -/
theorem readOff_or (test other : String → Bool) (v : NoticeView) :
    readOff other (readOff test v) = readOff (fun id => test id || other id) v := by
  have hitems : (v.items.map (marked test)).map (marked other)
      = v.items.map (marked fun id => test id || other id) := by
    rw [List.map_map]
    exact List.map_congr_left fun m _ => marked_or test other m
  have hgone : (v.evictedUnread.filter fun p => !test p.1).filter (fun p => !other p.1)
      = v.evictedUnread.filter fun p => !(test p.1 || other p.1) := by
    rw [List.filter_filter]
    refine List.filter_congr fun p _ => ?_
    rw [Bool.not_or, Bool.and_comm]
  unfold readOff
  rw [hitems, hgone]

/-- One notification is read where it stands, or it is forgotten if it was let go. -/
theorem setRead_eq (h : Neat v) (key : String) :
    v.setRead key true = readOff (fun id => decide (id = key)) v := by
  cases hheld : v.holds key with
  | true =>
      -- what is kept is not among what was let go, so nothing is forgotten
      have hgone : ∀ p ∈ v.evictedUnread, (!decide (p.1 = key)) = true := by
        intro p hp
        have hne : p.1 ≠ key := by
          rintro rfl
          exact h.apart p.1 (List.mem_map_of_mem hp) (holds_iff_mem.mp hheld)
        simpa using hne
      have hitems : modifyFirst (fun m : Notification => decide (m.id = key))
          ({ · with read := true }) v.items
          = v.items.map (marked fun id => decide (id = key)) := by
        -- ids are distinct: the first notification of the id is the only one
        rw [modifyFirst_eq_map key _ h.distinct]
        refine List.map_congr_left fun m _ => ?_
        simp only [marked, decide_eq_true_eq]
      rw [setRead_kept hheld]
      unfold touch readOff
      rw [hitems, List.filter_eq_self.mpr hgone]
  | false =>
      have hitems : v.items.map (marked fun id => decide (id = key)) = v.items :=
        map_fixed fun m hm => marked_of_not (decide_eq_false (ne_of_not_held hheld m hm))
      rw [setRead_gone hheld]
      unfold readOff Table.erase
      rw [hitems]
      simp only [ne_eq, decide_not]

theorem readMany_eq (h : Neat v) (ids : List String) :
    ids.foldl (fun v id => v.setRead id true) v = readOff (fun id => ids.contains id) v := by
  induction ids generalizing v with
  | nil => exact (readOff_false v).symm
  | cons key rest ih =>
      -- the feed stays `Neat` after each read, so the next one is a test as well
      rw [List.foldl_cons, ih (h.read key), setRead_eq h, readOff_or]
      refine readOff_congr (fun id => ?_) v
      rw [List.contains_cons, Bool.beq_eq_decide_eq]

theorem readAll_eq (v : NoticeView) : v.readAll = readOff (fun _ => true) v := by
  have hgone : v.evictedUnread.filter (fun _ => !true) = [] :=
    List.filter_eq_nil_iff.mpr fun _ _ => Bool.false_ne_true
  unfold readOff
  rw [hgone]
  rfl

/-- A change that leaves the text alone does nothing but what it says of being read. -/
theorem update_eq (h : Neat v) {u : NotificationUpdate} (hread : u.read = some true)
    (htitle : u.title = none) (hbody : u.body = none) : v.update u = v.setRead u.id true := by
  have hitems : modifyFirst (fun m : Notification => decide (m.id = u.id)) (NoticeView.retitle u)
      v.items = v.items := by
    rw [modifyFirst_eq_map u.id _ h.distinct]
    refine map_fixed fun m _ => ?_
    have hsame : NoticeView.retitle u m = m := by
      unfold NoticeView.retitle
      rw [htitle, hbody]
      rfl
    rw [hsame, ite_self]
  unfold NoticeView.update
  rw [hitems, hread]

/-- **Every read is a test on ids**, by whatever route it comes. -/
theorem told_read (h : Neat v) (he : onlyReads e = true) :
    told e v = readOff (fun id => reads id e) v := by
  cases e with
  | arrived n => exact absurd he Bool.false_ne_true
  | changed u =>
      obtain ⟨hread, htitle, hbody⟩ := of_decide_eq_true he
      show v.update u = _
      rw [update_eq h hread htitle hbody, setRead_eq h]
      refine readOff_congr (fun id => ?_) v
      simp [reads, hread, eq_comm]
  | read b =>
      obtain ⟨ids⟩ := b
      cases ids with
      | none => exact readAll_eq v
      | some ids => exact readMany_eq h ids
  | markRead key =>
      show v.setRead key true = _
      rw [setRead_eq h]
      refine readOff_congr (fun id => ?_) v
      simp [reads, eq_comm]
  | markAllRead => exact readAll_eq v

/-- **A reading is one test**, which an id passes if some news of it read it. -/
theorem reading_eq (limit : Nat) (news : List News) (hes : ∀ e ∈ es, onlyReads e = true) :
    feedAfter limit (news ++ es)
      = readOff (fun id => es.any (reads id)) (feedAfter limit news) := by
  induction es using List.reverseRecOn with
  | nil =>
      rw [List.append_nil]
      exact (readOff_false _).symm
  | append_singleton es x ih =>
      have hx : onlyReads x = true := hes x (List.mem_append_right _ List.mem_cons_self)
      have hbefore := ih fun e he => hes e (List.mem_append_left _ he)
      have hlast : feedAfter limit (news ++ (es ++ [x]))
          = told x (feedAfter limit (news ++ es)) := by
        rw [← List.append_assoc]
        exact List.foldl_append
      rw [hlast, told_read (tallied_ledger limit (news ++ es)).neat hx, hbefore, readOff_or]
      refine readOff_congr (fun id => ?_) _
      rw [List.any_append, List.any_cons, List.any_nil, Bool.or_false]

end Reads

/-! ## Feeds of a client -/

section Client

variable {w w' : World} {n : Nat} {v : NoticeView} {as : List Action}

/-- In a run, a feed shows what the news to it make of it. -/
theorem notices_run (hv : w.viewOf? n = some (.notices v)) (h : w.actAll as = some w') :
    w'.viewOf? n = some (.notices ((newsTo n w as).foldl (fun v e => told e v) v)) := by
  rw [viewOf_views] at hv ⊢
  -- the feed was there before the run, so no opening of a view takes its place
  have hstarted : (views w ++ observed openings w as)[n]? = some (.notices v) := by
    rw [List.getElem?_append_left (List.getElem?_eq_some_iff.mp hv).1, hv]
  rw [views_run h n, hstarted, Option.map_some, after_notices]
  rfl

/-- Since the client started, that is all the news to it. -/
theorem notices_along {parts : Parts} {setup : Setup} {hasRuntime : Bool} {stamps : Nat → Stamp}
    (h : (World.initial parts setup hasRuntime stamps).actAll as = some w)
    (hv : w.viewOf? n = some (.notices v)) :
    v = feedAfter setup.noticeLimit (newsTo n (.initial parts setup hasRuntime stamps) as) := by
  obtain ⟨u, -, hfresh, hkind, hafter⟩ := views_along h hv
  obtain rfl := hfresh.notices hkind
  rw [after_notices] at hafter
  exact View.notices.inj hafter

end Client

/-- **Readings that name the same ids leave the same of a feed**, after any news, and they count the
same as unread; so do readings that both read everything. In a client, whatever news of this kind
come to a feed, and however, it shows the same. -/
theorem reads_commute (limit : Nat) (news es es' : List News)
    (hes : ∀ e ∈ es, onlyReads e = true) (hes' : ∀ e ∈ es', onlyReads e = true)
    (hsame : SameReading es es') :
    feedAfter limit (news ++ es) = feedAfter limit (news ++ es')
      ∧ (feedAfter limit (news ++ es)).unread = (feedAfter limit (news ++ es')).unread
      ∧ ∀ (parts : Parts) (setup : Setup) (hasRuntime : Bool) (stamps : Nat → Stamp)
          (as : List Action) (w : World),
        (World.initial parts setup hasRuntime stamps).actAll as = some w →
        ∀ n v, w.viewOf? n = some (.notices v) →
          ∀ bs bs' x x', w.actAll bs = some x → w.actAll bs' = some x' →
            newsTo n w bs = es → newsTo n w bs' = es' → x.viewOf? n = x'.viewOf? n := by
  have hfeeds : ∀ limit news, feedAfter limit (news ++ es) = feedAfter limit (news ++ es') := by
    intro limit news
    rw [reading_eq limit news hes, reading_eq limit news hes', funext (hsame.reads hes hes')]
  refine ⟨hfeeds limit news, congrArg NoticeView.unread (hfeeds limit news), ?_⟩
  intro parts setup hasRuntime stamps as w h n v hv bs bs' x x' hx hx' hnews hnews'
  rw [notices_run hv hx, notices_run hv hx', hnews, hnews', notices_along h hv]
  -- what led to the first state is news as well: both ends are feeds after news
  have hshown := hfeeds setup.noticeLimit (newsTo n (.initial parts setup hasRuntime stamps) as)
  unfold feedAfter at hshown ⊢
  rw [← List.foldl_append, ← List.foldl_append, hshown]

/-- Something comes to the views of a client. -/
def dispatched (topic : String) (payload : List (String × Json)) : List Action :=
  [.command (.dispatch topic (.ofMembers payload)), .go, .go]

/-- A client whose feeds keep one notification each. -/
def smallClient : World :=
  .initial ⟨true, false, true⟩ { Setup.standard with noticeLimit := 1 } true fun _ => ⟨"m1", .epoch⟩

/-- A notification comes. -/
def noticed (id : String) : List Action :=
  dispatched "notification.new" [("id", .string id), ("title", .string "t")]

/-- Two notifications come to a feed that keeps one. -/
def crowding : List Action := .command (.openFeed "feed") :: noticed "a" ++ noticed "b"

/-- Both are read, the one that was let go by its holder and then again, and with them one that
nobody knows. -/
def readTwice : List Action :=
  .command (.markRead "feed" "a")
    :: dispatched "notification.bulk_read" [("ids", .array [.string "b", .string "z"])]
    ++ dispatched "notification.update" [("id", .string "a"), ("read", .bool true)]

/-- The same ids in one list. -/
def readAtOnce : List Action :=
  dispatched "notification.bulk_read"
    [("ids", .array [.string "z", .string "a", .string "b", .string "a"])]

/-- The feed shows the same, and nothing is unread. -/
theorem reads_commute_echoed :
    let es : List News :=
      [.markRead "a", .read ⟨some ["b", "z"]⟩, .changed ⟨"a", some true, none, none⟩]
    let es' : List News := [.read ⟨some ["z", "a", "b", "a"]⟩]
    feedAfter 3 ([] ++ .markAllRead :: es) = feedAfter 3 ([] ++ [.read ⟨none⟩])
      ∧ ∃ w x x', smallClient.actAll crowding = some w
        ∧ w.actAll readTwice = some x ∧ w.actAll readAtOnce = some x'
        ∧ newsTo 0 w readTwice = es ∧ newsTo 0 w readAtOnce = es'
        ∧ x.viewOf? 0 = x'.viewOf? 0
        ∧ x.viewOf? 0 = some (.notices ⟨1, [⟨"b", none, "t", none, none, true, none⟩], []⟩) := by
  intro es es'
  have hall : SameReading (.markAllRead :: es) [.read ⟨none⟩] := .all (by decide) (by decide)
  have hids : SameReading es es' := by
    refine .ids (by decide) (by decide) fun id => ?_
    simp [es, es', readIds]
    tauto
  obtain ⟨hfeed, -, -⟩ := reads_commute 3 [] _ _ (by decide) (by decide) hall
  obtain ⟨-, -, hclient⟩ := reads_commute 3 [] es es' (by decide) (by decide) hids
  have hnews : (smallClient.actAll crowding).map (newsTo 0 · readTwice) = some es := rfl
  have hnews' : (smallClient.actAll crowding).map (newsTo 0 · readAtOnce) = some es' := rfl
  have hview : (smallClient.actAll crowding).bind (·.viewOf? 0) = some (.notices ⟨1,
      [⟨"b", none, "t", none, none, false, none⟩], [("a", ())]⟩) := by decide +kernel
  have hend : ((smallClient.actAll crowding).bind (·.actAll readTwice)).bind (·.viewOf? 0)
      = some (.notices ⟨1, [⟨"b", none, "t", none, none, true, none⟩], []⟩) := by decide +kernel
  have hend' : ((smallClient.actAll crowding).bind (·.actAll readAtOnce)).isSome := by
    decide +kernel
  obtain ⟨w, hw, hes⟩ := Option.map_eq_some_iff.mp hnews
  rw [hw] at hnews' hview hend hend'
  obtain ⟨x, hx, hshown⟩ := Option.bind_eq_some_iff.mp hend
  obtain ⟨x', hx'⟩ := Option.isSome_iff_exists.mp hend'
  have hes' : newsTo 0 w readAtOnce = es' := Option.some.inj hnews'
  exact ⟨hfeed, w, x, x', hw, hx, hx', hes, hes',
    hclient _ _ _ _ _ w hw 0 _ hview _ _ x x' hx hx' hes hes', hshown⟩

end LiveLink.Proofs
