import LiveLink.Proofs.ViewInputs
import Mathlib.Data.List.Perm.Subperm

/-!
# The unread counter and its ledger

A feed keeps few notifications, and of those it let go it remembers the unread ones,
so that the counter stays right. What "right" means is said here without any limit: a
ledger (`Flags`) has every id that ever arrived and whether it is unread. Arrivals flag an id
or not, and reads clear the flag, by whatever route they come. Only a change that marks
a notification as unread looks at what the feed keeps, since it can do nothing for one
that was let go.

`unread_ledger` says that the counter is the number of ids that are flagged. The
argument follows the ids: those that a feed counts, kept or let go, are the flagged
ones (`Tallied`), none of them twice, and each operation moves them as the ledger
has it.
-/

namespace LiveLink.Proofs

open LiveLink

/-! ## What a feed is told -/

/-- What a feed is told, by the server or by its holder. -/
inductive News where
  | arrived (n : Notification)
  | changed (u : NotificationUpdate)
  | read (b : BulkRead)
  | markRead (id : String)
  | markAllRead

/-- What a feed shows afterwards. -/
def told : News → NoticeView → NoticeView
  | .arrived n, v => v.receive n
  | .changed u, v => v.update u
  | .read b, v => v.bulkRead b
  | .markRead id, v => v.setRead id true
  | .markAllRead, v => v.readAll

/-- What a feed of a limit shows after some news. -/
def feedAfter (limit : Nat) (news : List News) : NoticeView :=
  news.foldl (fun v e => told e v) (.empty limit)

/-- The news in an envelope, if it is for a feed and can be read. -/
def newsIn (e : Envelope) : Option News :=
  if e.topic = "notification.new" then (e.typed Notification.record.codec).toOption.map .arrived
  else if e.topic = "notification.update" then
    (e.typed NotificationUpdate.record.codec).toOption.map .changed
  else if e.topic = "notification.bulk_read" then (e.typed BulkRead.record.codec).toOption.map .read
  else none

/-- The news in an input of a feed. -/
def newsOf : ViewInput → Option News
  | .envelope e => newsIn e
  | .markRead id => some (.markRead id)
  | .markAllRead => some .markAllRead
  | .addStream _ | .removeStream _ => none

/-- Reading a payload changes a view, and one that cannot be read leaves it. -/
theorem getD_map {α β ε : Type} (x : Except ε α) (f : α → β) (b : β) :
    (x.map f).toOption.getD b = (x.toOption.map f).getD b := by
  cases x <;> rfl

theorem heard_notices (e : Envelope) (v : NoticeView) :
    heard e (.notices v) = .notices ((newsIn e).elim v fun n => told n v) := by
  unfold heard newsIn View.receive
  dsimp only
  split
  · rw [getD_map]
    cases (e.typed Notification.record.codec).toOption <;> rfl
  · split
    · rw [getD_map]
      cases (e.typed NotificationUpdate.record.codec).toOption <;> rfl
    · split
      · rw [getD_map]
        cases (e.typed BulkRead.record.codec).toOption <;> rfl
      · rfl

theorem receiveInput_notices (d : ViewInput) (v : NoticeView) :
    receiveInput d (.notices v) = .notices ((newsOf d).elim v fun n => told n v) := by
  cases d with
  | envelope e => exact heard_notices e v
  | _ => rfl

/-- A feed shows what the news among its inputs make of it. -/
theorem after_notices (ds : List ViewInput) (v : NoticeView) :
    after (.notices v) ds = .notices ((ds.filterMap newsOf).foldl (fun v e => told e v) v) := by
  induction ds generalizing v with
  | nil => rfl
  | cons d rest ih =>
      show after (receiveInput d (.notices v)) rest = _
      rw [receiveInput_notices, ih]
      cases hn : newsOf d with
      | none => rw [List.filterMap_cons_none hn]; rfl
      | some n => rw [List.filterMap_cons_some hn]; rfl

/-! ## The ledger -/

/-- A ledger: every id that ever arrived, and whether it is flagged as unread. -/
abbrev Flags := Table Bool

namespace Flags

/-- A known id is flagged or not. An id that never arrived is not entered. -/
def mark (l : Flags) (id : String) (unread : Bool) : Flags := l.modify id fun _ => unread

/-- No id is flagged any more. -/
def clear (l : Flags) : Flags := l.map fun p => (p.1, false)

/-- The ids that are flagged as unread. -/
def flagged (l : Flags) : List String := (l.filter fun p => p.2).map (·.1)

/-- What is entered for some news, given what the feed keeps at that moment. -/
def enter (l : Flags) (kept : String → Bool) : News → Flags
  | .arrived n => l.insert n.id (!n.read)
  | .changed u =>
    match u.read with
    | some true => l.mark u.id false
    | some false => if kept u.id then l.mark u.id true else l
    | none => l
  | .read b =>
    match b.ids with
    | some ids => ids.foldl (fun l id => l.mark id false) l
    | none => l.clear
  | .markRead id => l.mark id false
  | .markAllRead => l.clear

/-- The ledger after some news to a feed. -/
def along (l : Flags) (v : NoticeView) : List News → Flags
  | [] => l
  | e :: rest => (l.enter v.holds e).along (told e v) rest

end Flags

/-- The ledger of a feed of a limit after some news. -/
def ledger (limit : Nat) (news : List News) : Flags := Flags.along [] (.empty limit) news

section Flags

variable {l : Flags} {id other : String} {unread : Bool}

theorem get?_modify {α : Type} (t : Table α) (key other : String) (f : α → α) :
    (t.modify key f).get? other = (t.get? other).map fun a => if other = key then f a else a := by
  induction t with
  | nil => rfl
  | cons p rest ih =>
      obtain ⟨k, a⟩ := p
      simp only [Table.modify, List.map_cons] at ih ⊢
      by_cases hk : k = key
      · subst hk
        by_cases ho : k = other
        · subst ho
          simp [Table.get?]
        · rw [if_pos rfl, Table.get?, if_neg ho, Table.get?, if_neg ho]
          exact ih
      · rw [if_neg hk, Table.get?, Table.get?]
        by_cases ho : k = other
        · subst ho
          simp [hk]
        · rw [if_neg ho, if_neg ho]
          exact ih

theorem get?_clear (l : Flags) (id : String) :
    l.clear.get? id = (l.get? id).map fun _ => false := by
  induction l with
  | nil => rfl
  | cons p rest ih =>
      obtain ⟨k, a⟩ := p
      simp only [Flags.clear, List.map_cons, Table.get?] at ih ⊢
      split
      · rfl
      · exact ih

/-- To clear takes flags and no ids. -/
theorem keys_clear (l : Flags) : l.clear.keys = l.keys := by
  unfold Flags.clear Table.keys
  rw [List.map_map]
  exact List.map_congr_left fun _ _ => rfl

/-- A mark enters no id. -/
theorem keys_mark (l : Flags) (id : String) (unread : Bool) : (l.mark id unread).keys = l.keys :=
  keys_modify l id _

/-- The flagged ids are those whose flag is set. -/
theorem mem_flagged (h : Ordered l) : id ∈ l.flagged ↔ l.get? id = some true := by
  rw [← get?_of_mem h]
  unfold Flags.flagged
  rw [List.mem_map]
  constructor
  · rintro ⟨⟨k, b⟩, hmem, rfl⟩
    obtain ⟨hmem, hb⟩ := List.mem_filter.mp hmem
    have hb : b = true := hb
    rwa [hb] at hmem
  · intro hmem
    exact ⟨(id, true), List.mem_filter.mpr ⟨hmem, rfl⟩, rfl⟩

/-- No id is flagged twice, since none is entered twice. -/
theorem flagged_nodup (h : Ordered l) : l.flagged.Nodup :=
  (h.imp fun hlt => ne_of_lt hlt).sublist (List.filter_sublist.map _)

end Flags

/-! ## What a feed counts -/

/-- The ids that a feed counts as unread, of what it keeps and of what it let go. -/
def unreadIds (v : NoticeView) : List String :=
  (v.items.filter fun n => !n.read).map (·.id) ++ v.evictedUnread.keys

/-- The counter is the number of these ids. -/
theorem unread_length (v : NoticeView) : v.unread = (unreadIds v).length := by
  simp [NoticeView.unread, unreadIds, List.countP_eq_length_filter, Table.keys]

section Feed

variable {v : NoticeView} {l : Flags} {n : Notification} {id key : String}

theorem mem_unreadIds : id ∈ unreadIds v ↔
    (∃ n ∈ v.items, n.id = id ∧ n.read = false) ∨ id ∈ v.evictedUnread.keys := by
  unfold unreadIds
  simp only [List.mem_append, List.mem_map, List.mem_filter, Bool.not_eq_true']
  constructor
  · rintro (⟨n, ⟨hn, hread⟩, rfl⟩ | hid)
    · exact .inl ⟨n, hn, rfl, hread⟩
    · exact .inr hid
  · rintro (⟨n, hn, rfl, hread⟩ | hid)
    · exact .inl ⟨n, ⟨hn, hread⟩, rfl⟩
    · exact .inr hid

/-- A feed holds an id if a notification of it is kept. -/
theorem holds_iff_mem : v.holds id = true ↔ id ∈ v.items.map (·.id) := by
  simp [NoticeView.holds]

/-- What is not kept is not counted among what is kept. -/
theorem not_counted (hgone : v.holds id = false) : ¬ ∃ m ∈ v.items, m.id = id ∧ m.read = false := by
  rintro ⟨m, hm, rfl, -⟩
  exact Bool.false_ne_true (hgone.symm.trans (holds_iff_mem.mpr (List.mem_map_of_mem hm)))

/-- A feed knows every id once: of what it keeps, of what it let go, and not in both places. -/
structure Neat (v : NoticeView) : Prop where
  distinct : (v.items.map (·.id)).Nodup
  ordered : Ordered v.evictedUnread
  apart : ∀ id ∈ v.evictedUnread.keys, id ∉ v.items.map (·.id)

/-- So no id is counted twice. -/
theorem Neat.nodup (h : Neat v) : (unreadIds v).Nodup := by
  refine List.nodup_append'.mpr ⟨h.distinct.sublist (List.filter_sublist.map _),
    h.ordered.imp fun hlt => ne_of_lt hlt, ?_⟩
  intro id hkept hgone
  exact h.apart id hgone (List.filter_sublist.map _ |>.subset hkept)

/-! ### One notification changes where it stands -/

/-- The notification of an id, if it is kept, becomes another one of that id. -/
def touch (v : NoticeView) (key : String) (f : Notification → Notification) : NoticeView :=
  { v with items := modifyFirst (·.id = key) f v.items }

section Touch

variable {f : Notification → Notification} (h : Neat v) (hf : ∀ n, n.id = key → (f n).id = key)
include h hf

/-- Another notification of the same id takes the place of the one that is kept. -/
theorem touch_ids : (touch v key f).items.map (·.id) = v.items.map (·.id) := by
  show (modifyFirst (fun n => decide (n.id = key)) f v.items).map (·.id) = _
  rw [modifyFirst_eq_map key f h.distinct, List.map_map]
  refine List.map_congr_left fun n _ => ?_
  simp only [Function.comp_apply]
  split
  · rename_i hn
    exact (hf n hn).trans hn.symm
  · rfl

theorem touch_holds : (touch v key f).holds id = v.holds id := by
  rw [Bool.eq_iff_iff, holds_iff_mem, holds_iff_mem, touch_ids h hf]

theorem Neat.touch : Neat (touch v key f) where
  distinct := by rw [touch_ids h hf]; exact h.distinct
  ordered := h.ordered
  apart := by rw [touch_ids h hf]; exact h.apart

/-- Since ids are kept once, the first of an id is the only one. -/
theorem mem_touch : id ∈ unreadIds (Proofs.touch v key f) ↔
    (∃ n ∈ v.items, n.id = id ∧ (if n.id = key then f n else n).read = false)
      ∨ id ∈ v.evictedUnread.keys := by
  rw [mem_unreadIds]
  refine or_congr_left ?_
  show (∃ n ∈ modifyFirst (fun n => decide (n.id = key)) f v.items, n.id = id ∧ n.read = false) ↔ _
  rw [modifyFirst_eq_map key f h.distinct]
  -- what stands under the key afterwards has the same id
  have hid : ∀ n : Notification, (if n.id = key then f n else n).id = n.id := by
    intro n
    split
    · rename_i hn
      exact (hf n hn).trans hn.symm
    · rfl
  constructor
  · rintro ⟨m, hm, hmid, hread⟩
    obtain ⟨n, hn, rfl⟩ := List.mem_map.mp hm
    exact ⟨n, hn, (hid n).symm.trans hmid, hread⟩
  · rintro ⟨n, hn, hnid, hread⟩
    exact ⟨_, List.mem_map_of_mem hn, (hid n).trans hnid, hread⟩

/-- For the other ids nothing changes. -/
theorem mem_touch_ne (hne : id ≠ key) :
    id ∈ unreadIds (Proofs.touch v key f) ↔ id ∈ unreadIds v := by
  rw [mem_touch h hf, mem_unreadIds]
  refine or_congr_left (exists_congr fun n => and_congr_right fun _ => and_congr_right fun hn => ?_)
  rw [if_neg fun hkey => hne (hn.symm.trans hkey)]

/-- An id that is kept is unread if it is made so. -/
theorem mem_touch_self (hheld : v.holds key = true) {read : Bool}
    (hread : ∀ n, n.id = key → (f n).read = read) :
    key ∈ unreadIds (Proofs.touch v key f) ↔ read = false := by
  rw [mem_touch h hf, or_iff_left fun hgone => h.apart key hgone (holds_iff_mem.mp hheld)]
  obtain ⟨n, hn, hid⟩ := List.mem_map.mp (holds_iff_mem.mp hheld)
  constructor
  · rintro ⟨m, -, hm, hmread⟩
    rwa [if_pos hm, hread m hm] at hmread
  · intro hfalse
    exact ⟨n, hn, hid, by rw [if_pos hid, hread n hid]; exact hfalse⟩

end Touch

/-! ### A notification arrives -/

/-- Of what is let go the unread ones are remembered. -/
theorem keys_remember (ids : TextSet) (gone : List Notification) :
    id ∈ (NoticeView.remember ids gone).keys ↔
      id ∈ ids.keys ∨ ∃ n ∈ gone, n.id = id ∧ n.read = false := by
  unfold NoticeView.remember
  induction gone with
  | nil => simp
  | cons n rest ih =>
      rw [List.foldr_cons]
      split
      · rename_i hread
        rw [ih]
        simp [hread]
      · rename_i hread
        rw [mem_keys_insert, ih]
        have hread : n.read = false := by simpa using hread
        simp only [List.exists_mem_cons_iff, hread, and_true]
        tauto

theorem ordered_remember {ids : TextSet} (h : Ordered ids) (gone : List Notification) :
    Ordered (NoticeView.remember ids gone) := by
  unfold NoticeView.remember
  induction gone with
  | nil => exact h
  | cons n rest ih =>
      rw [List.foldr_cons]
      split
      · exact ih
      · exact ordered_insert ih n.id ()

/-- What a feed is when a notification arrives that it does not keep. -/
theorem receive_new (hnew : v.holds n.id = false) : v.receive n =
    { v with
      items := (n :: v.items).take v.limit
      evictedUnread := NoticeView.remember (v.evictedUnread.erase n.id)
        ((n :: v.items).drop v.limit) } := by
  unfold NoticeView.receive
  rw [if_neg (by rw [hnew]; exact Bool.false_ne_true)]

/-- A notification that is kept is replaced where it stands. -/
theorem receive_kept (hkept : v.holds n.id = true) : v.receive n = touch v n.id fun _ => n :=
  if_pos hkept

/-- A new id is not among those that are kept. -/
theorem fresh_nodup (h : Neat v) (hnew : v.holds n.id = false) :
    ((n :: v.items).map (·.id)).Nodup := by
  refine List.nodup_cons.mpr ⟨fun hmem => ?_, h.distinct⟩
  exact Bool.false_ne_true (hnew.symm.trans (holds_iff_mem.mpr hmem))

/-- **A feed that receives a notification still knows every id once.** -/
theorem Neat.receive (h : Neat v) (n : Notification) : Neat (v.receive n) := by
  cases hheld : v.holds n.id with
  | true =>
      rw [receive_kept hheld]
      exact h.touch fun _ _ => rfl
  | false =>
      have hnodup := fresh_nodup h hheld
      have hsplit := List.take_append_drop v.limit (n :: v.items)
      rw [receive_new hheld]
      -- what is kept and what is let go are two parts of one list
      refine ⟨hnodup.sublist ((List.take_sublist _ _).map _),
        ordered_remember (ordered_erase h.ordered n.id) _, fun id hgone hkept => ?_⟩
      dsimp only at hgone hkept
      rcases (keys_remember _ _).mp hgone with hbefore | ⟨m, hm, hid, -⟩
      · -- it was let go before, so it is neither kept nor the one that has arrived
        obtain ⟨hne, hbefore⟩ := mem_keys_erase.mp hbefore
        rcases List.mem_cons.mp ((List.take_sublist _ _).map _ |>.subset hkept) with heq | hmem
        · exact hne heq
        · exact h.apart id hbefore hmem
      · rw [← hsplit, List.map_append] at hnodup
        exact (List.nodup_append'.mp hnodup).2.2 hkept (hid ▸ List.mem_map_of_mem hm)

/-- What arrives is unread if it says so, and was let go only if it is unread; the others stay. -/
theorem mem_receive (h : Neat v) (n : Notification) :
    id ∈ unreadIds (v.receive n) ↔
      (id = n.id ∧ n.read = false) ∨ (id ≠ n.id ∧ id ∈ unreadIds v) := by
  cases hheld : v.holds n.id with
  | true =>
      rw [receive_kept hheld]
      by_cases hid : id = n.id
      · subst hid
        rw [mem_touch_self h (fun _ _ => rfl) hheld fun _ _ => rfl]
        simp
      · rw [mem_touch_ne h (fun _ _ => rfl) hid]
        simp [hid]
  | false =>
      -- whether an item is kept or let go, it is counted
      have hitems : id ∈ unreadIds (v.receive n) ↔
          (∃ m ∈ n :: v.items, m.id = id ∧ m.read = false)
            ∨ id ∈ (v.evictedUnread.erase n.id).keys := by
        rw [receive_new hheld, mem_unreadIds]
        dsimp only
        rw [keys_remember]
        conv_rhs => rw [← List.take_append_drop v.limit (n :: v.items)]
        simp only [List.mem_append, or_and_right, exists_or]
        rw [or_assoc]
        exact or_congr_right or_comm
      rw [hitems, mem_keys_erase, mem_unreadIds]
      simp only [List.exists_mem_cons_iff]
      by_cases hid : id = n.id
      · subst hid
        simp only [true_and, ne_eq, not_true, false_and, or_false]
        exact or_iff_left (not_counted hheld)
      · have hother : ¬ (n.id = id ∧ n.read = false) := fun hn => hid hn.1.symm
        simp only [hother, false_or, hid, ne_eq, not_false_eq_true, true_and, false_and]

/-! ### Notifications are read -/

theorem setRead_kept {read : Bool} (hkept : v.holds key = true) :
    v.setRead key read = touch v key ({ · with read := read }) := if_pos hkept

/-- A notification that was let go is read by taking its id out of what is remembered. -/
theorem setRead_gone (hgone : v.holds key = false) :
    v.setRead key true = { v with evictedUnread := v.evictedUnread.erase key } := by
  unfold NoticeView.setRead
  rw [if_neg (by rw [hgone]; exact Bool.false_ne_true), if_pos rfl]

/-- It cannot be made unread again: who let it go cannot tell whether it was ever there. -/
theorem setRead_lost (hgone : v.holds key = false) : v.setRead key false = v := by
  unfold NoticeView.setRead
  rw [if_neg (by rw [hgone]; exact Bool.false_ne_true), if_neg Bool.false_ne_true]

theorem Neat.read (h : Neat v) (key : String) : Neat (v.setRead key true) := by
  cases hheld : v.holds key with
  | true =>
      rw [setRead_kept hheld]
      exact h.touch fun _ hn => hn
  | false =>
      rw [setRead_gone hheld]
      exact ⟨h.distinct, ordered_erase h.ordered key,
        fun id hid => h.apart id (mem_keys_erase.mp hid).2⟩

/-- To read lets nothing go. -/
theorem holds_read (h : Neat v) (key : String) : (v.setRead key true).holds id = v.holds id := by
  cases hheld : v.holds key with
  | true =>
      rw [setRead_kept hheld]
      exact touch_holds h fun _ hn => hn
  | false =>
      rw [setRead_gone hheld]
      rfl

/-- What is read is counted no longer, kept or not. -/
theorem mem_read (h : Neat v) (key : String) :
    id ∈ unreadIds (v.setRead key true) ↔ id ≠ key ∧ id ∈ unreadIds v := by
  cases hheld : v.holds key with
  | true =>
      have hread : ∀ n : Notification, n.id = key →
          ({ n with read := true } : Notification).id = key :=
        fun _ hn => hn
      rw [setRead_kept hheld]
      by_cases hid : id = key
      · subst hid
        rw [mem_touch_self h hread hheld fun _ _ => rfl]
        simp
      · rw [mem_touch_ne h hread hid]
        simp [hid]
  | false =>
      rw [setRead_gone hheld, mem_unreadIds, mem_unreadIds, mem_keys_erase]
      by_cases hid : id = key
      · subst hid
        simp [not_counted hheld]
      · simp [hid]

theorem Neat.readAll (h : Neat v) : Neat v.readAll where
  distinct := by
    have hids : v.readAll.items.map (·.id) = v.items.map (·.id) := by
      simp [NoticeView.readAll, Function.comp_def]
    rw [hids]
    exact h.distinct
  ordered := .nil
  apart := fun id hid => absurd hid List.not_mem_nil

theorem holds_readAll : v.readAll.holds id = v.holds id := by
  simp [NoticeView.holds, NoticeView.readAll, Function.comp_def]

/-- Nothing is unread once all is read, kept or not. -/
theorem mem_readAll : id ∉ unreadIds v.readAll := by
  rw [mem_unreadIds]
  simp [NoticeView.readAll, Table.keys]

/-! ### A change to a notification -/

/-- Another text makes nobody read or unread. -/
theorem mem_retitle (h : Neat v) (u : NotificationUpdate) :
    id ∈ unreadIds (touch v u.id (NoticeView.retitle u)) ↔ id ∈ unreadIds v := by
  rw [mem_touch h (f := NoticeView.retitle u) fun _ hn => hn, mem_unreadIds]
  refine or_congr_left (exists_congr fun n => and_congr_right fun _ => and_congr_right fun _ => ?_)
  split <;> rfl

/-! ## The feed and its ledger -/

/-- A feed counts the ids that are flagged in a ledger, which knows everything that the feed
keeps. -/
structure Tallied (v : NoticeView) (l : Flags) : Prop where
  neat : Neat v
  ordered : Ordered l
  known : ∀ id, v.holds id = true → id ∈ l.keys
  flags : ∀ id, id ∈ unreadIds v ↔ l.get? id = some true

namespace Tallied

theorem empty (limit : Nat) : Tallied (.empty limit) [] where
  neat := ⟨.nil, .nil, fun id hid => absurd hid List.not_mem_nil⟩
  ordered := .nil
  known := fun id hid => absurd hid Bool.false_ne_true
  flags := fun id => by simp [unreadIds, NoticeView.empty, Table.keys, Table.get?]

/-- The counter is the number of flagged ids: both lists are without repetition. -/
theorem count (h : Tallied v l) : v.unread = l.flagged.length := by
  rw [unread_length]
  refine List.Perm.length_eq
    ((List.perm_ext_iff_of_nodup h.neat.nodup (flagged_nodup h.ordered)).mpr ?_)
  exact fun id => (h.flags id).trans (mem_flagged h.ordered).symm

/-- The ledger enters what arrives, whether the feed had it, keeps it or lets it go at once. -/
theorem arrive (h : Tallied v l) (n : Notification) :
    Tallied (v.receive n) (l.insert n.id (!n.read)) where
  neat := h.neat.receive n
  ordered := ordered_insert h.ordered n.id _
  known := by
    intro id hid
    rw [mem_keys_insert]
    -- an id that was kept stays kept; otherwise the list begins with what has arrived
    cases hheld : v.holds n.id with
    | true =>
        rw [receive_kept hheld, touch_holds h.neat fun _ _ => rfl] at hid
        exact .inr (h.known id hid)
    | false =>
        rw [receive_new hheld, holds_iff_mem] at hid
        rcases List.mem_cons.mp ((List.take_sublist _ _).map _ |>.subset hid) with heq | hmem
        · exact .inl heq
        · exact .inr (h.known id (holds_iff_mem.mpr hmem))
  flags := by
    intro id
    rw [mem_receive h.neat]
    by_cases hid : id = n.id
    · subst hid
      rw [Table.get?_insert_self]
      simp
    · rw [Table.get?_insert_ne (Ne.symm hid)]
      simp [hid, h.flags id]

theorem ordered_mark (h : Tallied v l) (key : String) (unread : Bool) :
    Ordered (l.mark key unread) := by
  unfold Ordered
  rw [keys_mark]
  exact h.ordered

/-- To read clears one flag, whether the notification is kept or was let go. -/
theorem read (h : Tallied v l) (key : String) :
    Tallied (v.setRead key true) (l.mark key false) where
  neat := h.neat.read key
  ordered := h.ordered_mark key false
  known := fun id hid => by
    rw [keys_mark]
    rw [holds_read h.neat] at hid
    exact h.known id hid
  flags := by
    intro id
    rw [mem_read h.neat, h.flags, Flags.mark, get?_modify]
    by_cases hid : id = key
    · simp [hid]
    · simp [hid]

/-- Ids are read one after another. -/
theorem readMany (h : Tallied v l) (ids : List String) :
    Tallied (ids.foldl (fun v id => v.setRead id true) v)
      (ids.foldl (fun l id => l.mark id false) l) := by
  induction ids generalizing v l with
  | nil => exact h
  | cons id rest ih => exact ih (h.read id)

theorem readAll (h : Tallied v l) : Tallied v.readAll l.clear where
  neat := h.neat.readAll
  ordered := by
    unfold Ordered
    rw [keys_clear]
    exact h.ordered
  known := fun id hid => by
    rw [keys_clear]
    rw [holds_readAll] at hid
    exact h.known id hid
  flags := fun id => by
    rw [get?_clear]
    exact iff_of_false mem_readAll (by simp)

/-- Only what is kept can become unread again. -/
theorem unread (h : Tallied v l) (key : String) : Tallied (v.setRead key false)
    (if v.holds key then l.mark key true else l) := by
  cases hheld : v.holds key with
  | false =>
      rw [setRead_lost hheld]
      exact h
  | true =>
      have hid : ∀ n : Notification, n.id = key →
          ({ n with read := false } : Notification).id = key :=
        fun _ hn => hn
      rw [setRead_kept hheld, if_pos rfl]
      refine ⟨h.neat.touch hid, h.ordered_mark key true, fun id hkept => ?_, fun id => ?_⟩
      · rw [keys_mark]
        rw [touch_holds h.neat hid] at hkept
        exact h.known id hkept
      · rw [Flags.mark, get?_modify]
        by_cases hkey : id = key
        · subst hkey
          rw [mem_touch_self h.neat hid hheld fun _ _ => rfl]
          -- what is kept has arrived, so the ledger has a flag for it
          obtain ⟨b, hb⟩ := Option.isSome_iff_exists.mp (mem_keys.mp (h.known id hheld))
          simp [hb]
        · rw [mem_touch_ne h.neat hid hkey, h.flags]
          simp [hkey]

/-- A change is a new text, and then a read or its opposite if it says so. -/
theorem change (h : Tallied v l) (u : NotificationUpdate) :
    Tallied (v.update u) (l.enter v.holds (.changed u)) := by
  have hid : ∀ n : Notification, n.id = u.id → (NoticeView.retitle u n).id = u.id := fun _ hn => hn
  have hholds : (touch v u.id (NoticeView.retitle u)).holds = v.holds :=
    funext fun id => touch_holds h.neat hid
  have htouched : Tallied (touch v u.id (NoticeView.retitle u)) l :=
    ⟨h.neat.touch hid, h.ordered, fun id hkept => h.known id (by rwa [hholds] at hkept),
      fun id => (mem_retitle h.neat u).trans (h.flags id)⟩
  -- the new text comes first, and it makes nobody read or unread
  have hupdate : v.update u = u.read.elim (touch v u.id (NoticeView.retitle u))
      fun read => (touch v u.id (NoticeView.retitle u)).setRead u.id read := by
    unfold NoticeView.update
    cases u.read <;> rfl
  rw [hupdate]
  unfold Flags.enter
  dsimp only
  cases u.read with
  | none => exact htouched
  | some read =>
      cases read with
      | true => exact htouched.read u.id
      | false =>
          have hunread := htouched.unread u.id
          rwa [hholds] at hunread

/-- **News do to the feed what they do to the ledger.** -/
theorem told (h : Tallied v l) (e : News) : Tallied (told e v) (l.enter v.holds e) := by
  cases e with
  | arrived n => exact h.arrive n
  | changed u => exact h.change u
  | read b =>
      obtain ⟨ids⟩ := b
      cases ids with
      | none => exact h.readAll
      | some ids => exact h.readMany ids
  | markRead id => exact h.read id
  | markAllRead => exact h.readAll

/-- So along all news. -/
theorem along (h : Tallied v l) (news : List News) :
    Tallied (news.foldl (fun v e => Proofs.told e v) v) (l.along v news) := by
  induction news generalizing v l with
  | nil => exact h
  | cons e rest ih => exact ih (h.told e)

end Tallied

theorem tallied_ledger (limit : Nat) (news : List News) :
    Tallied (feedAfter limit news) (ledger limit news) := (Tallied.empty limit).along news

/-! ## What reads do to the count -/

/-- Whether some news is that notifications were read. -/
def isRead : News → Bool
  | .arrived _ => false
  | .changed u => u.read = some true
  | .read _ | .markRead _ | .markAllRead => true

/-- Whether an id is among those that were read. -/
def reads (id : String) : News → Bool
  | .arrived _ => false
  | .changed u => u.read = some true ∧ u.id = id
  | .read b => b.ids.all (·.contains id)
  | .markRead other => other = id
  | .markAllRead => true

/-- Whether some news makes a notification unread again. -/
def makesUnread : News → Bool
  | .changed u => u.read = some false
  | _ => false

/-- A read takes the flag from its id alone. -/
theorem flagged_mark (l : Flags) (key : String) :
    (l.mark key false).flagged = l.flagged.filter (· ≠ key) := by
  unfold Flags.flagged Flags.mark Table.modify
  rw [List.filter_map, List.map_map, List.filter_map, List.filter_filter]
  -- what is not the key keeps its flag, and the key has none
  have hpick : l.filter ((fun p => p.2) ∘ fun p => if p.1 = key then (p.1, false) else p)
      = l.filter fun p =>
        ((fun id => decide (id ≠ key)) ∘ fun p : String × Bool => p.1) p && p.2 := by
    refine List.filter_congr fun p _ => ?_
    simp only [Function.comp_apply]
    by_cases hp : p.1 = key <;> simp [hp]
  rw [hpick]
  refine List.map_congr_left fun p _ => ?_
  simp only [Function.comp_apply]
  split <;> rfl

theorem flagged_marks (ids : List String) (l : Flags) :
    (ids.foldl (fun l id => l.mark id false) l).flagged
      = l.flagged.filter fun id => !ids.contains id := by
  induction ids generalizing l with
  | nil => simp
  | cons key rest ih =>
      rw [List.foldl_cons, ih, flagged_mark, List.filter_filter]
      refine List.filter_congr fun id _ => ?_
      by_cases hid : id = key <;> simp [hid]

theorem flagged_clear (l : Flags) : l.clear.flagged = [] := by
  simp [Flags.flagged, Flags.clear, List.filter_map, Function.comp_def]

/-- A read takes the flags from the ids that were read, and from no other. -/
theorem flagged_read (l : Flags) (kept : String → Bool) {e : News} (he : isRead e = true) :
    (l.enter kept e).flagged = l.flagged.filter fun id => !reads id e := by
  cases e with
  | arrived n => exact absurd he Bool.false_ne_true
  | changed u =>
      have hread : u.read = some true := of_decide_eq_true he
      have henter : l.enter kept (.changed u) = l.mark u.id false := by
        simp only [Flags.enter, hread]
      rw [henter, flagged_mark]
      refine List.filter_congr fun id _ => ?_
      simp [reads, hread, eq_comm]
  | read b =>
      obtain ⟨ids⟩ := b
      cases ids with
      | none => simp [Flags.enter, flagged_clear, reads]
      | some ids => simp only [Flags.enter, flagged_marks, reads, Option.all_some]
  | markRead key =>
      rw [Flags.enter, flagged_mark]
      refine List.filter_congr fun id _ => ?_
      simp [reads, eq_comm]
  | markAllRead => simp [Flags.enter, flagged_clear, reads]

/-- Without news that make something unread again, the ledger does not look at the feed. -/
theorem along_congr {news : List News} (h : ∀ e ∈ news, makesUnread e = false)
    (l : Flags) (v v' : NoticeView) : l.along v news = l.along v' news := by
  induction news generalizing l v v' with
  | nil => rfl
  | cons e rest ih =>
      have hsame : l.enter v.holds e = l.enter v'.holds e := by
        cases e with
        | changed u =>
            have hread : u.read ≠ some false :=
              of_decide_eq_false (h _ List.mem_cons_self)
            cases hu : u.read with
            | none => simp only [Flags.enter, hu]
            | some read =>
                cases read with
                | true => simp only [Flags.enter, hu]
                | false => exact absurd hu hread
        | _ => rfl
      rw [Flags.along, Flags.along, hsame]
      exact ih (fun x hx => h x (List.mem_cons_of_mem e hx)) _ _ _

/-- Reads of ids of which none is flagged take no flag. -/
theorem flagged_echoes {echoes : List News} {l : Flags} (v : NoticeView)
    (h : ∀ x ∈ echoes, isRead x = true ∧ ∀ id ∈ l.flagged, reads id x = false) :
    (l.along v echoes).flagged = l.flagged := by
  induction echoes generalizing l v with
  | nil => rfl
  | cons x rest ih =>
      obtain ⟨hread, hnone⟩ := h x List.mem_cons_self
      have hsame : (l.enter v.holds x).flagged = l.flagged := by
        rw [flagged_read l _ hread]
        exact List.filter_eq_self.mpr fun id hid => by rw [hnone id hid]; rfl
      rw [Flags.along, ih, hsame]
      intro y hy
      rw [hsame]
      exact h y (List.mem_cons_of_mem x hy)

/-- News that come later go on from the ledger and the feed so far. -/
theorem along_append (l : Flags) (v : NoticeView) (news later : List News) :
    l.along v (news ++ later)
      = (l.along v news).along (news.foldl (fun v e => Proofs.told e v) v) later := by
  induction news generalizing l v with
  | nil => rfl
  | cons e rest ih => exact ih _ _

end Feed

/-! ## The counter of a feed -/

/-- The counter of a feed of a limit is that of its ledger. -/
structure Accounted (limit : Nat) (news : List News) : Prop where
  /-- The number of ids that are flagged as unread. -/
  count : (feedAfter limit news).unread = (ledger limit news).flagged.length
  /-- A read counts down each flagged id that it names, and that once. -/
  once : ∀ e, isRead e = true →
    (feedAfter limit (news ++ [e])).unread + (ledger limit news).flagged.countP (reads · e)
      = (feedAfter limit news).unread
  /-- When it is echoed, by whatever route, nothing more is counted down. -/
  echoed : ∀ e echoes, isRead e = true →
    (∀ x ∈ echoes, isRead x = true ∧ ∀ id, reads id x = true → reads id e = true) →
    (feedAfter limit (news ++ e :: echoes)).unread = (feedAfter limit (news ++ [e])).unread
  /-- However many a feed keeps, it counts the same, unless something is made unread again. -/
  agreed : (∀ e ∈ news, makesUnread e = false) → ∀ other,
    (feedAfter other news).unread = (feedAfter limit news).unread

theorem accounted (limit : Nat) (news : List News) : Accounted limit news where
  count := (tallied_ledger limit news).count
  once := by
    intro e he
    -- the flags that a read takes are those of the ids that it names
    have hflagged : (ledger limit (news ++ [e])).flagged
        = (ledger limit news).flagged.filter fun id => !reads id e := by
      rw [ledger, along_append]
      exact flagged_read _ _ he
    rw [(tallied_ledger limit (news ++ [e])).count, (tallied_ledger limit news).count, hflagged,
      ← List.countP_eq_length_filter, List.length_eq_countP_add_countP (reads · e), Nat.add_comm]
    congr 1
    exact List.countP_congr fun id _ => by simp
  echoed := by
    intro e echoes he hechoes
    rw [(tallied_ledger limit _).count, (tallied_ledger limit _).count,
      show news ++ e :: echoes = (news ++ [e]) ++ echoes by simp, ledger, along_append]
    refine congrArg List.length (flagged_echoes _ fun x hx => ⟨(hechoes x hx).1, fun id hid => ?_⟩)
    rw [along_append] at hid
    -- what the first read left flagged no echo names
    have hleft := flagged_read _ _ he ▸ hid
    have hnot : reads id e = false := by simpa using (List.mem_filter.mp hleft).2
    cases hr : reads id x with
    | false => rfl
    | true => exact absurd ((hechoes x hx).2 id hr) (by rw [hnot]; exact Bool.false_ne_true)
  agreed := by
    intro h other
    rw [(tallied_ledger other news).count, (tallied_ledger limit news).count, ledger, ledger,
      along_congr h [] (.empty other) (.empty limit)]

/-- The news to the feed of a number along a run. -/
def newsTo (n : Nat) (w : World) (as : List Action) : List News :=
  (observed (viewInputs n) w as).filterMap newsOf

/-- **The unread counter is that of an eviction-free ledger**, for every limit and all news; and in
every run of a client a feed shows what the news to it make of it, so that this is what it tells
whoever asks. -/
theorem unread_ledger (limit : Nat) (news : List News) :
    Accounted limit news
      ∧ ∀ (parts : Parts) (setup : Setup) (hasRuntime : Bool) (stamps : Nat → Stamp)
          (as : List Action) (w : World),
        (World.initial parts setup hasRuntime stamps).actAll as = some w →
        ∀ n v, w.viewOf? n = some (.notices v) →
          v = feedAfter setup.noticeLimit (newsTo n (.initial parts setup hasRuntime stamps) as)
          ∧ ∀ name, w.feeds.get? name = some n →
            w.perform (.unread name) = w.answer (.count (ledger setup.noticeLimit
              (newsTo n (.initial parts setup hasRuntime stamps) as)).flagged.length) := by
  refine ⟨accounted limit news, ?_⟩
  intro parts setup hasRuntime stamps as w h n v hv
  obtain ⟨u, -, hfresh, hkind, hafter⟩ := views_along h hv
  obtain rfl := hfresh.notices hkind
  have hshown : v = feedAfter setup.noticeLimit
      (newsTo n (.initial parts setup hasRuntime stamps) as) := by
    rw [after_notices] at hafter
    exact View.notices.inj hafter
  refine ⟨hshown, fun name hname => ?_⟩
  have hcount := (accounted setup.noticeLimit
    (newsTo n (.initial parts setup hasRuntime stamps) as)).count
  rw [← hcount, ← hshown]
  simp only [World.perform, World.withFeed, World.withView, hname, hv]

/-- Notifications come to a feed that keeps one of them; the first is read after it was let go,
three times over. -/
def crowdedFeedRun : List Action :=
  let new (id : String) : List Action :=
    [.command
      (.dispatch "notification.new" (.ofMembers [("id", .string id), ("title", .string "t")])),
      .go, .go]
  .command (.openFeed "feed") :: new "a" ++ new "b" ++
    [.command (.dispatch "notification.update"
        (.ofMembers [("id", .string "a"), ("read", .bool true)])), .go, .go,
      .command (.dispatch "notification.bulk_read" (.ofMembers [("ids", .array [.string "a"])])),
        .go, .go,
      .command (.markRead "feed" "a")] ++ new "c"

/-- Two are unread, of which one is still kept. -/
theorem unread_ledger_crowded :
    let start := World.initial ⟨true, false, true⟩ { Setup.standard with noticeLimit := 1 } true
      fun _ => ⟨"m1", .epoch⟩
    ∃ w, start.actAll crowdedFeedRun = some w
      ∧ w.viewOf? 0 = some (.notices ⟨1, [⟨"c", none, "t", none, none, false, none⟩], [("b", ())]⟩)
      ∧ w.perform (.unread "feed") = w.answer (.count 2) := by
  intro start
  have hshown : (start.actAll crowdedFeedRun).bind (fun w => w.viewOf? 0)
      = some (.notices ⟨1, [⟨"c", none, "t", none, none, false, none⟩], [("b", ())]⟩) := by
    decide +kernel
  have hnamed : (start.actAll crowdedFeedRun).bind (fun w => w.feeds.get? "feed") = some 0 := by
    decide +kernel
  have hflagged : (ledger 1 (newsTo 0 start crowdedFeedRun)).flagged.length = 2 := by
    decide +kernel
  obtain ⟨w, h, hv⟩ := Option.bind_eq_some_iff.mp hshown
  rw [h] at hnamed
  obtain ⟨-, hcount⟩ := (unread_ledger 1 []).2 _ _ _ _ _ w h 0 _ hv
  exact ⟨w, h, hv, hflagged ▸ hcount "feed" hnamed⟩

end LiveLink.Proofs
