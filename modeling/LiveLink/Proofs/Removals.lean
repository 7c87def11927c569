import LiveLink.Proofs.Transcripts

/-!
# A removal marks one message

A chat keeps what arrives without looking at ids, so that a message which the server
sends again is kept twice. A removal looks for the first message of its id among those
that are kept, marks it, and leaves the others alone (`Struck`); the copies behind it
stay in view, and the next removal finds the marked one again. So the message is gone
from view if it is kept once, and not if a copy of it is (`removal_strikes_first`,
`copy_outlives_removal`).

Which ids are kept is known from what was accepted alone: they are the last ones, as
many as the chat keeps (`chat_ids`).
-/

namespace LiveLink.Proofs

open LiveLink

/-! ## The first message of an id -/

/-- The first message of an id is marked, if there is one. -/
inductive Struck (id : String) : List ChatMessage → List ChatMessage → Prop
  | absent {l : List ChatMessage} (h : id ∉ l.map (·.id)) : Struck id l l
  | first {front back : List ChatMessage} {m : ChatMessage} (h : id ∉ front.map (·.id))
      (hm : m.id = id) :
      Struck id (front ++ m :: back) (front ++ { m with deleted := true } :: back)

section Lists

variable {α : Type} {test : α → Bool}

theorem modifyFirst_of_none (f : α → α) {l : List α} (h : ∀ a ∈ l, test a = false) :
    modifyFirst test f l = l := by
  induction l with
  | nil => rfl
  | cons a l ih =>
      rw [modifyFirst, if_neg (by simp [h a List.mem_cons_self]),
        ih fun b hb => h b (List.mem_cons_of_mem a hb)]

theorem modifyFirst_append (f : α → α) {front back : List α} {a : α}
    (h : ∀ b ∈ front, test b = false) (ha : test a = true) :
    modifyFirst test f (front ++ a :: back) = front ++ f a :: back := by
  induction front with
  | nil => exact if_pos ha
  | cons b front ih =>
      rw [List.cons_append, modifyFirst, if_neg (by simp [h b List.mem_cons_self]),
        ih fun c hc => h c (List.mem_cons_of_mem b hc)]
      rfl

end Lists

section Struck

variable {id : String} {l l' before after : List ChatMessage}

theorem not_mem_ids : id ∉ l.map (·.id) ↔ ∀ m ∈ l, m.id ≠ id := by
  simp only [List.mem_map, not_exists, not_and, ne_eq]

theorem tombstone_struck (v : ChatView) (id : String) :
    Struck id v.messages (v.tombstone id).messages := by
  show Struck id v.messages
    (modifyFirst (fun m => decide (m.id = id)) ({ · with deleted := true }) v.messages)
  cases hfind : v.messages.find? (fun m => decide (m.id = id)) with
  | none =>
      have hnone : ∀ m ∈ v.messages, decide (m.id = id) = false := by
        intro m hm
        simpa using List.find?_eq_none.mp hfind m hm
      rw [modifyFirst_of_none _ hnone]
      -- no message of the id is kept: the removal comes too late, or too early
      exact .absent (not_mem_ids.mpr fun m hm => of_decide_eq_false (hnone m hm))
  | some m =>
      obtain ⟨hm, front, back, hsplit, hfront⟩ := List.find?_eq_some_iff_append.mp hfind
      have hbefore : ∀ a ∈ front, decide (a.id = id) = false := by
        intro a ha
        simpa using hfront a ha
      rw [hsplit, modifyFirst_append _ hbefore hm]
      -- the search stops at the first copy; those behind it stay as they were
      exact .first (not_mem_ids.mpr fun a ha => of_decide_eq_false (hbefore a ha))
        (of_decide_eq_true hm)

theorem Struck.ids (h : Struck id before after) : after.map (·.id) = before.map (·.id) := by
  cases h with
  | absent _ => rfl
  | first _ _ => rw [List.map_append, List.map_append, List.map_cons, List.map_cons]

theorem Struck.other (h : Struck id before after) {i : Nat} {m : ChatMessage}
    (hm : before[i]? = some m) (hid : m.id ≠ id) : after[i]? = some m := by
  cases h with
  | absent _ => exact hm
  | @first front back n hfront hn =>
      -- in front of the marked message, at it, and behind it
      rcases Nat.lt_trichotomy i front.length with hi | hi | hi
      · rw [List.getElem?_append_left hi] at hm ⊢
        exact hm
      · rw [hi, List.getElem?_append_right (Nat.le_refl _), Nat.sub_self] at hm
        obtain rfl : n = m := Option.some.inj hm
        exact absurd hn hid
      · rw [List.getElem?_append_right (Nat.le_of_lt hi)] at hm ⊢
        obtain ⟨j, hj⟩ := Nat.exists_eq_succ_of_ne_zero (Nat.sub_ne_zero_of_lt hi)
        rw [hj] at hm ⊢
        exact hm

/-- What is kept of an id is marked exactly if the copies behind the first one were before. -/
theorem Struck.gone_iff (h : Struck id before after) :
    (∀ m ∈ after, m.id = id → m.deleted = true)
      ↔ ∀ m ∈ (before.filter (·.id = id)).tail, m.deleted = true := by
  cases h with
  | absent hnone =>
      rw [List.filter_eq_nil_iff.mpr fun m hm => by simpa using not_mem_ids.mp hnone m hm]
      refine iff_of_true (fun m hm hid => absurd hid (not_mem_ids.mp hnone m hm)) ?_
      exact fun m hm => absurd hm List.not_mem_nil
  | @first front back n hfront hn =>
      -- of the copies only those behind the first one can be left unmarked
      have hcopies : ((front ++ n :: back).filter (·.id = id)).tail
          = back.filter (·.id = id) := by
        have hnone : front.filter (·.id = id) = [] :=
          List.filter_eq_nil_iff.mpr fun m hm => by simpa using not_mem_ids.mp hfront m hm
        rw [List.filter_append, hnone]
        simp [hn]
      rw [hcopies]
      constructor
      · intro hall m hm
        obtain ⟨hm, hid⟩ := List.mem_filter.mp hm
        exact hall m (List.mem_append_right _ (List.mem_cons_of_mem _ hm)) (of_decide_eq_true hid)
      · intro hall m hm hid
        rcases List.mem_append.mp hm with hm | hm
        · exact absurd hid (not_mem_ids.mp hfront m hm)
        · rcases List.mem_cons.mp hm with rfl | hm
          · rfl
          · exact hall m (List.mem_filter.mpr ⟨hm, decide_eq_true hid⟩)

/-- If an id is kept once at most, all that is kept of it is marked. -/
theorem Struck.gone (h : Struck id before after) (honce : (before.map (·.id)).count id ≤ 1) :
    ∀ m ∈ after, m.id = id → m.deleted = true := by
  refine h.gone_iff.mpr fun m hm => ?_
  have hcount : (before.filter (·.id = id)).length ≤ 1 := by
    rw [List.count, List.countP_map, List.countP_eq_length_filter] at honce
    exact honce
  have htail : (before.filter (·.id = id)).tail.length = 0 := by
    rw [List.length_tail]
    omega
  rw [List.eq_nil_of_length_eq_zero htail] at hm
  exact absurd hm List.not_mem_nil

end Struck

/-! ## The ids that a chat keeps -/

/-- The ids of the messages that were accepted for an event, in the order of arrival. -/
def acceptedIds (k : String) (es : List Envelope) : List String :=
  (es.filterMap (messageIn k)).map (·.id)

theorem acceptedIds_concat (k : String) (es : List Envelope) (x : Envelope) :
    acceptedIds k (es ++ [x]) = acceptedIds k es ++ ((messageIn k x).map (·.id)).toList := by
  unfold acceptedIds
  rw [List.filterMap_append, List.map_append]
  cases hm : messageIn k x with
  | none => rw [List.filterMap_cons_none hm]; rfl
  | some m => rw [List.filterMap_cons_some hm]; rfl

theorem map_pushBounded {α β : Type} (f : α → β) (limit : Nat) (l : List α) (a : α) :
    (pushBounded limit l a).map f = pushBounded limit (l.map f) (f a) := by
  simp [pushBounded, List.map_drop]

/-- **A chat keeps the ids that were accepted last**, whether or not they were accepted before. -/
theorem chat_ids (limit : Nat) (k : String) (es : List Envelope) :
    (chatAfter limit k es).messages.map (·.id)
      = (acceptedIds k es).drop ((acceptedIds k es).length - limit) := by
  induction es using List.reverseRecOn with
  | nil => exact List.drop_nil.symm
  | append_singleton es x ih =>
      obtain ⟨hevent, hlimit⟩ := chatAfter_same limit k es
      rw [chatAfter_concat, overheard_eq, acceptedIds_concat]
      show (keptMessages x (chatAfter limit k es)).map (·.id) = _
      rw [keptMessages, hevent, hlimit]
      cases messageIn k x with
      | some m =>
          rw [Option.elim_some, map_pushBounded, ih, pushBounded_drop]
          rfl
      | none =>
          rw [Option.elim_none, Option.map_none, Option.toList_none, List.append_nil, ← ih]
          cases removalIn k x with
          | none => rfl
          -- a mark changes no id
          | some id => exact (tombstone_struck _ id).ids

/-! ## What a removal does -/

/-- A removal does this to the messages of a chat. -/
structure Removal (id : String) (before after : List ChatMessage) : Prop where
  /-- The first message of the id is marked, if one is kept, and that is all. -/
  struck : Struck id before after
  /-- No message comes or goes, and none moves. -/
  ids : after.map (·.id) = before.map (·.id)
  /-- The messages of other ids stay as they are. -/
  others : ∀ (i : Nat) (m : ChatMessage), before[i]? = some m → m.id ≠ id →
    after[i]? = some m
  /-- All that is kept of the id is marked exactly if the copies behind the first were before. -/
  gone : (∀ m ∈ after, m.id = id → m.deleted = true)
    ↔ ∀ m ∈ (before.filter (·.id = id)).tail, m.deleted = true

theorem Struck.removal {id : String} {before after : List ChatMessage}
    (h : Struck id before after) : Removal id before after :=
  ⟨h, h.ids, fun _ _ hm hid => h.other hm hid, h.gone_iff⟩

theorem overheard_struck {v : ChatView} {x : Envelope} {id : String}
    (h : removalIn v.eventId x = some id) : Struck id v.messages (overheard x v).messages := by
  have hm : messageIn v.eventId x = none := by
    cases hm : messageIn v.eventId x with
    | none => rfl
    | some m => exact absurd ((removalIn_of_message hm).symm.trans h) (by simp)
  rw [overheard_eq]
  show Struck id v.messages (keptMessages x v)
  rw [keptMessages, hm, h]
  exact tombstone_struck v id

/-- **A removal marks the first message of its id**, after any envelopes, and it leaves all others
as they are. So the message is gone from view if it is among the last accepted ones only once. This
is what happens in a client whenever a removal comes to a chat. -/
theorem removal_strikes_first (limit : Nat) (k : String) (es : List Envelope) (x : Envelope)
    (id : String) (h : removalIn k x = some id) :
    Removal id (chatAfter limit k es).messages (chatAfter limit k (es ++ [x])).messages
      ∧ (((acceptedIds k es).drop ((acceptedIds k es).length - limit)).count id ≤ 1 →
        ∀ m ∈ (chatAfter limit k (es ++ [x])).messages, m.id = id → m.deleted = true)
      ∧ ∀ (w w' : World) (a : Action) (n : Nat) (v : ChatView), w.act a = some w' →
        w.viewOf? n = some (.chat v) → v.eventId = k → viewInputs n w a = [.envelope x] →
        ∃ v', w'.viewOf? n = some (.chat v') ∧ Removal id v.messages v'.messages := by
  have hstruck : Struck id (chatAfter limit k es).messages
      (chatAfter limit k (es ++ [x])).messages := by
    rw [chatAfter_concat]
    exact overheard_struck (by rwa [(chatAfter_same limit k es).1])
  refine ⟨hstruck.removal, ?_, ?_⟩
  · intro honce
    rw [← chat_ids] at honce
    exact hstruck.gone honce
  · rintro w w' a n v hact hv rfl hinput
    have hbefore : (views w ++ openings w a)[n]? = some (.chat v) := by
      rw [viewOf_views] at hv
      rw [List.getElem?_append_left (List.getElem?_eq_some_iff.mp hv).1, hv]
    refine ⟨overheard x v, ?_, (overheard_struck h).removal⟩
    rw [viewOf_views, act_view hact, hbefore, hinput, Option.map_some]
    exact congrArg some (heard_chat x v)

/-- A message. -/
def helloFrame : Envelope where
  topic := "chat.message"
  payload := .ofMembers [("id", .string "m1"), ("eventId", .string "e1"),
    ("message", .string "hello")]
  id := "f1"
  timestamp := .epoch

/-- Its removal. -/
def removalFrame : Envelope where
  topic := "chat.moderation"
  payload := .ofMembers [("eventId", .string "e1"), ("messageId", .string "m1"),
    ("action", .string "delete")]
  id := "f1"
  timestamp := .epoch

/-- A chat that keeps `limit` messages is sent the message twice, and its removal, which is about to
be delivered. -/
def replayed (limit : Nat) : Option World :=
  let arrive (e : Envelope) : List Action := [.command (.dispatch e.topic e.payload), .go, .go]
  (World.initial ⟨true, false, true⟩ { Setup.standard with chatLimit := limit } true
      fun _ => ⟨"f1", .epoch⟩).actAll
    (.command (.joinChat "room" "e1") :: arrive helloFrame ++ arrive helloFrame
      ++ [.command (.dispatch removalFrame.topic removalFrame.payload)])

/-- A chat that keeps one message only has let the first copy go, so the removal is complete. -/
theorem removal_strikes_first_lone :
    (∀ m ∈ (chatAfter 1 "e1" [helloFrame, helloFrame, removalFrame]).messages,
        m.id = "m1" → m.deleted = true)
      ∧ ∃ w w' v v', replayed 1 = some w ∧ w.act .go = some w'
        ∧ w.viewOf? 0 = some (.chat v) ∧ w'.viewOf? 0 = some (.chat v')
        ∧ v.messages.map (·.deleted) = [false] ∧ Removal "m1" v.messages v'.messages := by
  have hremoval : removalIn "e1" removalFrame = some "m1" := by decide +kernel
  obtain ⟨-, hgone, hclient⟩ :=
    removal_strikes_first 1 "e1" [helloFrame, helloFrame] removalFrame "m1" hremoval
  refine ⟨hgone (by decide +kernel), ?_⟩
  have hinput : (replayed 1).map (viewInputs 0 · .go) = some [.envelope removalFrame] := rfl
  have hview : (replayed 1).bind (·.viewOf? 0) = some (.chat ⟨"e1", 1,
      [⟨"m1", "e1", "hello", none, none, none, false⟩], none⟩) := by decide +kernel
  have hmoves : ((replayed 1).bind (·.act .go)).isSome := by decide +kernel
  obtain ⟨w, hw, hinput⟩ := Option.map_eq_some_iff.mp hinput
  rw [hw] at hview hmoves
  obtain ⟨w', hw'⟩ := Option.isSome_iff_exists.mp hmoves
  obtain ⟨v', hv', hremoved⟩ := hclient w w' .go 0 _ hw' hview rfl hinput
  exact ⟨w, w', _, v', hw, hw', hview, hv', rfl, hremoved⟩

/-- **A copy of a message outlives its removal**, and a second removal as well. -/
theorem copy_outlives_removal :
    removalIn "e1" removalFrame = some "m1"
      ∧ (chatAfter 200 "e1" [helloFrame, helloFrame, removalFrame]).messages
        = [⟨"m1", "e1", "hello", none, none, none, true⟩,
          ⟨"m1", "e1", "hello", none, none, none, false⟩]
      ∧ (chatAfter 200 "e1" [helloFrame, helloFrame, removalFrame, removalFrame]).messages
        = (chatAfter 200 "e1" [helloFrame, helloFrame, removalFrame]).messages
      ∧ ((replayed 200).bind (·.act .go)).bind (·.viewOf? 0)
        = some (.chat (chatAfter 200 "e1" [helloFrame, helloFrame, removalFrame])) := by
  refine ⟨?_, ?_, ?_, ?_⟩ <;> decide +kernel

end LiveLink.Proofs
