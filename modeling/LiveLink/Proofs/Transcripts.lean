import LiveLink.Proofs.ViewInputs

/-!
# What a chat shows is the end of its transcript

A chat keeps its last messages and marks those that a moderator removed. Said without
a limit: the `transcript` of an event has every message that was accepted for it, in
the order of arrival, and a message is marked as deleted if it arrived so or if its
removal came later. A chat of any limit shows the end of the transcript, as long as
no id is used twice (`chat_transcript`); and whatever else arrives has no part in it.

When one more envelope has arrived, the transcript is the one before with marks on some
messages, and perhaps with one more (`transcript_concat`). Dropping messages from its
front does not get in the way of either.
-/

namespace LiveLink.Proofs

open LiveLink

/-! ## What a chat is told -/

/-- The message in an envelope, if it is accepted for an event. -/
def messageIn (eventId : String) (e : Envelope) : Option ChatMessage :=
  if e.topic = "chat.message" then
    (e.typed ChatMessage.record.codec).toOption.filter (·.eventId = eventId)
  else none

/-- The id of the message that an envelope removes from the chat of an event. -/
def removalIn (eventId : String) (e : Envelope) : Option String :=
  if e.topic = "chat.moderation" then
    ((e.typed ModerationEvent.record.codec).toOption.filter
      fun a => a.eventId = eventId ∧ a.action.removesMessage).map (·.messageId)
  else none

/-- The state of the chat of an event in an envelope. -/
def statusIn (eventId : String) (e : Envelope) : Option ChatStatus :=
  if e.topic = "chat.status" then
    (e.typed ChatStatus.record.codec).toOption.filter (·.eventId = eventId)
  else none

/-- Whether an envelope says anything about the chat of an event. -/
def concerns (eventId : String) (e : Envelope) : Bool :=
  (messageIn eventId e).isSome || (removalIn eventId e).isSome || (statusIn eventId e).isSome

/-- What a chat shows when an envelope has come to it. -/
def overheard (e : Envelope) (v : ChatView) : ChatView :=
  if e.topic = "chat.message" then
    (e.typed ChatMessage.record.codec).toOption.elim v fun m => v.receive m
  else if e.topic = "chat.moderation" then
    (e.typed ModerationEvent.record.codec).toOption.elim v fun a => v.moderate a
  else if e.topic = "chat.status" then
    (e.typed ChatStatus.record.codec).toOption.elim v fun s => v.update s
  else v

/-- What a chat of an event and a limit shows after some envelopes. -/
def chatAfter (limit : Nat) (eventId : String) (es : List Envelope) : ChatView :=
  es.foldl (fun v e => overheard e v) (.empty eventId limit)

theorem heard_chat (e : Envelope) (v : ChatView) :
    heard e (.chat v) = .chat (overheard e v) := by
  unfold heard overheard View.receive
  dsimp only
  split
  · cases e.typed ChatMessage.record.codec <;> rfl
  · split
    · cases e.typed ModerationEvent.record.codec <;> rfl
    · split
      · cases e.typed ChatStatus.record.codec <;> rfl
      · rfl

/-- The envelope in an input of a view, if it is one. -/
def envelopeOf : ViewInput → Option Envelope
  | .envelope e => some e
  | _ => none

/-- A chat shows what the envelopes among its inputs make of it. -/
theorem after_chat (ds : List ViewInput) (v : ChatView) :
    after (.chat v) ds = .chat ((ds.filterMap envelopeOf).foldl (fun v e => overheard e v) v) := by
  induction ds generalizing v with
  | nil => rfl
  | cons d rest ih =>
      cases d with
      | envelope e =>
          show after (heard e (.chat v)) rest = _
          rw [heard_chat, ih]
          rfl
      | _ => exact ih v

/-! ## The transcript -/

/-- Every message that was accepted for an event, in the order of arrival. It is deleted if it
arrived so or if its removal came later. -/
def transcript (eventId : String) : List Envelope → List ChatMessage
  | [] => []
  | e :: rest =>
    match messageIn eventId e with
    | some m =>
      { m with deleted := m.deleted || rest.any (removalIn eventId · = some m.id) }
        :: transcript eventId rest
    | none => transcript eventId rest

/-- A message is marked, if it is the one that is removed. -/
def strikeOut (removed : Option String) (m : ChatMessage) : ChatMessage :=
  if some m.id = removed then { m with deleted := true } else m

section Transcript

variable {k : String} {e : Envelope} {es : List Envelope} {m : ChatMessage} {id : String}

@[simp] theorem strikeOut_none (m : ChatMessage) : strikeOut none m = m := if_neg (by simp)

theorem map_strikeOut_none (l : List ChatMessage) : l.map (strikeOut none) = l :=
  (List.map_congr_left fun m _ => strikeOut_none m).trans (List.map_id _)

/-- A removal that comes later marks the message as well. -/
theorem strikeOut_deleted (removed : Option String) (b : Bool) (m : ChatMessage) :
    strikeOut removed { m with deleted := m.deleted || b }
      = { m with deleted := m.deleted || (b || decide (removed = some m.id)) } := by
  unfold strikeOut
  by_cases h : removed = some m.id
  · simp [h]
  · simp [h, Ne.symm h]

/-- **One more envelope** marks what it removes, and perhaps adds a message. -/
theorem transcript_concat (k : String) (es : List Envelope) (x : Envelope) :
    transcript k (es ++ [x])
      = (transcript k es).map (strikeOut (removalIn k x)) ++ (messageIn k x).toList := by
  induction es with
  | nil =>
      rw [List.nil_append, transcript, transcript]
      cases messageIn k x with
      | none => rfl
      | some m => simp [transcript]
  | cons e rest ih =>
      rw [List.cons_append, transcript, transcript]
      cases messageIn k e with
      | none => exact ih
      | some m =>
          dsimp only
          rw [ih, List.map_cons, strikeOut_deleted]
          simp

/-- The messages of the transcript are the accepted ones. -/
theorem transcript_ids (k : String) (es : List Envelope) :
    (transcript k es).map (·.id) = (es.filterMap (messageIn k)).map (·.id) := by
  induction es with
  | nil => rfl
  | cons e rest ih =>
      rw [transcript]
      cases hm : messageIn k e with
      | none => rw [List.filterMap_cons_none hm]; exact ih
      | some m => rw [List.filterMap_cons_some hm, List.map_cons, List.map_cons, ih]

/-! ## What one envelope does to a chat -/

theorem removalIn_of_message (h : messageIn k e = some m) : removalIn k e = none := by
  unfold messageIn at h
  split at h
  · rename_i htopic
    exact if_neg (by rw [htopic]; decide)
  · exact absurd h (by simp)

/-- What is kept of the messages when an envelope has come. -/
def keptMessages (e : Envelope) (v : ChatView) : List ChatMessage :=
  (messageIn v.eventId e).elim
    ((removalIn v.eventId e).elim v.messages fun id => (v.tombstone id).messages)
    fun m => pushBounded v.limit v.messages m

/-- **What an envelope does to a chat** depends on what it says about the event only. -/
theorem overheard_eq (e : Envelope) (v : ChatView) : overheard e v =
    { v with messages := keptMessages e v, status := (statusIn v.eventId e).or v.status } := by
  unfold overheard keptMessages messageIn removalIn statusIn
  split
  · rename_i htopic
    rw [if_neg (by rw [htopic]; decide), if_neg (by rw [htopic]; decide)]
    cases (e.typed ChatMessage.record.codec).toOption with
    | none => rfl
    | some m =>
        simp only [Option.elim_some, ChatView.receive, Option.filter, decide_eq_true_eq]
        split <;> rfl
  · split
    · rename_i htopic
      rw [if_neg (by rw [htopic]; decide)]
      cases (e.typed ModerationEvent.record.codec).toOption with
      | none => rfl
      | some a =>
          simp only [Option.elim_some, ChatView.moderate, Option.filter, decide_eq_true_eq]
          split <;> rfl
    · split
      · cases (e.typed ChatStatus.record.codec).toOption with
        | none => rfl
        | some s =>
            simp only [Option.elim_some, ChatView.update, Option.filter, decide_eq_true_eq]
            split <;> rfl
      · rfl

/-- What says nothing about the event leaves its chat as it is. -/
theorem overheard_irrelevant {v : ChatView} (h : concerns v.eventId e = false) :
    overheard e v = v := by
  simp only [concerns, Bool.or_eq_false_iff, Option.isSome_eq_false_iff, Option.isNone_iff_eq_none]
    at h
  obtain ⟨⟨hm, hr⟩, hs⟩ := h
  rw [overheard_eq, keptMessages, hm, hr, hs]
  rfl

/-! ## The end of the transcript -/

variable (limit : Nat)

theorem chatAfter_concat (es : List Envelope) (x : Envelope) :
    chatAfter limit k (es ++ [x]) = overheard x (chatAfter limit k es) := by
  unfold chatAfter
  rw [List.foldl_append]
  rfl

theorem chatAfter_same (k : String) (es : List Envelope) :
    (chatAfter limit k es).eventId = k ∧ (chatAfter limit k es).limit = limit := by
  induction es using List.reverseRecOn with
  | nil => exact ⟨rfl, rfl⟩
  | append_singleton es x ih =>
      rw [chatAfter_concat, overheard_eq]
      exact ih

/-- The first message of an id is the only one. -/
theorem tombstone_messages {v : ChatView} (h : (v.messages.map (·.id)).Nodup) (id : String) :
    (v.tombstone id).messages = v.messages.map (strikeOut (some id)) := by
  show modifyFirst (fun m => decide (m.id = id)) ({ · with deleted := true }) v.messages = _
  rw [modifyFirst_eq_map id _ h]
  refine List.map_congr_left fun m _ => ?_
  unfold strikeOut
  by_cases hm : m.id = id <;> simp [hm]

theorem chat_messages (hids : ((es.filterMap (messageIn k)).map (·.id)).Nodup) :
    (chatAfter limit k es).messages
      = (transcript k es).drop ((transcript k es).length - limit) := by
  induction es using List.reverseRecOn with
  | nil => exact List.drop_nil.symm
  -- induction from the end, where the envelopes come
  | append_singleton es x ih =>
      obtain ⟨hevent, hlimit⟩ := chatAfter_same limit k es
      rw [List.filterMap_append, List.map_append] at hids
      have hbefore := ih hids.of_append_left
      rw [chatAfter_concat, overheard_eq, transcript_concat]
      show keptMessages x (chatAfter limit k es) = _
      rw [keptMessages, hevent, hlimit]
      -- a message pushes, a removal marks; no envelope is both
      cases hm : messageIn k x with
      | some m =>
          rw [removalIn_of_message hm, map_strikeOut_none, Option.elim_some, hbefore,
            pushBounded_drop]
          rfl
      | none =>
          rw [Option.elim_none, Option.toList_none, List.append_nil, List.length_map,
            ← List.map_drop,
            ← hbefore]
          cases removalIn k x with
          | none => exact (map_strikeOut_none _).symm
          | some id =>
              -- what is kept has distinct ids, as it ends the transcript
              refine tombstone_messages ?_ id
              rw [hbefore, List.map_drop, transcript_ids]
              exact hids.of_append_left.sublist (List.drop_sublist _ _)

theorem chat_status (k : String) (es : List Envelope) :
    (chatAfter limit k es).status = (es.filterMap (statusIn k)).getLast? := by
  induction es using List.reverseRecOn with
  | nil => rfl
  | append_singleton es x ih =>
      rw [chatAfter_concat, overheard_eq, List.filterMap_append]
      show (statusIn (chatAfter limit k es).eventId x).or (chatAfter limit k es).status = _
      rw [(chatAfter_same limit k es).1, ih]
      cases hs : statusIn k x with
      | none => simp [hs]
      | some s => simp [hs]

theorem chat_relevant (k : String) (es : List Envelope) :
    chatAfter limit k (es.filter (concerns k)) = chatAfter limit k es := by
  induction es using List.reverseRecOn with
  | nil => rfl
  | append_singleton es x ih =>
      rw [List.filter_append, chatAfter_concat]
      cases hx : concerns k x with
      | true => rw [List.filter_cons_of_pos hx, List.filter_nil, chatAfter_concat, ih]
      | false =>
          rw [List.filter_cons_of_neg (by rw [hx]; exact Bool.false_ne_true), List.filter_nil,
            List.append_nil, ih, overheard_irrelevant]
          rwa [(chatAfter_same limit k es).1]

end Transcript

/-! ## What a chat shows -/

/-- A chat of an event and a limit shows the end of its transcript, and nothing else matters. -/
structure Transcribed (limit : Nat) (k : String) (es : List Envelope) : Prop where
  /-- The last messages that were accepted, as many as the chat keeps, marked as they are. -/
  messages : (chatAfter limit k es).messages
    = (transcript k es).drop ((transcript k es).length - limit)
  /-- The last state of the chat that arrived. -/
  status : (chatAfter limit k es).status = (es.filterMap (statusIn k)).getLast?
  /-- Other events, topics and actions, and what cannot be read, have no influence. -/
  relevant : chatAfter limit k (es.filter (concerns k)) = chatAfter limit k es
  /-- A chat that keeps more ends with the same messages. -/
  wider : ∀ larger, limit ≤ larger → (chatAfter limit k es).messages
    = (chatAfter larger k es).messages.drop ((chatAfter larger k es).messages.length - limit)

theorem transcribed (limit : Nat) {k : String} {es : List Envelope}
    (hids : ((es.filterMap (messageIn k)).map (·.id)).Nodup) : Transcribed limit k es where
  messages := chat_messages limit hids
  status := chat_status limit k es
  relevant := chat_relevant limit k es
  wider := by
    intro larger hle
    rw [chat_messages limit hids, chat_messages larger hids, List.drop_drop, List.length_drop]
    congr 1
    omega

/-- The envelopes that came to the view of a number along a run. -/
def envelopesTo (n : Nat) (w : World) (as : List Action) : List Envelope :=
  (observed (viewInputs n) w as).filterMap envelopeOf

/-- **A chat shows the end of its transcript**, if no id was used twice among the messages for its
event; and in every run of a client a chat shows what the envelopes that came to it make of it. -/
theorem chat_transcript (limit : Nat) (k : String) (es : List Envelope)
    (hids : ((es.filterMap (messageIn k)).map (·.id)).Nodup) :
    Transcribed limit k es
      ∧ ∀ (parts : Parts) (setup : Setup) (hasRuntime : Bool) (stamps : Nat → Stamp)
          (as : List Action) (w : World),
        (World.initial parts setup hasRuntime stamps).actAll as = some w →
        ∀ n v, w.viewOf? n = some (.chat v) →
          v = chatAfter setup.chatLimit v.eventId
            (envelopesTo n (.initial parts setup hasRuntime stamps) as) := by
  refine ⟨transcribed limit hids, ?_⟩
  intro parts setup hasRuntime stamps as w h n v hv
  -- the chat began empty, and all that came to it since is among its inputs
  obtain ⟨u, -, hfresh, hkind, hafter⟩ := views_along h hv
  obtain ⟨eventId, rfl⟩ := hfresh.chat hkind
  rw [after_chat] at hafter
  have hshown : v = chatAfter setup.chatLimit eventId
      (envelopesTo n (.initial parts setup hasRuntime stamps) as) := View.chat.inj hafter
  have hevent : v.eventId = eventId := hshown ▸ (chatAfter_same _ eventId _).1
  rw [hevent]
  exact hshown

/-- A chat that keeps two messages. A removal comes before its message, one in time and one too
late; in between there is a message of another event, one that cannot be read, and a ban. -/
def moderatedRun : List Action :=
  let arrive (topic : String) (payload : List (String × Json)) : List Action :=
    [.command (.dispatch topic (.ofMembers payload)), .go, .go]
  let message (event id : String) := arrive "chat.message"
    [("id", .string id), ("eventId", .string event), ("message", .string "hello")]
  let moderation (id action : String) := arrive "chat.moderation"
    [("eventId", .string "e1"), ("messageId", .string id), ("action", .string action)]
  .command (.joinChat "room" "e1") :: message "e1" "m1" ++ moderation "m2" "delete"
    ++ message "e1" "m2" ++ message "e2" "m2" ++ arrive "chat.message" []
    ++ moderation "m2" "hide" ++ moderation "m2" "ban"
    ++ arrive "chat.status" [("eventId", .string "e1"), ("status", .string "open")]
    ++ message "e1" "m3" ++ moderation "m1" "delete"

/-- The second message is marked, the third is not, and the first is gone. -/
theorem chat_transcript_moderated :
    let start := World.initial ⟨true, false, true⟩ { Setup.standard with chatLimit := 2 } true
      fun _ => ⟨"m1", .epoch⟩
    let shown : ChatView := ⟨"e1", 2, [⟨"m2", "e1", "hello", none, none, none, true⟩,
      ⟨"m3", "e1", "hello", none, none, none, false⟩], some ⟨"e1", "open", none, none⟩⟩
    Transcribed 2 "e1" (envelopesTo 0 start moderatedRun)
      ∧ ∃ w, start.actAll moderatedRun = some w ∧ w.viewOf? 0 = some (.chat shown)
        ∧ shown = chatAfter 2 "e1" (envelopesTo 0 start moderatedRun) := by
  intro start shown
  have hids :
      (((envelopesTo 0 start moderatedRun).filterMap (messageIn "e1")).map (·.id)).Nodup := by
    decide +kernel
  have hend : (start.actAll moderatedRun).bind (fun w => w.viewOf? 0) = some (.chat shown) := by
    decide +kernel
  obtain ⟨htranscribed, hrun⟩ := chat_transcript 2 "e1" _ hids
  obtain ⟨w, h, hv⟩ := Option.bind_eq_some_iff.mp hend
  exact ⟨htranscribed, w, h, hv, hrun _ _ _ _ _ w h 0 _ hv⟩

end LiveLink.Proofs
