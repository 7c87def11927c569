import LiveLink.Envelope
import LiveLink.Proofs.Skipping

/-!
# What a frame decodes to

A frame that is an object is gone through member by member. What each member comes
to depends on its name alone: four names have a slot each, which is filled once, and
all other members are skipped (`member_takes`). So the frame as a whole can be told
from the values each of the four names has (`foldlM_take_iff`), and neither the order
of the members nor their spelling matters. A frame that is an array has the same
readers in a fixed order (`readArray_row`).
-/

namespace LiveLink.Proofs

open LiveLink Json

variable {ws cs rest : List Char}

/-! ## Readers of a member -/

/-- A reader goes by the value it meets, in whatever text. -/
def Understands {α : Type} (read : Cursor → Except Json.Error (α × Cursor))
    (read? : Json → Option α) : Prop :=
  ∀ {v : Json} {cs ws rest : List Char} (p : Position), Renders cs v → Blank ws →
    EndsInteger rest → Yields (read ⟨ws ++ (cs ++ rest), p⟩) (read? v) rest

/-- The text that a value is. -/
def text? : Json → Option String
  | .string s => some s
  | _ => none

/-- The time that a value tells. -/
def time? (v : Json) : Option Instant := (text? v).bind fun s => (Instant.read s).toOption

/-- The payload that a value is, in order. -/
def payload? (v : Json) : Option Json := if nesting v ≤ 126 then some v.sorted else none

/-- Whatever stands there instead, it is an error. -/
theorem unexpected_error (α : Type) (expected : String) (c : Cursor) :
    ∃ e, (unexpected expected c : Except Json.Error α) = .error e := by
  unfold unexpected
  dsimp only
  split
  · exact ⟨_, rfl⟩
  · split
    · exact ⟨_, rfl⟩
    · split
      · exact ⟨_, rfl⟩
      · split
        · exact ⟨_, rfl⟩
        · exact ⟨_, rfl⟩

/-- Only a string begins with a quote. -/
theorem Renders.string_or {v : Json} (h : Renders cs v) :
    (∃ s, v = .string s ∧ Quoted s cs) ∨
      text? v = none ∧ ∃ x xs, cs = x :: xs ∧ Cursor.isBlank x = false ∧ x ≠ '"' := by
  cases h with
  | named h => cases h <;> exact .inr ⟨rfl, _, _, rfl, by decide⟩
  | @int i _ =>
      obtain ⟨x, xs, hcs, hx⟩ := int_begins i
      exact .inr ⟨rfl, x, xs, hcs, by simp [Cursor.isBlank, hx], hx (by decide) (by decide)⟩
  | @string s _ h => exact .inl ⟨s, rfl, h⟩
  | array _ => exact .inr ⟨rfl, '[', _, rfl, by decide⟩
  | object _ => exact .inr ⟨rfl, '{', _, rfl, by decide⟩

/-- A topic and an id are strings, and nothing else is accepted in their place. -/
theorem expectString_understands (expected : String) :
    Understands (expectString expected) text? := by
  intro v cs ws rest p h hws _
  -- what is no string shows by its first character, before anything of it is read
  rcases h.string_or with ⟨s, rfl, hs⟩ | ⟨hnone, x, xs, rfl, hx, hquote⟩
  · obtain ⟨ds, hds, hread⟩ := readString_quoted hs rest
    obtain ⟨q, hq⟩ := skipBlanks_cons hws (x := '"') (by decide) p ds
    obtain ⟨q', hq'⟩ := hread (q.past '"')
    refine ⟨q', ?_⟩
    unfold expectString
    rw [hds]
    simp only [hq, if_true]
    exact hq'
  · obtain ⟨q, hq⟩ := skipBlanks_cons hws hx p (xs ++ rest)
    obtain ⟨e, he⟩ := unexpected_error (String × Cursor) expected ⟨x :: (xs ++ rest), q⟩
    rw [hnone]
    refine ⟨e, ?_⟩
    unfold expectString
    simp only [List.cons_append, hq, if_neg hquote, he]

/-- A time is a string that can be read as one. -/
theorem readTime_understands : Understands Draft.readTime time? := by
  intro v cs ws rest p h hws hrest
  have hstring := expectString_understands "an RFC 3339 formatted date and time string" p h hws
    hrest
  unfold Draft.readTime time?
  cases htext : text? v with
  | none =>
      rw [htext] at hstring
      obtain ⟨e, he⟩ := hstring
      refine ⟨e, ?_⟩
      rw [he]
      rfl
  | some s =>
      rw [htext] at hstring
      obtain ⟨q, hq⟩ := hstring
      rw [hq]
      simp only [bind, Except.bind, Option.bind]
      cases Instant.read s with
      | ok t => exact ⟨q, rfl⟩
      | error f => exact ⟨_, rfl⟩

/-- A payload may nest a little less deep than a frame, of which it is a part. -/
theorem readPayload_understands : Understands (readValue Draft.innerDepth) payload? :=
  fun p h hws hrest => readValue_renders h 126 hws hrest p

/-! ## Frames that are objects -/

/-- Fills a slot that must be empty. -/
def fill {α β : Type} (read? : Json → Option α) (old : Option α) (put : α → β) (v : Json) :
    Option β :=
  if old.isSome then none else (read? v).map put

/-- What one member does to the slots. -/
def take (s : Draft.Slots) (m : String × Json) : Option Draft.Slots :=
  if m.1 = "type" then fill text? s.topic (fun t => { s with topic := some t }) m.2
  else if m.1 = "payload" then fill payload? s.payload (fun v => { s with payload := some v }) m.2
  else if m.1 = "id" then fill text? s.id (fun t => { s with id := some t }) m.2
  else if m.1 = "timestamp" then
    fill time? s.timestamp (fun t => { s with timestamp := some t }) m.2
  else some s

/-- A slot that is filled refuses the member before its value is looked at. -/
theorem fill_yields {α β : Type} {read : Cursor → Except Json.Error (α × Cursor)}
    {read? : Json → Option α} (hread : Understands read read?) (old : Option α) (put : α → β)
    (name : String) {v : Json} {before after : List Char} (hbefore : Blank before)
    (hafter : Blank after) (hcs : Renders cs v) (hrest : EndsInteger rest) (p : Position) :
    Yields (if old.isSome then Draft.duplicate name ⟨before ++ ':' :: (after ++ (cs ++ rest)), p⟩
        else do
          let (a, c) ← read (← readColon ⟨before ++ ':' :: (after ++ (cs ++ rest)), p⟩)
          return (put a, c)) (fill read? old put v) rest := by
  unfold fill
  -- the error of a duplicate comes before the colon
  cases old with
  | some _ => exact ⟨_, rfl⟩
  | none =>
      obtain ⟨q, hq⟩ := readColon_append hbefore p (after ++ (cs ++ rest))
      rw [hq]
      exact (hread q hcs hafter hrest).map put

/-- **What a member comes to depends on its name and on its value.** -/
theorem member_takes : TakesMember Draft.member take := by
  intro m before after cs rest s p hbefore hafter hcs hrest
  obtain ⟨name, v⟩ := m
  unfold Draft.member take
  dsimp only
  by_cases htype : name = "type"
  · rw [if_pos htype, if_pos htype]
    exact fill_yields (expectString_understands _) s.topic _ name hbefore hafter hcs hrest p
  rw [if_neg htype, if_neg htype]
  by_cases hpayload : name = "payload"
  · rw [if_pos hpayload, if_pos hpayload]
    exact fill_yields readPayload_understands s.payload _ name hbefore hafter hcs hrest p
  rw [if_neg hpayload, if_neg hpayload]
  by_cases hid : name = "id"
  · rw [if_pos hid, if_pos hid]
    exact fill_yields (expectString_understands _) s.id _ name hbefore hafter hcs hrest p
  rw [if_neg hid, if_neg hid]
  by_cases htime : name = "timestamp"
  · rw [if_pos htime, if_pos htime]
    exact fill_yields readTime_understands s.timestamp _ name hbefore hafter hcs hrest p
  rw [if_neg htime, if_neg htime]
  obtain ⟨q, hq⟩ := readColon_append hbefore p (after ++ (cs ++ rest))
  obtain ⟨q', hq'⟩ := skipValue_renders hcs hafter hrest q
  refine ⟨q', ?_⟩
  rw [hq]
  show (skipValue _ >>= fun c => pure (s, c)) = _
  rw [hq']
  rfl

/-- The draft in some members. -/
def draftOf? (ms : List (String × Json)) : Option Draft :=
  (ms.foldlM take .empty).bind fun s =>
    s.topic.map fun topic => ⟨topic, s.payload.getD .null, s.id, s.timestamp⟩

/-- An object is its members, one after the other, and then it is asked for its topic. -/
theorem readObject_row {ms : List (String × Json)} (hrow : Row (Padded (Paired Renders)) cs ms)
    (p : Position) :
    Yields (Draft.readObject ⟨cs ++ '}' :: rest, p⟩) (draftOf? ms) rest := by
  have hloop : Yields (readMembers Draft.member _ true .empty ⟨cs ++ '}' :: rest, p⟩) _
      ('}' :: rest) := readMembers_ahead member_takes (.row hrow) (Nat.lt_succ_self _) .empty p
  unfold Draft.readObject draftOf?
  cases hslots : ms.foldlM take .empty with
  | none =>
      rw [hslots] at hloop
      obtain ⟨e, he⟩ := hloop
      refine ⟨e, ?_⟩
      rw [he]
      rfl
  | some s =>
      rw [hslots] at hloop
      obtain ⟨q, hq⟩ := hloop
      rw [hq]
      obtain ⟨topic, payload, id, time⟩ := s
      -- the topic is the one member that may not be missing
      cases topic with
      | none => exact ⟨_, rfl⟩
      | some topic => exact ⟨q.past '}', rfl⟩

/-! ## Frames that are arrays -/

/-- The next item of an array, if there is one, and the items after it. -/
def nextOf? {α : Type} (read? : Json → Option α) : List Json → Option (Option α × List Json)
  | [] => some (none, [])
  | v :: vs => (read? v).map fun a => (some a, vs)

/-- The draft in the items of an array. -/
def draftOfItems? (vs : List Json) : Option Draft := do
  let (topic, vs) ← nextOf? text? vs
  let topic ← topic
  let (payload, vs) ← nextOf? payload? vs
  let (id, vs) ← nextOf? text? vs
  let (time, vs) ← nextOf? time? vs
  if vs.isEmpty then some ⟨topic, payload.getD .null, id, time⟩ else none

/-- **One item of a frame that is an array.** -/
theorem item_ahead {α : Type} {read : Cursor → Except Json.Error (α × Cursor)}
    {read? : Json → Option α} (hread : Understands read read?) {first : Bool} {vs : List Json}
    (h : Ahead Renders ']' rest first cs vs) (p : Position) :
    match nextOf? read? vs with
    | some (o, vs') => ∃ cs' q, Draft.item first read ⟨cs, p⟩ = .ok (o, ⟨cs', q⟩)
        ∧ Ahead Renders ']' rest false cs' vs'
    | none => ∃ e, Draft.item first read ⟨cs, p⟩ = .error e := by
  unfold Draft.item
  cases vs with
  | nil =>
      obtain ⟨ws, hws, rfl⟩ := h.nil
      obtain ⟨q, hq⟩ := nextItem_close hws first p rest
      -- no item is left: the cursor stays at the bracket
      refine ⟨']' :: rest, q, ?_, .tail blank_nil .nil⟩
      rw [hq]
      rfl
  | cons v vs =>
      obtain ⟨lead, text, more, hlead, htext, hmore, rfl⟩ := h.cons
      obtain ⟨q, hq⟩ := nextItem_lead hlead htext.begins p more
      -- the reader understands the text of the item, whatever follows it
      have hitem := hread q htext blank_nil (hmore.endsInteger (endsInteger_cons (by decide)))
      rw [hq, nextOf?]
      cases hv : read? v with
      | none =>
          rw [hv] at hitem
          obtain ⟨e, he⟩ := hitem
          refine ⟨e, ?_⟩
          rw [List.nil_append] at he
          simp only [bind, Except.bind, he]
      | some a =>
          rw [hv] at hitem
          obtain ⟨q', hq'⟩ := hitem
          refine ⟨more, q', ?_, hmore⟩
          rw [List.nil_append] at hq'
          simp only [bind, Except.bind, hq']
          rfl

/-- An array with more items than there are names is refused. -/
theorem closeArray_ahead {vs : List Json} (h : Ahead Renders ']' rest false cs vs)
    (p : Position) :
    if vs.isEmpty then ∃ q, Draft.closeArray ⟨cs, p⟩ = .ok ⟨rest, q⟩
    else ∃ e, Draft.closeArray ⟨cs, p⟩ = .error e := by
  unfold Draft.closeArray
  cases vs with
  | nil =>
      obtain ⟨ws, hws, rfl⟩ := h.nil
      obtain ⟨q, hq⟩ := skipBlanks_cons hws (x := ']') (by decide) p rest
      refine ⟨q.past ']', ?_⟩
      simp only [hq, if_true]
      rfl
  | cons v vs =>
      obtain ⟨_, text, more, hlead, htext, hmore, rfl⟩ := h.cons
      -- a text ahead stands behind a comma, since this is not the first
      cases hlead with
      | @comma before after hbefore hafter =>
          obtain ⟨x, xs, rfl, hx, hclose⟩ := htext.begins
          obtain ⟨q, hq⟩ := skipBlanks_cons hbefore (x := ',') (by decide) p
            (after ++ x :: (xs ++ more))
          simp only [List.append_assoc, List.cons_append, hq, List.isEmpty_cons, Char.reduceEq,
            Bool.false_eq_true, if_true, if_false]
          split <;> exact ⟨_, rfl⟩

/-- What follows an item goes by what the item was and by the values after it. -/
theorem item_bind {α β : Type} {read : Cursor → Except Json.Error (α × Cursor)}
    {read? : Json → Option α} (hread : Understands read read?) {first : Bool} {vs : List Json}
    (h : Ahead Renders ']' rest first cs vs) (p : Position)
    {more : Option α × Cursor → Except Json.Error (β × Cursor)}
    {more? : Option α × List Json → Option β}
    (hmore : ∀ {o vs cs} q, Ahead Renders ']' rest false cs vs →
      Yields (more (o, ⟨cs, q⟩)) (more? (o, vs)) rest) :
    Yields (Draft.item first read ⟨cs, p⟩ >>= more) (nextOf? read? vs >>= more?) rest := by
  have hitem := item_ahead hread h p
  cases hnext : nextOf? read? vs with
  | none =>
      rw [hnext] at hitem
      obtain ⟨e, he⟩ := hitem
      exact ⟨e, by rw [he]; rfl⟩
  | some x =>
      rw [hnext] at hitem
      obtain ⟨cs', q, hq, hahead⟩ := hitem
      rw [hq]
      exact hmore q hahead

/-- **An array is read by the same readers in the order of the names.** -/
theorem readArray_row {vs : List Json} (hrow : Row (Padded Renders) cs vs) (p : Position) :
    Yields (Draft.readArray ⟨cs ++ ']' :: rest, p⟩) (draftOfItems? vs) rest := by
  refine item_bind (expectString_understands "a string") (.row hrow) p ?_
  intro topic vs cs p h
  cases topic with
  | none => exact ⟨_, rfl⟩
  | some topic =>
      refine item_bind readPayload_understands h p ?_
      intro payload vs cs p h
      refine item_bind (expectString_understands "a string") h p ?_
      intro id vs cs p h
      refine item_bind readTime_understands h p ?_
      intro time vs cs p h
      have hclose := closeArray_ahead h p
      cases vs with
      | nil =>
          obtain ⟨q, hq⟩ := hclose
          refine ⟨q, ?_⟩
          dsimp only
          rw [hq]
          rfl
      | cons v vs =>
          obtain ⟨e, he⟩ := hclose
          refine ⟨e, ?_⟩
          dsimp only
          rw [he]
          rfl

/-! ## Whole frames -/

/-- The draft in a value. -/
def draft? : Json → Option Draft
  | .object ms => draftOf? ms
  | .array vs => draftOfItems? vs
  | _ => none

theorem readEnd_blank (hws : Blank ws) (p : Position) : readEnd ⟨ws, p⟩ = .ok () := by
  obtain ⟨q, hq⟩ := skipBlanks_end hws p
  unfold readEnd
  rw [hq]
  rfl

/-- Nothing but blanks may follow. -/
theorem readEnd_more {x : Char} (hws : Blank ws) (hx : Cursor.isBlank x = false) (p : Position)
    (more : List Char) : ∃ e, readEnd ⟨ws ++ x :: more, p⟩ = .error e := by
  obtain ⟨q, hq⟩ := skipBlanks_cons hws hx p more
  refine ⟨.fault .trailingCharacters (Cursor.after ⟨x :: more, q⟩), ?_⟩
  unfold readEnd
  rw [hq]
  rfl

/-- What a frame says is what its text says, if nothing but blanks follows. -/
theorem readFrame_text {frame : String} {v : Json} (h : Renders cs v) (hws : Blank ws)
    (hframe : frame.toList = ws ++ (cs ++ rest)) :
    ∃ r, Yields r (draft? v) rest
      ∧ Draft.readFrame frame = r >>= fun x => readEnd x.2 >>= fun _ => pure x.1 := by
  obtain ⟨x, xs, hcs, hx, -⟩ := h.begins
  obtain ⟨q, hq⟩ := skipBlanks_cons hws hx ⟨1, 0⟩ (xs ++ rest)
  have hstart : (Cursor.ofText frame).skipBlanks = ⟨x :: (xs ++ rest), q⟩ := by
    rw [← hq, ← List.cons_append, ← hcs, ← hframe]
    rfl
  -- only two characters begin a frame; the others are refused where they stand
  have hscalar : x ≠ '{' → x ≠ '[' → draft? v = none →
      ∃ r, Yields r (draft? v) rest
        ∧ Draft.readFrame frame = r >>= fun x => readEnd x.2 >>= fun _ => pure x.1 := by
    intro hbrace hbracket hnone
    obtain ⟨e, he⟩ := unexpected_error (Draft × Cursor) "struct Envelope"
      ⟨x :: (xs ++ rest), q⟩
    refine ⟨.error e, by rw [hnone]; exact ⟨e, rfl⟩, ?_⟩
    unfold Draft.readFrame
    rw [hstart]
    simp only [if_neg hbrace, if_neg hbracket, he]
  cases h with
  | named h => cases h <;> cases hcs <;> exact hscalar (by decide) (by decide) rfl
  | @int i _ =>
      -- an integer begins with a digit or its sign, and is no frame
      obtain ⟨y, ys, htext, hy⟩ := int_begins i
      rw [htext] at hcs
      cases hcs
      exact hscalar (hy (by decide) (by decide)) (hy (by decide) (by decide)) rfl
  | string hs =>
      obtain ⟨body, -, rfl⟩ := hs
      cases hcs
      exact hscalar (by decide) (by decide) rfl
  | @array vs body hrow =>
      cases hcs
      refine ⟨_, readArray_row hrow (q.past '['), ?_⟩
      unfold Draft.readFrame
      rw [hstart]
      simp only [List.append_assoc]
      rfl
  | @object ms body hrow =>
      cases hcs
      refine ⟨_, readObject_row hrow (q.past '{'), ?_⟩
      unfold Draft.readFrame
      rw [hstart]
      simp only [List.append_assoc]
      rfl

/-- **A frame decodes to what its value says**, in whatever text the value is. -/
theorem readFrame_renders {frame : String} {v : Json} (h : Padded Renders frame.toList v) :
    (Draft.readFrame frame).toOption = draft? v := by
  generalize hframe : frame.toList = text at h
  obtain @⟨before, cs, after, _, hbefore, hcs, hafter⟩ := h
  obtain ⟨r, hr, heq⟩ := readFrame_text hcs hbefore hframe
  rw [heq]
  cases hdraft : draft? v with
  | none =>
      rw [hdraft] at hr
      obtain ⟨e, rfl⟩ := hr
      rfl
  | some d =>
      rw [hdraft] at hr
      obtain ⟨q, rfl⟩ := hr
      show (readEnd ⟨after, q⟩ >>= fun _ => pure d).toOption = _
      rw [readEnd_blank hafter]
      rfl

/-- A frame that goes on behind its value is refused, whatever the value is. -/
theorem readFrame_trailing {frame : String} {v : Json} {x : Char} {more : List Char}
    (h : Padded Renders cs v) (hx : Cursor.isBlank x = false)
    (hframe : frame.toList = cs ++ x :: more) : (Draft.readFrame frame).toOption = none := by
  obtain @⟨before, cs, after, _, hbefore, hcs, hafter⟩ := h
  simp only [List.append_assoc] at hframe
  obtain ⟨r, hr, heq⟩ := readFrame_text hcs hbefore hframe
  rw [heq]
  cases hdraft : draft? v with
  | none =>
      rw [hdraft] at hr
      obtain ⟨e, rfl⟩ := hr
      rfl
  | some d =>
      rw [hdraft] at hr
      obtain ⟨q, rfl⟩ := hr
      obtain ⟨e, he⟩ := readEnd_more hafter hx q more
      show (readEnd ⟨after ++ x :: more, q⟩ >>= fun _ => pure d).toOption = _
      rw [he]
      rfl

/-! ## What the members say -/

/-- The values that a name has. -/
def valuesOf (name : String) (ms : List (String × Json)) : List Json :=
  (ms.filter fun m => m.1 = name).map (·.2)

theorem mem_valuesOf {name : String} {ms : List (String × Json)} {v : Json} :
    v ∈ valuesOf name ms ↔ (name, v) ∈ ms := by
  simp only [valuesOf, List.mem_map, List.mem_filter, decide_eq_true_eq, Prod.exists,
    exists_eq_right]

theorem valuesOf_cons (name other : String) (v : Json) (ms : List (String × Json)) :
    valuesOf name ((other, v) :: ms)
      = if other = name then v :: valuesOf name ms else valuesOf name ms := by
  unfold valuesOf
  by_cases h : other = name <;> simp [h]

/-- A slot is filled from the values its name has, of which there may be one. -/
def Filled {α : Type} (read? : Json → Option α) : Option α → List Json → Option α → Prop
  | old, [], new => new = old
  | old, v :: vs, new => old = none ∧ ∃ a, read? v = some a ∧ Filled read? (some a) vs new

/-- A slot that begins empty takes one value at most. -/
theorem filled_none {α : Type} {read? : Json → Option α} {vs : List Json} {new : Option α} :
    Filled read? none vs new ↔
      (vs = [] ∧ new = none) ∨ ∃ v a, vs = [v] ∧ read? v = some a ∧ new = some a := by
  cases vs with
  | nil => simp [Filled]
  | cons v vs =>
      cases vs with
      | nil => simp [Filled]
      | cons w vs => simp [Filled]

theorem fill_iff {α β : Type} {read? : Json → Option α} {old : Option α} {put : α → β} {v : Json}
    {b : β} : fill read? old put v = some b ↔
      old = none ∧ ∃ a, read? v = some a ∧ put a = b := by
  unfold fill
  cases old <;> simp

/-- **The slots are filled one apart from the other**, each from the values of its name. -/
theorem foldlM_take_iff {ms : List (String × Json)} {s s' : Draft.Slots} :
    ms.foldlM take s = some s' ↔
      Filled text? s.topic (valuesOf "type" ms) s'.topic
        ∧ Filled payload? s.payload (valuesOf "payload" ms) s'.payload
        ∧ Filled text? s.id (valuesOf "id" ms) s'.id
        ∧ Filled time? s.timestamp (valuesOf "timestamp" ms) s'.timestamp := by
  induction ms generalizing s with
  | nil =>
      obtain ⟨topic, payload, id, time⟩ := s
      obtain ⟨topic', payload', id', time'⟩ := s'
      simp only [List.foldlM_nil, Option.pure_def, Option.some.injEq, Draft.Slots.mk.injEq,
        valuesOf, List.filter_nil, List.map_nil, Filled]
      constructor
      · rintro ⟨rfl, rfl, rfl, rfl⟩
        exact ⟨rfl, rfl, rfl, rfl⟩
      · rintro ⟨rfl, rfl, rfl, rfl⟩
        exact ⟨rfl, rfl, rfl, rfl⟩
  | cons m ms ih =>
      obtain ⟨name, v⟩ := m
      rw [List.foldlM_cons, Option.bind_eq_bind, Option.bind_eq_some_iff]
      simp only [ih, valuesOf_cons]
      -- a name has at most one of the four slots
      by_cases htype : name = "type"
      · subst htype
        simp only [take, if_true, fill_iff, Filled]
        grind
      by_cases hpayload : name = "payload"
      · subst hpayload
        simp only [take, if_neg htype, if_true, fill_iff, Filled]
        grind
      by_cases hid : name = "id"
      · subst hid
        simp only [take, if_neg htype, if_neg hpayload, if_true, fill_iff, Filled]
        grind
      by_cases htime : name = "timestamp"
      · subst htime
        simp only [take, if_neg htype, if_neg hpayload, if_neg hid, if_true, fill_iff, Filled]
        grind
      · simp [take, htype, hpayload, hid, htime]

/-- Whether a member has a value, or is missing. -/
def Holds (ms : List (String × Json)) (name : String) : Option Json → Prop
  | some v => (name, v) ∈ ms
  | none => ∀ v, (name, v) ∉ ms

/-- What the members of a frame say: a topic, and a payload, an id and a time that may be
missing. -/
structure Says (ms : List (String × Json)) (topic : String) (payload : Option Json)
    (id : Option String) (time : Option Instant) : Prop where
  topic : Holds ms "type" (some (.string topic))
  payload : Holds ms "payload" payload
  id : Holds ms "id" (id.map .string)
  time : ∃ text : Option String, Holds ms "timestamp" (text.map .string)
    ∧ text.map Instant.read = time.map .ok

/-- A name that occurs once has at most one value. -/
theorem length_valuesOf {ms : List (String × Json)} (hnames : (ms.map (·.1)).Nodup)
    (name : String) : (valuesOf name ms).length ≤ 1 := by
  have hcount := List.nodup_iff_count.mp hnames name
  rw [List.count, List.countP_map, List.countP_eq_length_filter] at hcount
  rw [valuesOf, List.length_map]
  exact hcount

/-- So to have a value is to have it alone. -/
theorem holds_iff {ms : List (String × Json)} (hnames : (ms.map (·.1)).Nodup) {name : String}
    {o : Option Json} : Holds ms name o ↔ valuesOf name ms = o.toList := by
  cases o with
  | none =>
      rw [Option.toList_none, List.eq_nil_iff_forall_not_mem]
      exact forall_congr' fun v => not_congr mem_valuesOf.symm
  | some v =>
      rw [Option.toList_some]
      constructor
      · intro hmem
        have hlength := length_valuesOf hnames name
        have hv : v ∈ valuesOf name ms := mem_valuesOf.mpr hmem
        -- two values would be more than the name may have
        match hvalues : valuesOf name ms with
        | [] =>
            rw [hvalues] at hv
            cases hv
        | [w] =>
            rw [hvalues] at hv
            rw [List.mem_singleton.mp hv]
        | _ :: _ :: _ =>
            rw [hvalues] at hlength
            simp at hlength
      · intro hvalues
        exact mem_valuesOf.mp (hvalues ▸ List.mem_singleton_self v)

/-- A slot is filled with what its name holds. -/
theorem filled_iff_holds {α : Type} {read? : Json → Option α} {ms : List (String × Json)}
    (hnames : (ms.map (·.1)).Nodup) {name : String} {new : Option α} :
    Filled read? none (valuesOf name ms) new ↔
      ∃ o, Holds ms name o ∧ o.map read? = new.map some := by
  simp only [holds_iff hnames, filled_none]
  constructor
  · rintro (⟨hvalues, rfl⟩ | ⟨v, a, hvalues, hread, rfl⟩)
    · exact ⟨none, hvalues, rfl⟩
    · exact ⟨some v, hvalues, congrArg some hread⟩
  · rintro ⟨o, hvalues, hread⟩
    cases o with
    | none =>
        cases new with
        | none => exact .inl ⟨hvalues, rfl⟩
        | some _ => cases hread
    | some v =>
        cases new with
        | none => cases hread
        | some a => exact .inr ⟨v, a, hvalues, Option.some.inj hread, rfl⟩

theorem map_text?_eq {o : Option Json} {t : Option String} :
    o.map text? = t.map some ↔ o = t.map .string := by
  cases o with
  | none => cases t <;> simp
  | some v => cases t <;> cases v <;> simp [text?]

/-- A time that is told was written in a way that can be read. -/
theorem map_time?_eq {o : Option Json} {time : Option Instant} :
    o.map time? = time.map some ↔
      ∃ text : Option String, o = text.map .string ∧ text.map Instant.read = time.map .ok := by
  have hread : ∀ (text : String) (t : Instant),
      (Instant.read text).toOption = some t ↔ Instant.read text = .ok t := by
    intro text t
    cases Instant.read text <;> simp [Except.toOption]
  constructor
  · intro h
    cases o with
    | none =>
        cases time with
        | none => exact ⟨none, rfl, rfl⟩
        | some _ => cases h
    | some v =>
        cases time with
        | none => cases h
        | some t =>
            -- a time that is told is a text, and one that can be read
            obtain ⟨text, htext, htime⟩ := Option.bind_eq_some_iff.mp (Option.some.inj h)
            have hstring : some v = (some text).map Json.string :=
              map_text?_eq.mp (by rw [Option.map_some, htext, Option.map_some])
            exact ⟨some text, hstring, congrArg some ((hread text t).mp htime)⟩
  · rintro ⟨text, rfl, htime⟩
    cases text with
    | none =>
        cases time with
        | none => rfl
        | some _ => cases htime
    | some text =>
        cases time with
        | none => cases htime
        | some t => exact congrArg some ((hread text t).mpr (Option.some.inj htime))

/-- Payloads that are not too deep are always accepted, and put in order. -/
theorem map_payload?_eq {o payload : Option Json} (hdepth : ∀ v ∈ o, nesting v ≤ 126) :
    o.map payload? = payload.map some ↔ payload = o.map sorted := by
  cases o with
  | none => cases payload <;> simp
  | some v =>
      have hv := hdepth v rfl
      cases payload <;> simp [payload?, hv, eq_comm]

/-- **The draft of an object is what its members say.** -/
theorem draftOf?_eq_some_iff {ms : List (String × Json)} (hnames : (ms.map (·.1)).Nodup)
    (hdepth : ∀ v, ("payload", v) ∈ ms → nesting v ≤ 126) {d : Draft} :
    draftOf? ms = some d ↔ ∃ payload, Says ms d.topic payload d.id d.timestamp
      ∧ d.payload = (payload.getD .null).sorted := by
  have hdepth' : ∀ {o : Option Json}, Holds ms "payload" o → ∀ v ∈ o, nesting v ≤ 126 := by
    intro o ho v hv
    rw [Option.mem_def] at hv
    subst hv
    exact hdepth v ho
  have hdefault : ∀ o : Option Json, (o.map sorted).getD .null = (o.getD .null).sorted := by
    intro o
    cases o <;> rfl
  simp only [draftOf?, Option.bind_eq_some_iff, Option.map_eq_some_iff, foldlM_take_iff,
    Draft.Slots.empty, filled_iff_holds hnames, map_text?_eq, map_time?_eq]
  constructor
  · rintro ⟨s, ⟨⟨o, ho, rfl⟩, ⟨payload, hpayload, hsorted⟩, ⟨i, hid, rfl⟩,
      ⟨time, htime, text, rfl, htext⟩⟩,
      topic, htopic, rfl⟩
    rw [map_payload?_eq (hdepth' hpayload)] at hsorted
    refine ⟨payload, ⟨by simpa [htopic] using ho, hpayload, hid, text, htime, htext⟩, ?_⟩
    rw [← hdefault, ← hsorted]
  · rintro ⟨payload, ⟨htopic, hpayload, hid, text, htime, htext⟩, hsorted⟩
    refine ⟨⟨some d.topic, payload.map sorted, d.id, d.timestamp⟩,
      ⟨⟨_, htopic, rfl⟩, ⟨payload, hpayload, (map_payload?_eq (hdepth' hpayload)).mpr rfl⟩,
        ⟨_, hid, rfl⟩, ⟨_, htime, text, rfl, htext⟩⟩, d.topic, rfl, ?_⟩
    rw [hdefault, ← hsorted]

/-- The names that count, in the order of a frame that is an array. -/
def memberNames : List String := ["type", "payload", "id", "timestamp"]

/-- A name that counts may not occur twice. -/
theorem draftOf?_eq_none {ms : List (String × Json)} {name : String} (hname : name ∈ memberNames)
    {v w : Json} (htwice : [(name, v), (name, w)].Sublist ms) : draftOf? ms = none := by
  have hlong : 2 ≤ (valuesOf name ms).length := by
    have hsub : (valuesOf name [(name, v), (name, w)]).Sublist (valuesOf name ms) :=
      (htwice.filter _).map _
    simpa [valuesOf] using hsub.length_le
  -- a slot takes one value at most, from wherever the two stand
  have hshort : ∀ {α : Type} {read? : Json → Option α} {new : Option α},
      ¬ Filled read? none (valuesOf name ms) new := by
    intro α read? new h
    rcases filled_none.mp h with ⟨hnil, -⟩ | ⟨_, _, hone, -, -⟩
    · simp [hnil] at hlong
    · simp [hone] at hlong
  rw [draftOf?, Option.bind_eq_none_iff]
  intro s hs
  obtain ⟨htopic, hpayload, hid, htime⟩ := foldlM_take_iff.mp hs
  simp only [memberNames, List.mem_cons, List.not_mem_nil, or_false] at hname
  rcases hname with rfl | rfl | rfl | rfl
  · exact absurd htopic hshort
  · exact absurd hpayload hshort
  · exact absurd hid hshort
  · exact absurd htime hshort

/-- An array says what an object with its items in the order of the names says. -/
theorem draftOfItems?_eq {vs : List Json} (hsome : vs ≠ []) (hfew : vs.length ≤ 4) :
    draftOfItems? vs = draftOf? (memberNames.zip vs) := by
  match vs with
  | [a] =>
      cases ha : text? a <;>
        simp [draftOf?, draftOfItems?, nextOf?, memberNames, take, fill, Draft.Slots.empty, ha]
  | [a, b] =>
      cases ha : text? a <;> cases hb : payload? b <;>
        simp [draftOf?, draftOfItems?, nextOf?, memberNames, take, fill, Draft.Slots.empty, ha, hb]
  | [a, b, c] =>
      cases ha : text? a <;> cases hb : payload? b <;> cases hc : text? c <;>
        simp [draftOf?, draftOfItems?, nextOf?, memberNames, take, fill, Draft.Slots.empty, ha, hb,
          hc]
  | [a, b, c, d] =>
      cases ha : text? a <;> cases hb : payload? b <;> cases hc : text? c <;>
        cases hd : time? d <;>
        simp [draftOf?, draftOfItems?, nextOf?, memberNames, take, fill, Draft.Slots.empty, ha, hb,
          hc, hd]
  | _ :: _ :: _ :: _ :: _ :: _ =>
      simp only [List.length_cons] at hfew
      omega

/-! ## The verdict -/

/-- What becomes of a frame, the cause of a JSON error aside. -/
inductive Verdict where
  | envelope (e : Envelope)
  | emptyTopic
  | unreadable

/-- What becomes of a frame that is decoded. -/
def verdict (s : Stamp) (frame : String) : Verdict :=
  match Envelope.decode s frame with
  | .ok e => .envelope e
  | .error .emptyTopic => .emptyTopic
  | .error (.json _) => .unreadable

/-- The verdict goes by what the frame says. -/
theorem verdict_iff (s : Stamp) {frame : String} {o : Option Draft}
    (h : (Draft.readFrame frame).toOption = o) :
    (∀ e, verdict s frame = .envelope e ↔ ∃ d, o = some d ∧ d.topic ≠ "" ∧ d.stamped s = e)
      ∧ (verdict s frame = .emptyTopic ↔ ∃ d, o = some d ∧ d.topic = "")
      ∧ (verdict s frame = .unreadable ↔ o = none) := by
  subst h
  unfold verdict Envelope.decode Draft.read
  cases Draft.readFrame frame with
  | error e => simp [Except.toOption, Except.map]
  | ok d => by_cases hd : d.topic = "" <;> simp [Except.toOption, Except.map, hd]

/-- An object is accepted with a topic, whatever else it has or lacks. -/
theorem verdict_object (s : Stamp) {ms : List (String × Json)} {frame : String}
    (hnames : (ms.map (·.1)).Nodup) (hdepth : ∀ v, ("payload", v) ∈ ms → nesting v ≤ 126)
    (h : Padded Renders frame.toList (.object ms)) :
    (∀ e, verdict s frame = .envelope e ↔ e.topic ≠ "" ∧ ∃ payload id time,
        Says ms e.topic payload id time ∧ e.payload = (payload.getD .null).sorted
          ∧ e.id = id.getD s.id ∧ e.timestamp = time.getD s.time)
      ∧ (verdict s frame = .emptyTopic ↔ ∃ payload id time, Says ms "" payload id time)
      ∧ (verdict s frame = .unreadable ↔
        ∀ topic payload id time, ¬ Says ms topic payload id time) := by
  obtain ⟨henvelope, hempty, hunreadable⟩ := verdict_iff s (readFrame_renders h)
  -- the verdict is about the draft, and the draft about what the members say
  have hdraft : ∀ d, draft? (.object ms) = some d ↔ ∃ payload,
      Says ms d.topic payload d.id d.timestamp ∧ d.payload = (payload.getD .null).sorted :=
    fun d => draftOf?_eq_some_iff hnames hdepth
  refine ⟨?_, ?_, ?_⟩
  · intro e
    rw [henvelope]
    constructor
    · rintro ⟨d, hd, htopic, rfl⟩
      obtain ⟨payload, hsays, hpayload⟩ := (hdraft d).mp hd
      exact ⟨htopic, payload, d.id, d.timestamp, hsays, hpayload, rfl, rfl⟩
    · rintro ⟨htopic, payload, id, time, hsays, hpayload, hid, htime⟩
      refine ⟨⟨e.topic, e.payload, id, time⟩, (hdraft _).mpr ⟨payload, hsays, hpayload⟩, htopic, ?_⟩
      unfold Draft.stamped
      dsimp only
      rw [← hid, ← htime]
  · rw [hempty]
    constructor
    · rintro ⟨d, hd, htopic⟩
      obtain ⟨payload, hsays, -⟩ := (hdraft d).mp hd
      exact ⟨payload, d.id, d.timestamp, htopic ▸ hsays⟩
    · rintro ⟨payload, id, time, hsays⟩
      exact ⟨⟨"", _, id, time⟩, (hdraft _).mpr ⟨payload, hsays, rfl⟩, rfl⟩
  · rw [hunreadable, Option.eq_none_iff_forall_ne_some]
    constructor
    · intro hnone topic payload id time hsays
      exact hnone ⟨topic, _, id, time⟩ ((hdraft _).mpr ⟨payload, hsays, rfl⟩)
    · intro hnone d hd
      obtain ⟨payload, hsays, -⟩ := (hdraft d).mp hd
      exact hnone _ _ _ _ hsays

theorem verdict_unreadable (s : Stamp) {frame : String}
    (h : (Draft.readFrame frame).toOption = none) : verdict s frame = .unreadable :=
  (verdict_iff s h).2.2.mpr rfl

/-- Frames that read the same have the same verdict. -/
theorem verdict_congr (s : Stamp) {frame frame' : String}
    (h : (Draft.readFrame frame).toOption = (Draft.readFrame frame').toOption) :
    verdict s frame = verdict s frame' := by
  obtain ⟨henvelope, hempty, hunreadable⟩ := verdict_iff s h
  obtain ⟨henvelope', hempty', hunreadable'⟩ :=
    verdict_iff s (rfl : _ = (Draft.readFrame frame').toOption)
  cases hv : verdict s frame with
  | envelope e => exact ((henvelope' e).mpr ((henvelope e).mp hv)).symm
  | emptyTopic => exact (hempty'.mpr (hempty.mp hv)).symm
  | unreadable => exact (hunreadable'.mpr (hunreadable.mp hv)).symm

/-- **What decoding accepts.** -/
theorem verdict_of_frame (s : Stamp) :
    (∀ (ms : List (String × Json)) (frame : String), (ms.map (·.1)).Nodup →
      (∀ v, ("payload", v) ∈ ms → nesting v ≤ 126) → Padded Renders frame.toList (.object ms) →
        (∀ e, verdict s frame = .envelope e ↔ e.topic ≠ "" ∧ ∃ payload id time,
          Says ms e.topic payload id time ∧ e.payload = (payload.getD .null).sorted
            ∧ e.id = id.getD s.id ∧ e.timestamp = time.getD s.time)
        ∧ (verdict s frame = .emptyTopic ↔ ∃ payload id time, Says ms "" payload id time)
        ∧ (verdict s frame = .unreadable ↔
          ∀ topic payload id time, ¬ Says ms topic payload id time))
    ∧ (∀ (ms : List (String × Json)) (frame : String) (name : String) (v w : Json),
      name ∈ memberNames → [(name, v), (name, w)].Sublist ms →
      Padded Renders frame.toList (.object ms) → verdict s frame = .unreadable)
    ∧ (∀ (ms : List (String × Json)) (frame : String) (text more : List Char) (x : Char),
      Padded Renders text (.object ms) → Cursor.isBlank x = false →
      frame.toList = text ++ x :: more → verdict s frame = .unreadable)
    ∧ (∀ (items : List Json) (array object : String), items ≠ [] → items.length ≤ 4 →
      Padded Renders array.toList (.array items) →
      Padded Renders object.toList (.object (memberNames.zip items)) →
      verdict s array = verdict s object) := by
  refine ⟨?_, ?_, ?_, ?_⟩
  · intro ms frame hnames hdepth h
    exact verdict_object s hnames hdepth h
  · intro ms frame name v w hname htwice h
    exact verdict_unreadable s ((readFrame_renders h).trans (draftOf?_eq_none hname htwice))
  · intro ms frame text more x h hx hframe
    exact verdict_unreadable s (readFrame_trailing h hx hframe)
  · intro items array object hsome hfew harray hobject
    apply verdict_congr
    rw [readFrame_renders harray, readFrame_renders hobject]
    exact draftOfItems?_eq hsome hfew

/-- A topic in capitals that are not written, behind a member that does not count. -/
def spelledFrame : String := "\x7b \"note\":[],\n\"ty\\u0070e\" : \"\\ud83d\\uDE00\"\x7d"

theorem spelledFrame_renders : Padded Renders spelledFrame.toList
    (.object [("note", .array []), ("type", .string "😀")]) := by
  have hplain : ∀ c, c ≠ '"' ∧ c ≠ '\\' ∧ 0x20 ≤ c.toNat → Spelled c [c] :=
    fun c h => .plain h.1 h.2.1 h.2.2
  have hp : Spelled 'p' ['\\', 'u', '0', '0', '7', '0'] :=
    .code (.digits (by decide) (by decide) (by decide) (by decide) (by decide))
  have hface : Spelled '😀' ['\\', 'u', 'd', '8', '3', 'd', '\\', 'u', 'D', 'E', '0', '0'] :=
    .pair (by decide) (.digits (by decide) (by decide) (by decide) (by decide) (by decide))
      (.digits (by decide) (by decide) (by decide) (by decide) (by decide))
  have htype : Quoted "type" "\"ty\\u0070e\"".toList :=
    ⟨_, .cons (hplain 't' (by decide)) (.cons (hplain 'y' (by decide)) (.cons hp
      (.cons (hplain 'e' (by decide)) .nil))), rfl⟩
  have htopic : Quoted "😀" "\"\\ud83d\\uDE00\"".toList := ⟨_, .cons hface .nil, rfl⟩
  have hspace : Blank [' '] := by simp [Blank]
  have hline : Blank ['\n'] := by simp [Blank]
  have hfirst : Paired Renders "\"note\":[]".toList ("note", .array []) :=
    .mk (writeString_quoted "note") blank_nil blank_nil (.array (.nil blank_nil))
  have hsecond : Paired Renders "\"ty\\u0070e\" : \"\\ud83d\\uDE00\"".toList
      ("type", .string "😀") := .mk htype hspace hspace (.string htopic)
  exact .mk blank_nil (Renders.object (.cons (.mk hspace hfirst blank_nil)
    (.cons (.mk hline hsecond blank_nil) .nil))) blank_nil

/-- The frame above has a topic and is stamped, a second id is refused even if it is null, and so is
a character behind the frame, and an array of one item is its topic. -/
theorem verdict_of_spelledFrame :
    let s : Stamp := ⟨"fresh", .epoch⟩
    let ms : List (String × Json) := [("note", .array []), ("type", .string "😀")]
    let twice : List (String × Json) := [("type", .string "a"), ("id", .string "b"), ("id", .null)]
    ((ms.map (·.1)).Nodup ∧ (∀ v, ("payload", v) ∈ ms → nesting v ≤ 126)
        ∧ Padded Renders spelledFrame.toList (.object ms)
        ∧ verdict s spelledFrame = .envelope ⟨"😀", .null, "fresh", .epoch⟩)
      ∧ ("id" ∈ memberNames ∧ [("id", .string "b"), ("id", .null)].Sublist twice
        ∧ Padded Renders (Json.object twice).write.toList (.object twice)
        ∧ verdict s (Json.object twice).write = .unreadable)
      ∧ (Cursor.isBlank '!' = false
        ∧ verdict s (String.ofList (spelledFrame.toList ++ ['!'])) = .unreadable)
      ∧ verdict s (Json.array [.string "a"]).write
        = verdict s (Json.object [("type", .string "a")]).write := by
  intro s ms twice
  have hnames : (ms.map (·.1)).Nodup := by decide
  have hdepth : ∀ v, ("payload", v) ∈ ms → nesting v ≤ 126 := by
    intro v hv
    simp [ms] at hv
  have hsub : [("id", Json.string "b"), ("id", .null)].Sublist twice :=
    .cons _ (List.Sublist.refl _)
  have htwice : Padded Renders (Json.object twice).write.toList (.object twice) :=
    .bare (write_renders _ (by simp [twice, Integral, IntegralMembers]))
  obtain ⟨hobject, hdouble, htrailing, harray⟩ := verdict_of_frame s
  refine ⟨⟨hnames, hdepth, spelledFrame_renders, ?_⟩, ⟨by decide, hsub, htwice, ?_⟩,
    ⟨by decide, ?_⟩, ?_⟩
  · refine ((hobject ms spelledFrame hnames hdepth spelledFrame_renders).1 _).mpr
      ⟨by decide, none, none, none, ⟨?_, ?_, ?_, none, ?_, rfl⟩, rfl, rfl, rfl⟩
    · exact .tail _ (.head _)
    · intro v hv
      simp [ms] at hv
    · intro v hv
      simp [ms] at hv
    · intro v hv
      simp [ms] at hv
  · exact hdouble twice _ "id" _ _ (by decide) hsub htwice
  · exact htrailing ms _ spelledFrame.toList [] '!' spelledFrame_renders (by decide)
      (by rw [String.toList_ofList])
  · exact harray [.string "a"] _ _ (by simp) (by decide)
      (.bare (write_renders _ (by simp [Integral, IntegralItems])))
      (.bare (write_renders _ (by simp [Integral, IntegralMembers])))

end LiveLink.Proofs
