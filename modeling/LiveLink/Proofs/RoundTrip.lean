import LiveLink.Proofs.Frames
import LiveLink.Proofs.Outcomes
import LiveLink.Proofs.Registrations
import LiveLink.Proofs.Timestamps

/-!
# What is encoded is decoded again

A frame is one of the texts of its four members, so what it decodes to is known from
them. The payload comes back as it was if it is held in order (`Tidy`), as values are,
and if it does not nest too deep for a reader (`decode_encode`). What any reader
returns is in order and not too deep (`readValue_tidy`), so a frame that was decoded
once can be encoded and decoded again. And since a text is a text of one value only
(`sorted_unique`), two envelopes with one encoding are the same.
-/

namespace LiveLink.Proofs

open LiveLink Json

/-! ## Values in order -/

mutual

/-- The members of every object stand in order, each name once. -/
def Tidy : Json → Prop
  | .array items => TidyItems items
  | .object members => Ordered members ∧ TidyMembers members
  | _ => True

/-- `Tidy` for every item. -/
def TidyItems : List Json → Prop
  | [] => True
  | v :: rest => Tidy v ∧ TidyItems rest

/-- `Tidy` for the value of every member. -/
def TidyMembers : List (String × Json) → Prop
  | [] => True
  | (_, v) :: rest => Tidy v ∧ TidyMembers rest

end

/-- A name beyond all others is put at the end. -/
theorem insert_last {α : Type} {t : Table α} {key : String} (h : ∀ k ∈ t.keys, k < key) (v : α) :
    t.insert key v = t ++ [(key, v)] := by
  induction t with
  | nil => rfl
  | cons p t ih =>
      obtain ⟨k, u⟩ := p
      have hk : k < key := h k List.mem_cons_self
      rw [Table.insert, if_neg hk.ne', if_neg hk.asymm,
        ih fun k hk => h k (List.mem_cons_of_mem _ hk)]
      rfl

theorem ofList_of_ordered {α : Type} {t : Table α} (h : Ordered t) : Table.ofList t = t := by
  have hfold : ∀ (front back : Table α), Ordered (front ++ back) →
      back.foldl (fun t p => Table.insert p.1 p.2 t) front = front ++ back := by
    intro front back
    induction back generalizing front with
    | nil => intro _; simp
    | cons p back ih =>
        intro hordered
        have hlast : ∀ k ∈ Table.keys front, k < p.1 := by
          intro k hk
          rw [Ordered, Table.keys, List.map_append, List.pairwise_append] at hordered
          exact hordered.2.2 k hk p.1 List.mem_cons_self
        rw [List.foldl_cons, insert_last hlast, ih _ (by simpa using hordered)]
        simp
  exact hfold [] t h

mutual

/-- What is in order is left as it is. -/
theorem sorted_of_tidy : (v : Json) → Tidy v → v.sorted = v
  | .null, _ => rfl
  | .bool _, _ => rfl
  | .number _, _ => rfl
  | .string _, _ => rfl
  | .array items, h => by
      rw [sorted, sortedItems_of_tidy items h]
  | .object members, h => by
      rw [sorted, sortedMembers_of_tidy members h.2, ofList_of_ordered h.1]

theorem sortedItems_of_tidy : (vs : List Json) → TidyItems vs → sortedItems vs = vs
  | [], _ => rfl
  | v :: vs, h => by
      rw [sortedItems, sorted_of_tidy v h.1, sortedItems_of_tidy vs h.2]

theorem sortedMembers_of_tidy : (ms : List (String × Json)) → TidyMembers ms →
    sortedMembers ms = ms
  | [], _ => rfl
  | (n, v) :: ms, h => by
      rw [sortedMembers, sorted_of_tidy v h.1, sortedMembers_of_tidy ms h.2]

end

/-! ## What a reader returns -/

theorem tidyItems_iff {vs : List Json} : TidyItems vs ↔ ∀ v ∈ vs, Tidy v := by
  induction vs with
  | nil => simp [TidyItems]
  | cons v vs ih => simp [TidyItems, ih]

theorem tidyMembers_iff {ms : List (String × Json)} : TidyMembers ms ↔ ∀ m ∈ ms, Tidy m.2 := by
  induction ms with
  | nil => simp [TidyMembers]
  | cons m ms ih =>
      obtain ⟨n, v⟩ := m
      simp [TidyMembers, ih]

theorem nestingItems_le {vs : List Json} {d : Nat} :
    nestingItems vs ≤ d ↔ ∀ v ∈ vs, nesting v ≤ d := by
  induction vs with
  | nil => simp [nestingItems]
  | cons v vs ih => simp [nestingItems, ih]

theorem nestingMembers_le {ms : List (String × Json)} {d : Nat} :
    nestingMembers ms ≤ d ↔ ∀ m ∈ ms, nesting m.2 ≤ d := by
  induction ms with
  | nil => simp [nestingMembers]
  | cons m ms ih =>
      obtain ⟨n, v⟩ := m
      simp [nestingMembers, ih]

section Loops

variable {α : Type} {P : α → Prop} {n : Nat} {first : Bool} {acc acc' : α} {c c' : Cursor}

/-- What each item keeps, the loop over items keeps. -/
theorem readItems_keeps {item : α → Cursor → Except Json.Error (α × Cursor)}
    (hitem : ∀ {acc acc' c c'}, item acc c = .ok (acc', c') → P acc → P acc')
    (h : readItems item n first acc c = .ok (acc', c')) (hacc : P acc) : P acc' := by
  induction n generalizing first acc c with
  | zero => cases h
  | succ n ih =>
      rw [readItems] at h
      split at h
      · cases h
      · cases h
        exact hacc
      · split at h
        · cases h
        · rename_i hround
          exact ih h (hitem hround hacc)

/-- What each member keeps, the loop over members keeps. -/
theorem readMembers_keeps {member : α → String → Cursor → Except Json.Error (α × Cursor)}
    (hmember : ∀ {acc acc' name c c'}, member acc name c = .ok (acc', c') → P acc → P acc')
    (h : readMembers member n first acc c = .ok (acc', c')) (hacc : P acc) : P acc' := by
  induction n generalizing first acc c with
  | zero => cases h
  | succ n ih =>
      rw [readMembers] at h
      split at h
      · cases h
      · cases h
        exact hacc
      · split at h
        · cases h
        · split at h
          · cases h
          · rename_i hround
            exact ih h (hmember hround hacc)

end Loops

/-- A value that is no container is in order and has no depth. -/
theorem tidy_scalar {v : Json} (h : nesting v = 0) (d : Nat) : Tidy v ∧ nesting v ≤ d := by
  refine ⟨?_, by omega⟩
  cases v with
  | array _ => simp [nesting] at h
  | object _ => simp [nesting] at h
  | _ => trivial

/-- A reader gives a value that is no container, or has met a bracket. -/
theorem readValue_cases {depth : Nat} {c c' : Cursor} {v : Json}
    (h : readValue depth c = .ok (v, c')) :
    nesting v = 0 ∨ ∃ d, depth = d + 2 ∧
      ((∃ n c acc c'', readItems (itemReader (d + 1)) n true [] c = .ok (acc, c'')
          ∧ v = .array acc.reverse)
        ∨ ∃ n c acc c'', readMembers (memberReader (d + 1)) n true [] c = .ok (acc, c'')
          ∧ v = .object acc) := by
  rw [readValue.eq_def] at h
  dsimp only at h
  split at h
  · cases h
  -- the three words, numbers with and without a sign, and strings are no containers
  iterate 6
    split at h
    · obtain ⟨_, -, h⟩ := ok_of_bind h
      cases h
      exact .inl rfl
  split at h
  · split at h
    · cases h
    · cases h
    · rename_i depth hdepth
      obtain ⟨d, rfl⟩ := Nat.exists_eq_add_one_of_ne_zero hdepth
      obtain ⟨⟨acc, c''⟩, hloop, h⟩ := ok_of_bind h
      cases h
      exact .inr ⟨d, rfl, .inl ⟨_, _, acc, c'', hloop, rfl⟩⟩
  split at h
  · split at h
    · cases h
    · cases h
    · rename_i depth hdepth
      obtain ⟨d, rfl⟩ := Nat.exists_eq_add_one_of_ne_zero hdepth
      obtain ⟨⟨acc, c''⟩, hloop, h⟩ := ok_of_bind h
      cases h
      exact .inr ⟨d, rfl, .inr ⟨_, _, acc, c'', hloop, rfl⟩⟩
  · cases h

/-- **A value that was read is in order and no deeper than the reader went.** -/
theorem readValue_tidy {d : Nat} {c c' : Cursor} {v : Json}
    (h : readValue (d + 1) c = .ok (v, c')) : Tidy v ∧ nesting v ≤ d := by
  -- what a container holds was read one level deeper, so each loop keeps the claim for one less
  induction d generalizing c c' v with
  | zero =>
      rcases readValue_cases h with hscalar | ⟨d, hd, -⟩
      · exact tidy_scalar hscalar _
      · omega
  | succ d ih =>
      rcases readValue_cases h with hscalar | ⟨d', hd, ⟨n, c, acc, c'', hloop, rfl⟩
        | ⟨n, c, acc, c'', hloop, rfl⟩⟩
      · exact tidy_scalar hscalar _
      · obtain rfl : d' = d := by omega
        have hkept : ∀ v ∈ acc, Tidy v ∧ nesting v ≤ d' := by
          refine readItems_keeps (P := fun acc => ∀ v ∈ acc, Tidy v ∧ nesting v ≤ d') ?_ hloop
            (by simp)
          intro acc acc' c c' hitem hacc
          obtain ⟨⟨w, c''⟩, hread, hdone⟩ := ok_of_bind hitem
          cases hdone
          intro v hv
          rcases List.mem_cons.mp hv with rfl | hv
          · exact ih hread
          · exact hacc v hv
        refine ⟨tidyItems_iff.mpr fun v hv => (hkept v (List.mem_reverse.mp hv)).1, ?_⟩
        simp only [nesting, Nat.add_le_add_iff_right]
        exact nestingItems_le.mpr fun v hv => (hkept v (List.mem_reverse.mp hv)).2
      · obtain rfl : d' = d := by omega
        have hkept : Ordered acc ∧ ∀ m ∈ acc, Tidy m.2 ∧ nesting m.2 ≤ d' := by
          refine readMembers_keeps
            (P := fun acc => Ordered acc ∧ ∀ m ∈ acc, Tidy m.2 ∧ nesting m.2 ≤ d') ?_ hloop
            ⟨List.Pairwise.nil, by simp⟩
          intro acc acc' name c c' hmember hacc
          obtain ⟨c₁, -, hmember⟩ := ok_of_bind hmember
          obtain ⟨⟨w, c''⟩, hread, hdone⟩ := ok_of_bind hmember
          cases hdone
          refine ⟨ordered_insert hacc.1 name w, ?_⟩
          intro m hm
          rcases mem_insert hm with rfl | hm
          · exact ih hread
          · exact hacc.2 m hm
        refine ⟨⟨hkept.1, tidyMembers_iff.mpr fun m hm => (hkept.2 m hm).1⟩, ?_⟩
        simp only [nesting, Nat.add_le_add_iff_right]
        exact nestingMembers_le.mpr fun m hm => (hkept.2 m hm).2

/-! ## What a frame that decodes holds -/

/-- A payload in order that a reader may meet in a frame. -/
def Readable (v : Json) : Prop := Tidy v ∧ nesting v ≤ 126

theorem readable_getD {o : Option Json} (h : ∀ v ∈ o, Readable v) : Readable (o.getD .null) := by
  cases o with
  | none => exact tidy_scalar rfl 126
  | some v => exact h v rfl

/-- What is put into a slot has been read. -/
theorem read_of_slot {α β : Type} {read : Cursor → Except Json.Error (α × Cursor)}
    {old : Option α} (put : α → β) {name : String} {c c' : Cursor} {b : β}
    (h : (if old.isSome then Draft.duplicate name c
      else do
        let (a, c) ← read (← readColon c)
        return (put a, c)) = .ok (b, c')) : ∃ a c₁, read c₁ = .ok (a, c') ∧ b = put a := by
  split at h
  · cases h
  · obtain ⟨c₁, -, h⟩ := ok_of_bind h
    obtain ⟨⟨a, c₂⟩, hread, h⟩ := ok_of_bind h
    cases h
    exact ⟨a, c₁, hread, rfl⟩

theorem member_keeps {s s' : Draft.Slots} {name : String} {c c' : Cursor}
    (h : Draft.member s name c = .ok (s', c')) (hs : ∀ v ∈ s.payload, Readable v) :
    ∀ v ∈ s'.payload, Readable v := by
  unfold Draft.member at h
  split at h
  · obtain ⟨_, _, -, rfl⟩ := read_of_slot (fun a => { s with topic := some a }) h
    exact hs
  split at h
  · obtain ⟨w, _, hread, rfl⟩ := read_of_slot (fun a => { s with payload := some a }) h
    intro v hv
    obtain rfl := Option.some.inj hv
    exact readValue_tidy hread
  split at h
  · obtain ⟨_, _, -, rfl⟩ := read_of_slot (fun a => { s with id := some a }) h
    exact hs
  split at h
  · obtain ⟨_, _, -, rfl⟩ := read_of_slot (fun a => { s with timestamp := some a }) h
    exact hs
  · obtain ⟨_, -, h⟩ := ok_of_bind h
    obtain ⟨_, -, h⟩ := ok_of_bind h
    cases h
    exact hs

theorem item_readable {first : Bool} {o : Option Json} {c c' : Cursor}
    (h : Draft.item first (readValue Draft.innerDepth) c = .ok (o, c')) :
    ∀ v ∈ o, Readable v := by
  unfold Draft.item at h
  obtain ⟨⟨more, c₁⟩, -, h⟩ := ok_of_bind h
  cases more with
  | false =>
      cases h
      intro v hv
      cases hv
  | true =>
      obtain ⟨⟨w, _⟩, hread, h⟩ := ok_of_bind h
      cases h
      intro v hv
      cases hv
      exact readValue_tidy hread

theorem readObject_readable {c c' : Cursor} {d : Draft} (h : Draft.readObject c = .ok (d, c')) :
    Readable d.payload := by
  obtain ⟨⟨s, c₁⟩, hloop, h⟩ := ok_of_bind h
  have hkept : ∀ v ∈ s.payload, Readable v :=
    readMembers_keeps (P := fun s => ∀ v ∈ s.payload, Readable v) member_keeps hloop (by
      intro v hv
      cases hv)
  dsimp only at h
  split at h
  · cases h
  · cases h
    exact readable_getD hkept

theorem readArray_readable {c c' : Cursor} {d : Draft} (h : Draft.readArray c = .ok (d, c')) :
    Readable d.payload := by
  obtain ⟨⟨topic, _⟩, -, h⟩ := ok_of_bind h
  cases topic with
  | none => cases h
  | some topic =>
      obtain ⟨⟨payload, _⟩, hpayload, h⟩ := ok_of_bind h
      obtain ⟨_, -, h⟩ := ok_of_bind h
      obtain ⟨_, -, h⟩ := ok_of_bind h
      obtain ⟨_, -, h⟩ := ok_of_bind h
      cases h
      exact readable_getD (item_readable hpayload)

/-- **The payload of a frame is readable**, whatever the frame looks like. -/
theorem readFrame_readable {frame : String} {d : Draft} (h : Draft.readFrame frame = .ok d) :
    Readable d.payload := by
  unfold Draft.readFrame at h
  dsimp only at h
  split at h
  · cases h
  split at h
  · obtain ⟨⟨d', c⟩, hread, h⟩ := ok_of_bind h
    obtain ⟨_, -, h⟩ := ok_of_bind h
    cases h
    exact readObject_readable hread
  split at h
  · obtain ⟨⟨d', c⟩, hread, h⟩ := ok_of_bind h
    obtain ⟨_, -, h⟩ := ok_of_bind h
    cases h
    exact readArray_readable hread
  · obtain ⟨e, he⟩ := unexpected_error (Draft × Cursor) "struct Envelope"
      (Cursor.ofText frame).skipBlanks
    rw [he] at h
    cases h

/-! ## There and back -/

variable {e : Envelope}

theorem encode_renders (h : Integral e.payload) :
    Padded Renders e.encode.toList (.object e.members) :=
  .bare (write_renders _ (by simp [Envelope.members, Integral, IntegralMembers, h]))

/-- The four members of an envelope are its draft. -/
theorem draftOf?_members (e : Envelope) :
    draftOf? e.members = if nesting e.payload ≤ 126 then
      some ⟨e.topic, e.payload.sorted, some e.id, some e.timestamp⟩ else none := by
  have htime : time? (.string e.timestamp.write) = some e.timestamp := by
    simp [time?, text?, read_write_instant, Except.toOption]
  by_cases hdeep : nesting e.payload ≤ 126 <;>
    simp [draftOf?, Envelope.members, take, fill, Draft.Slots.empty, text?, payload?, htime, hdeep]

theorem readFrame_encode (h : Integral e.payload) :
    (Draft.readFrame e.encode).toOption = if nesting e.payload ≤ 126 then
      some ⟨e.topic, e.payload.sorted, some e.id, some e.timestamp⟩ else none :=
  (readFrame_renders (encode_renders h)).trans (draftOf?_members e)

/-- A text is a text of one value only, up to the order of members. -/
theorem sorted_unique {cs : List Char} {v w : Json} (hv : Renders cs v) (hw : Renders cs w) :
    v.sorted = w.sorted := by
  let d := max (nesting v) (nesting w)
  have hread := readValue_renders hv d blank_nil endsInteger_nil ⟨1, 0⟩
  have hread' := readValue_renders hw d blank_nil endsInteger_nil ⟨1, 0⟩
  rw [if_pos (Nat.le_max_left _ _)] at hread
  rw [if_pos (Nat.le_max_right _ _)] at hread'
  obtain ⟨q, hq⟩ := hread
  obtain ⟨q', hq'⟩ := hread'
  rw [hq] at hq'
  injection hq' with hpair
  exact (Prod.mk.inj hpair).1

theorem get?_members (e : Envelope) :
    (Json.object e.members).sorted.get? "type" = some (.string e.topic)
      ∧ (Json.object e.members).sorted.get? "payload" = some e.payload.sorted
      ∧ (Json.object e.members).sorted.get? "id" = some (.string e.id)
      ∧ (Json.object e.members).sorted.get? "timestamp" = some (.string e.timestamp.write) := by
  simp [Envelope.members, sorted, sortedMembers, Table.ofList, Json.get?,
    Table.get?_insert_ne]

/-- The members of an envelope tell it. -/
theorem members_injective {e e' : Envelope} (h : Tidy e.payload) (h' : Tidy e'.payload)
    (heq : (Json.object e.members).sorted = (Json.object e'.members).sorted) : e = e' := by
  obtain ⟨htopic, hpayload, hid, htime⟩ := get?_members e
  obtain ⟨htopic', hpayload', hid', htime'⟩ := get?_members e'
  rw [heq] at htopic hpayload hid htime
  rw [htopic, Option.some.injEq, Json.string.injEq] at htopic'
  rw [hpayload, Option.some.injEq, sorted_of_tidy _ h, sorted_of_tidy _ h'] at hpayload'
  rw [hid, Option.some.injEq, Json.string.injEq] at hid'
  rw [htime, Option.some.injEq, Json.string.injEq] at htime'
  have hread := read_write_instant e.timestamp
  rw [htime', read_write_instant, Except.ok.injEq] at hread
  obtain ⟨topic, payload, id, time⟩ := e
  obtain ⟨topic', payload', id', time'⟩ := e'
  simp only at htopic' hpayload' hid' hread
  rw [htopic', hpayload', hid', hread]

theorem decode_of_ok (s : Stamp) {frame : String} {d : Draft}
    (h : (Draft.readFrame frame).toOption = some d) :
    Envelope.decode s frame
      = if d.topic = "" then .error .emptyTopic else .ok (d.stamped s) := by
  unfold Envelope.decode Draft.read
  cases hread : Draft.readFrame frame with
  | error e =>
      rw [hread] at h
      cases h
  | ok d' =>
      rw [hread] at h
      cases h
      by_cases htopic : d.topic = "" <;> simp only [htopic, if_true, if_false] <;> rfl

theorem decode_of_none (s : Stamp) {frame : String}
    (h : (Draft.readFrame frame).toOption = none) :
    ∃ cause, Envelope.decode s frame = .error (.json cause) := by
  unfold Envelope.decode Draft.read
  cases hread : Draft.readFrame frame with
  | error e => exact ⟨e, rfl⟩
  | ok d =>
      rw [hread] at h
      cases h

/-- A readable payload comes back as it was, unless there is no topic. -/
theorem decode_encode (s : Stamp) (htidy : Tidy e.payload) (hint : Integral e.payload)
    (hdepth : nesting e.payload ≤ 126) :
    Envelope.decode s e.encode = if e.topic = "" then .error .emptyTopic else .ok e := by
  have hread := readFrame_encode hint
  rw [if_pos hdepth, sorted_of_tidy _ htidy] at hread
  exact decode_of_ok s hread

theorem readable_of_decode {s : Stamp} {frame : String} (h : Envelope.decode s frame = .ok e) :
    e.topic ≠ "" ∧ Readable e.payload := by
  cases hread : Draft.readFrame frame with
  -- an error has no envelope
  -- a frame that is refused has no envelope
  | error c =>
      have hnone : (Draft.readFrame frame).toOption = none := by rw [hread]; rfl
      obtain ⟨cause, hcause⟩ := decode_of_none s hnone
      rw [hcause] at h
      cases h
  | ok d =>
      have hsome : (Draft.readFrame frame).toOption = some d := by rw [hread]; rfl
      have hdecode := decode_of_ok s hsome
      rw [h] at hdecode
      split at hdecode
      · cases hdecode
      · rename_i htopic
        cases hdecode
        exact ⟨htopic, readFrame_readable hread⟩

/-- **Encoding and decoding.** An envelope with a topic and a payload that a reader may meet comes
back; one without a topic is told so; one with a deeper payload is no frame. What came out of a
frame comes back, and no two envelopes have one encoding. -/
theorem encode_round_trip :
    (∀ (s : Stamp) (e : Envelope), Tidy e.payload → Integral e.payload →
      (e.topic ≠ "" → nesting e.payload ≤ 126 → Envelope.decode s e.encode = .ok e)
      ∧ (e.topic = "" → nesting e.payload ≤ 126 →
        Envelope.decode s e.encode = .error .emptyTopic)
      ∧ (126 < nesting e.payload → ∃ cause, Envelope.decode s e.encode = .error (.json cause)))
    ∧ (∀ (s s' : Stamp) (frame : String) (e : Envelope), Envelope.decode s frame = .ok e →
      Integral e.payload → Envelope.decode s' e.encode = .ok e)
    ∧ (∀ e e' : Envelope, Tidy e.payload → Tidy e'.payload → Integral e.payload →
      Integral e'.payload → e.encode = e'.encode → e = e') := by
  refine ⟨?_, ?_, ?_⟩
  · intro s e htidy hint
    refine ⟨?_, ?_, ?_⟩
    · intro htopic hdepth
      rw [decode_encode s htidy hint hdepth, if_neg htopic]
    · intro htopic hdepth
      rw [decode_encode s htidy hint hdepth, if_pos htopic]
    · intro hdeep
      have hread := readFrame_encode hint
      rw [if_neg (by omega)] at hread
      exact decode_of_none s hread
  · intro s s' frame e hdecode hint
    obtain ⟨htopic, htidy, hdepth⟩ := readable_of_decode hdecode
    rw [decode_encode s' htidy hint hdepth, if_neg htopic]
  · intro e e' htidy htidy' hint hint' hencode
    -- one text, so the members are those of one value
    apply members_injective htidy htidy'
    apply sorted_unique (write_renders (.object e.members) ?_)
    · have htext : (Json.object e.members).write = (Json.object e'.members).write := hencode
      rw [htext]
      exact write_renders _ (by simp [Envelope.members, Integral, IntegralMembers, hint'])
    · simp [Envelope.members, Integral, IntegralMembers, hint]

/-- Null in so many arrays. -/
def boxed : Nat → Json
  | 0 => .null
  | n + 1 => .array [boxed n]

theorem boxed_laws (n : Nat) : Tidy (boxed n) ∧ Integral (boxed n) ∧ nesting (boxed n) = n := by
  induction n with
  | zero => exact ⟨trivial, trivial, rfl⟩
  | succ n ih =>
      obtain ⟨htidy, hint, hdepth⟩ := ih
      exact ⟨⟨htidy, trivial⟩, ⟨hint, trivial⟩, by simp [boxed, nesting, nestingItems, hdepth]⟩

/-- A leap second at the end of the year before the first, in an envelope with characters that are
escaped and the integers at both bounds. -/
def oddEnvelope : Envelope where
  topic := "\x00\"\\"
  payload := .object [("high", .number (.int (2 ^ 64 - 1))), ("low", .number (.int (-2 ^ 63)))]
  id := "\x7f\n😀"
  timestamp := ⟨⟨-1, 12, 31, by decide⟩, 23, 59, 60, 1, by decide, by decide, by decide, by decide⟩

theorem encode_round_trip_oddEnvelope :
    let s : Stamp := ⟨"fresh", .epoch⟩
    let e := oddEnvelope
    let mute : Envelope := { e with topic := "", payload := boxed 126 }
    let deep : Envelope := { e with payload := boxed 127 }
    (Tidy e.payload ∧ Integral e.payload ∧ e.topic ≠ "" ∧ nesting e.payload ≤ 126
        ∧ Envelope.decode s e.encode = .ok e)
      ∧ (Tidy mute.payload ∧ Integral mute.payload ∧ nesting mute.payload ≤ 126
        ∧ Envelope.decode s mute.encode = .error .emptyTopic)
      ∧ (Tidy deep.payload ∧ Integral deep.payload ∧ 126 < nesting deep.payload
        ∧ ∃ cause, Envelope.decode s deep.encode = .error (.json cause))
      ∧ e.encode ≠ deep.encode := by
  intro s e mute deep
  have htidy : Tidy e.payload := by
    refine ⟨?_, trivial, trivial, trivial⟩
    show ["high", "low"].Pairwise (· < ·)
    decide
  have hhigh : Json.Fits (2 ^ 64 - 1) := by decide
  have hlow : Json.Fits (-2 ^ 63) := by decide
  have hint : Integral e.payload := ⟨hhigh, hlow, trivial⟩
  have hdepth : nesting e.payload ≤ 126 := by decide
  obtain ⟨htidy₁, hint₁, hnest₁⟩ := boxed_laws 126
  obtain ⟨htidy₂, hint₂, hnest₂⟩ := boxed_laws 127
  have hdeep : 126 < nesting deep.payload := Nat.lt_of_lt_of_eq (by decide) hnest₂.symm
  obtain ⟨hthere, hagain, hinjective⟩ := encode_round_trip
  refine ⟨⟨htidy, hint, by decide, hdepth, ?_⟩, ⟨htidy₁, hint₁, Nat.le_of_eq hnest₁, ?_⟩,
    ⟨htidy₂, hint₂, hdeep, ?_⟩, ?_⟩
  · exact hagain s s e.encode e ((hthere s e htidy hint).1 (by decide) hdepth) hint
  · exact (hthere s mute htidy₁ hint₁).2.1 rfl (Nat.le_of_eq hnest₁)
  · exact (hthere s deep htidy₂ hint₂).2.2 hdeep
  · intro hsame
    have heq := hinjective e deep htidy htidy₂ hint hint₂ hsame
    have hpayload : e.payload = deep.payload := by rw [heq]
    rw [hpayload] at hdepth
    omega

end LiveLink.Proofs
