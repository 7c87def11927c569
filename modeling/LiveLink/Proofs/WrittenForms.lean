import LiveLink.Proofs.RoundTrip

/-!
# A payload has one written form

The payload types read many forms: members missing, in excess or under an older name,
arrays in the place of objects, names that nobody knows, instants in several notations,
integers where a real number is meant. They write one form, with every field under its
own name, and that form is read as what was written (`payloads_canonical`). So whatever
a payload was read from, it is settled after the first reading.

An object has no order of its own, so the law of a record is about its members in any
order (`read_of_perm`). It needs of the fields that each reads what it writes
(`Faithful`) and that none takes a member that is meant for a later one (`Legible`).
-/

namespace LiveLink.Proofs

open LiveLink Json

/-! ## Single values -/

/-- What is written is read as what it was, and has nothing in it to put in order. -/
structure Faithful {α : Type} (c : Codec α) : Prop where
  reread : ∀ a, c.read (c.write a) = .ok a
  sorted : ∀ a, (c.write a).sorted = c.write a

section Values

variable {α : Type} {c : Codec α}

theorem faithful_text : Faithful .text := ⟨fun _ => rfl, fun _ => rfl⟩

theorem faithful_flag : Faithful .flag := ⟨fun _ => rfl, fun _ => rfl⟩

theorem faithful_real : Faithful .real := ⟨fun _ => rfl, fun _ => rfl⟩

/-- A number below the bound is read as it is. -/
theorem readBounded_nat {bound n : Nat} (name : String) (h : n < bound) :
    Codec.readBounded bound name (.nat n) = .ok n := by
  have hfits : 0 ≤ (n : Int) ∧ (n : Int) < (bound : Int) := by omega
  unfold Codec.readBounded Json.nat
  dsimp only
  rw [if_pos hfits, Int.toNat_natCast]

theorem faithful_word32 : Faithful .word32 where
  reread n := by
    unfold Codec.word32
    dsimp only
    -- the number fits since it was written from the type
    rw [readBounded_nat "u32" n.toNat_lt, Except.map, UInt32.ofNat_toNat]
  sorted _ := rfl

theorem faithful_word64 : Faithful .word64 where
  reread n := by
    unfold Codec.word64
    dsimp only
    rw [readBounded_nat "u64" n.toNat_lt, Except.map, UInt64.ofNat_toNat]
  sorted _ := rfl

/-- Instants are written in one notation, which is one of those that are read. -/
theorem faithful_instant : Faithful .instant where
  reread t := by
    unfold Codec.instant
    dsimp only
    rw [read_write_instant]
  sorted _ := rfl

/-- A value that may be missing is told from none if it is not null itself. -/
theorem Faithful.optional (h : Faithful c) (hnull : ∀ a, c.write a ≠ .null) :
    Faithful c.optional where
  reread
    | none => rfl
    | some a => by
      -- null would be read as no value at all
      have hread : c.optional.read (c.write a) = (c.read (c.write a)).map some := by
        unfold Codec.optional
        dsimp only
        split
        · exact absurd ‹_› (hnull a)
        · rfl
      show c.optional.read (c.write a) = _
      rw [hread, h.reread]
      rfl
  sorted
    | none => rfl
    | some a => h.sorted a

/-- A choice is faithful if each of its names stands for what it names. -/
theorem faithful_choice {ns : Codec.Names α} (h : ∀ a, ns.find (ns.nameOf a) = .ok a) :
    Faithful (.choice ns) := ⟨h, fun _ => rfl⟩

/-- No other name is read before one that is written, and so for the other choices. -/
theorem faithful_moderationAction : Faithful ModerationAction.codec :=
  faithful_choice fun a => by cases a <;> rfl

theorem faithful_healthStatus : Faithful HealthStatus.codec :=
  faithful_choice fun s => by cases s <;> rfl

theorem faithful_alertSeverity : Faithful AlertSeverity.codec :=
  faithful_choice fun s => by cases s <;> rfl

end Values

/-! ## Fields -/

/-- The names under which a record is written, in order. -/
def fieldNames : {ρ σ : Type} → Fields ρ σ → List String
  | _, _, .nil => []
  | _, _, .cons f rest => f.name :: fieldNames rest

/-- Whether a member is for a field. -/
def isFor {α : Type} (f : Field α) (m : String × Json) : Bool := f.isNamed m.1

/-- Everything has been read. -/
def filledSlots : {ρ σ : Type} → Fields ρ σ → ρ → σ
  | _, _, .nil, _ => ()
  | _, _, .cons _ rest, (a, r) => (some a, filledSlots rest r)

/-- Each field reads what it writes, and takes no member that is written for a later one. -/
inductive Legible : {ρ σ : Type} → Fields ρ σ → Prop
  | nil : Legible .nil
  | cons {α β τ : Type} {f : Field α} {rest : Fields β τ} (faithful : Faithful f.codec)
      (apart : ∀ name ∈ fieldNames rest, f.isNamed name = false) (later : Legible rest) :
      Legible (.cons f rest)

section Members

variable {α β ρ σ τ : Type} {f : Field α} {rest : Fields β τ} {fs : Fields ρ σ}

/-- The name under which a field is written is one of those it is read by. -/
theorem isNamed_self (f : Field α) : f.isNamed f.name = true := by simp [Field.isNamed]

theorem members_names (fs : Fields ρ σ) (r : ρ) : (fs.members r).map (·.1) = fieldNames fs := by
  induction fs with
  | nil => rfl
  | cons f rest ih =>
      obtain ⟨a, r⟩ := r
      exact congrArg (f.name :: ·) (ih r)

/-- Nothing is missing once everything has been read. -/
theorem complete_full (fs : Fields ρ σ) (r : ρ) : fs.complete (filledSlots fs r) = .ok r := by
  induction fs with
  | nil => rfl
  | cons f rest ih =>
      obtain ⟨a, r⟩ := r
      simp only [filledSlots, Fields.complete, ih, bind, Except.bind, pure, Except.pure]

theorem takeAll_cons {s next : σ} {name : String} {v : Json} (h : fs.take s name v = .ok next)
    (ms : List (String × Json)) : fs.takeAll s ((name, v) :: ms) = fs.takeAll next ms := by
  rw [Fields.takeAll, h]
  rfl

/-- A field takes its member as long as it has none. -/
theorem take_own {name : String} {v : Json} {a : α} (hname : f.isNamed name = true)
    (hread : f.codec.read v = .ok a) (slots : τ) :
    (Fields.cons f rest).take (none, slots) name v = .ok (some a, slots) := by
  simp only [Fields.take, hname, hread, bind, Except.bind, pure, Except.pure, if_true]

/-- A member with another name is passed on. -/
theorem take_later {name : String} {v : Json} {slots next : τ} (hname : f.isNamed name = false)
    (hnext : rest.take slots name v = .ok next) (slot : Option α) :
    (Fields.cons f rest).take (slot, slots) name v = .ok (slot, next) := by
  simp only [Fields.take, hname, hnext, bind, Except.bind, pure, Except.pure, Bool.false_eq_true,
    if_false]

/-- Members that are not for a field are for those behind it. -/
theorem takeAll_later {ms : List (String × Json)} {slot : Option α} {slots slots' : τ}
    (hf : ∀ m ∈ ms, isFor f m = false) (hrest : rest.takeAll slots ms = .ok slots') :
    (Fields.cons f rest).takeAll (slot, slots) ms = .ok (slot, slots') := by
  induction ms generalizing slots with
  | nil =>
      obtain rfl : slots = slots' := Except.ok.inj hrest
      rfl
  | cons m ms ih =>
      obtain ⟨name, v⟩ := m
      obtain ⟨next, hnext, hlater⟩ := ok_of_bind hrest
      rw [takeAll_cons (take_later (hf (name, v) List.mem_cons_self) hnext slot)]
      exact ih (fun m hm => hf m (List.mem_cons_of_mem _ hm)) hlater

/-- The one member for a field may stand anywhere among those for the fields behind it. -/
theorem takeAll_one {ms : List (String × Json)} {name : String} {v : Json} {a : α}
    {slots slots' : τ} (hf : ms.filter (isFor f) = [(name, v)])
    (hread : f.codec.read v = .ok a)
    (hrest : rest.takeAll slots (ms.filter fun m => !isFor f m) = .ok slots') :
    (Fields.cons f rest).takeAll (none, slots) ms = .ok (some a, slots') := by
  induction ms generalizing slots with
  | nil => exact absurd hf (by simp)
  | cons m ms ih =>
      obtain ⟨name', v'⟩ := m
      cases hname : f.isNamed name' with
      | true =>
          have hown : isFor f (name', v') = true := hname
          rw [List.filter_cons_of_pos hown] at hf
          rw [List.filter_cons_of_neg (by simp [hown])] at hrest
          obtain ⟨hm, hnone⟩ := List.cons.inj hf
          obtain ⟨rfl, rfl⟩ := Prod.mk.inj hm
          -- it was the only one, so the others are all for the fields behind
          have hlater : ∀ m ∈ ms, isFor f m = false := by
            intro m hm
            simpa using List.filter_eq_nil_iff.mp hnone m hm
          rw [List.filter_eq_self.mpr fun m hm => by rw [hlater m hm]; rfl] at hrest
          rw [takeAll_cons (take_own hname hread slots)]
          exact takeAll_later hlater hrest
      | false =>
          have hother : isFor f (name', v') = false := hname
          rw [List.filter_cons_of_neg (by simp [hother])] at hf
          rw [List.filter_cons_of_pos (by simp [hother])] at hrest
          obtain ⟨next, hnext, hlater⟩ := ok_of_bind hrest
          rw [takeAll_cons (take_later hname hnext none)]
          exact ih hf hlater

/-- **The members of a written record may stand in any order.** -/
theorem takeAll_members (h : Legible fs) {r : ρ} {ms : List (String × Json)}
    (hms : ms.Perm (fs.members r)) : fs.takeAll fs.empty ms = .ok (filledSlots fs r) := by
  induction h generalizing ms with
  | nil =>
      obtain rfl := List.Perm.eq_nil hms
      rfl
  | @cons α β τ f rest faithful apart later ih =>
      obtain ⟨a, r⟩ := r
      have hothers : ∀ m ∈ rest.members r, isFor f m = false := by
        intro m hm
        exact apart m.1 (members_names rest r ▸ List.mem_map_of_mem hm)
      have hself : isFor f (f.name, f.codec.write a) = true := isNamed_self f
      -- of the members one is for this field, and the others are those of the record behind it
      have hmine : ms.filter (isFor f) = [(f.name, f.codec.write a)] := by
        refine List.perm_singleton.mp ((hms.filter _).trans ?_)
        rw [Fields.members, List.filter_cons_of_pos hself,
          List.filter_eq_nil_iff.mpr fun m hm => by simp [hothers m hm]]
      have hrest : (ms.filter fun m => !isFor f m).Perm (rest.members r) := by
        refine (hms.filter _).trans ?_
        rw [Fields.members, List.filter_cons_of_neg (by simp [hself]),
          List.filter_eq_self.mpr fun m hm => by simp [hothers m hm]]
      exact takeAll_one hmine (faithful.reread a) (ih hrest)

theorem Legible.names_nodup (h : Legible fs) : (fieldNames fs).Nodup := by
  induction h with
  | nil => exact .nil
  | @cons α β τ f rest faithful apart later ih =>
      refine List.nodup_cons.mpr ⟨fun hmem => ?_, ih⟩
      exact Bool.false_ne_true ((apart f.name hmem).symm.trans (isNamed_self f))

theorem Legible.sortedMembers (h : Legible fs) (r : ρ) :
    sortedMembers (fs.members r) = fs.members r := by
  induction h with
  | nil => rfl
  | @cons α β τ f rest faithful apart later ih =>
      obtain ⟨a, r⟩ := r
      rw [Fields.members, Json.sortedMembers, faithful.sorted, ih]

end Members

/-! ## Records -/

/-- A new key goes somewhere among the others. -/
theorem insert_perm {α : Type} {t : Table α} {key : String} (h : key ∉ t.keys) (v : α) :
    (t.insert key v).Perm ((key, v) :: t) := by
  induction t with
  | nil => exact .refl _
  | cons p t ih =>
      obtain ⟨k, u⟩ := p
      obtain ⟨hne, hnot⟩ := List.ne_and_not_mem_of_not_mem_cons h
      unfold Table.insert
      rw [if_neg hne]
      split
      · exact .refl _
      · exact ((ih hnot).cons _).trans (.swap _ _ _)

/-- Members with different names are put in order and none is lost. -/
theorem ofList_perm {α : Type} {ps : List (String × α)} (h : (ps.map (·.1)).Nodup) :
    (Table.ofList ps).Perm ps := by
  -- for the induction a table may be there before
  have hfold : ∀ (t : Table α), (t.keys ++ ps.map (·.1)).Nodup →
      (ps.foldl (fun t p => Table.insert p.1 p.2 t) t).Perm (t ++ ps) := by
    clear h
    induction ps with
    | nil =>
        intro t _
        rw [List.append_nil]
        exact .refl _
    | cons p ps ih =>
        intro t ht
        have hmiddle : (p.1 :: (t.keys ++ ps.map (·.1))).Nodup :=
          List.perm_middle.nodup_iff.mp ht
        have hnew : p.1 ∉ t.keys := fun hmem =>
          (List.nodup_cons.mp hmiddle).1 (List.mem_append_left _ hmem)
        have hinsert := insert_perm hnew p.2
        have hnext : ((t.insert p.1 p.2).keys ++ ps.map (·.1)).Nodup :=
          ((hinsert.map (·.1)).append_right _).nodup_iff.mpr hmiddle
        exact (ih _ hnext).trans ((hinsert.append_right ps).trans List.perm_middle.symm)
  exact hfold [] h

/-- A record with legible fields, which is nothing but its fields. -/
structure LegibleRecord {τ : Type} (r : Record τ) : Prop where
  fields : Legible r.fields
  whole : ∀ t, r.ofRow (r.toRow t) = t

namespace LegibleRecord

variable {τ : Type} {r : Record τ} (h : LegibleRecord r)
include h

/-- A record is read from its members, whatever their order. -/
theorem read_of_perm {t : τ} {ms : List (String × Json)}
    (hms : ms.Perm (r.fields.members (r.toRow t))) : r.codec.read (.object ms) = .ok t := by
  show (do
    let slots ← r.fields.takeAll r.fields.empty ms
    return r.ofRow (← r.fields.complete slots)) = Except.ok t
  simp only [takeAll_members h.fields hms, complete_full, h.whole, bind, Except.bind, pure,
    Except.pure]

/-- In particular in the order in which they are written, -/
theorem read_write (t : τ) : r.codec.read (r.codec.write t) = .ok t :=
  h.read_of_perm (.refl _)

/-- and in that of their names, in which values hold them. -/
theorem read_sorted (t : τ) : r.codec.read (r.codec.write t).sorted = .ok t := by
  -- put in order by name, no member takes the place of another
  have hnodup : ((r.fields.members (r.toRow t)).map (·.1)).Nodup := by
    rw [members_names]
    exact h.fields.names_nodup
  show r.codec.read (.object (Table.ofList (Json.sortedMembers _))) = .ok t
  rw [h.fields.sortedMembers]
  exact h.read_of_perm (ofList_perm hnodup)

end LegibleRecord

/-! ## The records -/

section Kinds

/-! None of these is ever written as null, so each of them may be missing. -/

theorem optional_text : Faithful Codec.text.optional :=
  faithful_text.optional fun _ => Json.noConfusion

theorem optional_real : Faithful Codec.real.optional :=
  faithful_real.optional fun _ => Json.noConfusion

theorem optional_word32 : Faithful Codec.word32.optional :=
  faithful_word32.optional fun _ => Json.noConfusion

theorem optional_word64 : Faithful Codec.word64.optional :=
  faithful_word64.optional fun _ => Json.noConfusion

theorem optional_instant : Faithful Codec.instant.optional :=
  faithful_instant.optional fun _ => Json.noConfusion

theorem legible_chatMessage : LegibleRecord ChatMessage.record where
  fields := .cons faithful_text (by decide) <| .cons faithful_text (by decide) <|
    .cons faithful_text (by decide) <| .cons optional_text (by decide) <|
    .cons optional_text (by decide) <| .cons optional_instant (by decide) <|
    .cons faithful_flag (by decide) .nil
  whole _ := rfl

theorem legible_moderationEvent : LegibleRecord ModerationEvent.record where
  fields := .cons faithful_text (by decide) <| .cons faithful_text (by decide) <|
    .cons faithful_moderationAction (by decide) <| .cons optional_text (by decide) <|
    .cons optional_text (by decide) .nil
  whole _ := rfl

theorem legible_chatStatus : LegibleRecord ChatStatus.record where
  fields := .cons faithful_text (by decide) <| .cons faithful_text (by decide) <|
    .cons optional_word32 (by decide) <| .cons optional_word64 (by decide) .nil
  whole _ := rfl

theorem legible_notification : LegibleRecord Notification.record where
  fields := .cons faithful_text (by decide) <| .cons optional_text (by decide) <|
    .cons faithful_text (by decide) <| .cons optional_text (by decide) <|
    .cons optional_text (by decide) <| .cons faithful_flag (by decide) <|
    .cons optional_instant (by decide) .nil
  whole _ := rfl

theorem legible_healthSnapshot : LegibleRecord HealthSnapshot.record where
  fields := .cons faithful_text (by decide) <| .cons faithful_healthStatus (by decide) <|
    .cons optional_real (by decide) <| .cons optional_real (by decide) <|
    .cons optional_word64 (by decide) <| .cons optional_word64 (by decide) <|
    .cons optional_instant (by decide) .nil
  whole _ := rfl

theorem legible_healthAlert : LegibleRecord HealthAlert.record where
  fields := .cons faithful_text (by decide) <| .cons optional_text (by decide) <|
    .cons faithful_alertSeverity (by decide) <| .cons faithful_text (by decide) <|
    .cons optional_instant (by decide) .nil
  whole _ := rfl

end Kinds

/-! ## Reading again -/

/-- Every value is read from what is written of it, and just as well when the members of its
objects have been put in order, as values hold them. -/
structure Canonical {α : Type} (c : Codec α) : Prop where
  written : ∀ t, c.read (c.write t) = .ok t
  sorted : ∀ t, c.read (c.write t).sorted = .ok t

section Canonical

variable {α : Type} {c : Codec α}

/-- A single value has nothing to put in order. -/
theorem Faithful.canonical (h : Faithful c) : Canonical c where
  written := h.reread
  sorted t := by rw [h.sorted, h.reread]

theorem LegibleRecord.canonical {τ : Type} {r : Record τ} (h : LegibleRecord r) :
    Canonical r.codec := ⟨h.read_write, h.read_sorted⟩

/-- What is written of a value that was read stays as it is when it is read and written again. -/
theorem Canonical.display (h : Canonical c) {v w : Json} (hv : PayloadKind.display c v = .ok w) :
    PayloadKind.display c w.sorted = .ok w := by
  unfold PayloadKind.display at hv ⊢
  cases hread : c.read v with
  | error m =>
      rw [hread] at hv
      cases hv
  | ok t =>
      rw [hread] at hv
      obtain rfl : c.write t = w := Except.ok.inj hv
      rw [h.sorted]
      rfl

end Canonical

/-- What is read from the payload of an envelope is settled: what is written of it is read as the
same in the payload's place, with its members as they were written or in order. -/
def Settles {α : Type} (c : Codec α) (e : Envelope) : Prop :=
  ∀ t, e.typed c = .ok t → { e with payload := c.write t }.typed c = .ok t
    ∧ { e with payload := (c.write t).sorted }.typed c = .ok t

theorem Canonical.settles {α : Type} {c : Codec α} (h : Canonical c) (e : Envelope) :
    Settles c e := fun t _ => ⟨h.written t, h.sorted t⟩

/-- **Payloads are settled by the first reading**, whatever form they had: each of the types that
are written reads what it has written as the same value, and what was written once is not written
differently the next time. -/
theorem payloads_canonical (e : Envelope) :
    (Settles ChatMessage.record.codec e ∧ Settles ModerationEvent.record.codec e
      ∧ Settles ModerationAction.codec e ∧ Settles ChatStatus.record.codec e
      ∧ Settles Notification.record.codec e ∧ Settles HealthSnapshot.record.codec e
      ∧ Settles HealthStatus.codec e ∧ Settles HealthAlert.record.codec e
      ∧ Settles AlertSeverity.codec e)
    ∧ ∀ kind w, kind ≠ .notificationUpdate → kind ≠ .bulkRead →
      PayloadKind.reread kind e.payload = .ok w → PayloadKind.reread kind w.sorted = .ok w := by
  refine ⟨⟨legible_chatMessage.canonical.settles e, legible_moderationEvent.canonical.settles e,
    faithful_moderationAction.canonical.settles e, legible_chatStatus.canonical.settles e,
    legible_notification.canonical.settles e, legible_healthSnapshot.canonical.settles e,
    faithful_healthStatus.canonical.settles e, legible_healthAlert.canonical.settles e,
    faithful_alertSeverity.canonical.settles e⟩, ?_⟩
  intro kind w hupdate hbulk hw
  cases kind with
  | chatMessage => exact legible_chatMessage.canonical.display hw
  | moderationEvent => exact legible_moderationEvent.canonical.display hw
  | moderationAction => exact faithful_moderationAction.canonical.display hw
  | chatStatus => exact legible_chatStatus.canonical.display hw
  | notification => exact legible_notification.canonical.display hw
  | notificationUpdate => exact absurd rfl hupdate
  | bulkRead => exact absurd rfl hbulk
  | healthSnapshot => exact legible_healthSnapshot.canonical.display hw
  | healthStatus => exact faithful_healthStatus.canonical.display hw
  | healthAlert => exact legible_healthAlert.canonical.display hw
  | alertSeverity => exact faithful_alertSeverity.canonical.display hw

/-- A snapshot under the older name of its stream, with a status that nobody knows, an integer for a
real number, a leap second in another zone and a member in excess. -/
def oddSnapshot : Envelope where
  topic := "stream.health.update"
  payload := .ofMembers [("status", .object [("melting", .null)]), ("eventId", .string "s1"),
    ("fps", .int 60), ("room", .array []),
    ("updatedAt", .string "2017-01-01t00:59:60.5 +0100")]
  id := "m1"
  timestamp := .epoch

/-- It is read, and what is written of it is read as the same. -/
theorem payloads_canonical_oddSnapshot :
    ∃ t w, oddSnapshot.typed HealthSnapshot.record.codec = .ok t
      ∧ t.streamId = "s1" ∧ t.status = .unknown ∧ t.fps = Binary64.ofNat? 60
      ∧ t.updatedAt.map Instant.write = some "2016-12-31T23:59:60.500Z"
      ∧ { oddSnapshot with payload := (HealthSnapshot.record.write t).sorted }.typed
        HealthSnapshot.record.codec = .ok t
      ∧ PayloadKind.reread .healthSnapshot oddSnapshot.payload = .ok w
      ∧ PayloadKind.reread .healthSnapshot w.sorted = .ok w := by
  have hlook : (oddSnapshot.typed HealthSnapshot.record.codec).toOption.map
      (fun t => (t.streamId, t.status, t.fps, t.updatedAt.map Instant.write))
      = some ("s1", .unknown, Binary64.ofNat? 60, some "2016-12-31T23:59:60.500Z") := by
    decide +kernel
  obtain ⟨⟨-, -, -, -, -, hsnapshot, -⟩, hkinds⟩ := payloads_canonical oddSnapshot
  cases hread : oddSnapshot.typed HealthSnapshot.record.codec with
  | error m =>
      rw [hread] at hlook
      cases hlook
  | ok t =>
      rw [hread] at hlook
      obtain ⟨hid, hfields⟩ := Prod.mk.inj (Option.some.inj hlook)
      obtain ⟨hstatus, hfields⟩ := Prod.mk.inj hfields
      obtain ⟨hfps, hupdated⟩ := Prod.mk.inj hfields
      have hwritten : PayloadKind.reread .healthSnapshot oddSnapshot.payload
          = .ok (HealthSnapshot.record.write t) :=
        congrArg (Except.map HealthSnapshot.record.write) hread
      exact ⟨t, _, rfl, hid, hstatus, hfps, hupdated, (hsnapshot t hread).2, hwritten,
        hkinds _ _ (by decide) (by decide) hwritten⟩

end LiveLink.Proofs
