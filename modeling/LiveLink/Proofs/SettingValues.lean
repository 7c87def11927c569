import LiveLink.Config.Load
import LiveLink.Proofs.Outcomes
import Mathlib.Data.List.Basic
import Mathlib.Data.Fintype.Sets

/-!
# What a tree of values makes of a setting

A tree has at most one value for a setting: under the name of the setting in its section,
or at its place if the section is an array. A tree that can be read gives every setting
this value, as a text or as a count, or the standard one if there is none (`settings_take`).
Whatever else is in the tree makes no difference.
-/

namespace LiveLink.Proofs

open LiveLink Config

/-! ## Settings -/

/-- The settings. -/
inductive Setting where
  | url
  | tokenParam
  | baseDelay
  | maxDelay
  | chatHistory
  | notifications
  | alerts
  | logLevel
  deriving DecidableEq

instance : Fintype Setting where
  elems := {.url, .tokenParam, .baseDelay, .maxDelay, .chatHistory, .notifications, .alerts,
    .logLevel}
  complete k := by cases k <;> decide

/-- The value of a setting. -/
inductive SettingValue where
  | text (s : String)
  | count (n : UInt64)
  deriving DecidableEq

namespace Setting

/-- The section of a setting. -/
def sectionName : Setting → String
  | url | tokenParam | baseDelay | maxDelay => "connection"
  | chatHistory | notifications | alerts => "adapters"
  | logLevel => "logging"

/-- The name of a setting in its section. -/
def name : Setting → String
  | url => "url"
  | tokenParam => "token_param"
  | baseDelay => "base_delay_ms"
  | maxDelay => "max_delay_ms"
  | chatHistory => "chat_history_limit"
  | notifications => "notification_limit"
  | alerts => "alert_limit"
  | logLevel => "level"

/-- The place of a setting in a section that is an array. -/
def place : Setting → Nat
  | url | chatHistory | logLevel => 0
  | tokenParam | notifications => 1
  | baseDelay | alerts => 2
  | maxDelay => 3

/-- Whether a setting is a text and not a count. -/
def isText : Setting → Bool
  | url | tokenParam | logLevel => true
  | _ => false

/-- The steps to a setting from the root. -/
def path (k : Setting) : List Step := [.key k.sectionName, .key k.name]

/-- A single value as a value of a setting. -/
def convert (k : Setting) (v : Scalar) : Except Cause SettingValue :=
  if k.isText then .ok (.text v.toText) else v.toCount.map .count

/-- The value of a setting among all settings. -/
def of (s : Settings) : Setting → SettingValue
  | url => .text s.connection.url
  | tokenParam => .text s.connection.tokenParam
  | baseDelay => .count s.connection.baseDelay
  | maxDelay => .count s.connection.maxDelay
  | chatHistory => .count s.views.chatHistory
  | notifications => .count s.views.notifications
  | alerts => .count s.views.alerts
  | logLevel => .text s.logLevel

end Setting

/-! ## What a tree has for a setting -/

/-- What a layer has for a setting. -/
inductive Offer where
  | nothing
  | single (v : Scalar)
  /-- A table or an array, which is no value of a setting. -/
  | compound
  deriving DecidableEq

/-- What a node is to a setting. -/
def offerOf : Node → Offer
  | .absent => .nothing
  | .scalar _ v => .single v
  | .array .. | .table .. => .compound

/-- What a section has for a setting: at its place in an array, under its name in a table. -/
def held (k : Setting) : Option Node → Offer
  | some (.array _ items) => (items[k.place]?).elim .nothing offerOf
  | some n => (n.section? k.name).elim .nothing offerOf
  | none => .nothing

/-- What a tree has for a setting. -/
def heldIn (root : Node) (k : Setting) : Offer := held k (root.section? k.sectionName)

/-- The value that an offer makes of a setting: the standard one if there is none. -/
def Setting.Takes (k : Setting) : Offer → SettingValue → Prop
  | .nothing, x => x = k.of .standard
  | .single v, x => k.convert v = .ok x
  | .compound, _ => False

/-- One offer makes one value. -/
theorem Setting.Takes.unique {k : Setting} {o : Offer} {x y : SettingValue} (hx : k.Takes o x)
    (hy : k.Takes o y) : x = y := by
  cases o with
  | nothing => exact hx.trans hy.symm
  | single v => exact Except.ok.inj (hx.symm.trans hy)
  | compound => exact hx.elim

/-! ## Reading a tree -/

section Reading

variable {expected key : String} {names : List String} {sec : Option Node} {l : List Slot}

/-- A section has one slot for each name, whatever form it has and whatever else stands in it. -/
theorem slots_length (h : Node.slots expected names key sec = .ok l) :
    l.length = names.length := by
  unfold Node.slots at h
  split at h
  · obtain rfl := Except.ok.inj h
    exact List.length_map _
  · obtain rfl := Except.ok.inj h
    exact List.length_map _
  · exact absurd h (by simp)
  · obtain rfl := Except.ok.inj h
    exact List.length_map _
  · obtain rfl := Except.ok.inj h
    rw [List.length_map, List.length_zipIdx]

theorem slot_of_map {k : Setting} (hk : names[k.place]? = some k.name) {f : String → Slot}
    {slot : Slot} (h : (names.map f)[k.place]? = some slot) : slot = f k.name := by
  rw [List.getElem?_map, hk] at h
  exact (Option.some.inj h).symm

/-- What the slot at the place of a setting is given is what the section has for the setting. -/
theorem slots_held {k : Setting} (hk : names[k.place]? = some k.name)
    (h : Node.slots expected names key sec = .ok l) {inner : String} {v : Node}
    (hslot : l[k.place]? = some (.given inner v)) : offerOf v = held k sec := by
  unfold Node.slots at h
  split at h
  · obtain rfl := Except.ok.inj h
    obtain ⟨-, rfl⟩ := Slot.given.inj (slot_of_map hk hslot)
    rfl
  · obtain rfl := Except.ok.inj h
    obtain ⟨-, rfl⟩ := Slot.given.inj (slot_of_map hk hslot)
    rfl
  · exact absurd h (by simp)
  · rename_i members
    obtain rfl := Except.ok.inj h
    obtain ⟨-, rfl⟩ := Slot.given.inj (slot_of_map hk hslot)
    show _ = (Table.get? k.name members).elim .nothing offerOf
    cases Table.get? k.name members <;> rfl
  · rename_i items
    obtain rfl := Except.ok.inj h
    -- in an array a slot is given the item at its own index, under its own name
    rw [List.getElem?_map, List.getElem?_zipIdx, hk] at hslot
    have hslot := Option.some.inj hslot
    dsimp only at hslot
    rw [Nat.zero_add] at hslot
    show _ = (items[k.place]?).elim .nothing offerOf
    cases hitem : items[k.place]? with
    | none =>
        rw [hitem] at hslot
        exact absurd hslot (by simp)
    | some w =>
        rw [hitem] at hslot
        obtain ⟨-, rfl⟩ := Slot.given.inj hslot
        rfl

/-- A slot that is read has been given something: nothing, which leaves the standard value, or a
single value that can be converted. -/
theorem slot_read {α : Type} {convert : Scalar → Except Cause α} {standard x : α} {slot : Slot}
    (h : slot.read (Node.read convert expected) standard = .ok x) :
    ∃ inner v, slot = .given inner v
      ∧ (offerOf v = .nothing ∧ x = standard ∨ ∃ w, offerOf v = .single w ∧ convert w = .ok x) := by
  cases slot with
  | tooShort e => exact absurd h (by simp [Slot.read])
  | given inner v =>
      refine ⟨inner, v, rfl, ?_⟩
      unfold Slot.read at h
      -- what is absent leaves the standard; a table or an array is an error
      cases v with
      | absent => exact .inl ⟨rfl, (Except.ok.inj h).symm⟩
      | scalar source w =>
          refine .inr ⟨w, rfl, ?_⟩
          cases hw : convert w with
          | ok a =>
              simp only [Node.read, hw, Except.map, Option.getD_some] at h
              exact congrArg Except.ok (Except.ok.inj h)
          | error cause => simp [Node.read, hw, Except.map] at h
      | array source items => exact absurd h (by simp [Node.read, Except.map])
      | table source members => exact absurd h (by simp [Node.read, Except.map])

variable {k : Setting} {slot : Slot}

/-- A text is read from any single value. -/
theorem takes_text (hk : names[k.place]? = some k.name)
    (hl : Node.slots expected names key sec = .ok l) (hslot : l[k.place]? = some slot)
    (htext : k.isText = true) {d x : String} (hd : k.of .standard = .text d)
    (h : slot.text d = .ok x) : k.Takes (held k sec) (.text x) := by
  obtain ⟨inner, v, rfl, hread⟩ := slot_read h
  rw [← slots_held hk hl hslot]
  obtain ⟨hnone, rfl⟩ | ⟨w, hw, hx⟩ := hread
  · rw [hnone]
    exact hd.symm
  · rw [hw, Setting.Takes, Setting.convert, if_pos htext]
    exact congrArg (fun s => Except.ok (SettingValue.text s)) (Except.ok.inj hx)

/-- A count is read from what can be converted to one; anything else would have been an error. -/
theorem takes_count (hk : names[k.place]? = some k.name)
    (hl : Node.slots expected names key sec = .ok l) (hslot : l[k.place]? = some slot)
    (hcount : k.isText = false) {d x : UInt64} (hd : k.of .standard = .count d)
    (h : slot.count d = .ok x) : k.Takes (held k sec) (.count x) := by
  obtain ⟨inner, v, rfl, hread⟩ := slot_read h
  rw [← slots_held hk hl hslot]
  obtain ⟨hnone, rfl⟩ | ⟨w, hw, hx⟩ := hread
  · rw [hnone]
    exact hd.symm
  · rw [hw, Setting.Takes, Setting.convert, if_neg (Bool.eq_false_iff.mp hcount), hx]
    rfl

end Reading

section Sections

variable {root : Node} {s : Settings} {k : Setting}

/-- The four settings of a connection are read from the first section, each from its own slot. -/
theorem connection_takes
    (h : readConnection root Settings.standard.connection = .ok s.connection)
    (hk : k.sectionName = "connection") : k.Takes (heldIn root k) (k.of s) := by
  unfold readConnection at h
  obtain ⟨l, hl, h⟩ := ok_of_bind h
  obtain ⟨url, param, base, longest, rfl⟩ := List.length_eq_four.mp (slots_length hl)
  obtain ⟨x, hx, h⟩ := ok_of_bind h
  obtain ⟨y, hy, h⟩ := ok_of_bind h
  obtain ⟨z, hz, h⟩ := ok_of_bind h
  obtain ⟨w, hw, h⟩ := ok_of_bind h
  have hs : s.connection = ⟨x, y, z, w⟩ := (Except.ok.inj h).symm
  unfold heldIn
  rw [hk]
  cases k with
  | url =>
      rw [Setting.of, hs]
      exact takes_text rfl hl rfl rfl rfl hx
  | tokenParam =>
      rw [Setting.of, hs]
      exact takes_text rfl hl rfl rfl rfl hy
  | baseDelay =>
      rw [Setting.of, hs]
      exact takes_count rfl hl rfl rfl rfl hz
  | maxDelay =>
      rw [Setting.of, hs]
      exact takes_count rfl hl rfl rfl rfl hw
  | _ => exact absurd hk (by decide)

theorem views_take (h : readViews root Settings.standard.views = .ok s.views)
    (hk : k.sectionName = "adapters") : k.Takes (heldIn root k) (k.of s) := by
  unfold readViews at h
  obtain ⟨l, hl, h⟩ := ok_of_bind h
  obtain ⟨chat, notifications, alerts, rfl⟩ := List.length_eq_three.mp (slots_length hl)
  obtain ⟨x, hx, h⟩ := ok_of_bind h
  obtain ⟨y, hy, h⟩ := ok_of_bind h
  obtain ⟨z, hz, h⟩ := ok_of_bind h
  have hs : s.views = ⟨x, y, z⟩ := (Except.ok.inj h).symm
  unfold heldIn
  rw [hk]
  cases k with
  | chatHistory =>
      rw [Setting.of, hs]
      exact takes_count rfl hl rfl rfl rfl hx
  | notifications =>
      rw [Setting.of, hs]
      exact takes_count rfl hl rfl rfl rfl hy
  | alerts =>
      rw [Setting.of, hs]
      exact takes_count rfl hl rfl rfl rfl hz
  | _ => exact absurd hk (by decide)

theorem level_takes (h : readLevel root Settings.standard.logLevel = .ok s.logLevel)
    (hk : k.sectionName = "logging") : k.Takes (heldIn root k) (k.of s) := by
  unfold readLevel at h
  obtain ⟨l, hl, h⟩ := ok_of_bind h
  obtain ⟨level, rfl⟩ := List.length_eq_one_iff.mp (slots_length hl)
  unfold heldIn
  rw [hk]
  cases k with
  | logLevel => exact takes_text rfl hl rfl rfl rfl h
  | _ => exact absurd hk (by decide)

/-- **A tree that is read gives every setting what it has for it**, and nothing else counts. -/
theorem settings_take (h : root.settings = .ok s) (k : Setting) :
    k.Takes (heldIn root k) (k.of s) := by
  unfold Node.settings at h
  obtain ⟨c, hc, h⟩ := ok_of_bind h
  obtain ⟨v, hv, h⟩ := ok_of_bind h
  obtain ⟨level, hlevel, h⟩ := ok_of_bind h
  obtain rfl := Except.ok.inj h
  -- there are three sections, and each is read by itself
  have hsection : k.sectionName = "connection" ∨ k.sectionName = "adapters"
      ∨ k.sectionName = "logging" := by
    cases k <;> decide
  obtain hk | hk | hk := hsection
  · exact connection_takes hc hk
  · exact views_take hv hk
  · exact level_takes hlevel hk

end Sections

end LiveLink.Proofs
