import LiveLink.Table
import Mathlib.Data.String.Basic

/-!
# Tables stay in order

The keys of a table increase, and whatever is put into it or taken out leaves them so. Then a key
has at most one value, and to be in the table and to be found under the key are the same.
-/

namespace LiveLink.Proofs

open LiveLink

variable {α : Type} {t : Table α} {key other : String} {v : α}

/-- The keys of a table increase. -/
def Ordered (t : Table α) : Prop := t.keys.Pairwise (· < ·)

/-- An insertion adds its key and removes none. -/
theorem mem_keys_insert : other ∈ (t.insert key v).keys ↔ other = key ∨ other ∈ t.keys := by
  induction t with
  | nil => simp [Table.insert, Table.keys]
  | cons p rest ih =>
      obtain ⟨k, u⟩ := p
      simp only [Table.keys, List.map_cons, List.mem_cons] at ih ⊢
      unfold Table.insert
      by_cases hk : key = k
      · rw [if_pos hk, hk]
        simp
      · rw [if_neg hk]
        by_cases hlt : key < k
        · rw [if_pos hlt]
          simp
        · rw [if_neg hlt, List.map_cons, List.mem_cons, ih]
          tauto

/-- A key goes before the first greater one. -/
theorem ordered_insert (h : Ordered t) (key : String) (v : α) : Ordered (t.insert key v) := by
  induction t with
  | nil => simp [Ordered, Table.insert, Table.keys]
  | cons p rest ih =>
      obtain ⟨k, u⟩ := p
      obtain ⟨hmin, hrest⟩ := List.pairwise_cons.mp h
      unfold Table.insert
      by_cases hk : key = k
      · rw [if_pos hk, hk]
        exact h
      · rw [if_neg hk]
        by_cases hlt : key < k
        · rw [if_pos hlt]
          refine List.pairwise_cons.mpr ⟨?_, h⟩
          intro other hother
          rcases List.mem_cons.mp hother with rfl | hother
          · exact hlt
          · exact hlt.trans (hmin other hother)
        · rw [if_neg hlt]
          -- the key belongs behind the first entry, so it goes into the rest
          have hgt : k < key := lt_of_le_of_ne (not_lt.mp hlt) (Ne.symm hk)
          refine List.pairwise_cons.mpr ⟨?_, ih hrest⟩
          intro other hother
          rcases mem_keys_insert.mp hother with rfl | hother
          · exact hgt
          · exact hmin other hother

/-- To take a key out leaves the others. -/
theorem mem_keys_erase : other ∈ (t.erase key).keys ↔ other ≠ key ∧ other ∈ t.keys := by
  simp only [Table.keys, Table.erase, List.mem_map, List.mem_filter, decide_eq_true_iff]
  constructor
  · rintro ⟨p, ⟨hp, hne⟩, rfl⟩
    exact ⟨hne, p, hp, rfl⟩
  · rintro ⟨hne, p, hp, rfl⟩
    exact ⟨p, ⟨hp, hne⟩, rfl⟩

theorem ordered_erase (h : Ordered t) (key : String) : Ordered (t.erase key) :=
  h.sublist (List.filter_sublist.map _)

/-- A key is in the table if something is found under it. -/
theorem mem_keys : key ∈ t.keys ↔ (t.get? key).isSome := by
  induction t with
  | nil => simp [Table.keys, Table.get?]
  | cons p rest ih =>
      obtain ⟨k, u⟩ := p
      simp only [Table.keys, List.map_cons, List.mem_cons] at ih ⊢
      by_cases hk : k = key
      · simp [Table.get?, hk]
      · rw [Table.get?, if_neg hk, ← ih]
        simp [Ne.symm hk]

/-- What is found after an insertion is the new value, or was there before. -/
theorem get?_insert_cases {u : α} (h : (t.insert key v).get? other = some u) :
    (other = key ∧ u = v) ∨ (other ≠ key ∧ t.get? other = some u) := by
  by_cases hk : key = other
  · subst hk
    rw [Table.get?_insert_self] at h
    exact .inl ⟨rfl, (Option.some.inj h).symm⟩
  · rw [Table.get?_insert_ne hk] at h
    exact .inr ⟨Ne.symm hk, h⟩

theorem get?_of_erase {u : α} (h : (t.erase key).get? other = some u) : t.get? other = some u := by
  by_cases hk : key = other
  · subst hk
    rw [Table.get?_erase_self] at h
    exact absurd h (by simp)
  · rwa [Table.get?_erase_ne hk] at h

/-- An entry of the table after an insertion is the new one or an old one. -/
theorem mem_insert {p : String × α} (h : p ∈ t.insert key v) : p = (key, v) ∨ p ∈ t := by
  induction t with
  | nil => exact .inl (List.mem_singleton.mp h)
  | cons q t ih =>
      obtain ⟨k, u⟩ := q
      unfold Table.insert at h
      split at h
      · rcases List.mem_cons.mp h with h | h
        · exact .inl h
        · exact .inr (List.mem_cons_of_mem _ h)
      · split at h
        · rcases List.mem_cons.mp h with h | h
          · exact .inl h
          · exact .inr h
        · rcases List.mem_cons.mp h with h | h
          · exact .inr (h ▸ List.mem_cons_self)
          · exact (ih h).imp_right (List.mem_cons_of_mem _)

/-- In a table in order each entry is the one that is found under its key. -/
theorem get?_of_mem (h : Ordered t) {a : α} :
    (key, a) ∈ t ↔ t.get? key = some a := by
  induction t with
  | nil => simp [Table.get?]
  | cons p rest ih =>
      obtain ⟨k, b⟩ := p
      obtain ⟨hmin, hrest⟩ := List.pairwise_cons.mp h
      rw [List.mem_cons, Table.get?]
      by_cases hk : k = key
      · subst hk
        rw [if_pos rfl]
        constructor
        · rintro (heq | hmem)
          · exact congrArg some (Prod.mk.inj heq).2.symm
          · -- the key would stand twice
            have hkeys : k ∈ Table.keys rest := List.mem_map_of_mem hmem
            exact absurd (hmin k hkeys) (lt_irrefl k)
        · intro heq
          exact .inl (Prod.ext rfl (Option.some.inj heq).symm)
      · rw [if_neg hk, ← ih hrest]
        exact or_iff_right fun heq => hk (Prod.mk.inj heq).1.symm

end LiveLink.Proofs
