/-!
# Tables

A table maps texts to values: a list of pairs in increasing order of their keys,
each key once, so that equal tables are equal lists.
-/

namespace LiveLink

/-- Pairs of a key and a value. -/
abbrev Table (α : Type) := List (String × α)

namespace Table

variable {α : Type}

/-- The value of a key. -/
def get? (key : String) : Table α → Option α
  | [] => none
  | (k, v) :: rest => if k = key then some v else get? key rest

/-- Puts a value in its place by key, instead of one that the key had. -/
def insert (key : String) (value : α) : Table α → Table α
  | [] => [(key, value)]
  | (k, v) :: rest =>
    if key = k then (key, value) :: rest
    else if key < k then (key, value) :: (k, v) :: rest
    else (k, v) :: insert key value rest

/-- Takes a key out. -/
def erase (key : String) (t : Table α) : Table α := t.filter fun p => p.1 ≠ key

/-- Changes the value of a key, if it has one. -/
def modify (key : String) (f : α → α) (t : Table α) : Table α :=
  t.map fun p => if p.1 = key then (p.1, f p.2) else p

/-- Pairs in order by key; of pairs with one key the last counts. -/
def ofList (pairs : List (String × α)) : Table α :=
  pairs.foldl (fun t p => insert p.1 p.2 t) []

/-- The keys, in order. -/
def keys (t : Table α) : List String := t.map (·.1)

/-- Whether a key has a value. -/
def contains (key : String) (t : Table α) : Bool := (get? key t).isSome

/-! ## What a key has after a change -/

@[simp] theorem get?_insert_self (key : String) (value : α) (t : Table α) :
    get? key (insert key value t) = some value := by
  induction t with
  | nil => exact if_pos rfl
  | cons p rest ih =>
      obtain ⟨k, v⟩ := p
      unfold insert
      split
      · exact if_pos rfl
      · rename_i hk
        split
        · exact if_pos rfl
        · rw [get?, if_neg (Ne.symm hk), ih]

theorem get?_insert_ne {key other : String} (h : key ≠ other) (value : α) (t : Table α) :
    get? other (insert key value t) = get? other t := by
  induction t with
  | nil => exact if_neg h
  | cons p rest ih =>
      obtain ⟨k, v⟩ := p
      unfold insert
      split
      · rename_i hk
        subst hk
        rw [get?, get?, if_neg h, if_neg h]
      · split
        · rw [get?, if_neg h]
        · rw [get?, get?, ih]

theorem erase_cons_self (key : String) (v : α) (t : Table α) :
    erase key ((key, v) :: t) = erase key t := by
  simp [erase]

theorem erase_cons_ne {key k : String} (h : k ≠ key) (v : α) (t : Table α) :
    erase key ((k, v) :: t) = (k, v) :: erase key t := by
  simp [erase, h]

@[simp] theorem get?_erase_self (key : String) (t : Table α) : get? key (erase key t) = none := by
  induction t with
  | nil => rfl
  | cons p rest ih =>
      obtain ⟨k, v⟩ := p
      by_cases hk : k = key
      · rw [hk, erase_cons_self, ih]
      · rw [erase_cons_ne hk, get?, if_neg hk, ih]

theorem get?_erase_ne {key other : String} (h : key ≠ other) (t : Table α) :
    get? other (erase key t) = get? other t := by
  induction t with
  | nil => rfl
  | cons p rest ih =>
      obtain ⟨k, v⟩ := p
      by_cases hk : k = key
      · rw [hk, erase_cons_self, ih, get?, if_neg h]
      · rw [erase_cons_ne hk, get?, get?, ih]

end Table

/-- A set of texts. -/
abbrev TextSet := Table Unit

end LiveLink
