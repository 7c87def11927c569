import LiveLink.Table

/-!
# Registrations of handlers

Handlers are registered for one topic or for all of them. Every registration has
a number of its own, which is never given out again, and stays in its list until
it is withdrawn. Lists keep the order of registration; a topic without handlers
is forgotten.
-/

namespace LiveLink

/-- A registered handler and the number of its registration. -/
structure Entry (α : Type) where
  id : Nat
  handler : α

/-- What a handler is registered for. -/
inductive Scope where
  | topic (name : String)
  | all
  deriving DecidableEq, Repr

/-- The registered handlers. -/
structure Registry (α : Type) where
  nextId : Nat
  topics : Table (List (Entry α))
  all : List (Entry α)

namespace Registry

variable {α : Type}

/-- No registrations. -/
def empty : Registry α := ⟨1, [], []⟩

instance : Inhabited (Registry α) := ⟨empty⟩

/-- The handlers registered for exactly one topic. -/
def forTopic (r : Registry α) (topic : String) : List (Entry α) := (r.topics.get? topic).getD []

/-- The handlers of a scope. -/
def inScope (r : Registry α) : Scope → List (Entry α)
  | .topic name => r.forTopic name
  | .all => r.all

/-- Registers a handler under the next number, behind the handlers of the same scope. -/
def register (r : Registry α) (s : Scope) (h : α) : Registry α :=
  let entry := ⟨r.nextId, h⟩
  match s with
  | .topic name =>
    { r with nextId := r.nextId + 1, topics := r.topics.insert name (r.forTopic name ++ [entry]) }
  | .all => { r with nextId := r.nextId + 1, all := r.all ++ [entry] }

/-- Entries without the one of a number. -/
def without (id : Nat) (l : List (Entry α)) : List (Entry α) := l.filter (·.id ≠ id)

/-- Withdraws the registration of a number from a scope. -/
def withdraw (r : Registry α) (s : Scope) (id : Nat) : Registry α :=
  match s with
  | .topic name =>
    match without id (r.forTopic name) with
    -- no empty lists stay behind
    | [] => { r with topics := r.topics.erase name }
    | l => { r with topics := r.topics.insert name l }
  | .all => { r with all := without id r.all }

/-- Who is called for a topic, in order: its own handlers, then those for all topics. -/
def audience (r : Registry α) (topic : String) : List (Entry α) := r.forTopic topic ++ r.all

/-- The topics that have handlers of their own, in order. -/
def topicNames (r : Registry α) : List String := r.topics.keys

/-! ## Scopes keep to themselves -/

theorem inScope_register (r : Registry α) (s : Scope) (h : α) :
    (r.register s h).inScope s = r.inScope s ++ [⟨r.nextId, h⟩] := by
  cases s with
  | topic name => simp [register, inScope, forTopic]
  | all => rfl

theorem inScope_register_ne (r : Registry α) {s s' : Scope} (hs : s ≠ s') (h : α) :
    (r.register s h).inScope s' = r.inScope s' := by
  cases s with
  | topic name =>
      cases s' with
      | topic name' =>
          have hname : name ≠ name' := fun h => hs (congrArg Scope.topic h)
          simp [register, inScope, forTopic, Table.get?_insert_ne hname]
      | all => rfl
  | all =>
      cases s' with
      | topic name' => rfl
      | all => exact absurd rfl hs

theorem inScope_withdraw (r : Registry α) (s : Scope) (id : Nat) :
    (r.withdraw s id).inScope s = without id (r.inScope s) := by
  cases s with
  | topic name =>
      unfold withdraw
      dsimp only
      split
      · rename_i hnone
        change ((r.topics.erase name).get? name).getD [] = without id (r.forTopic name)
        rw [hnone, Table.get?_erase_self]
        rfl
      · simp [inScope, forTopic]
  | all => rfl

theorem inScope_withdraw_ne (r : Registry α) {s s' : Scope} (hs : s ≠ s') (id : Nat) :
    (r.withdraw s id).inScope s' = r.inScope s' := by
  cases s with
  | topic name =>
      cases s' with
      | topic name' =>
          have hname : name ≠ name' := fun h => hs (congrArg Scope.topic h)
          unfold withdraw
          dsimp only
          split
          · simp [inScope, forTopic, Table.get?_erase_ne hname]
          · simp [inScope, forTopic, Table.get?_insert_ne hname]
      | all =>
          unfold withdraw
          dsimp only
          split <;> rfl
  | all =>
      cases s' with
      | topic name' => rfl
      | all => exact absurd rfl hs

end Registry

end LiveLink
