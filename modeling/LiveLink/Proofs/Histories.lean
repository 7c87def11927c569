import LiveLink.Client.Event
import Mathlib.Data.List.Basic

/-!
# What a history tells

A history has the last event first. What the theorems say of it is read off in
two ways: `inOrder` picks events of one kind and puts them in the order in which
they happened, and `standing` follows the registrations at one place, so that the
handlers that stand at any moment can be told from what has happened before.
-/

namespace LiveLink.Proofs

open LiveLink

/-- What a look at single events finds in a history, in the order it happened. -/
def inOrder {β : Type} (f : Event → Option β) (history : List Event) : List β :=
  (history.filterMap f).reverse

section InOrder

variable {β : Type} {f : Event → Option β}

@[simp] theorem inOrder_nil (f : Event → Option β) : inOrder f [] = [] := rfl

/-- The last event of a history is the last that is found. -/
@[simp] theorem inOrder_cons (f : Event → Option β) (e : Event) (history : List Event) :
    inOrder f (e :: history) = inOrder f history ++ (f e).toList := by
  unfold inOrder
  cases h : f e with
  | none => rw [List.filterMap_cons_none h]; simp
  | some b => rw [List.filterMap_cons_some h]; simp

theorem inOrder_of_none {e : Event} (h : f e = none) (history : List Event) :
    inOrder f (e :: history) = inOrder f history := by
  rw [inOrder_cons, h]
  simp

theorem inOrder_of_some {e : Event} {b : β} (h : f e = some b) (history : List Event) :
    inOrder f (e :: history) = inOrder f history ++ [b] := by
  rw [inOrder_cons, h]
  rfl

/-- An event is found wherever it stands. -/
theorem mem_inOrder {b : β} {history : List Event} :
    b ∈ inOrder f history ↔ ∃ e ∈ history, f e = some b := by
  unfold inOrder
  rw [List.mem_reverse, List.mem_filterMap]

/-- Whatever an earlier history holds is still there later. -/
theorem inOrder_append (f : Event → Option β) (later earlier : List Event) :
    inOrder f (later ++ earlier) = inOrder f earlier ++ inOrder f later := by
  unfold inOrder
  rw [List.filterMap_append, List.reverse_append]

end InOrder

/-- Who is registered at a place after a history, in the order of registration. -/
@[simp] def standing (p : Place) : List Event → List Nat
  | [] => []
  | .subscribed q id :: earlier =>
    if q = p then standing p earlier ++ [id] else standing p earlier
  | .unsubscribed q id :: earlier =>
    if q = p then (standing p earlier).filter (· ≠ id) else standing p earlier
  | _ :: earlier => standing p earlier

section Standing

variable {p q : Place} {id : Nat} {earlier : List Event}

/-- A new handler comes last at its place. -/
theorem standing_subscribed (p : Place) (id : Nat) (earlier : List Event) :
    standing p (.subscribed p id :: earlier) = standing p earlier ++ [id] := if_pos rfl

theorem standing_subscribed_ne (h : q ≠ p) :
    standing p (.subscribed q id :: earlier) = standing p earlier := if_neg h

/-- A handler leaves the others in their order. -/
theorem standing_unsubscribed (p : Place) (id : Nat) (earlier : List Event) :
    standing p (.unsubscribed p id :: earlier) = (standing p earlier).filter (· ≠ id) :=
  if_pos rfl

theorem standing_unsubscribed_ne (h : q ≠ p) :
    standing p (.unsubscribed q id :: earlier) = standing p earlier := if_neg h

/-- Whoever is registered and is not withdrawn stays so. -/
theorem standing_append {later : List Event} (hid : id ∈ standing p earlier)
    (hkept : .unsubscribed p id ∉ later) : id ∈ standing p (later ++ earlier) := by
  induction later with
  | nil => exact hid
  | cons e rest ih =>
      have ih := ih fun h => hkept (List.mem_cons_of_mem _ h)
      -- only events at this place matter, and among them not the withdrawal of this handler
      cases e with
      | subscribed q i =>
          by_cases hq : q = p
          · subst hq
            rw [List.cons_append, standing_subscribed]
            exact List.mem_append_left _ ih
          · rw [List.cons_append, standing_subscribed_ne hq]
            exact ih
      | unsubscribed q i =>
          by_cases hq : q = p
          · subst hq
            rw [List.cons_append, standing_unsubscribed]
            refine List.mem_filter.mpr ⟨ih, ?_⟩
            simp only [ne_eq, decide_eq_true_eq]
            rintro rfl
            exact hkept List.mem_cons_self
          · rw [List.cons_append, standing_unsubscribed_ne hq]
            exact ih
      | _ => exact ih

end Standing

end LiveLink.Proofs
