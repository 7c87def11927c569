/-!
# Bounded lists

What the views share: lists that keep their last items, and changes to the first
item that a test finds.
-/

namespace LiveLink

/-- Puts an item behind the others and lets the first ones go that are beyond a limit. -/
def pushBounded {α : Type} (limit : Nat) (l : List α) (a : α) : List α :=
  (l ++ [a]).drop (l.length + 1 - limit)

/-- Changes the first item that passes a test. -/
def modifyFirst {α : Type} (test : α → Bool) (f : α → α) : List α → List α
  | [] => []
  | a :: l => if test a then f a :: l else a :: modifyFirst test f l

/-! ## What the views rely on -/

/-- What is let go because of an item that comes later would have been let go before it as well. -/
theorem pushBounded_drop {α : Type} (limit : Nat) (l : List α) (a : α) :
    pushBounded limit (l.drop (l.length - limit)) a
      = (l ++ [a]).drop ((l ++ [a]).length - limit) := by
  unfold pushBounded
  rw [← List.drop_append_of_le_length (Nat.sub_le l.length limit), List.drop_drop]
  congr 1
  simp only [List.length_drop, List.length_append, List.length_singleton]
  omega

/-- Where names differ, the first item of a name is the only one. -/
theorem modifyFirst_eq_map {α β : Type} [DecidableEq β] {name : α → β} (b : β) (f : α → α)
    {l : List α} (h : (l.map name).Nodup) :
    modifyFirst (fun a => decide (name a = b)) f l = l.map fun a => if name a = b then f a else a := by
  induction l with
  | nil => rfl
  | cons a rest ih =>
      obtain ⟨hnot, hrest⟩ := List.nodup_cons.mp h
      rw [modifyFirst, List.map_cons]
      by_cases ha : name a = b
      · have hsame : rest.map (fun a => if name a = b then f a else a) = rest := by
          refine (List.map_congr_left fun c hc => if_neg fun hb => hnot ?_).trans (List.map_id rest)
          exact List.mem_map.mpr ⟨c, hc, hb.trans ha.symm⟩
        rw [if_pos (decide_eq_true ha), if_pos ha, hsame]
      · rw [if_neg (by simpa using ha), if_neg ha, ih hrest]

end LiveLink
