import LiveLink.Exchange.Settle

/-!
# Running to the end is a run

Every result about the client speaks of a list of actions. The program itself is
not driven action by action: a command is carried out until no code is left, and
a client is let go on with its server until both are at rest. What these loops do
is a list of actions each time, so the results hold of the worlds they lead to.
Each is bounded, and handlers may call each other without end, so that nothing is
left to do at the bound is not said.
-/

namespace LiveLink

namespace World

theorem actAll_append (w : World) (first second : List Action) :
    w.actAll (first ++ second) = (w.actAll first).bind fun w => w.actAll second := by
  induction first generalizing w with
  | nil => rfl
  | cons a rest ih =>
    simp only [List.cons_append, World.actAll, ih, Option.bind_assoc]

/-- Some list of actions leads from one world to the other. -/
def Reaches (w w' : World) : Prop := ∃ as, w.actAll as = some w'

namespace Reaches

theorem refl (w : World) : w.Reaches w := ⟨[], rfl⟩

theorem step {w u w' : World} {a : Action} (h : w.act a = some u) (hr : u.Reaches w') :
    w.Reaches w' := by
  obtain ⟨as, has⟩ := hr
  exact ⟨a :: as, by rw [World.actAll, h]; exact has⟩

theorem single {w w' : World} {a : Action} (h : w.act a = some w') : w.Reaches w' :=
  .step h (.refl w')

theorem trans {u v w : World} (h : u.Reaches v) (h' : v.Reaches w) : u.Reaches w := by
  obtain ⟨first, h⟩ := h
  obtain ⟨second, h'⟩ := h'
  exact ⟨first ++ second, by rw [actAll_append, h]; exact h'⟩

end Reaches

/-! ## A client by itself -/

/-- Letting the code go on takes steps of it and nothing else, and where it took fewer than it may,
no code is left. -/
theorem runStack_steps (n : Nat) (w : World) :
    ∃ k ≤ n, w.actAll (List.replicate k .go) = some (runStack n w) ∧
      (k < n → (runStack n w).go = none) := by
  induction n generalizing w with
  | zero => exact ⟨0, Nat.le_refl 0, rfl, fun h => absurd h (Nat.lt_irrefl 0)⟩
  | succ n ih =>
    cases hgo : w.go with
    | none =>
      have hw : runStack (n + 1) w = w := by simp only [runStack, hgo]
      rw [hw]
      exact ⟨0, Nat.zero_le _, rfl, fun _ => hgo⟩
    | some v =>
      have hw : runStack (n + 1) w = runStack n v := by simp only [runStack, hgo]
      obtain ⟨k, hk, hrun, hrest⟩ := ih v
      -- one step more, and as many to spare as before
      have hact : w.act .go = some v := hgo
      rw [hw]
      refine ⟨k + 1, by omega, ?_, fun h => hrest (by omega)⟩
      rw [List.replicate_succ, World.actAll, hact]
      exact hrun

/-- Carrying a command out is the command and then steps of the code. While other code runs it is
nothing at all. -/
theorem run_steps (w : World) (c : Command) :
    (w.stack = [] ∧ ∃ k, w.actAll (.command c :: List.replicate k .go) = some (w.run c)) ∨
      (w.stack ≠ [] ∧ w.run c = w) := by
  -- from outside, a command is taken only when no code runs
  by_cases hs : w.stack = []
  · have hact : w.act (.command c) = some ({ w with reply := none }.perform c) := by
      simp [World.act, hs]
    obtain ⟨k, -, hk, -⟩ := runStack_steps patience ({ w with reply := none }.perform c)
    refine .inl ⟨hs, k, ?_⟩
    rw [World.actAll, hact, World.run, hact]
    exact hk
  · have hact : w.act (.command c) = none := by simp [World.act, hs]
    exact .inr ⟨hs, by rw [World.run, hact]⟩

theorem run_reaches (w : World) (c : Command) : w.Reaches (w.run c) := by
  rcases run_steps w c with ⟨-, k, hk⟩ | ⟨-, hw⟩
  · exact ⟨_, hk⟩
  · rw [hw]
    exact .refl w

end World

/-! ## A client and its server -/

namespace Exchange

variable {x y : Exchange}

theorem move_act {a : Action} {s : Server} (h : x.move a s = some y) :
    x.world.act a = some y.world := by
  obtain ⟨w, hw, rfl⟩ := Option.map_eq_some_iff.mp h
  exact hw

theorem move_reaches {a : Action} {s : Server} (h : x.move a s = some y) :
    x.world.Reaches y.world :=
  .single (move_act h)

/-- A request is answered by one action, or rings at the server with the client as it is. -/
theorem answer_reaches {id : Nat} {url : Url} (h : x.answer id url = some y) :
    x.world.Reaches y.world := by
  unfold answer at h
  split at h
  · exact move_reaches h
  · split at h
    · obtain rfl := Option.some.inj h
      exact .refl _
    · split at h
      · exact move_reaches h
      · exact move_reaches h
      · exact absurd h (by simp)

/-- A session that can write writes, and only one that cannot reads. -/
theorem converse_reaches {id socket : Nat} (h : x.converse id socket = some y) :
    x.world.Reaches y.world := by
  unfold converse at h
  split at h
  · exact absurd h (by simp)
  · dsimp only at h
    split at h
    · -- what the server has seen does not matter to the client
      rename_i hwrite
      obtain rfl := Option.some.inj h
      exact move_reaches hwrite
    · split at h
      · exact absurd h (by simp)
      · exact move_reaches h

theorem moveSupervisor_reaches {id : Nat} {s : Supervisor} (h : x.moveSupervisor id s = some y) :
    x.world.Reaches y.world := by
  unfold moveSupervisor at h
  split at h
  · exact move_reaches h
  · split at h
    · exact answer_reaches h
    · exact converse_reaches h
    · exact move_reaches h
    · exact move_reaches h

theorem next_reaches (h : x.next = some y) : x.world.Reaches y.world := by
  unfold next at h
  split at h
  · rename_i hgo
    obtain rfl := Option.some.inj h
    exact move_reaches hgo
  · obtain ⟨s, -, hs⟩ := List.exists_of_findSome?_eq_some h
    exact moveSupervisor_reaches hs

/-- A supervisor moves only while no code runs: `go` comes first as long as it is possible. -/
theorem next_of_go {w : World} (h : x.world.go = some w) : x.next = some ⟨w, x.server⟩ := by
  have hmove : x.move .go x.server = some ⟨w, x.server⟩ := by simp [move, World.act, h]
  rw [next, hmove]

theorem settleWithin_reaches (n : Nat) (x : Exchange) :
    x.world.Reaches (settleWithin n x).world := by
  induction n generalizing x with
  | zero => exact .refl _
  | succ n ih =>
    cases hnext : x.next with
    | none =>
      have hx : settleWithin (n + 1) x = x := by simp only [settleWithin, hnext]
      rw [hx]
      exact .refl _
    | some y =>
      have hx : settleWithin (n + 1) x = settleWithin n y := by simp only [settleWithin, hnext]
      rw [hx]
      exact (next_reaches hnext).trans (ih y)

/-- Letting both sides go on until they are at rest is a run of the client. -/
theorem settle_reaches (x : Exchange) : x.world.Reaches x.settle.world :=
  settleWithin_reaches World.patience x

/-- So is asking for something, -/
theorem run_reaches (x : Exchange) (c : Command) : x.world.Reaches (x.run c).world :=
  World.run_reaches x.world c

/-- and so is letting time pass. -/
theorem pass_reaches (x : Exchange) (d : Span) : x.world.Reaches (x.pass d).world := by
  unfold pass
  split
  · rename_i h
    exact .single h
  · exact .refl _

end Exchange

end LiveLink
