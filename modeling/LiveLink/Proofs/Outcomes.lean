/-!
# What came before a result

A reader that may fail is put together from others. When it has come to a result, so have they.
-/

namespace LiveLink.Proofs

variable {ε α β : Type}

/-- Of two readers in a row, both have come to an end. -/
theorem ok_of_bind {r : Except ε α} {f : α → Except ε β} {b : β}
    (h : (r >>= f) = .ok b) : ∃ a, r = .ok a ∧ f a = .ok b := by
  cases r with
  | error e => cases h
  | ok a => exact ⟨a, rfl, h⟩

/-- A result that was changed was there before. -/
theorem ok_of_map {r : Except ε α} {f : α → β} {b : β} (h : r.map f = .ok b) :
    ∃ a, r = .ok a ∧ f a = b := by
  cases r with
  | error e => cases h
  | ok a => exact ⟨a, rfl, Except.ok.inj h⟩

/-- What goes well does so however errors are worded. -/
theorem ok_of_mapError {ε' : Type} {r : Except ε α} {f : ε → ε'} {a : α}
    (h : r.mapError f = .ok a) : r = .ok a := by
  cases r with
  | error e => cases h
  | ok b => exact congrArg Except.ok (Except.ok.inj h)

/-- Nothing comes of what begins with an error. -/
theorem throw_ne_ok {e : ε} {f : α → Except ε β} {b : β} :
    (throw e : Except ε α) >>= f ≠ .ok b := by
  simp [throw, throwThe, MonadExceptOf.throw, bind, Except.bind]

end LiveLink.Proofs
