/-!
# Steps that succeed

A computation that may fail succeeds when each of its steps does. These statements take
a success apart into those of the steps.
-/

namespace RoadSpeed

universe u v w

variable {ε : Type u}

/-- What does not succeed fails. -/
theorem exists_error_iff {α : Type v} {x : Except ε α} :
    (∃ e, x = .error e) ↔ ¬ ∃ a, x = .ok a := by
  cases x <;> simp

theorem bind_eq_ok_iff {α β : Type v} {x : Except ε α} {f : α → Except ε β} {b : β} :
    x >>= f = .ok b ↔ ∃ a, x = .ok a ∧ f a = .ok b := by
  constructor
  · intro h
    cases x with
    | error e => cases h
    | ok a => exact ⟨a, rfl, h⟩
  · rintro ⟨a, rfl, h⟩
    exact h

theorem map_eq_ok_iff {α : Type v} {β : Type w} {x : Except ε α} {f : α → β} {b : β} :
    x.map f = .ok b ↔ ∃ a, x = .ok a ∧ f a = b := by
  constructor
  · intro h
    cases x with
    | error e => cases h
    | ok a => exact ⟨a, rfl, Except.ok.inj h⟩
  · rintro ⟨a, rfl, rfl⟩
    rfl

/-- Outcomes that are changed into the same are alike: both fail in the same way, or both
succeed with values that are changed into the same. -/
theorem map_eq_map_iff {α : Type v} {β : Type w} {f : α → β} {x y : Except ε α} :
    x.map f = y.map f ↔ (∃ e, x = .error e ∧ y = .error e) ∨
      ∃ a b, x = .ok a ∧ y = .ok b ∧ f a = f b := by
  cases x <;> cases y <;> simp [Except.map, eq_comm]

/-- A list is gone through without an error if no element gives one. -/
theorem mapM_eq_ok {α : Type v} {β : Type w} {f : α → Except ε β} {g : α → β}
    (h : ∀ x, f x = .ok (g x)) (xs : List α) : xs.mapM f = .ok (xs.map g) := by
  obtain rfl : f = fun x => .ok (g x) := funext h
  exact List.mapM_pure

theorem mapError_eq_ok_iff {ε' : Type w} {α : Type v} {x : Except ε α} {f : ε → ε'} {a : α} :
    x.mapError f = .ok a ↔ x = .ok a := by
  constructor
  · intro h
    cases x with
    | error e => cases h
    | ok b => exact congrArg Except.ok (Except.ok.inj h)
  · rintro rfl
    rfl

end RoadSpeed
