import RoadSpeed.Limit
import RoadSpeed.Proofs.Number.Sign

/-!
# Posted limits in km/h

A posted value is finite and above zero. Metric values stay as they are. An imperial value is
scaled and rounded to a whole number (specification, §4.4), which is not below zero; only a
value so large that scaling it overflows has no nearest whole number.

- `PostedLimit.Overflows`: the limit in a direction is imperial and overflows.
- `kmph_eq_error_iff`: the conversion fails there and nowhere else.
- `kmph_not_lt_zero`: a limit in km/h is not below zero.
-/

namespace RoadSpeed

open Double

/-! ## Whole numbers near doubles -/

/-- A number with a plus sign is infinite or has a natural number nearest to it. -/
theorem toWhole_of_signed {x : Float} (h : Signed .positive (form x)) :
    (x.isInf = true ∧ toWhole x = .error .infinite) ∨
      (x.isInf = false ∧ ∃ n : Nat, toWhole x = .ok n) := by
  have hinf : x.isInf = (form x).isInf := rfl
  rw [hinf]
  unfold toWhole
  rw [ofFloat_eq_exact]
  generalize form x = u at h
  cases h with
  | zero => exact .inr ⟨rfl, 0, rfl⟩
  | infinity => exact .inl ⟨rfl, rfl⟩
  | finite m e h => exact .inr ⟨rfl, wholeMagnitude m e, rfl⟩

/-! ## Imperial values -/

/-- An imperial value is still above zero or infinite when it is scaled, or too small
for a double. -/
theorem scaled_signed (v : PostedValue) : Signed .positive (form (v.value * Units.kmphPerMph)) := by
  have hvalue := (zero_lt_iff _).mp v.pos
  have hfactor := (zero_lt_iff Units.kmphPerMph).mp (by decide)
  rw [form_mul]
  refine Signed.unpack_pack (Signed.mul ?_ ?_ hfactor)
  · rcases hvalue with h | ⟨m, e, hm, h⟩
    · exact h ▸ .infinity
    · exact h ▸ .finite m e hm
  · intro s h
    rcases hvalue with h' | ⟨m, e, hm, h'⟩ <;> rw [h] at h' <;> cases h'

/-- An imperial value has a value in km/h unless scaling it overflows. -/
theorem toKmph_imperial (v : PostedValue) :
    ((v.value * Units.kmphPerMph).isInf = true ∧
        Units.imperial.toKmph v.value = .error .infinite) ∨
      ((v.value * Units.kmphPerMph).isInf = false ∧
        ∃ n : Nat, Units.imperial.toKmph v.value = .ok (Float.ofInt n)) := by
  unfold Units.toKmph
  dsimp only
  rcases toWhole_of_signed (scaled_signed v) with ⟨hinf, h⟩ | ⟨hinf, n, h⟩
  · exact .inl ⟨hinf, by rw [h]; rfl⟩
  · exact .inr ⟨hinf, n, by rw [h]; rfl⟩

/-! ## Limits -/

/-- A posted value stands for the number that it was made of. -/
theorem PostedValue.of?_eq_some_iff {x : Float} {v : PostedValue} :
    of? x = some v ↔ v.value = x := by
  constructor
  · intro h
    unfold of? at h
    split at h
    · cases h
      rfl
    · cases h
  · rintro rfl
    exact of?_value v

namespace PostedLimit

/-- The limit in a direction is imperial and so large that scaling it overflows. -/
def Overflows (p : PostedLimit) (forward : Bool) : Prop :=
  p.units = .imperial ∧
    ∃ v, p.inUnits forward = some v ∧ (v.value * Units.kmphPerMph).isInf = true

/-- The conversion fails where the limit overflows and nowhere else. -/
theorem kmph_eq_error_iff (p : PostedLimit) (forward : Bool) (e : WholeError) :
    p.kmph forward = .error e ↔ e = .infinite ∧ p.Overflows forward := by
  unfold kmph Overflows
  cases hv : p.inUnits forward with
  | none => simp
  | some v =>
    -- metric values are taken as they are; imperial ones fail exactly if the product overflows
    cases hu : p.units with
    | metric => simp [Except.map]
    | imperial =>
      rcases toKmph_imperial v with ⟨hinf, h⟩ | ⟨hinf, n, h⟩
      · dsimp only
        rw [h]
        constructor
        · intro he
          cases he
          exact ⟨rfl, rfl, v, rfl, hinf⟩
        · rintro ⟨rfl, -⟩
          rfl
      · dsimp only
        rw [h]
        constructor
        · intro he
          cases he
        · rintro ⟨-, -, w, hw, hinf'⟩
          rw [← Option.some.inj hw, hinf] at hinf'
          cases hinf'

/-- A limit in km/h is not below zero. -/
theorem kmph_not_lt_zero {p : PostedLimit} {forward : Bool} {limit : Float}
    (h : p.kmph forward = .ok (some limit)) : ¬ limit < 0 := by
  unfold kmph at h
  cases hv : p.inUnits forward with
  | none => simp [hv] at h
  | some v =>
    rw [hv] at h
    cases hu : p.units with
    | metric =>
      simp only [hu, Units.toKmph_metric, Except.map, Except.ok.injEq, Option.some.injEq] at h
      exact h ▸ not_lt_of_le ((Order.le_iff _ _).mpr (.inl ((Order.lt_iff _ _).mp v.pos)))
    | imperial =>
      rcases toKmph_imperial v with ⟨-, h'⟩ | ⟨-, n, h'⟩
      · simp [hu, h', Except.map] at h
      · simp only [hu, h', Except.map, Except.ok.injEq, Option.some.injEq] at h
        exact h ▸ ofInt_not_lt_zero (Int.natCast_nonneg n)

end PostedLimit

end RoadSpeed
