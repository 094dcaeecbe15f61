import RoadSpeed.Number

/-!
# Speeds and factors

A speed has two components in km/h: `weight` is what path search goes by, `eta`
is what travel times are told from. A factor adjusts both. Speeds and factors
come in pairs, one inside and one outside a city.

- `Speed`, `Factor`: no component of a speed is negative, none of a factor is
  negative or zero. A component that is no number breaks neither rule.
- `Speed.literal`, `Factor.literal`: speeds and factors written out in full.
- `Speed.scale`, `Factor.compose`, `Speed.clamp`: the operations; each checks
  the rule again on its result.
- `ByArea`: a value inside and a value outside a city.
-/

namespace RoadSpeed

/-- Why two numbers are no speed or no factor. -/
inductive ComponentError where
  | negativeSpeed
  | nonPositiveFactor
deriving DecidableEq, Repr

namespace ComponentError

/-- The message that states the broken rule. -/
def message : ComponentError → String
  | .negativeSpeed => "SpeedKMpH components must be non-negative"
  | .nonPositiveFactor => "SpeedFactor components must be positive"

end ComponentError

/-- A speed in km/h (specification, §3, `SpeedKMpH`). -/
@[ext] structure Speed where
  /-- What path search goes by. -/
  weight : Float
  /-- What travel times are told from. -/
  eta : Float
  /-- No component is below zero (specification, §3). -/
  nonneg : ¬ weight < 0 ∧ ¬ eta < 0 := by decide

/-- An adjustment of a speed (specification, §3, `SpeedFactor`). -/
@[ext] structure Factor where
  /-- Adjusts what path search goes by. -/
  weight : Float
  /-- Adjusts what travel times are told from. -/
  eta : Float
  /-- No component is at or below zero (specification, §3). -/
  pos : ¬ weight ≤ 0 ∧ ¬ eta ≤ 0 := by decide

namespace Factor

/-- The factor with these components, if they are positive. -/
def of (weight eta : Float) : Except ComponentError Factor :=
  if h : weight ≤ 0 ∨ eta ≤ 0 then .error .nonPositiveFactor
  else .ok ⟨weight, eta, not_or.mp h⟩

/-- The factor with the same value for both components. -/
def uniform (value : Float) : Except ComponentError Factor := of value value

/-- A factor written out in full: that its components are positive is found by evaluation. -/
def literal (weight eta : Float)
    (h : decide (¬ weight ≤ 0 ∧ ¬ eta ≤ 0) = true := by exact (Eq.refl true : true = true)) :
    Factor :=
  ⟨weight, eta, of_decide_eq_true h⟩

/-- The factor that changes nothing. -/
def identity : Factor := .literal 1.0 1.0

/-- Whether the factor changes nothing. -/
def isIdentity (f : Factor) : Bool := f.weight == 1.0 && f.eta == 1.0

/-- One factor after another. -/
def compose (f g : Factor) : Except ComponentError Factor :=
  of (f.weight * g.weight) (f.eta * g.eta)

theorem of_eq_ok_iff {weight eta : Float} {f : Factor} :
    of weight eta = .ok f ↔ f.weight = weight ∧ f.eta = eta := by
  constructor
  · intro h
    rw [of] at h
    split at h
    · cases h
    · cases h
      exact ⟨rfl, rfl⟩
  · rintro ⟨rfl, rfl⟩
    rw [of, dif_neg (not_or.mpr f.pos)]

end Factor

namespace Speed

/-- The speed with these components, if they are not negative. -/
def of (weight eta : Float) : Except ComponentError Speed :=
  if h : weight < 0 ∨ eta < 0 then .error .negativeSpeed
  else .ok ⟨weight, eta, not_or.mp h⟩

/-- The speed with the same value for both components. -/
def uniform (value : Float) : Except ComponentError Speed := of value value

/-- A speed written out in full: that its components are not negative is found by evaluation. -/
def literal (weight eta : Float)
    (h : decide (¬ weight < 0 ∧ ¬ eta < 0) = true := by exact (Eq.refl true : true = true)) :
    Speed :=
  ⟨weight, eta, of_decide_eq_true h⟩

/-- Whether both components are above zero. -/
def isPositive (s : Speed) : Bool := 0 < s.weight && 0 < s.eta

/-- Each component cut down to the limit. -/
def clamp (s : Speed) (limit : Float) : Except ComponentError Speed :=
  of (lesser s.weight limit) (lesser s.eta limit)

/-- The speed adjusted by a factor. -/
def scale (s : Speed) (f : Factor) : Except ComponentError Speed :=
  of (s.weight * f.weight) (s.eta * f.eta)

theorem of_eq_ok_iff {weight eta : Float} {s : Speed} :
    of weight eta = .ok s ↔ s.weight = weight ∧ s.eta = eta := by
  constructor
  · intro h
    rw [of] at h
    split at h
    · cases h
    · cases h
      exact ⟨rfl, rfl⟩
  · rintro ⟨rfl, rfl⟩
    rw [of, dif_neg (not_or.mpr s.nonneg)]

end Speed

/-- A value inside and a value outside a city: of speeds `InOutCitySpeedKMpH`, of factors
`InOutCityFactor` (specification, §3). -/
@[ext] structure ByArea (α : Type) where
  inCity : α
  outCity : α
deriving DecidableEq, Repr

namespace ByArea

variable {α β : Type}

/-- The same value on both sides. -/
def same (a : α) : ByArea α := ⟨a, a⟩

/-- The value on one side. -/
def get (p : ByArea α) (inCity : Bool) : α := if inCity then p.inCity else p.outCity

/-- Both values changed in the same way. -/
def map (f : α → β) (p : ByArea α) : ByArea β := ⟨f p.inCity, f p.outCity⟩

/-- Whether both speeds are positive. -/
def isPositive (p : ByArea Speed) : Bool := p.inCity.isPositive && p.outCity.isPositive

/-- The larger one of the two weights. -/
def maxWeight (p : ByArea Speed) : Float := greater p.inCity.weight p.outCity.weight

end ByArea

end RoadSpeed
