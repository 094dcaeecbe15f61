import RoadSpeed.Proofs.Model.Bound
import RoadSpeed.Proofs.Number.Product

/-!
# Speeds that are numbers

The rule of speeds (specification, §4.2, step 5) lets pass a component that is no number. Where
all factors are finite no such component comes up, even if a product overflows or underflows:
each component that a model resolves to is a number at or above zero, infinity included.

- `Speed.Proper`, `Model.Finite`: speeds that are numbers, and models with finite factors.
- `Model.zero_le_adjusted`: one component under a limit.
- `Model.Finite.exists_components`: what the speeds of a road have in common.
- `Model.Finite.proper`: what a model with finite factors resolves to.
- `Model.resolveSpeed_proper`: what a model of finite numbers resolves to, and that it does.
- `Model.finite_create`: the models of the classes have finite factors.
-/

namespace RoadSpeed

/-- Both components are numbers at or above zero. -/
def Speed.Proper (s : Speed) : Prop := 0 ≤ s.weight ∧ 0 ≤ s.eta

/-- Both components are finite. -/
def Factor.IsFinite (f : Factor) : Prop := f.weight.isFinite = true ∧ f.eta.isFinite = true

/-- Both components are finite. -/
def Speed.IsFinite (s : Speed) : Prop := s.weight.isFinite = true ∧ s.eta.isFinite = true

instance (f : Factor) : Decidable f.IsFinite := inferInstanceAs (Decidable (_ ∧ _))

instance (s : Speed) : Decidable s.IsFinite := inferInstanceAs (Decidable (_ ∧ _))

theorem Factor.IsFinite.weight {f : Factor} (h : f.IsFinite) :
    f.weight.isFinite = true ∧ ¬ f.weight ≤ 0 := ⟨h.1, f.pos.1⟩

theorem Factor.IsFinite.eta {f : Factor} (h : f.IsFinite) :
    f.eta.isFinite = true ∧ ¬ f.eta ≤ 0 := ⟨h.2, f.pos.2⟩

/-- Of a finite speed no component is below zero, so that each is at or above it. -/
theorem Speed.IsFinite.proper {s : Speed} (h : s.IsFinite) : s.Proper :=
  ⟨Order.zero_le_of_isFinite h.1 s.nonneg.1, Order.zero_le_of_isFinite h.2 s.nonneg.2⟩

theorem Speed.Proper.isNaN_eq_false {s : Speed} (h : s.Proper) :
    s.weight.isNaN = false ∧ s.eta.isNaN = false :=
  ⟨Order.isNaN_of_zero_le h.1, Order.isNaN_of_zero_le h.2⟩

/-! ## One component -/

theorem zero_le_lesser {a b : Float} (ha : 0 ≤ a) (hb : 0 ≤ b) : 0 ≤ lesser a b := by
  unfold lesser
  split
  · exact hb
  · exact ha

namespace Model

variable {m : Model} {t : Classification} {tags : List TagId} {trip : Trip}

/-- A base and a limit that are numbers make a component that is one, by finite factors. -/
theorem zero_le_adjusted (mode : LimitMode) {limit : Option Float} {base factor surface : Float}
    (hlimit : ∀ l, limit = some l → 0 ≤ l) (hbase : 0 ≤ base)
    (hfactor : factor.isFinite = true ∧ ¬ factor ≤ 0)
    (hsurface : surface.isFinite = true ∧ ¬ surface ≤ 0) :
    0 ≤ adjusted mode limit base factor surface := by
  have hscaled {x : Float} (hx : 0 ≤ x) : 0 ≤ x * factor * surface :=
    Double.zero_le_mul_of_isFinite (Double.zero_le_mul_of_isFinite hx hfactor.1 hfactor.2)
      hsurface.1 hsurface.2
  cases limit with
  | none => exact hscaled hbase
  | some l => cases mode with
    | clamp => exact zero_le_lesser (hscaled hbase) (hlimit l rfl)
    | replaceBase => exact hscaled (hlimit l rfl)

/-! ## Models with finite factors -/

/-- The factors that a model can apply are finite, and its speed off the roads is a number. -/
structure Finite (m : Model) : Prop where
  factor : ∀ rule ∈ m.rules, ∀ factors inCity,
    m.tables.factors.get? rule.category = some factors → (factors.get inCity).IsFinite
  surface : ∀ r ∈ m.surfaces, r.factor.IsFinite
  offroad : m.offroad.Proper

/-- The factor of tags is finite, whether it is that of a surface or not. -/
theorem Finite.surfaceFactor (h : m.Finite) (t : Classification) (tags : List TagId) :
    (m.surfaceFactor t tags).IsFinite := by
  rcases m.surfaceFactor_cases t tags with hplain | ⟨path, hpath⟩
  · rw [hplain]
    exact ⟨rfl, rfl⟩
  · obtain ⟨r, hr, hfactor⟩ := mem_surfaces_of_surfaceAt? hpath
    exact hfactor ▸ h.surface r hr

/-- The speeds of a road, inside or outside a city, come from one base and the same factors,
whichever limit is in force. -/
theorem Finite.exists_components (h : m.Finite) {rule : AccessRule}
    (hrule : m.resolveRule t tags = some rule) (inCity : Bool) :
    ∃ base : Speed, ∃ factor surface : Factor,
      base.Proper ∧ factor.IsFinite ∧ surface.IsFinite ∧
      ∀ forward posted limit, m.InForce ⟨forward, inCity, posted⟩ limit →
        ∃ s, m.resolveSpeed t tags ⟨forward, inCity, posted⟩ = .ok s ∧
          s.weight = adjusted m.mode limit base.weight factor.weight surface.weight ∧
          s.eta = adjusted m.mode limit base.eta factor.eta surface.eta := by
  have hmem := mem_rules_of_resolveRule hrule
  obtain ⟨base, factor, hbase, hfactor⟩ := m.exists_entries hmem
  have hpos := base_pos hmem hbase inCity
  refine ⟨base.get inCity, factor.get inCity, m.surfaceFactor t tags,
    ⟨Order.le_of_lt hpos.1, Order.le_of_lt hpos.2⟩, h.factor rule hmem factor inCity hfactor,
    h.surfaceFactor t tags, ?_⟩
  intro forward posted limit hlimit
  exact resolveSpeed_eq_ok hrule hlimit hbase hfactor

/-- What a model with finite factors resolves to is a number in both components. -/
theorem Finite.proper (h : m.Finite) {s : Speed} (hs : m.resolveSpeed t tags trip = .ok s) :
    s.Proper := by
  cases hrule : m.resolveRule t tags with
  | none =>
    rw [resolveSpeed_offroad hrule] at hs
    cases hs
    exact h.offroad
  | some rule =>
    obtain ⟨limit, hlimit⟩ := exists_inForce hrule hs
    obtain ⟨base, factor, surface, hbase, hfactor, hsurface, hspeed⟩ :=
      h.exists_components hrule trip.inCity
    obtain ⟨s', hs', hweight, heta⟩ := hspeed trip.forward trip.posted limit hlimit
    obtain rfl : s' = s := Except.ok.inj (hs'.symm.trans hs)
    -- a limit in force is a number that is not below zero, also where it is infinite
    have hnum : ∀ l, limit = some l → 0 ≤ l := by
      rintro l rfl
      exact hlimit.zero_le
    constructor
    · rw [hweight]
      exact zero_le_adjusted m.mode hnum hbase.1 hfactor.weight hsurface.weight
    · rw [heta]
      exact zero_le_adjusted m.mode hnum hbase.2 hfactor.eta hsurface.eta

/-! ## Models of finite numbers -/

/-- All numbers that a model is made of are finite. -/
structure AllFinite (m : Model) : Prop where
  speed : ∀ e ∈ m.tables.speeds.toList, ∀ inCity, (e.2.get inCity).IsFinite
  factor : ∀ e ∈ m.tables.factors.toList, ∀ inCity, (e.2.get inCity).IsFinite
  surface : ∀ r ∈ m.surfaces, r.factor.IsFinite
  offroad : m.offroad.IsFinite

theorem AllFinite.finite (h : m.AllFinite) : m.Finite where
  factor _ _ _ inCity hfactor := h.factor _ (Table.mem_toList_iff.mpr hfactor) inCity
  surface := h.surface
  offroad := h.offroad.proper

/-- No speed on the way to the result breaks the rule of speeds. -/
theorem resolveSpeed_ne_component (m : Model) (t : Classification) (tags : List TagId)
    (trip : Trip) (cause : ComponentError) :
    m.resolveSpeed t tags trip ≠ .error (.component cause) := by
  intro h
  obtain ⟨hcause, -⟩ := resolveSpeed_eq_error_iff.mp h
  cases hcause

/-- Where the limit that binds has a value in km/h there is a speed. -/
theorem exists_resolveSpeed {limit : Option Float} (h : m.limitInForce trip = .ok limit)
    (t : Classification) (tags : List TagId) : ∃ s, m.resolveSpeed t tags trip = .ok s := by
  cases hs : m.resolveSpeed t tags trip with
  | ok s => exact ⟨s, rfl⟩
  | error e =>
    obtain ⟨rfl, hbound, -, hover⟩ := resolveSpeed_eq_error_iff.mp hs
    rw [limitInForce_eq_error_iff.mpr ⟨rfl, hbound, hover⟩] at h
    cases h

/-- In a model of finite numbers no speed on the way breaks the rule of speeds, and where the
limit that binds has a value in km/h the result is a speed whose components are numbers at or
above zero, whatever overflows or underflows. -/
theorem resolveSpeed_proper (hm : m.AllFinite) (t : Classification) (tags : List TagId)
    (trip : Trip) :
    (∀ cause, m.resolveSpeed t tags trip ≠ .error (.component cause)) ∧
      ∀ limit, m.limitInForce trip = .ok limit →
        ∃ s, m.resolveSpeed t tags trip = .ok s ∧ s.Proper ∧
          s.weight.isNaN = false ∧ s.eta.isNaN = false := by
  refine ⟨m.resolveSpeed_ne_component t tags trip, ?_⟩
  intro limit hlimit
  obtain ⟨s, hs⟩ := exists_resolveSpeed hlimit t tags
  have hproper := hm.finite.proper hs
  exact ⟨s, hs, hproper, hproper.isNaN_eq_false⟩

/-- A model of one category, whose weight overflows and whose eta underflows on gravel. -/
def extreme : Model where
  rules := allowed [.primary]
  tables.speeds := .ofList [(.primary, .same (.literal 1e300 1e-300 (by decide +kernel)))]
  tables.factors := .ofList [(.primary, .same (.literal 1e300 1e-300 (by decide +kernel)))]
  surfaces := [.named "psurface-gravel" (.literal 1e-300 1e300 (by decide +kernel))]
  traits := Vehicle.car.defaults.traits
  mode := .replaceBase
  sound := by decide +kernel

/-- A taxonomy of primary roads and gravel. -/
def gravelTaxonomy : Taxonomy :=
  (Taxonomy.empty.see Category.primary.place).see (TagPath.ofName "psurface-gravel")

/-- On gravel the weight is infinite, for all that the surface scales it down, and the eta is
zero, for all that it scales it up. -/
theorem resolveSpeed_proper_extreme : extreme.AllFinite ∧
    ∃ s, extreme.resolveSpeed gravelTaxonomy.classification [1, 2] default = .ok s ∧ s.Proper ∧
      s.weight.isInf = true ∧ (s.eta == 0) = true := by
  have hfinite : extreme.AllFinite := by
    refine ⟨?_, ?_, ?_, ?_⟩ <;> decide +kernel
  have hvalue : ((extreme.resolveSpeed gravelTaxonomy.classification [1, 2] default).map
      fun s => (s.weight.isInf, s.eta == 0)) = .ok (true, true) := by decide +kernel
  obtain ⟨-, hresolved⟩ := resolveSpeed_proper hfinite gravelTaxonomy.classification [1, 2] default
  obtain ⟨s, hs, hproper, -⟩ := hresolved none rfl
  rw [hs] at hvalue
  obtain ⟨hinf, hzero⟩ := Prod.mk.inj (Except.ok.inj hvalue)
  exact ⟨hfinite, s, hs, hproper, hinf, hzero⟩

end Model

/-! ## The models of the classes -/

/-- The factors that a class comes with are finite, and its speed off the roads is a
number. -/
theorem Vehicle.finite_defaults (v : Vehicle) :
    (∀ e ∈ v.defaults.tables.factors.toList, ∀ inCity, (e.2.get inCity).IsFinite) ∧
      (∀ r ∈ v.defaults.surfaces, r.factor.IsFinite) ∧ v.defaults.traits.offroad.Proper := by
  unfold Factor.IsFinite Speed.Proper
  cases v <;> decide +kernel

/-- Without a profile the models of the classes have finite factors. -/
theorem Model.finite_create {vehicle : Vehicle} {country : String} {mode : LimitMode} {m : Model}
    (h : create vehicle country none mode = .ok m) : m.Finite := by
  rw [create_eq_ok] at h
  cases h
  obtain ⟨hfactors, hsurfaces, hoffroad⟩ := vehicle.finite_defaults
  refine ⟨?_, hsurfaces, hoffroad⟩
  intro rule _ factors inCity hfactor
  exact hfactors _ (Table.mem_toList_iff.mpr hfactor) inCity

end RoadSpeed
