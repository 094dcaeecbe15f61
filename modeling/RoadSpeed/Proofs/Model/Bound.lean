import RoadSpeed.Proofs.Model.Creation
import RoadSpeed.Proofs.Model.Totality
import RoadSpeed.Proofs.Number.Product
import RoadSpeed.Table

/-!
# The bound of path search

The greatest base weight of a model, which is the bound that path search goes by
(specification, §4.3), bounds every speed that the model resolves to, as long
as no factor is above one, the speed off the roads is within the bound, and a posted limit
only ever cuts a speed down.

- `Model.BaseWeight`, `Model.le_maxWeight`, `Model.maxWeight_mem`: the bound is the greatest
  of the base weights.
- `Model.Tame`: no factor raises a weight, and the weight off the roads is within the bound.
- `Model.Tame.adjusted_le`, `Model.Tame.weight_le`: how weights are kept within the bound.
- `Model.tame_create`: the models of the classes.
- `Model.maxWeight_bounds`: the bound of every model in which limits cut speeds down.
-/

namespace RoadSpeed

/-- Two factors up to one leave a number that is not below zero at or below itself. -/
theorem Factor.mul_mul_le_self {a : Float} {f g : Factor} (ha : 0 ≤ a) (hf : f.weight ≤ 1)
    (hg : g.weight ≤ 1) : a * f.weight * g.weight ≤ a :=
  Order.le_trans (Double.mul_le_self (Double.zero_le_mul ha f.pos.1 hf) g.pos.1 hg)
    (Double.mul_le_self ha f.pos.1 hf)

namespace Model

variable {m : Model} {t : Classification} {tags : List TagId} {trip : Trip}

/-! ## The greatest base weight -/

/-- A base weight of the model: that of a category with a rule, inside or outside a city. -/
def BaseWeight (m : Model) (w : Float) : Prop :=
  ∃ rule ∈ m.rules, ∃ speeds inCity,
    m.tables.speeds.get? rule.category = some speeds ∧ w = (speeds.get inCity).weight

/-- Base weights are above zero. -/
theorem BaseWeight.zero_lt {w : Float} (h : m.BaseWeight w) : 0 < w := by
  obtain ⟨rule, hrule, speeds, inCity, hspeeds, rfl⟩ := h
  exact (base_pos hrule hspeeds inCity).1

theorem BaseWeight.zero_le {w : Float} (h : m.BaseWeight w) : 0 ≤ w := Order.le_of_lt h.zero_lt

/-- The larger base weight of each category with a rule. -/
def topWeights (m : Model) : List Float :=
  m.rules.filterMap fun r => (m.tables.speeds.get? r.category).map ByArea.maxWeight

theorem mem_topWeights_iff {w : Float} :
    w ∈ m.topWeights ↔ ∃ rule ∈ m.rules, ∃ speeds,
      m.tables.speeds.get? rule.category = some speeds ∧ w = speeds.maxWeight := by
  simp [topWeights, eq_comm]

/-- The larger base weights are base weights. -/
theorem BaseWeight.of_mem_topWeights {w : Float} (h : w ∈ m.topWeights) : m.BaseWeight w := by
  obtain ⟨rule, hrule, speeds, hspeeds, rfl⟩ := mem_topWeights_iff.mp h
  rcases Order.greater_eq_or speeds.inCity.weight speeds.outCity.weight with hmax | hmax
  · exact ⟨rule, hrule, speeds, true, hspeeds, hmax⟩
  · exact ⟨rule, hrule, speeds, false, hspeeds, hmax⟩

/-- Each base weight has a larger one of the same category at or above it. -/
theorem BaseWeight.exists_topWeight {w : Float} (h : m.BaseWeight w) :
    ∃ top ∈ m.topWeights, w ≤ top := by
  obtain ⟨rule, hrule, speeds, inCity, hspeeds, rfl⟩ := h
  have hnum (inCity : Bool) : (speeds.get inCity).weight ≤ (speeds.get inCity).weight :=
    Order.le_right (BaseWeight.zero_le ⟨rule, hrule, speeds, inCity, hspeeds, rfl⟩)
  refine ⟨speeds.maxWeight, mem_topWeights_iff.mpr ⟨rule, hrule, speeds, hspeeds, rfl⟩, ?_⟩
  cases inCity with
  | true => exact Order.le_greater_left (hnum true)
  | false => exact Order.le_greater_right (hnum true) (hnum false)

theorem maxWeight_of_cons {w : Float} {ws : List Float} (h : m.topWeights = w :: ws) :
    m.maxWeight = ws.foldl greater w := by
  unfold topWeights at h
  rw [maxWeight, h]

theorem topWeights_ne_nil (h : m.rules ≠ []) : m.topWeights ≠ [] := by
  obtain ⟨rule, hrule⟩ := List.exists_mem_of_ne_nil _ h
  obtain ⟨speeds, -, hspeeds, -⟩ := m.exists_entries hrule
  exact List.ne_nil_of_mem (mem_topWeights_iff.mpr ⟨rule, hrule, speeds, hspeeds, rfl⟩)

/-- The bound is a base weight, unless there is no rule. -/
theorem maxWeight_mem (h : m.rules ≠ []) : m.BaseWeight m.maxWeight := by
  obtain ⟨w, ws, htop⟩ := List.exists_cons_of_ne_nil (topWeights_ne_nil h)
  rw [maxWeight_of_cons htop]
  exact .of_mem_topWeights (htop ▸ Order.foldl_greater_mem w ws)

/-- The bound is at or above each base weight. -/
theorem le_maxWeight {w : Float} (h : m.BaseWeight w) : w ≤ m.maxWeight := by
  obtain ⟨top, hmem, hle⟩ := h.exists_topWeight
  obtain ⟨x, xs, htop⟩ := List.exists_cons_of_ne_nil (List.ne_nil_of_mem hmem)
  rw [maxWeight_of_cons htop]
  refine Order.le_trans hle (Order.le_foldl_greater ?_ top (htop ▸ hmem))
  intro y hy
  exact Order.le_right (BaseWeight.of_mem_topWeights (htop ▸ hy)).zero_le

theorem maxWeight_eq_zero (h : m.rules = []) : m.maxWeight = 0 := by
  rw [maxWeight, h]
  rfl

/-! ## Speeds within the bound -/

/-- No factor of a category with a rule or of a surface raises a weight, and the weight off
the roads is within the bound. -/
structure Tame (m : Model) : Prop where
  factor : ∀ rule ∈ m.rules, ∀ factors inCity,
    m.tables.factors.get? rule.category = some factors → (factors.get inCity).weight ≤ 1
  surface : ∀ path factor, m.surfaceAt? path = some factor → factor.weight ≤ 1
  offroad : m.offroad.weight ≤ m.maxWeight

/-- The factor of tags does not raise a weight, whether it is that of a surface or not. -/
theorem Tame.surfaceFactor_le (h : m.Tame) (t : Classification) (tags : List TagId) :
    (m.surfaceFactor t tags).weight ≤ 1 := by
  rcases m.surfaceFactor_cases t tags with hplain | ⟨path, hpath⟩
  · rw [hplain]
    decide +kernel
  · exact h.surface path _ hpath

/-- A posted value in km/h is at or above zero. -/
theorem zero_le_toKmph {units : Units} {v : PostedValue} {limit : Float}
    (h : units.toKmph v.value = .ok limit) : 0 ≤ limit := by
  cases units with
  | metric =>
    rw [Units.toKmph_metric] at h
    cases h
    exact Order.le_of_lt v.pos
  | imperial =>
    rcases toKmph_imperial v with ⟨-, h'⟩ | ⟨-, n, h'⟩
    · rw [h'] at h
      cases h
    · rw [h'] at h
      cases h
      exact Double.zero_le_ofInt (Int.natCast_nonneg n)

/-- A limit in force is at or above zero. -/
theorem InForce.zero_le {limit : Float} (h : m.InForce trip (some limit)) : 0 ≤ limit := by
  cases h with
  | posted _ _ hkmph => exact zero_le_toKmph hkmph

/-- What a speed on a road can be at most: the base weight where limits cut speeds down or
none is in force, and the limit where it takes the place of the base weight. -/
theorem Tame.road_le (h : m.Tame) {rule : AccessRule} {s : Speed}
    (hrule : m.resolveRule t tags = some rule) (hs : m.resolveSpeed t tags trip = .ok s) :
    s.weight ≤ m.maxWeight ∨
      m.mode = .replaceBase ∧ ∃ limit, m.InForce trip (some limit) ∧ s.weight ≤ limit := by
  obtain ⟨limit, hlimit⟩ := exists_inForce hrule hs
  have hmem := mem_rules_of_resolveRule hrule
  obtain ⟨base, factor, hbase, hfactor⟩ := m.exists_entries hmem
  obtain ⟨s', hs', hweight, -⟩ := resolveSpeed_eq_ok (t := t) hrule hlimit hbase hfactor
  obtain rfl : s' = s := Except.ok.inj (hs'.symm.trans hs)
  have hcategory := h.factor rule hmem factor trip.inCity hfactor
  have hsurface := h.surfaceFactor_le t tags
  have hbound : m.BaseWeight (base.get trip.inCity).weight :=
    ⟨rule, hmem, base, trip.inCity, hbase, rfl⟩
  -- factors up to one only scale the base weight down, whatever is rounded
  have hscaled := Factor.mul_mul_le_self hbound.zero_le hcategory hsurface
  cases limit with
  | none =>
    rw [hweight]
    exact .inl (Order.le_trans hscaled (le_maxWeight hbound))
  | some l => cases hmode : m.mode with
    | clamp =>
      rw [hmode] at hweight
      rw [hweight]
      exact .inl (Order.le_trans (Order.lesser_le (Order.le_left hscaled))
        (Order.le_trans hscaled (le_maxWeight hbound)))
    -- here the limit takes the place of the base weight, which the bound says nothing about
    | replaceBase =>
      rw [hmode] at hweight
      refine .inr ⟨rfl, l, hlimit, ?_⟩
      rw [hweight]
      exact Factor.mul_mul_le_self hlimit.zero_le hcategory hsurface

/-- Where limits only cut speeds down, all weights are within the bound. -/
theorem Tame.weight_le (h : m.Tame) (hmode : m.mode = .clamp) {s : Speed}
    (hs : m.resolveSpeed t tags trip = .ok s) : s.weight ≤ m.maxWeight := by
  cases hrule : m.resolveRule t tags with
  | none =>
    rw [resolveSpeed_offroad hrule] at hs
    cases hs
    exact h.offroad
  | some rule =>
    rcases h.road_le hrule hs with hle | ⟨hreplace, -⟩
    · exact hle
    · rw [hmode] at hreplace
      cases hreplace

end Model

/-! ## The models of the classes -/

/-- No factor that a class comes with raises a weight. -/
theorem Vehicle.factors_le_one (v : Vehicle) :
    (∀ e ∈ v.defaults.tables.factors.toList, e.2.inCity.weight ≤ 1 ∧ e.2.outCity.weight ≤ 1) ∧
      ∀ r ∈ v.defaults.surfaces, r.factor.weight ≤ 1 := by
  cases v <;> decide +kernel

/-- In every country some category has a base weight at or above the weight off the roads. -/
theorem Vehicle.offroad_le_base (v : Vehicle) (country : String) :
    ∃ rule ∈ v.defaults.rulesIn country, ∃ speeds,
      v.defaults.tables.speeds.get? rule.category = some speeds ∧
        v.defaults.traits.offroad.weight ≤ speeds.inCity.weight := by
  have hall : ∀ rules ∈ v.defaults.rules :: v.defaults.countryRules.toList.map Prod.snd,
      (rules.any fun rule => (v.defaults.tables.speeds.get? rule.category).any fun speeds =>
        v.defaults.traits.offroad.weight ≤ speeds.inCity.weight) = true := by
    cases v <;> decide +kernel
  obtain ⟨rule, hrule, hany⟩ := List.any_eq_true.mp (hall _ (v.defaults.rulesIn_mem country))
  obtain ⟨speeds, hspeeds, hle⟩ := (Option.any_eq_true _ _).mp hany
  exact ⟨rule, hrule, speeds, hspeeds, of_decide_eq_true hle⟩

namespace Model

variable {vehicle : Vehicle} {country : String} {mode : LimitMode}

/-- Without a profile the models of the classes are tame, whatever the mode. -/
theorem tame_create {m : Model} (h : create vehicle country none mode = .ok m) :
    m.mode = mode ∧ m.Tame := by
  rw [create_eq_ok] at h
  cases h
  obtain ⟨hfactors, hsurfaces⟩ := vehicle.factors_le_one
  refine ⟨rfl, ?_, ?_, ?_⟩
  · intro rule _ factors inCity hfactor
    have hboth := hfactors _ (Table.mem_toList_iff.mpr hfactor)
    cases inCity with
    | true => exact hboth.1
    | false => exact hboth.2
  · intro path factor hfactor
    obtain ⟨r, hr, rfl⟩ := mem_surfaces_of_surfaceAt? hfactor
    exact hsurfaces r hr
  · obtain ⟨rule, hrule, speeds, hspeeds, hle⟩ := vehicle.offroad_le_base country
    exact Order.le_trans hle (le_maxWeight ⟨rule, hrule, speeds, true, hspeeds, rfl⟩)

/-- The bound of a model is the greatest of its base weights, and zero where there is none.
Where limits cut speeds down, no tame model resolves a weight above its bound; the models
of all classes in all countries are tame. -/
theorem maxWeight_bounds :
    (∀ m : Model, (∀ w, m.BaseWeight w → w ≤ m.maxWeight) ∧
      (m.rules ≠ [] → m.BaseWeight m.maxWeight) ∧ (m.rules = [] → m.maxWeight = 0)) ∧
    (∀ m : Model, m.mode = .clamp → m.Tame → ∀ t tags trip s,
      m.resolveSpeed t tags trip = .ok s → s.weight ≤ m.maxWeight) ∧
    ∀ vehicle country mode, ∃ m, create vehicle country none mode = .ok m ∧
      m.mode = mode ∧ m.Tame := by
  refine ⟨?_, ?_, ?_⟩
  · intro m
    exact ⟨fun w => le_maxWeight, maxWeight_mem, maxWeight_eq_zero⟩
  · intro m hmode htame t tags trip s hs
    exact htame.weight_le hmode hs
  · intro vehicle country mode
    exact ⟨_, create_eq_ok vehicle country mode, tame_create (create_eq_ok vehicle country mode)⟩

/-- A car on a primary road under a limit that is above its bound. -/
theorem maxWeight_bounds_primary :
    ∃ m, create .car "" none .clamp = .ok m ∧
      ∃ s, m.resolveSpeed (Taxonomy.empty.see Category.primary.place).classification [1]
        ⟨true, false, ⟨.metric, PostedValue.of? 130, none⟩⟩ = .ok s ∧ s.weight ≤ m.maxWeight := by
  obtain ⟨-, hclamp, hclasses⟩ := maxWeight_bounds
  obtain ⟨m, hm, hmode, htame⟩ := hclasses .car "" .clamp
  refine ⟨m, hm, ?_⟩
  cases hs : m.resolveSpeed (Taxonomy.empty.see Category.primary.place).classification [1]
      ⟨true, false, ⟨.metric, PostedValue.of? 130, none⟩⟩ with
  | ok s => exact ⟨s, rfl, hclamp m hmode htame _ _ _ s hs⟩
  | error e =>
    obtain ⟨-, -, -, hunits, -⟩ := resolveSpeed_eq_error_iff.mp hs
    cases hunits

end Model

end RoadSpeed
