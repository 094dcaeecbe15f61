import RoadSpeed.Proofs.Model.Creation
import RoadSpeed.Proofs.Model.Totality
import RoadSpeed.Table

/-!
# What validation is good for

Validation passes exactly those tables that a model can work with, in whatever order they
are written down (specification, §7). A model of such tables finds every entry that it looks
for.

- `Fits`: what the entries have to be like, without regard to their order.
- `allDefects_eq_nil_iff_fits`, `Fits.perm`: validation, and the order of entries.
- `Model.FindsEntries`, `Model.findsEntries`: no lookup misses.
- `validation_exact`: all of this for any rules and tables.
-/

namespace RoadSpeed

variable {rules rules' : List AccessRule} {tables tables' : SpeedTables}

/-! ## Validation -/

/-- Tables that a model can work with: one rule for a category, with a positive speed and a
factor for it, and no factor without a speed. -/
structure Fits (rules : List AccessRule) (tables : SpeedTables) : Prop where
  nodup : (rules.map AccessRule.category).Nodup
  speed : ∀ r ∈ rules, ∃ p, (r.category, p) ∈ tables.speeds.toList ∧
    ∀ inCity, 0 < (p.get inCity).weight ∧ 0 < (p.get inCity).eta
  factor : ∀ r ∈ rules, ∃ f, (r.category, f) ∈ tables.factors.toList
  factor_speed : ∀ c f, (c, f) ∈ tables.factors.toList → ∃ p, (c, p) ∈ tables.speeds.toList

/-- Validation passes exactly the tables that fit. -/
theorem allDefects_eq_nil_iff_fits : allDefects rules tables = [] ↔ Fits rules tables := by
  rw [allDefects_eq_nil_iff]
  -- an entry that is found is an entry that is listed, and the other way round
  constructor
  · intro h
    refine ⟨h.nodup, ?_, ?_, ?_⟩
    · intro r hr
      obtain ⟨p, hp, hpos⟩ := h.speed r hr
      exact ⟨p, Table.mem_toList_iff.mpr hp, p.isPositive_iff.mp hpos⟩
    · intro r hr
      obtain ⟨f, hf⟩ := h.factor r hr
      exact ⟨f, Table.mem_toList_iff.mpr hf⟩
    · intro c f hf
      exact Table.mem_keys_iff.mp (h.factor_speed c (Table.mem_keys_iff.mpr ⟨f, hf⟩))
  · intro h
    refine ⟨h.nodup, ?_, ?_, ?_⟩
    · intro r hr
      obtain ⟨p, hp, hpos⟩ := h.speed r hr
      exact ⟨p, Table.mem_toList_iff.mp hp, p.isPositive_iff.mpr hpos⟩
    · intro r hr
      obtain ⟨f, hf⟩ := h.factor r hr
      exact ⟨f, Table.mem_toList_iff.mp hf⟩
    · intro c hc
      obtain ⟨f, hf⟩ := Table.mem_keys_iff.mp hc
      exact Table.mem_keys_iff.mpr (h.factor_speed c f hf)

/-- Whether tables fit has nothing to do with the order in which they are written. -/
theorem Fits.perm (h : Fits rules tables) (hrules : rules.Perm rules')
    (hspeeds : tables.speeds.toList.Perm tables'.speeds.toList)
    (hfactors : tables.factors.toList.Perm tables'.factors.toList) : Fits rules' tables' where
  nodup := (hrules.map AccessRule.category).nodup h.nodup
  speed r hr := by
    simp only [← hspeeds.mem_iff]
    exact h.speed r (hrules.mem_iff.mpr hr)
  factor r hr := by
    simp only [← hfactors.mem_iff]
    exact h.factor r (hrules.mem_iff.mpr hr)
  factor_speed c f hf := by
    simp only [← hspeeds.mem_iff]
    exact h.factor_speed c f (hfactors.mem_iff.mpr hf)

/-- The speeds of the categories with a rule are numbers in all their components. -/
theorem Fits.isNaN_eq_false (h : Fits rules tables) {r : AccessRule} (hr : r ∈ rules)
    {p : ByArea Speed} (hp : (r.category, p) ∈ tables.speeds.toList) (inCity : Bool) :
    (p.get inCity).weight.isNaN = false ∧ (p.get inCity).eta.isNaN = false := by
  obtain ⟨q, hq, hpos⟩ := h.speed r hr
  rw [Table.mem_toList_iff] at hp hq
  obtain rfl : p = q := Option.some.inj (hp.symm.trans hq)
  exact ⟨Double.isNaN_of_zero_lt (hpos inCity).1, Double.isNaN_of_zero_lt (hpos inCity).2⟩

/-! ## Lookups -/

namespace Model

/-- A model finds the entries that it looks for: the speeds of all its rules, from which its
bound is taken, and the speeds and factors of each category that tags resolve to. -/
structure FindsEntries (m : Model) : Prop where
  bound : ∀ r ∈ m.rules, ∃ p, m.tables.speeds.get? r.category = some p
  base : ∀ t tags c, m.resolveCategory t tags = some c → ∃ p, m.tables.speeds.get? c = some p
  factor : ∀ t tags c, m.resolveCategory t tags = some c → ∃ f, m.tables.factors.get? c = some f
  resolve : ∀ t tags trip c, m.resolveSpeed t tags trip ≠ .error (.noEntry c)

theorem findsEntries (m : Model) : m.FindsEntries := by
  have hresolved : ∀ t tags c, m.resolveCategory t tags = some c →
      ∃ p f, m.tables.speeds.get? c = some p ∧ m.tables.factors.get? c = some f := by
    intro t tags c hc
    obtain ⟨rule, hrule, rfl⟩ := Option.map_eq_some_iff.mp hc
    exact m.exists_entries (mem_rules_of_resolveRule hrule)
  refine ⟨?_, ?_, ?_, ?_⟩
  · intro r hr
    obtain ⟨p, -, hp, -⟩ := m.exists_entries hr
    exact ⟨p, hp⟩
  · intro t tags c hc
    obtain ⟨p, -, hp, -⟩ := hresolved t tags c hc
    exact ⟨p, hp⟩
  · intro t tags c hc
    obtain ⟨-, f, -, hf⟩ := hresolved t tags c hc
    exact ⟨f, hf⟩
  · intro t tags trip c h
    obtain ⟨hcause, -⟩ := resolveSpeed_eq_error_iff.mp h
    cases hcause

end Model

/-- Validation passes exactly the tables that fit, which have numbers for all speeds that
count, in whatever order rules and entries come. What passes makes a model, and this model
finds all the entries that it looks for. -/
theorem validation_exact (rules : List AccessRule) (tables : SpeedTables) :
    (allDefects rules tables = [] ↔ Fits rules tables) ∧
    (∀ r ∈ rules, ∀ p inCity, (r.category, p) ∈ tables.speeds.toList →
      (p.get inCity).weight.isNaN = true ∨ (p.get inCity).eta.isNaN = true →
        allDefects rules tables ≠ []) ∧
    (∀ rules' tables', rules.Perm rules' → tables.speeds.toList.Perm tables'.speeds.toList →
      tables.factors.toList.Perm tables'.factors.toList →
        (allDefects rules tables = [] ↔ allDefects rules' tables' = [])) ∧
    (∀ surfaces traits mode,
      ((∃ m, Model.build rules tables surfaces traits mode = .ok m) ↔
        allDefects rules tables = []) ∧
      ∀ m, Model.build rules tables surfaces traits mode = .ok m →
        m.rules = rules ∧ m.tables = tables ∧ m.FindsEntries) := by
  refine ⟨allDefects_eq_nil_iff_fits, ?_, ?_, ?_⟩
  · -- a component that is no number is not above zero
    intro r hr p inCity hp hnan hnone
    obtain ⟨hweight, heta⟩ := (allDefects_eq_nil_iff_fits.mp hnone).isNaN_eq_false hr hp inCity
    rcases hnan with h | h
    · rw [hweight] at h
      cases h
    · rw [heta] at h
      cases h
  · intro rules' tables' hrules hspeeds hfactors
    rw [allDefects_eq_nil_iff_fits, allDefects_eq_nil_iff_fits]
    exact ⟨fun h => h.perm hrules hspeeds hfactors,
      fun h => h.perm hrules.symm hspeeds.symm hfactors.symm⟩
  · intro surfaces traits mode
    refine ⟨⟨?_, fun hnone => ⟨_, Model.build_eq_ok hnone⟩⟩, ?_⟩
    · rintro ⟨m, hm⟩
      obtain ⟨rfl, rfl, -⟩ := Model.build_eq_ok_iff.mp hm
      exact m.sound
    · intro m hm
      obtain ⟨hrules, htables, -⟩ := Model.build_eq_ok_iff.mp hm
      exact ⟨hrules, htables, m.findsEntries⟩

/-- The rules of cars pass from last to first, also beside the traits of pedestrians. -/
theorem validation_exact_car :
    allDefects Vehicle.car.defaults.rules.reverse Vehicle.car.defaults.tables = [] ∧
      ∃ m : Model, Model.build Vehicle.car.defaults.rules.reverse Vehicle.car.defaults.tables []
        Vehicle.pedestrian.defaults.traits .clamp = .ok m ∧ m.FindsEntries := by
  have hforward : allDefects Vehicle.car.defaults.rules Vehicle.car.defaults.tables = [] :=
    Vehicle.car.allDefects_defaults ""
  obtain ⟨-, -, hperm, -⟩ :=
    validation_exact Vehicle.car.defaults.rules Vehicle.car.defaults.tables
  have hbackward := (hperm _ _ (List.reverse_perm _).symm (List.Perm.refl _)
    (List.Perm.refl _)).mp hforward
  obtain ⟨-, -, -, hbuild⟩ :=
    validation_exact Vehicle.car.defaults.rules.reverse Vehicle.car.defaults.tables
  obtain ⟨hexists, hfinds⟩ := hbuild [] Vehicle.pedestrian.defaults.traits .clamp
  obtain ⟨m, hm⟩ := hexists.mpr hbackward
  exact ⟨hbackward, m, hm, (hfinds m hm).2.2⟩

end RoadSpeed
