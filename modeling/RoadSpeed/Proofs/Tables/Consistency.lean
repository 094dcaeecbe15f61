import RoadSpeed.Model

/-!
# Tables without defects

The list of defects (specification, §7) is empty exactly when the tables fit the access rules,
so that a model, which is only built without defects, never misses an entry.

- `ByArea.isPositive_iff`: what speeds of a category are positive.
- `duplicateRules_eq_nil_iff`, `ruleDefects_eq_nil_iff`, `orphanFactors_eq_nil_iff`:
  one kind of defect each.
- `allDefects_eq_nil_iff`: no defects at all.
- `Model.consistent`, `Model.exists_entries`, `Model.base_pos`: what this means for a model.
-/

namespace RoadSpeed

variable {rules : List AccessRule} {tables : SpeedTables}

/-- The invariant of the scan for repeated rules: the categories that are still to
come are new, both among themselves and to what has been seen. -/
theorem duplicateRules_eq_nil_iff (seen : List Category) :
    duplicateRules seen rules = [] ↔
      (rules.map AccessRule.category).Nodup ∧ ∀ r ∈ rules, r.category ∉ seen := by
  induction rules generalizing seen with
  | nil => simp [duplicateRules]
  | cons rule rules ih =>
    rw [duplicateRules, List.append_eq_nil_iff, ih, List.map_cons, List.nodup_cons,
      List.forall_mem_cons]
    by_cases hseen : rule.category ∈ seen
    · simp [hseen]
    · simp only [hseen, if_false, List.mem_cons, not_or, true_and, List.mem_map, not_exists,
        not_and, not_false_eq_true]
      constructor
      · rintro ⟨hnodup, hrest⟩
        exact ⟨⟨fun r hr => (hrest r hr).1, hnodup⟩, fun r hr => (hrest r hr).2⟩
      · rintro ⟨⟨hnew, hnodup⟩, hrest⟩
        exact ⟨hnodup, fun r hr => ⟨hnew r hr, hrest r hr⟩⟩

/-- A pair of speeds is positive when all of its four components are above zero. -/
theorem ByArea.isPositive_iff (p : ByArea Speed) :
    p.isPositive = true ↔ ∀ inCity, 0 < (p.get inCity).weight ∧ 0 < (p.get inCity).eta := by
  simp [isPositive, Speed.isPositive, get, and_comm]

/-- A rule is without defects when its category has a positive speed and a factor. -/
theorem ruleDefects_eq_nil_iff (rule : AccessRule) :
    ruleDefects tables rule = [] ↔
      (∃ s, tables.speeds.get? rule.category = some s ∧ s.isPositive = true) ∧
        ∃ f, tables.factors.get? rule.category = some f := by
  rw [ruleDefects, List.append_eq_nil_iff]
  refine and_congr ?_ ?_
  · cases tables.speeds.get? rule.category with
    | none => simp
    | some s => cases h : s.isPositive <;> simp [h]
  · cases tables.factors.get? rule.category <;> simp

theorem Table.contains_iff {κ α : Type} [DecidableEq κ] (t : Table κ α) (k : κ) :
    t.contains k = true ↔ k ∈ t.keys := List.contains_iff_mem

/-- No factor is left alone when each one has a speed. -/
theorem orphanFactors_eq_nil_iff :
    orphanFactors tables = [] ↔ ∀ c ∈ tables.factors.keys, c ∈ tables.speeds.keys := by
  rw [orphanFactors, List.filterMap_eq_nil_iff]
  refine forall₂_congr fun c _ => ?_
  rw [← Table.contains_iff]
  cases tables.speeds.contains c <;> simp

/-- There are no defects exactly when the tables fit the rules. -/
theorem allDefects_eq_nil_iff : allDefects rules tables = [] ↔ Consistent rules tables := by
  rw [allDefects, findDefects, List.append_eq_nil_iff, List.append_eq_nil_iff,
    duplicateRules_eq_nil_iff, List.flatMap_eq_nil_iff, orphanFactors_eq_nil_iff]
  constructor
  · rintro ⟨⟨hnodup, -⟩, hrule, horphan⟩
    exact
      { nodup := hnodup
        speed := fun r hr => ((ruleDefects_eq_nil_iff r).mp (hrule r hr)).1
        factor := fun r hr => ((ruleDefects_eq_nil_iff r).mp (hrule r hr)).2
        factor_speed := horphan }
  · intro h
    exact ⟨⟨h.nodup, fun _ _ => List.not_mem_nil⟩,
      fun r hr => (ruleDefects_eq_nil_iff r).mpr ⟨h.speed r hr, h.factor r hr⟩, h.factor_speed⟩

namespace Model

/-- The tables of a model fit its rules. -/
theorem consistent (m : Model) : Consistent m.rules m.tables := allDefects_eq_nil_iff.mp m.sound

/-- A category with a rule has an entry in both tables. -/
theorem exists_entries (m : Model) {rule : AccessRule} (h : rule ∈ m.rules) :
    ∃ speeds factors, m.tables.speeds.get? rule.category = some speeds ∧
      m.tables.factors.get? rule.category = some factors := by
  obtain ⟨speeds, hspeeds, -⟩ := m.consistent.speed rule h
  obtain ⟨factors, hfactors⟩ := m.consistent.factor rule h
  exact ⟨speeds, factors, hspeeds, hfactors⟩

/-- Base speeds of a category with a rule are above zero in both components. -/
theorem base_pos {m : Model} {rule : AccessRule} (hrule : rule ∈ m.rules) {speeds : ByArea Speed}
    (h : m.tables.speeds.get? rule.category = some speeds) (inCity : Bool) :
    0 < (speeds.get inCity).weight ∧ 0 < (speeds.get inCity).eta := by
  obtain ⟨speeds', hspeeds', hpos⟩ := m.consistent.speed rule hrule
  obtain rfl : speeds = speeds' := Option.some.inj (h.symm.trans hspeeds')
  exact speeds.isPositive_iff.mp hpos inCity

end Model

end RoadSpeed
