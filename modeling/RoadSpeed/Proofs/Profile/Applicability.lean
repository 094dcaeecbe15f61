import RoadSpeed.Proofs.Model.Creation
import RoadSpeed.Proofs.Model.Totality
import RoadSpeed.Proofs.Number.Product
import RoadSpeed.Table

/-!
# Which profiles give a model

A profile has been accepted when it keeps the bounds of its numbers. Whether it also gives a
model depends on the tables that it is laid over and on the rules in force: a speed of zero
does harm only where there is a rule for its category, and a factor only where there is no
speed beside it (specification, §7). So one country may refuse a profile that another one takes.

- `Setting.HasZero`, `AreaSetting.HasZero`: settings of which some component is zero.
- `Profile.zeroSpeeds`, `Profile.strayFactors`: the defects that a profile brings.
- `Profile.allDefects_applyTables`: tables without defects have those after a profile.
- `Model.create_outcome`: how creating a model from a profile ends.
-/

namespace RoadSpeed

/-! ## Settings with a zero -/

/-- A component of the speed that is set is zero; an eta that is left out is the weight. -/
def Setting.HasZero (s : Setting NonNegative) : Prop :=
  (s.weight.val == 0) = true ∨ (s.etaInForce.val == 0) = true

instance (s : Setting NonNegative) : Decidable s.HasZero := by
  unfold Setting.HasZero
  infer_instance

theorem Setting.isPositive_toSpeed_iff (s : Setting NonNegative) :
    s.toSpeed.isPositive = true ↔ ¬ s.HasZero := by
  unfold Speed.isPositive HasZero
  rw [Bool.and_eq_true, decide_eq_true_iff, decide_eq_true_iff, not_or]
  exact and_congr (Double.zero_lt_iff_of_le s.weight.property)
    (Double.zero_lt_iff_of_le s.etaInForce.property)

/-- A component of either speed that is set is zero; what is left out outside the city is what
is set inside. -/
def AreaSetting.HasZero (s : AreaSetting NonNegative) : Prop :=
  s.inForce.inCity.HasZero ∨ s.inForce.outCity.HasZero

instance (s : AreaSetting NonNegative) : Decidable s.HasZero := by
  unfold AreaSetting.HasZero
  infer_instance

theorem AreaSetting.isPositive_toSpeeds_iff (s : AreaSetting NonNegative) :
    s.toSpeeds.isPositive = true ↔ ¬ s.HasZero := by
  unfold ByArea.isPositive HasZero
  rw [Bool.and_eq_true, not_or]
  exact and_congr (Setting.isPositive_toSpeed_iff _) (Setting.isPositive_toSpeed_iff _)

/-! ## The defects that a profile brings -/

namespace Profile

variable {rules : List AccessRule} {base : SpeedTables}

/-- A speed with a zero for a category with a rule. -/
def zeroSpeed? (p : Profile) (rule : AccessRule) : Option Defect :=
  (p.speeds.get? rule.category).bind fun s =>
    if s.HasZero then some (.speedNotPositive rule.category s.toSpeeds) else none

/-- The speeds with a zero, rule by rule. -/
def zeroSpeeds (p : Profile) (rules : List AccessRule) : List Defect :=
  rules.filterMap p.zeroSpeed?

/-- The factors that have a speed beside them neither in the tables nor in the profile. -/
def strayFactors (p : Profile) (base : SpeedTables) : List Defect :=
  p.factors.keys.filterMap fun c =>
    if c ∈ base.speeds.keys ∨ c ∈ p.speeds.keys then none else some (.factorWithoutSpeed c)

theorem get?_speeds_applyTables (p : Profile) (c : Category) :
    (p.applyTables base).speeds.get? c =
      ((p.speeds.get? c).map AreaSetting.toSpeeds).or (base.speeds.get? c) :=
  Table.get?_override_map ..

theorem get?_factors_applyTables (p : Profile) (c : Category) :
    (p.applyTables base).factors.get? c =
      ((p.factors.get? c).map AreaSetting.toFactors).or (base.factors.get? c) :=
  Table.get?_override_map ..

/-- For a rule that the tables fit, the profile's speed is all that can be wrong. -/
theorem ruleDefects_applyTables (h : Consistent rules base) (p : Profile) {rule : AccessRule}
    (hrule : rule ∈ rules) :
    ruleDefects (p.applyTables base) rule = (p.zeroSpeed? rule).toList := by
  obtain ⟨speeds, hspeeds, hpos⟩ := h.speed rule hrule
  obtain ⟨factors, hfactors⟩ := h.factor rule hrule
  obtain ⟨f, hfactor⟩ : ∃ f, (p.applyTables base).factors.get? rule.category = some f := by
    rw [get?_factors_applyTables, hfactors]
    cases p.factors.get? rule.category with
    | none => exact ⟨factors, rfl⟩
    | some s => exact ⟨s.toFactors, rfl⟩
  rw [ruleDefects, hfactor, List.append_nil, get?_speeds_applyTables, hspeeds, zeroSpeed?]
  -- an entry of the base is sound; one of the profile fails only if it holds a zero
  cases p.speeds.get? rule.category with
  | none =>
    show (if speeds.isPositive = true then [] else _) = _
    rw [if_pos hpos]
    rfl
  | some s =>
    show (if s.toSpeeds.isPositive = true then [] else _) =
      Option.toList (if s.HasZero then _ else _)
    by_cases hzero : s.HasZero
    · rw [if_neg (fun hs => s.isPositive_toSpeeds_iff.mp hs hzero), if_pos hzero]
      rfl
    · rw [if_pos (s.isPositive_toSpeeds_iff.mpr hzero), if_neg hzero]
      rfl

theorem contains_applyTables_iff (p : Profile) (c : Category) :
    (p.applyTables base).speeds.contains c = true ↔ c ∈ base.speeds.keys ∨ c ∈ p.speeds.keys := by
  have hkeys : p.tables.speeds.keys = p.speeds.keys := Table.keys_map ..
  rw [Table.contains_iff, ← hkeys]
  exact Table.mem_keys_override_iff

/-- Where all factors of the tables have speeds, those of the profile are left to look at. -/
theorem orphanFactors_applyTables (h : Consistent rules base) (p : Profile) :
    orphanFactors (p.applyTables base) = p.strayFactors base := by
  have hkeys : (p.applyTables base).factors.keys =
      base.factors.keys ++ p.factors.keys.filter fun c => c ∉ base.factors.keys := by
    rw [← show p.tables.factors.keys = p.factors.keys from Table.keys_map ..]
    exact Table.keys_override ..
  have hbase : base.factors.keys.filterMap (fun c =>
      if (p.applyTables base).speeds.contains c then none else some (.factorWithoutSpeed c)) =
        ([] : List Defect) := by
    refine List.filterMap_eq_nil_iff.mpr fun c hc => if_pos ?_
    exact (p.contains_applyTables_iff c).mpr (.inl (h.factor_speed c hc))
  rw [orphanFactors, hkeys, List.filterMap_append, hbase, List.nil_append, List.filterMap_filter,
    strayFactors]
  refine List.filterMap_congr fun c _ => ?_
  simp only [p.contains_applyTables_iff, decide_eq_true_iff]
  by_cases hc : c ∈ base.factors.keys
  · rw [if_neg (not_not.mpr hc), if_pos (.inl (h.factor_speed c hc))]
  · rw [if_pos hc]

/-- Tables without defects have those after a profile that the profile brings, and no other. -/
theorem allDefects_applyTables (h : allDefects rules base = []) (p : Profile) :
    allDefects rules (p.applyTables base) = p.zeroSpeeds rules ++ p.strayFactors base := by
  have hfits := allDefects_eq_nil_iff.mp h
  obtain ⟨hduplicates, -⟩ := List.append_eq_nil_iff.mp h
  rw [allDefects, hduplicates, List.nil_append, findDefects, orphanFactors_applyTables hfits,
    List.flatMap_congr fun _ hrule => ruleDefects_applyTables hfits p hrule, zeroSpeeds,
    List.filterMap_eq_flatMap_toList]

theorem zeroSpeeds_eq_nil_iff (p : Profile) : p.zeroSpeeds rules = [] ↔
    ¬ ∃ rule ∈ rules, ∃ s, p.speeds.get? rule.category = some s ∧ s.HasZero := by
  rw [zeroSpeeds, List.filterMap_eq_nil_iff]
  push Not
  refine forall₂_congr fun rule _ => ?_
  rw [zeroSpeed?]
  cases p.speeds.get? rule.category with
  | none => simp
  | some s => simp

theorem strayFactors_eq_nil_iff (p : Profile) : p.strayFactors base = [] ↔
    ¬ ∃ c ∈ p.factors.keys, c ∉ base.speeds.keys ∧ c ∉ p.speeds.keys := by
  rw [strayFactors, List.filterMap_eq_nil_iff]
  push Not
  refine forall₂_congr fun c _ => ?_
  by_cases hc : c ∈ base.speeds.keys <;> simp [hc]

end Profile

/-! ## How creating a model ends -/

namespace Model

/-- A profile of the class fails to give a model exactly if it brings defects, and these are
what the error lists. -/
theorem create_eq_error_iff {v : Vehicle} {country : String} {mode : LimitMode} {p : Profile}
    (hv : p.vehicle = v) {e : ModelError} : create v country (some p) mode = .error e ↔
      e = .defective (p.zeroSpeeds (v.defaults.rulesIn country) ++
        p.strayFactors v.defaults.tables) ∧
      ¬ (p.zeroSpeeds (v.defaults.rulesIn country) = [] ∧
        p.strayFactors v.defaults.tables = []) := by
  have hbuild (ds : List Defect) :
      build (v.defaults.rulesIn country) (p.applyTables v.defaults.tables)
        (p.applySurfaces v.defaults.surfaces) (v.defaults.tuned p).traits mode = .error ds ↔
      ds = p.zeroSpeeds (v.defaults.rulesIn country) ++ p.strayFactors v.defaults.tables ∧
        ds ≠ [] := by
    rw [build_eq_error_iff, p.allDefects_applyTables (v.allDefects_defaults country)]
  have hcreate : create v country (some p) mode =
      (build (v.defaults.rulesIn country) (p.applyTables v.defaults.tables)
        (p.applySurfaces v.defaults.surfaces) (v.defaults.tuned p).traits mode).mapError
          .defective := if_pos hv
  rw [hcreate, ← List.append_eq_nil_iff]
  -- the defects are known, so that only the outcome of the build is left to tell
  generalize build _ _ _ _ _ = outcome at hbuild ⊢
  cases outcome with
  | error ds =>
    obtain ⟨rfl, hne⟩ := (hbuild ds).mp rfl
    show Except.error (ModelError.defective _) = _ ↔ _
    rw [Except.error.injEq, eq_comm]
    exact (and_iff_left hne).symm
  | ok m =>
    refine iff_of_false nofun ?_
    rintro ⟨-, hne⟩
    cases (hbuild _).mpr ⟨rfl, hne⟩

/-- A profile of the class gives no model in a country exactly if it sets a speed with a zero
for a category with a rule there, or a factor that has a speed beside it neither in the tables
of the class nor in the profile; the error lists these defects. A profile of another class
gives no model at all, and the error names both classes. -/
theorem create_outcome (v : Vehicle) (country : String) (mode : LimitMode) (p : Profile) :
    (p.vehicle = v →
      ((∃ e, create v country (some p) mode = .error e) ↔
        (∃ rule ∈ v.defaults.rulesIn country, ∃ s,
          p.speeds.get? rule.category = some s ∧ s.HasZero) ∨
        ∃ c ∈ p.factors.keys, c ∉ v.defaults.tables.speeds.keys ∧ c ∉ p.speeds.keys) ∧
      ∀ e, create v country (some p) mode = .error e →
        e = .defective (p.zeroSpeeds (v.defaults.rulesIn country) ++
          p.strayFactors v.defaults.tables)) ∧
    (p.vehicle ≠ v → ∃ e, create v country (some p) mode = .error e ∧
      e = .otherVehicle p.vehicle v ∧
        e.message = "Speed profile is for " ++ p.vehicle.name ++ ", not " ++ v.name) := by
  refine ⟨?_, fun hother => ⟨_, if_neg hother, rfl, rfl⟩⟩
  intro hv
  refine ⟨?_, fun e he => ((create_eq_error_iff hv).mp he).1⟩
  simp only [create_eq_error_iff hv, exists_eq_left]
  rw [not_and_or, p.zeroSpeeds_eq_nil_iff, p.strayFactors_eq_nil_iff, not_not, not_not]

end Model

/-- A profile for bicycles that are pushed along trunk roads, with a speed for motorways, which
bicycles do not know. -/
def Profile.pushed : Profile where
  vehicle := .bicycle
  speeds := .ofList [
    (.trunk, ⟨⟨⟨3.5, by decide⟩, some ⟨0.0, by decide⟩⟩, none⟩),
    (.motorway, ⟨⟨⟨0.0, by decide⟩, none⟩, none⟩)]
  surfaces := .ofList [("psurface-cobbles", ⟨⟨0.7, by decide⟩, none⟩)]

/-- The profile is refused where bicycles may use trunk roads and taken where they may not;
cars have no use for it. -/
theorem Model.create_outcome_pushed :
    (∃ e, create .bicycle "" (some .pushed) .clamp = .error e) ∧
      (∃ m, create .bicycle "Germany" (some .pushed) .clamp = .ok m) ∧
        create .car "" (some .pushed) .clamp = .error (.otherVehicle .bicycle .car) := by
  obtain ⟨hnowhere, -⟩ := create_outcome .bicycle "" .clamp .pushed
  obtain ⟨hgermany, -⟩ := create_outcome .bicycle "Germany" .clamp .pushed
  obtain ⟨-, hcar⟩ := create_outcome .car "" .clamp .pushed
  refine ⟨?_, ?_, ?_⟩
  · refine (hnowhere rfl).1.mpr (.inl ⟨⟨.trunk, false, true⟩, by decide, ?_⟩)
    exact ⟨_, rfl, by decide⟩
  · refine not_not.mp (exists_error_iff.not.mp fun hrefused => ?_)
    rcases (hgermany rfl).1.mp hrefused with ⟨rule, hrule, s, hs, hzero⟩ | ⟨c, hc, -⟩
    · have hknown : ∀ rule ∈ Vehicle.bicycle.defaults.rulesIn "Germany",
          Profile.pushed.speeds.get? rule.category = none := by decide
      rw [hknown rule hrule] at hs
      cases hs
    · cases hc
  · obtain ⟨e, he, rfl, -⟩ := hcar (by decide)
    exact he

end RoadSpeed
