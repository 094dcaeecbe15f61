import RoadSpeed.Fleet
import RoadSpeed.Proofs.Success

/-!
# What a model is made of

- `Model.build_eq_ok_iff`, `Model.build_eq_error_iff`: a model has exactly the parts that it is
  built from; what keeps it from being built are the defects.
- `Model.rules_create`, `Model.traits_create`: a model of a vehicle class has the rules and
  the traits of the class; a profile changes the speed off the roads only.
- `Model.exists_create_iff`: the profiles that give a model.
- `Model.create_congr`: of its country a model keeps the rules in force there.
-/

namespace RoadSpeed

namespace Model

theorem build_eq_ok_iff {rules : List AccessRule} {tables : SpeedTables}
    {surfaces : List SurfaceRule} {traits : Traits} {mode : LimitMode} {m : Model} :
    build rules tables surfaces traits mode = .ok m ↔
      m.rules = rules ∧ m.tables = tables ∧ m.surfaces = surfaces ∧ m.traits = traits ∧
        m.mode = mode := by
  unfold build
  constructor
  · intro h
    split at h
    · cases h
      exact ⟨rfl, rfl, rfl, rfl, rfl⟩
    · cases h
  · rintro ⟨rfl, rfl, rfl, rfl, rfl⟩
    split
    · rfl
    · rename_i hdefects
      rw [m.sound] at hdefects
      cases hdefects

/-- What keeps a model from being built is that the tables have defects, which are listed. -/
theorem build_eq_error_iff {rules : List AccessRule} {tables : SpeedTables}
    {surfaces : List SurfaceRule} {traits : Traits} {mode : LimitMode} {ds : List Defect} :
    build rules tables surfaces traits mode = .error ds ↔
      ds = allDefects rules tables ∧ ds ≠ [] := by
  unfold build
  split
  · rename_i hnone
    exact iff_of_false nofun fun h => h.2 (h.1.trans hnone)
  · rename_i d rest hdefects
    rw [hdefects, Except.error.injEq, eq_comm]
    exact ⟨fun h => ⟨h, h ▸ List.cons_ne_nil d rest⟩, And.left⟩

/-- There is a model of exactly those tables that have no defects. -/
theorem exists_build_iff {rules : List AccessRule} {tables : SpeedTables}
    {surfaces : List SurfaceRule} {traits : Traits} {mode : LimitMode} :
    (∃ m, build rules tables surfaces traits mode = .ok m) ↔ allDefects rules tables = [] := by
  constructor
  · rintro ⟨m, hm⟩
    obtain ⟨rfl, rfl, -⟩ := build_eq_ok_iff.mp hm
    exact m.sound
  · intro h
    exact ⟨⟨rules, tables, surfaces, traits, mode, h⟩,
      build_eq_ok_iff.mpr ⟨rfl, rfl, rfl, rfl, rfl⟩⟩

theorem of_defaults_iff {d : Defaults} {country : String} {mode : LimitMode} {m : Model} :
    d.model country mode = .ok m ↔
      m.rules = d.rulesIn country ∧ m.tables = d.tables ∧ m.surfaces = d.surfaces ∧
        m.traits = d.traits ∧ m.mode = mode :=
  mapError_eq_ok_iff.trans build_eq_ok_iff

section Create

variable {vehicle : Vehicle} {country : String} {profile : Option Profile} {p : Profile}
variable {mode : LimitMode} {m : Model}

/-- A profile of the class tunes the defaults of the class. -/
theorem create_tuned_iff : create vehicle country (some p) mode = .ok m ↔
    p.vehicle = vehicle ∧ (vehicle.defaults.tuned p).model country mode = .ok m := by
  unfold create
  by_cases hvehicle : p.vehicle = vehicle
  · simp [hvehicle]
  · simp [hvehicle]

/-- A model of a class has the rules in force in its country, whatever tunes it. -/
theorem rules_create (h : create vehicle country profile mode = .ok m) :
    m.rules = vehicle.defaults.rulesIn country := by
  cases profile with
  | none => exact (of_defaults_iff.mp h).1
  | some p =>
    obtain ⟨-, htuned⟩ := create_tuned_iff.mp h
    exact (of_defaults_iff.mp htuned).1

/-- A model of a class has the traits of the class, but for the speed off the roads. -/
theorem traits_create (h : create vehicle country profile mode = .ok m) :
    m.traits = { vehicle.defaults.traits with offroad := m.traits.offroad } := by
  cases profile with
  | none =>
    obtain ⟨-, -, -, htraits, -⟩ := of_defaults_iff.mp h
    rw [htraits]
  | some p =>
    obtain ⟨-, htuned⟩ := create_tuned_iff.mp h
    obtain ⟨-, -, -, htraits, -⟩ := of_defaults_iff.mp htuned
    rw [htraits]
    rfl

/-- A model is one of the class that it was created for. -/
theorem vehicle_create (h : create vehicle country profile mode = .ok m) : m.vehicle = vehicle :=
  (congrArg Traits.vehicle (traits_create h)).trans (vehicle_defaults vehicle)

/-- A profile gives a model exactly if it is one of the class and leaves the tables without
defects. -/
theorem exists_create_iff : (∃ m, create vehicle country (some p) mode = .ok m) ↔
    p.vehicle = vehicle ∧
      allDefects (vehicle.defaults.rulesIn country) (p.applyTables vehicle.defaults.tables) =
        [] := by
  simp only [create_tuned_iff, exists_and_left, Defaults.model, mapError_eq_ok_iff,
    exists_build_iff]
  rfl

/-- Countries with the same rules in force have the same model. -/
theorem create_congr {c d : String}
    (h : vehicle.defaults.rulesIn c = vehicle.defaults.rulesIn d) (profile : Option Profile)
    (mode : LimitMode) : create vehicle c profile mode = create vehicle d profile mode := by
  cases profile with
  | none =>
    show vehicle.defaults.model c mode = vehicle.defaults.model d mode
    rw [Defaults.model, Defaults.model, h]
  | some p =>
    have htuned : (vehicle.defaults.tuned p).rulesIn c = (vehicle.defaults.tuned p).rulesIn d := h
    rw [create, create, Defaults.model, Defaults.model, htuned]

end Create

end Model

end RoadSpeed
