import RoadSpeed.Fleet
import RoadSpeed.Proofs.Model.Resolution

/-!
# Where a model has no speed

Every question to a model should have an answer (specification, §7), and does but for one: an
imperial limit that overflows has no value in km/h, and a class that limits bind has no speed
under it on a road. The tables that the classes come with are without defects, so that there is
a model of each class in each country.

- `Model.resolveSpeed_eq_error_iff`: where a model has no speed.
- `Vehicle.allDefects_defaults`: the tables of the classes.
- `Model.create_failures`: the models of the classes without a profile, and where they
  have no speed.
-/

namespace RoadSpeed

namespace Model

variable {m : Model} {t : Classification} {tags : List TagId} {trip : Trip}

theorem limitInForce_eq_error_iff {e : ResolveError} :
    m.limitInForce trip = .error e ↔
      e = .conversion .infinite ∧ m.traits.respectsLimits = true ∧
        trip.posted.Overflows trip.forward := by
  unfold limitInForce
  cases m.traits.respectsLimits with
  | false => simp
  | true =>
    rw [if_pos rfl]
    have hiff := trip.posted.kmph_eq_error_iff trip.forward
    -- the conversion is the one step that can fail
    cases h : trip.posted.kmph trip.forward with
    | ok limit =>
      constructor
      · intro h
        cases h
      · rintro ⟨-, -, hover⟩
        rw [(hiff .infinite).mpr ⟨rfl, hover⟩] at h
        cases h
    | error cause =>
      obtain ⟨rfl, hover⟩ := (hiff cause).mp h
      constructor
      · rintro ⟨⟩
        exact ⟨rfl, rfl, hover⟩
      · rintro ⟨rfl, -⟩
        rfl

/-- A model has no speed on a road under a binding limit that overflows, and
everywhere else it has one. -/
theorem resolveSpeed_eq_error_iff {e : ResolveError} :
    m.resolveSpeed t tags trip = .error e ↔
      e = .conversion .infinite ∧ m.traits.respectsLimits = true ∧
        (m.resolveCategory t tags).isSome = true ∧ trip.posted.Overflows trip.forward := by
  unfold resolveCategory
  cases hrule : m.resolveRule t tags with
  | none =>
    rw [resolveSpeed_offroad hrule]
    simp
  | some rule =>
    cases hlimit : m.limitInForce trip with
    | error e' =>
      obtain ⟨rfl, hbound, hover⟩ := limitInForce_eq_error_iff.mp hlimit
      rw [resolveSpeed_road hrule, hlimit]
      constructor
      · rintro ⟨⟩
        exact ⟨rfl, hbound, rfl, hover⟩
      · rintro ⟨rfl, -⟩
        rfl
    | ok limit =>
      obtain ⟨base, factor, hbase, hfactor⟩ := m.exists_entries (mem_rules_of_resolveRule hrule)
      obtain ⟨s, hs, -⟩ := resolveSpeed_eq_ok (t := t) hrule (limitInForce_eq_ok_iff.mp hlimit)
        hbase hfactor
      rw [hs]
      -- under a limit in force the entries of the tables are there, and scaling succeeds
      constructor
      · intro h
        cases h
      · rintro ⟨-, hbound, -, hover⟩
        rw [limitInForce_eq_error_iff.mpr ⟨rfl, hbound, hover⟩] at hlimit
        cases hlimit

end Model

/-! ## The tables of the classes -/

/-- The rules in force in a country are the general ones or those of one country. -/
theorem Defaults.rulesIn_mem (d : Defaults) (country : String) :
    d.rulesIn country ∈ d.rules :: d.countryRules.toList.map Prod.snd := by
  unfold rulesIn Table.get?
  cases h : d.countryRules.toList.lookup country with
  | none => exact List.mem_cons_self
  | some rules =>
    refine List.mem_cons_of_mem _ ?_
    obtain ⟨before, after, heq, -⟩ := List.lookup_eq_some_iff.mp h
    rw [heq]
    simp

/-- The tables of a class fit its rules in every country. -/
theorem Vehicle.allDefects_defaults (v : Vehicle) (country : String) :
    allDefects (v.defaults.rulesIn country) v.defaults.tables = [] := by
  have hall : ∀ rules ∈ v.defaults.rules :: v.defaults.countryRules.toList.map Prod.snd,
      allDefects rules v.defaults.tables = [] := by
    cases v <;> decide +kernel
  exact hall _ (v.defaults.rulesIn_mem country)

/-! ## The models of the classes -/

theorem Model.build_eq_ok {rules : List AccessRule} {tables : SpeedTables}
    {surfaces : List SurfaceRule} {traits : Traits} {mode : LimitMode}
    (h : allDefects rules tables = []) :
    Model.build rules tables surfaces traits mode =
      .ok ⟨rules, tables, surfaces, traits, mode, h⟩ := by
  unfold build
  split
  · rfl
  · rename_i hcons
    rw [h] at hcons
    cases hcons

/-- Limits bind cars only. -/
theorem Vehicle.respectsLimits_iff (v : Vehicle) :
    v.defaults.traits.respectsLimits = true ↔ v = .car := by
  cases v <;> decide

theorem PostedValue.of?_eq_some {value : Float} (h : value.isFinite = true ∧ 0 < value) :
    PostedValue.of? value = some ⟨value, h.1, h.2⟩ :=
  dif_pos h

/-- Without a profile there is a model of each class in each country. -/
theorem Model.create_eq_ok (vehicle : Vehicle) (country : String) (mode : LimitMode) :
    Model.create vehicle country none mode =
      .ok ⟨vehicle.defaults.rulesIn country, vehicle.defaults.tables, vehicle.defaults.surfaces,
        vehicle.defaults.traits, mode, vehicle.allDefects_defaults country⟩ := by
  show vehicle.defaults.model country mode = _
  unfold Defaults.model
  rw [build_eq_ok (vehicle.allDefects_defaults country)]
  rfl

/-- There is a model of each class in each country. It fails to give a speed exactly
for cars on roads whose imperial limit overflows, and in no other way. -/
theorem Model.create_failures (vehicle : Vehicle) (country : String) (mode : LimitMode) :
    ∃ m, Model.create vehicle country none mode = .ok m ∧
      ∀ (t : Classification) (tags : List TagId) (trip : Trip) (e : ResolveError),
        m.resolveSpeed t tags trip = .error e ↔
          e = .conversion .infinite ∧ vehicle = .car ∧
            (m.resolveCategory t tags).isSome = true ∧ trip.posted.Overflows trip.forward := by
  refine ⟨_, create_eq_ok vehicle country mode, ?_⟩
  intro t tags trip e
  rw [resolveSpeed_eq_error_iff, ← vehicle.respectsLimits_iff]

/-- A car on a primary road has no speed under a limit of 1.7e308 miles per hour. -/
theorem Model.create_car_fails :
    ∃ m, Model.create .car "" none .clamp = .ok m ∧
      m.resolveSpeed (Taxonomy.empty.see Category.primary.place).classification [1]
        ⟨true, false, ⟨.imperial, PostedValue.of? 1.7e308, none⟩⟩ =
          .error (.conversion .infinite) := by
  have hvalue : Float.isFinite 1.7e308 = true ∧ 0 < (1.7e308 : Float) := by decide +kernel
  have hinf : ((1.7e308 : Float) * Units.kmphPerMph).isInf = true := by decide +kernel
  rw [PostedValue.of?_eq_some hvalue]
  refine ⟨_, create_eq_ok .car "" .clamp, ?_⟩
  exact resolveSpeed_eq_error_iff.mpr ⟨rfl, rfl, by decide +kernel, rfl, _, rfl, hinf⟩

end RoadSpeed
