import RoadSpeed.Proofs.Model.Bound
import RoadSpeed.Proofs.Model.Extension
import RoadSpeed.Proofs.Profile.Locality
import RoadSpeed.Proofs.Tables.Validation

/-!
# The order of entries

Rules, tables and surface rules are lists (specification, §3), and so are the settings of a
profile. The order in which they come does not count, as long as a path has one surface rule at
most: there is a model in each order or in none, and the models say the same and have the same
bound.

- `Model.Interchangeable`: models that say the same about all tags and have the same bound.
- `Model.SameOutcome`: both outcomes are failures, or models that are interchangeable.
- `Model.baseWeight_congr`, `Model.maxWeight_congr`: the bound hangs on no order.
- `surfaceIn?_perm`, `Profile.SameSettings.surfaceIn?_eq`: nor does the factor of a path.
- `Profile.SameSettings`: profiles that set the same.
- `Model.entries_in_any_order`: rules, entries and settings in any order.
-/

namespace RoadSpeed

/-! ## Surfaces -/

section Surfaces

variable {rules rules' : List SurfaceRule} {path : TagPath}

/-- Where each path has one rule at most, the factors of paths are those of the rules. -/
theorem surfaceIn?_eq_some_iff (h : (rules.map SurfaceRule.path).Nodup) {factor : Factor} :
    surfaceIn? rules path = some factor ↔ ∃ r ∈ rules, r.path = path ∧ r.factor = factor := by
  constructor
  · intro hfound
    obtain ⟨before, r, after, rfl, hr, -⟩ := lastMatch_eq_some_iff.mp hfound
    refine ⟨r, List.mem_append_right before List.mem_cons_self, ?_⟩
    simpa only [Option.ite_none_right_eq_some, Option.some.injEq] using hr
  · rintro ⟨r, hr, rfl, rfl⟩
    exact surfaceIn?_of_mem h hr

theorem surfaceIn?_perm (h : (rules.map SurfaceRule.path).Nodup) (hperm : rules.Perm rules')
    (path : TagPath) : surfaceIn? rules path = surfaceIn? rules' path := by
  have h' : (rules'.map SurfaceRule.path).Nodup := (hperm.map SurfaceRule.path).nodup h
  refine Option.ext fun factor => ?_
  rw [surfaceIn?_eq_some_iff h, surfaceIn?_eq_some_iff h']
  simp only [hperm.mem_iff]

end Surfaces

namespace Profile

/-- Profiles set the same, in whatever order. -/
structure SameSettings (p q : Profile) : Prop where
  vehicle : p.vehicle = q.vehicle
  speeds : ∀ c, p.speeds.get? c = q.speeds.get? c
  factors : ∀ c, p.factors.get? c = q.factors.get? c
  surfaces : ∀ name, p.surfaces.get? name = q.surfaces.get? name
  offroad : p.offroad = q.offroad

/-- Laid over the same rules, profiles that set the same give the same factors. -/
theorem SameSettings.surfaceIn?_eq {p q : Profile} (h : p.SameSettings q)
    (base : List SurfaceRule) (path : TagPath) :
    surfaceIn? (p.applySurfaces base) path = surfaceIn? (q.applySurfaces base) path := by
  have hperm := Table.toList_perm_iff.mpr h.surfaces
  rcases p.surface_cases path with ⟨name, s, hs, rfl⟩ | hnone
  · rw [surfaceIn?_applySurfaces_of_mem hs, surfaceIn?_applySurfaces_of_mem (hperm.mem_iff.mp hs)]
  · have hnone' : ∀ name ∈ q.surfaces.keys, TagPath.ofName name ≠ path := fun name hname =>
      hnone name ((hperm.map Prod.fst).mem_iff.mpr hname)
    rw [surfaceIn?_applySurfaces_of_forall_ne hnone, surfaceIn?_applySurfaces_of_forall_ne hnone']

end Profile

namespace Model

/-! ## Models -/

/-- Models say the same about all tags and have the same bound. -/
structure Interchangeable (m n : Model) : Prop where
  answers : ∀ t tags, m.SameAnswers n t tags
  bound : m.maxWeight = n.maxWeight

/-- Both outcomes are failures, for whatever reason, or both are models, which are
interchangeable. -/
inductive SameOutcome {ε : Type} : Except ε Model → Except ε Model → Prop where
  | failures (d e : ε) : SameOutcome (.error d) (.error e)
  | models {m n : Model} (h : m.Interchangeable n) : SameOutcome (.ok m) (.ok n)

theorem SameOutcome.mapError {ε ε' : Type} {x y : Except ε Model} (h : SameOutcome x y)
    (f : ε → ε') : SameOutcome (x.mapError f) (y.mapError f) := by
  cases h with
  | failures d e => exact .failures (f d) (f e)
  | models h => exact .models h

section Parts

variable {m n : Model}

theorem baseWeight_congr (hrules : m.rules.Perm n.rules)
    (hspeeds : ∀ c, m.tables.speeds.get? c = n.tables.speeds.get? c) {w : Float} :
    m.BaseWeight w ↔ n.BaseWeight w := by
  simp only [BaseWeight, hrules.mem_iff, hspeeds]

/-- The bound is the greatest base weight, wherever in the list this comes. -/
theorem maxWeight_congr (hrules : m.rules.Perm n.rules)
    (hspeeds : ∀ c, m.tables.speeds.get? c = n.tables.speeds.get? c) :
    m.maxWeight = n.maxWeight := by
  by_cases hnil : m.rules = []
  · have hnil' : n.rules = [] := List.perm_nil.mp (hnil ▸ hrules.symm)
    rw [maxWeight_eq_zero hnil, maxWeight_eq_zero hnil']
  · have hnil' : n.rules ≠ [] := fun h => hnil (List.perm_nil.mp (h ▸ hrules))
    have hm : m.BaseWeight m.maxWeight := maxWeight_mem hnil
    have hn : n.BaseWeight n.maxWeight := maxWeight_mem hnil'
    have hle : m.maxWeight ≤ n.maxWeight := le_maxWeight ((baseWeight_congr hrules hspeeds).mp hm)
    have hge : n.maxWeight ≤ m.maxWeight := le_maxWeight ((baseWeight_congr hrules hspeeds).mpr hn)
    exact Order.le_antisymm hm.zero_lt hle hge

/-- Models whose rules are the same but for their order, and that have the same parts otherwise,
are interchangeable. -/
theorem SameParts.interchangeable (h : m.SameParts n) (hrules : m.rules.Perm n.rules) :
    m.Interchangeable n := by
  have hextends : n.Extends m [] := ⟨fun r => by simp [hrules.mem_iff], h⟩
  constructor
  · intro t tags
    exact hextends.sameAnswers fun _ _ => List.forall_mem_nil _
  · exact maxWeight_congr hrules h.speeds

end Parts

/-! ## Outcomes -/

section Build

variable {rules rules' : List AccessRule} {tables tables' : SpeedTables}
variable {surfaces surfaces' : List SurfaceRule} {traits : Traits} {mode : LimitMode}

/-- Whether there is a model, and what it says, hangs on what is in the rules and in the tables
and on the factors of paths. -/
theorem sameOutcome_build (hrules : rules.Perm rules')
    (hspeeds : ∀ c, tables.speeds.get? c = tables'.speeds.get? c)
    (hfactors : ∀ c, tables.factors.get? c = tables'.factors.get? c)
    (hsurfaces : ∀ path, surfaceIn? surfaces path = surfaceIn? surfaces' path) :
    SameOutcome (build rules tables surfaces traits mode)
      (build rules' tables' surfaces' traits mode) := by
  have hspeeds' := Table.toList_perm_iff.mpr hspeeds
  have hfactors' := Table.toList_perm_iff.mpr hfactors
  have hfits : Fits rules tables ↔ Fits rules' tables' :=
    ⟨fun h => h.perm hrules hspeeds' hfactors',
      fun h => h.perm hrules.symm hspeeds'.symm hfactors'.symm⟩
  have hexists : (∃ m, build rules tables surfaces traits mode = .ok m) ↔
      ∃ n, build rules' tables' surfaces' traits mode = .ok n := by
    rw [exists_build_iff, exists_build_iff, allDefects_eq_nil_iff_fits,
      allDefects_eq_nil_iff_fits, hfits]
  -- both builds succeed or both fail, as the same tables fit
  cases hm : build rules tables surfaces traits mode with
  | error d =>
    cases hn : build rules' tables' surfaces' traits mode with
    | error e => exact .failures d e
    | ok n =>
      obtain ⟨m, hm'⟩ := hexists.mpr ⟨n, hn⟩
      rw [hm] at hm'
      cases hm'
  | ok m =>
    obtain ⟨n, hn⟩ := hexists.mp ⟨m, hm⟩
    rw [hn]
    obtain ⟨rfl, rfl, rfl, rfl, rfl⟩ := build_eq_ok_iff.mp hm
    obtain ⟨rfl, rfl, rfl, htraits, hmode⟩ := build_eq_ok_iff.mp hn
    have hparts : m.SameParts n := ⟨hspeeds, hfactors, hsurfaces, htraits.symm, hmode.symm⟩
    exact .models (hparts.interchangeable hrules)

end Build

section Create

variable {p q : Profile}

/-- Profiles that set the same tune a class alike. -/
theorem sameOutcome_create (h : p.SameSettings q) (v : Vehicle) (country : String)
    (mode : LimitMode) :
    SameOutcome (create v country (some p) mode) (create v country (some q) mode) := by
  unfold create
  by_cases hvehicle : p.vehicle = v
  · dsimp only
    rw [if_pos hvehicle, if_pos (h.vehicle ▸ hvehicle)]
    have htraits : (v.defaults.tuned p).traits = (v.defaults.tuned q).traits := by
      simp only [Defaults.tuned, Profile.applyOffroad, h.offroad]
    unfold Defaults.model
    rw [htraits]
    -- the rules and the surfaces of the class are the same, and the settings are found alike
    refine (sameOutcome_build (.refl _) ?_ ?_ (h.surfaceIn?_eq _)).mapError ModelError.defective
    · intro c
      show (p.applyTables _).speeds.get? c = (q.applyTables _).speeds.get? c
      rw [p.get?_speeds_applyTables, q.get?_speeds_applyTables, h.speeds]
    · intro c
      show (p.applyTables _).factors.get? c = (q.applyTables _).factors.get? c
      rw [p.get?_factors_applyTables, q.get?_factors_applyTables, h.factors]
  · dsimp only
    rw [if_neg hvehicle, if_neg (h.vehicle ▸ hvehicle)]
    exact .failures _ _

end Create

/-- Profiles that set the same give the same model of a class in a country, or none of them gives
one. So do rules, entries of tables and, where each path has one at most, surface rules in any
order. -/
theorem entries_in_any_order :
    (∀ (v : Vehicle) (country : String) (mode : LimitMode) (p q : Profile), p.SameSettings q →
      SameOutcome (create v country (some p) mode) (create v country (some q) mode)) ∧
    ∀ (rules rules' : List AccessRule) (tables tables' : SpeedTables)
      (surfaces surfaces' : List SurfaceRule) (traits : Traits) (mode : LimitMode),
      rules.Perm rules' → tables.speeds.toList.Perm tables'.speeds.toList →
      tables.factors.toList.Perm tables'.factors.toList →
      (surfaces = surfaces' ∨
        (surfaces.map SurfaceRule.path).Nodup ∧ surfaces.Perm surfaces') →
        SameOutcome (build rules tables surfaces traits mode)
          (build rules' tables' surfaces' traits mode) := by
  constructor
  · intro v country mode p q h
    exact sameOutcome_create h v country mode
  · intro rules rules' tables tables' surfaces surfaces' traits mode hrules hspeeds hfactors hpaths
    refine sameOutcome_build hrules (Table.toList_perm_iff.mp hspeeds)
      (Table.toList_perm_iff.mp hfactors) ?_
    rcases hpaths with rfl | ⟨hnodup, hperm⟩
    · exact fun path => rfl
    · exact surfaceIn?_perm hnodup hperm

/-- Speeds of hilly ways. -/
def hillSpeeds : List (Category × AreaSetting NonNegative) :=
  [(.track, ⟨⟨⟨9.25, by decide⟩, none⟩, none⟩), (.path, ⟨⟨⟨7.75, by decide⟩, none⟩, none⟩)]

/-- Factors of hilly ways. -/
def hillSurfaces : List (String × Setting Positive) :=
  [("psurface-scree", ⟨⟨0.625, by decide⟩, none⟩), ("psurface-sett", ⟨⟨0.725, by decide⟩, none⟩)]

/-- A profile for hilly ways. -/
def hillProfile : Profile where
  vehicle := .bicycle
  speeds := .ofList hillSpeeds
  surfaces := .ofList hillSurfaces

/-- The profile with its settings from last to first. -/
def hillProfileReversed : Profile where
  vehicle := .bicycle
  speeds := .ofList hillSpeeds.reverse
  surfaces := .ofList hillSurfaces.reverse

/-- A profile for hilly ways can be read backwards, and so can the tables of cars. -/
theorem hills_in_any_order : hillProfile.speeds.keys ≠ hillProfileReversed.speeds.keys ∧
    (∃ m n, create .bicycle "" (some hillProfile) .clamp = .ok m ∧
      create .bicycle "" (some hillProfileReversed) .clamp = .ok n ∧ m.Interchangeable n) ∧
    ∃ m n, build Car.rules ⟨Car.speeds, Car.factors⟩ Car.surfaces Car.traits .clamp = .ok m ∧
      build Car.rules.reverse ⟨Car.speeds, Car.factors⟩ Car.surfaces.reverse Car.traits .clamp =
        .ok n ∧ m.Interchangeable n := by
  obtain ⟨hprofiles, hbuilds⟩ := entries_in_any_order
  refine ⟨by decide, ?_, ?_⟩
  · have hsame : hillProfile.SameSettings hillProfileReversed :=
      { vehicle := rfl
        speeds := Table.toList_perm_iff.mp (List.reverse_perm hillSpeeds).symm
        factors := fun _ => rfl
        surfaces := Table.toList_perm_iff.mp (List.reverse_perm hillSurfaces).symm
        offroad := rfl }
    obtain ⟨m, hm⟩ : ∃ m, create .bicycle "" (some hillProfile) .clamp = .ok m :=
      exists_create_iff.mpr ⟨rfl, by decide +kernel⟩
    have houtcome := hprofiles .bicycle "" .clamp _ _ hsame
    rw [hm] at houtcome
    -- a model on one side has a model on the other
    cases hn : create .bicycle "" (some hillProfileReversed) .clamp with
    | error e =>
      rw [hn] at houtcome
      cases houtcome
    | ok n =>
      rw [hn] at houtcome
      cases houtcome with
      | models h => exact ⟨m, n, hm, rfl, h⟩
  · have hforward : allDefects Car.rules ⟨Car.speeds, Car.factors⟩ = [] :=
      Vehicle.car.allDefects_defaults ""
    have hreversed : allDefects Car.rules.reverse ⟨Car.speeds, Car.factors⟩ = [] := by
      decide +kernel
    have houtcome := hbuilds Car.rules _ ⟨Car.speeds, Car.factors⟩ _ Car.surfaces _ Car.traits
      .clamp (List.reverse_perm _).symm (.refl _) (.refl _)
      (.inr ⟨Vehicle.car.nodup_surfaces, (List.reverse_perm _).symm⟩)
    rw [build_eq_ok hforward, build_eq_ok hreversed] at houtcome
    cases houtcome with
    | models h => exact ⟨_, _, build_eq_ok hforward, build_eq_ok hreversed, h⟩

end Model

end RoadSpeed
