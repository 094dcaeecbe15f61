import RoadSpeed.Fleet
import RoadSpeed.Proofs.Model.Creation
import RoadSpeed.Proofs.Model.Totality
import RoadSpeed.Table

/-!
# The models of a fleet

A fleet is built in advance (specification, §4.5). What it then holds for a country is what
creating the model of that country would give, so that every model of a class keeps the traits
of the class.

- `Roster.create_model`, `Roster.exists_build_iff`: the models of one class, and when there
  are any.
- `Fleet.roster_of_build`: the rosters of a fleet that has been built.
- `Fleet.create_modelFor`: the model that a fleet gives for a country.
- `Fleet.exists_build_iff`: when there is a fleet.
- `Fleet.countryFor_of_build`: whose rules hold in a country.
-/

namespace RoadSpeed

/-! ## Entries that are built one by one -/

namespace Entries

variable {κ α ε : Type} {build : κ → Except ε α}

/-- Values are built for all keys when one can be built for each. -/
theorem exists_mapM_iff {ks : List κ} :
    (∃ es, (ks.mapM fun k => (build k).map fun a => (k, a)) = .ok es) ↔
      ∀ k ∈ ks, ∃ a, build k = .ok a := by
  induction ks with
  | nil => exact iff_of_true ⟨[], rfl⟩ nofun
  | cons k ks ih =>
    rw [List.forall_mem_cons, ← ih, List.mapM_cons]
    constructor
    · rintro ⟨es, h⟩
      obtain ⟨_, hfirst, h⟩ := bind_eq_ok_iff.mp h
      obtain ⟨rest, hrest, -⟩ := bind_eq_ok_iff.mp h
      obtain ⟨a, hk, -⟩ := map_eq_ok_iff.mp hfirst
      exact ⟨⟨a, hk⟩, rest, hrest⟩
    · rintro ⟨⟨a, hk⟩, rest, hrest⟩
      exact ⟨_, bind_eq_ok_iff.mpr ⟨_, map_eq_ok_iff.mpr ⟨a, hk, rfl⟩,
        bind_eq_ok_iff.mpr ⟨rest, hrest, rfl⟩⟩⟩

/-- Building a value for each key keeps the keys and pairs each with its value. -/
theorem of_mapM_eq_ok {ks : List κ} {es : List (κ × α)}
    (h : (ks.mapM fun k => (build k).map fun a => (k, a)) = .ok es) :
    es.map Prod.fst = ks ∧ ∀ e ∈ es, build e.1 = .ok e.2 := by
  induction ks generalizing es with
  | nil =>
    cases h
    exact ⟨rfl, fun e he => absurd he List.not_mem_nil⟩
  | cons k ks ih =>
    rw [List.mapM_cons] at h
    obtain ⟨_, hfirst, h⟩ := bind_eq_ok_iff.mp h
    obtain ⟨rest, hrest, h⟩ := bind_eq_ok_iff.mp h
    obtain ⟨a, hk, rfl⟩ := map_eq_ok_iff.mp hfirst
    obtain ⟨hkeys, hbuilt⟩ := ih hrest
    cases h
    refine ⟨congrArg (k :: ·) hkeys, ?_⟩
    rintro e (- | ⟨-, he⟩)
    · exact hk
    · exact hbuilt e he

end Entries

theorem Table.keys_ofList {κ α : Type} [DecidableEq κ] {es : List (κ × α)}
    (h : (es.map Prod.fst).Nodup) : (ofList es).keys = es.map Prod.fst := by
  rw [keys, ofList, toList_putAll]
  exact congrArg _ (Entries.foldl_put_of_nodup es [] h)

theorem Table.get?_ofList {κ α : Type} [DecidableEq κ] {es : List (κ × α)}
    (h : (es.map Prod.fst).Nodup) (k : κ) : (ofList es).get? k = es.lookup k := by
  rw [ofList, get?_putAll _ h, get?_empty, Option.or_none]

/-! ## Countries -/

/-- A country without rules of its own follows the general ones. -/
theorem Defaults.rulesIn_of_notMem {d : Defaults} {country : String}
    (h : country ∉ d.countryRules.keys) : d.rulesIn country = d.rules := by
  rw [rulesIn, Table.get?_eq_none_iff.mpr h]
  rfl

/-- The region without a name has no rules of its own. -/
theorem Vehicle.unnamed_notMem (v : Vehicle) : "" ∉ v.defaults.countryRules.keys := by
  cases v <;> decide

/-! ## Rosters and fleets -/

/-- No class is named twice if none of the list is known and none comes again. -/
theorem repeatedVehicle?_eq_none_iff_of_seen (seen vs : List Vehicle) :
    repeatedVehicle? seen vs = none ↔ vs.Nodup ∧ ∀ v ∈ vs, v ∉ seen := by
  induction vs generalizing seen with
  | nil => exact iff_of_true rfl ⟨List.nodup_nil, nofun⟩
  | cons v vs ih =>
    rw [repeatedVehicle?, List.nodup_cons, List.forall_mem_cons]
    by_cases hv : v ∈ seen
    · simp [hv]
    · rw [if_neg hv, ih]
      simp only [List.mem_cons, not_or]
      constructor
      · rintro ⟨hnodup, hnew⟩
        exact ⟨⟨fun hmem => (hnew v hmem).1 rfl, hnodup⟩, hv, fun w hw => (hnew w hw).2⟩
      · rintro ⟨⟨hfirst, hnodup⟩, -, hnew⟩
        exact ⟨hnodup, fun w hw => ⟨fun heq => hfirst (heq ▸ hw), hnew w hw⟩⟩

theorem repeatedVehicle?_eq_none_iff {vs : List Vehicle} :
    repeatedVehicle? [] vs = none ↔ vs.Nodup := by
  simp [repeatedVehicle?_eq_none_iff_of_seen]

/-- What a roster holds for a country is what creating the model of the country gives. -/
theorem Roster.create_model {v : Vehicle} {profile : Option Profile} {mode : LimitMode}
    {r : Roster} (h : Roster.build v profile mode = .ok r) (country : String) :
    Model.create v country profile mode = .ok (r.model country) := by
  obtain ⟨standard, hstandard, h⟩ := bind_eq_ok_iff.mp h
  obtain ⟨models, hmodels, h⟩ := bind_eq_ok_iff.mp h
  cases h
  obtain ⟨hkeys, hbuilt⟩ := Entries.of_mapM_eq_ok hmodels
  have hnodup : (models.map Prod.fst).Nodup := hkeys ▸ v.defaults.countryRules.nodup_keys
  unfold Roster.model
  rw [Table.get?_ofList hnodup]
  cases hfound : models.lookup country with
  | some m => exact hbuilt _ ((Entries.mem_iff_lookup hnodup).mpr hfound)
  | none =>
    -- a country that is not listed has the rules of the one without a name
    have hcountry : country ∉ v.defaults.countryRules.keys := by
      rw [← hkeys]
      intro hmem
      obtain ⟨⟨_, m⟩, hm, rfl⟩ := List.mem_map.mp hmem
      rw [(Entries.mem_iff_lookup hnodup).mp hm] at hfound
      cases hfound
    rw [Option.getD_none, ← hstandard]
    refine Model.create_congr ?_ profile mode
    rw [Defaults.rulesIn_of_notMem hcountry, Defaults.rulesIn_of_notMem v.unnamed_notMem]

/-- A roster lists the countries with rules of their own. -/
theorem Roster.keys_byCountry {v : Vehicle} {profile : Option Profile} {mode : LimitMode}
    {r : Roster} (h : Roster.build v profile mode = .ok r) :
    r.byCountry.keys = v.defaults.countryRules.keys := by
  obtain ⟨standard, -, h⟩ := bind_eq_ok_iff.mp h
  obtain ⟨models, hmodels, h⟩ := bind_eq_ok_iff.mp h
  cases h
  obtain ⟨hkeys, -⟩ := Entries.of_mapM_eq_ok hmodels
  rw [Table.keys_ofList (hkeys ▸ v.defaults.countryRules.nodup_keys), hkeys]

/-- There is a roster exactly when there is a model for each country. -/
theorem Roster.exists_build_iff {v : Vehicle} {profile : Option Profile} {mode : LimitMode} :
    (∃ r, Roster.build v profile mode = .ok r) ↔
      ∀ country, ∃ m, Model.create v country profile mode = .ok m := by
  constructor
  · rintro ⟨r, hr⟩ country
    exact ⟨_, Roster.create_model hr country⟩
  · intro h
    obtain ⟨standard, hstandard⟩ := h ""
    obtain ⟨models, hmodels⟩ := Entries.exists_mapM_iff.mpr
      fun country (_ : country ∈ v.defaults.countryRules.keys) => h country
    exact ⟨_, bind_eq_ok_iff.mpr ⟨standard, hstandard,
      bind_eq_ok_iff.mpr ⟨models, hmodels, rfl⟩⟩⟩

namespace Fleet

variable {parents : Parents} {profiles : List Profile} {mode : LimitMode} {f : Fleet}

/-- A fleet holds the roster of each class, built with the profile of the class. -/
theorem roster_of_build (h : build parents profiles mode = .ok f) (v : Vehicle) :
    Roster.build v (profiles.find? fun p => p.vehicle = v) mode = .ok (f.roster v) := by
  unfold build at h
  split at h
  · cases h
  · obtain ⟨car, hcar, h⟩ := bind_eq_ok_iff.mp h
    obtain ⟨pedestrian, hpedestrian, h⟩ := bind_eq_ok_iff.mp h
    obtain ⟨bicycle, hbicycle, h⟩ := bind_eq_ok_iff.mp h
    cases h
    cases v with
    | car => exact mapError_eq_ok_iff.mp hcar
    | pedestrian => exact mapError_eq_ok_iff.mp hpedestrian
    | bicycle => exact mapError_eq_ok_iff.mp hbicycle

/-- The model that a fleet gives for a country is the one of the country whose rules hold
there, created with the profile of the class. -/
theorem create_modelFor (h : build parents profiles mode = .ok f) (v : Vehicle)
    (country : String) :
    Model.create v (f.countryFor v country) (profiles.find? fun p => p.vehicle = v) mode =
      .ok (f.modelFor v country) :=
  Roster.create_model (roster_of_build h v) _

/-- There is a fleet exactly when no class is named twice and there is a model for each class
and country. -/
theorem exists_build_iff : (∃ f, build parents profiles mode = .ok f) ↔
    (profiles.map Profile.vehicle).Nodup ∧ ∀ v country, ∃ m,
      Model.create v country (profiles.find? fun p => p.vehicle = v) mode = .ok m := by
  constructor
  · rintro ⟨f, hf⟩
    refine ⟨?_, fun v => Roster.exists_build_iff.mp ⟨_, roster_of_build hf v⟩⟩
    unfold build at hf
    split at hf
    · cases hf
    · rename_i hnone
      exact repeatedVehicle?_eq_none_iff.mp hnone
  · rintro ⟨hnodup, hmodels⟩
    have hroster (v : Vehicle) : ∃ r,
        (Roster.build v (profiles.find? fun p => p.vehicle = v) mode).mapError FleetError.model =
          .ok r := by
      obtain ⟨r, hr⟩ := Roster.exists_build_iff.mpr (hmodels v)
      exact ⟨r, mapError_eq_ok_iff.mpr hr⟩
    -- the rosters are built in turn, and each is there
    obtain ⟨car, hcar⟩ := hroster .car
    obtain ⟨pedestrian, hpedestrian⟩ := hroster .pedestrian
    obtain ⟨bicycle, hbicycle⟩ := hroster .bicycle
    unfold build
    rw [repeatedVehicle?_eq_none_iff.mpr hnodup]
    exact ⟨_, bind_eq_ok_iff.mpr ⟨car, hcar, bind_eq_ok_iff.mpr ⟨pedestrian, hpedestrian,
      bind_eq_ok_iff.mpr ⟨bicycle, hbicycle, rfl⟩⟩⟩⟩

/-- Without profiles there is a fleet. -/
theorem exists_build (parents : Parents) (mode : LimitMode) :
    ∃ f, build parents [] mode = .ok f :=
  exists_build_iff.mpr ⟨List.nodup_nil, fun v country => ⟨_, Model.create_eq_ok v country mode⟩⟩

/-- A fleet without profiles has the models that the classes have by default. -/
theorem modelFor_of_build (h : build parents [] mode = .ok f) (v : Vehicle) (country : String) :
    f.modelFor v country = ⟨v.defaults.rulesIn (f.countryFor v country), v.defaults.tables,
      v.defaults.surfaces, v.defaults.traits, mode, v.allDefects_defaults _⟩ :=
  Except.ok.inj ((create_modelFor h v country).symm.trans (Model.create_eq_ok v _ mode))

theorem parents_of_build (h : build parents profiles mode = .ok f) : f.parents = parents := by
  unfold build at h
  split at h
  · cases h
  · obtain ⟨_, -, h⟩ := bind_eq_ok_iff.mp h
    obtain ⟨_, -, h⟩ := bind_eq_ok_iff.mp h
    obtain ⟨_, -, h⟩ := bind_eq_ok_iff.mp h
    cases h
    rfl

/-- A fleet has a model for a country alone exactly if the class has rules for it alone. -/
theorem contains_byCountry (h : build parents profiles mode = .ok f) (v : Vehicle) :
    (f.roster v).byCountry.contains = v.defaults.countryRules.contains := by
  funext country
  rw [Table.contains, Table.contains, Roster.keys_byCountry (roster_of_build h v)]

/-- The country whose rules hold is found by the rules of the class. -/
theorem countryFor_of_build (h : build parents profiles mode = .ok f) (v : Vehicle)
    (country : String) : f.countryFor v country =
      (parents.firstAlong v.defaults.countryRules.contains country).getD "" := by
  rw [countryFor, contains_byCountry h, parents_of_build h]

/-- Fleets with the same parents agree on whose rules hold in a country, whatever tunes them. -/
theorem countryFor_eq {others : List Profile} {mode' : LimitMode} {g : Fleet}
    (h : build parents profiles mode = .ok f) (h' : build parents others mode' = .ok g)
    (v : Vehicle) (country : String) : f.countryFor v country = g.countryFor v country := by
  rw [countryFor_of_build h, countryFor_of_build h']

/-- The region without a name is on no way up. -/
@[simp] theorem countryFor_unnamed (f : Fleet) (v : Vehicle) : f.countryFor v "" = "" := by
  rw [countryFor, Parents.firstAlong, if_pos rfl]
  rfl

end Fleet

end RoadSpeed
