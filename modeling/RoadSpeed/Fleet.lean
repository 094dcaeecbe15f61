import RoadSpeed.Defaults
import RoadSpeed.Model
import RoadSpeed.Profile.Basic
import RoadSpeed.Table

/-!
# Fleets

A fleet holds the models of all vehicle classes: one for use everywhere and one for each country
with rules of its own (specification, §4.5). All are built in advance. A region without rules of
its own follows its parent, and so on upwards. A region that is not listed has no parent; a list
of parents may run in a circle.

- `Parents.firstAlong`: the first wanted region on the way up, found by search.
- `Parents.Follows`: the same as a relation, which knows nothing of the search.
- `Defaults.model`, `Model.create`: the model of parts that replace those of a vehicle class, and
  the model of a class in a country, tuned by a profile.
- `ModelError`: a profile of another class, or tables with defects.
- `Roster`: the models of one vehicle class.
- `Fleet.build`: the fleet of profiles, at most one for a class.
- `Fleet.countryFor`, `Fleet.modelFor`: whose rules a country follows, and the model for them.
-/

namespace RoadSpeed

/-! ## Regions and their parents -/

/-- Parents by region. -/
abbrev Parents := List (String × String)

namespace Parents

/-- The parent of a region; the region without a name where none is listed. -/
def parent (parents : Parents) (region : String) : String := (parents.lookup region).getD ""

/-- The list without a region's own entry. -/
def strike (parents : Parents) (region : String) : Parents :=
  parents.filter fun e => e.1 != region

/-- Striking a region that is listed makes the list shorter. -/
theorem length_strike_lt {parents : Parents} {region parent : String}
    (h : parents.lookup region = some parent) :
    (parents.strike region).length < parents.length := by
  obtain ⟨before, after, rfl, -⟩ := List.lookup_eq_some_iff.mp h
  have hb := List.length_filter_le (fun e : String × String => e.1 != region) before
  have ha := List.length_filter_le (fun e : String × String => e.1 != region) after
  simp [strike, List.filter_append]
  omega

/-- The first region on the way up from `region` that `wanted` accepts. A region
that has been passed is struck from the list, so the search ends even where
parents run in a circle. The region without a name ends the way. -/
def firstAlong (wanted : String → Bool) (parents : Parents) (region : String) : Option String :=
  if region = "" then none
  else if wanted region then some region
  else
    match h : parents.lookup region with
    | none => none
    | some next =>
      have : (parents.strike region).length < parents.length := length_strike_lt h
      firstAlong wanted (parents.strike region) next
termination_by parents.length

/-- `Follows wanted parents region top`: going up from `region`, `top` is the first
region that is wanted. -/
inductive Follows (wanted : String → Bool) (parents : Parents) : String → String → Prop where
  | here {region : String} (named : region ≠ "") (h : wanted region = true) :
      Follows wanted parents region region
  | up {region top : String} (named : region ≠ "") (h : wanted region = false)
      (next : Follows wanted parents (parents.parent region) top) :
      Follows wanted parents region top

end Parents

/-! ## Models of vehicle classes -/

/-- Why there is no model. -/
inductive ModelError where
  /-- The profile tunes another vehicle class. -/
  | otherVehicle (profile vehicle : Vehicle)
  /-- The tables do not fit the access rules. -/
  | defective (defects : List Defect)

namespace ModelError

/-- The message that names the classes or lists the defects. -/
def message : ModelError → String
  | otherVehicle p v => "Speed profile is for " ++ p.name ++ ", not " ++ v.name
  | defective ds => defectsMessage ds

end ModelError

namespace Defaults

/-- The model that follows the rules of a country. -/
def model (d : Defaults) (country : String) (mode : LimitMode) : Except ModelError Model :=
  (Model.build (d.rulesIn country) d.tables d.surfaces d.traits mode).mapError .defective

/-- The defaults tuned by a profile. -/
def tuned (d : Defaults) (p : Profile) : Defaults :=
  { d with
    tables := p.applyTables d.tables
    surfaces := p.applySurfaces d.surfaces
    traits := { d.traits with offroad := p.applyOffroad d.traits.offroad } }

end Defaults

namespace Model

/-- The model of a vehicle class in a country, tuned by a profile of that class (specification,
§4.5, `create_vehicle_model`). -/
def create (vehicle : Vehicle) (country : String) (profile : Option Profile) (mode : LimitMode) :
    Except ModelError Model :=
  match profile with
  | none => vehicle.defaults.model country mode
  | some p =>
    if p.vehicle = vehicle then (vehicle.defaults.tuned p).model country mode
    else .error (.otherVehicle p.vehicle vehicle)

end Model

/-! ## Fleets -/

/-- The models of one vehicle class. -/
structure Roster where
  /-- The model where a country has none of its own. -/
  standard : Model
  /-- The models of countries with rules of their own. -/
  byCountry : Table String Model

namespace Roster

/-- The models of a vehicle class, the one for use everywhere first. -/
def build (vehicle : Vehicle) (profile : Option Profile) (mode : LimitMode) :
    Except ModelError Roster := do
  -- the model for use everywhere comes first, and so do its defects
  let standard ← Model.create vehicle "" profile mode
  let models ← vehicle.defaults.countryRules.keys.mapM fun country =>
    (Model.create vehicle country profile mode).map fun m => (country, m)
  return ⟨standard, .ofList models⟩

/-- The model of a country, if it has rules of its own, or else the standard one. -/
def model (r : Roster) (country : String) : Model := (r.byCountry.get? country).getD r.standard

end Roster

/-- Why there is no fleet. -/
inductive FleetError where
  /-- Two profiles tune the same vehicle class. -/
  | duplicateProfile (vehicle : Vehicle)
  /-- A model cannot be built. -/
  | model (cause : ModelError)

namespace FleetError

/-- The message that names the class or the defects. -/
def message : FleetError → String
  | duplicateProfile v => "Duplicate speed profile for " ++ v.name
  | model cause => cause.message

end FleetError

/-- The first vehicle class that a profile names after another one has. -/
def repeatedVehicle? (seen : List Vehicle) : List Vehicle → Option Vehicle
  | [] => none
  | v :: vs => if v ∈ seen then some v else repeatedVehicle? (v :: seen) vs

/-- The models of all vehicle classes and the parents of regions (specification, §4.5,
`VehicleModelFactory`). -/
structure Fleet where
  roster : Vehicle → Roster
  parents : Parents

namespace Fleet

/-- The fleet of these profiles; models are built class by class. -/
def build (parents : Parents) (profiles : List Profile) (mode : LimitMode) :
    Except FleetError Fleet :=
  match repeatedVehicle? [] (profiles.map Profile.vehicle) with
  | some v => .error (.duplicateProfile v)
  | none => do
    let roster (v : Vehicle) : Except FleetError Roster :=
      (Roster.build v (profiles.find? fun p => p.vehicle = v) mode).mapError .model
    -- the first model that cannot be built ends the work
    let car ← roster .car
    let pedestrian ← roster .pedestrian
    let bicycle ← roster .bicycle
    let rosters : Vehicle → Roster
      | .car => car
      | .pedestrian => pedestrian
      | .bicycle => bicycle
    return ⟨rosters, parents⟩

/-- The country whose rules hold in a country: itself or the first one on the way
up with rules of its own, and the one without a name if there is none. -/
def countryFor (f : Fleet) (vehicle : Vehicle) (country : String) : String :=
  (Parents.firstAlong (f.roster vehicle).byCountry.contains f.parents country).getD ""

/-- The model for a vehicle class in a country (specification, §4.5,
`get_vehicle_model_for_country`). -/
def modelFor (f : Fleet) (vehicle : Vehicle) (country : String) : Model :=
  (f.roster vehicle).model (f.countryFor vehicle country)

/-- The model for a vehicle class where no country is known (specification, §4.5,
`get_vehicle_model`). -/
def standardModel (f : Fleet) (vehicle : Vehicle) : Model := (f.roster vehicle).standard

end Fleet

end RoadSpeed
