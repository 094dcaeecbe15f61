import RoadSpeed.Model
import RoadSpeed.Tables

/-!
# Defaults of vehicle classes

What a vehicle class comes with: access rules, countries with access rules of their own, tables,
surface rules and traits. They are static data (specification, §9).

Cars use all roads for motor traffic and are bound by posted limits. Off the roads a car can
hardly move; its speed there is just above zero, so that routes leave the roads only as a last
resort. Pedestrians walk at about the same speed everywhere; busy roads are walkable but less
pleasant and weigh more in path search. Trunk roads are open to them only in some countries.
Bicycles may use trunk roads, though not merely cross them, except in countries that close them
to bicycles. Off the roads a bicycle is pushed.

- `Defaults`: the parts.
- `Defaults.rulesIn`: the access rules in force in a country.
- `allowed`, `plainFactors`: the plainest rules and factors.
- `Vehicle.defaults`: what each vehicle class comes with.
- `vehicle_defaults`: the traits of a class are marked with the class itself.
-/

namespace RoadSpeed

/-- What a vehicle class comes with. -/
structure Defaults where
  /-- The access rules where a country has none of its own. -/
  rules : List AccessRule
  /-- The countries with access rules of their own. -/
  countryRules : Table String (List AccessRule)
  tables : SpeedTables
  surfaces : List SurfaceRule
  traits : Traits

namespace Defaults

/-- The access rules in force in a country. -/
def rulesIn (d : Defaults) (country : String) : List AccessRule :=
  (d.countryRules.get? country).getD d.rules

/-- The countries with access rules of their own, by name. -/
def countries (d : Defaults) : List (String × List AccessRule) :=
  d.countryRules.toList.mergeSort fun a b => a.1 ≤ b.1

end Defaults

/-- Rules that allow each of the categories. -/
def allowed (categories : List Category) : List AccessRule :=
  categories.map fun c => ⟨c, true, true⟩

/-- The factor that changes nothing for each category with a speed. -/
def plainFactors (speeds : Table Category (ByArea Speed)) : Table Category (ByArea Factor) :=
  speeds.map fun _ _ => .same .identity

/-! ## Cars -/

namespace Car

open Category

/-- The base speeds. -/
def speeds : Table Category (ByArea Speed) := .ofList [
  (motorway, ⟨.literal 100.0 90.0, .literal 115.0 110.0⟩),
  (motorwayLink, ⟨.literal 60.0 55.0, .literal 75.0 70.0⟩),
  (trunk, ⟨.literal 90.0 80.0, .literal 105.0 100.0⟩),
  (trunkLink, ⟨.literal 55.0 50.0, .literal 70.0 65.0⟩),
  (primary, ⟨.literal 60.0 55.0, .literal 85.0 80.0⟩),
  (primaryLink, ⟨.literal 45.0 40.0, .literal 60.0 55.0⟩),
  (secondary, ⟨.literal 50.0 45.0, .literal 75.0 70.0⟩),
  (secondaryLink, ⟨.literal 40.0 35.0, .literal 50.0 45.0⟩),
  (tertiary, ⟨.literal 40.0 38.0, .literal 60.0 55.0⟩),
  (tertiaryLink, ⟨.literal 30.0 28.0, .literal 40.0 35.0⟩),
  (unclassified, ⟨.literal 30.0 28.0, .literal 45.0 40.0⟩),
  (road, ⟨.literal 25.0 22.0, .literal 35.0 30.0⟩),
  (residential, ⟨.literal 25.0 22.0, .literal 30.0 28.0⟩),
  (livingStreet, ⟨.literal 10.0 10.0, .literal 12.0 12.0⟩),
  (service, ⟨.literal 15.0 12.0, .literal 20.0 18.0⟩),
  (track, .same (.literal 5.0 5.0)),
  (pier, .same (.literal 10.0 10.0)),
  (motorail, .same (.literal 25.0 25.0)),
  (ferry, .same (.literal 10.0 10.0)),
  (shuttleTrain, .same (.literal 25.0 25.0))]

/-- The factors: quiet streets weigh more in path search, and travel times on them
stay as they are. -/
def factors : Table Category (ByArea Factor) :=
  (plainFactors speeds).putAll [
    (residential, .same (.literal 0.9 1.0)),
    (livingStreet, .same (.literal 0.75 1.0)),
    (service, .same (.literal 0.8 1.0))]

/-- The access rules: service roads are not for crossing. -/
def rules : List AccessRule :=
  allowed [motorway, motorwayLink, trunk, trunkLink, primary, primaryLink, secondary,
    secondaryLink, tertiary, tertiaryLink, unclassified, road, residential, livingStreet] ++
  [⟨service, false, true⟩] ++
  allowed [track, pier, motorail, ferry, shuttleTrain]

/-- The factors of surfaces. -/
def surfaces : List SurfaceRule := [
  .named "psurface-paved_good" .identity,
  .named "psurface-paved_bad" (.literal 0.5 0.5),
  .named "psurface-unpaved_good" (.literal 0.4 0.8),
  .named "psurface-unpaved_bad" (.literal 0.1 0.3)]

/-- The traits. -/
def traits : Traits where
  vehicle := .car
  yesPath := ["hwtag", "yescar"]
  noPath := ["hwtag", "nocar"]
  respectsLimits := true
  offroad := .literal 0.01 0.01

/-- What cars come with: no country has rules of its own. -/
def defaults : Defaults where
  rules := rules
  countryRules := .empty
  tables := ⟨speeds, factors⟩
  surfaces := surfaces
  traits := traits

end Car

/-! ## Pedestrians -/

namespace Pedestrian

open Category

/-- The base speeds. -/
def speeds : Table Category (ByArea Speed) := .ofList [
  (trunk, .same (.literal 1.0 5.0)),
  (trunkLink, .same (.literal 1.0 5.0)),
  (primary, .same (.literal 2.0 5.0)),
  (primaryLink, .same (.literal 2.0 5.0)),
  (secondary, .same (.literal 3.0 5.0)),
  (secondaryLink, .same (.literal 3.0 5.0)),
  (tertiary, .same (.literal 4.0 5.0)),
  (tertiaryLink, .same (.literal 4.0 5.0)),
  (unclassified, .same (.literal 4.5 5.0)),
  (road, .same (.literal 4.0 5.0)),
  (residential, .same (.literal 4.5 5.0)),
  (livingStreet, .same (.literal 5.0 5.0)),
  (service, .same (.literal 5.0 5.0)),
  (track, .same (.literal 5.0 5.0)),
  (path, .same (.literal 5.0 5.0)),
  (footway, .same (.literal 5.0 5.0)),
  (pedestrian, .same (.literal 5.0 5.0)),
  (cycleway, .same (.literal 4.0 5.0)),
  (bridleway, .same (.literal 4.0 5.0)),
  (steps, .same (.literal 3.0 3.0)),
  (pier, .same (.literal 5.0 5.0)),
  (ferry, .same (.literal 10.0 10.0))]

/-- The factors. -/
def factors : Table Category (ByArea Factor) := plainFactors speeds

/-- The access rules where trunk roads are closed. -/
def rulesWithoutTrunk : List AccessRule :=
  allowed [primary, primaryLink, secondary, secondaryLink, tertiary, tertiaryLink, unclassified,
    road, residential, livingStreet, service, track, path, footway, pedestrian, cycleway,
    bridleway, steps, pier, ferry]

/-- The access rules where trunk roads are open. -/
def rulesWithTrunk : List AccessRule := rulesWithoutTrunk ++ allowed [trunk, trunkLink]

/-- The countries where walking along trunk roads is legal. -/
def countryRules : Table String (List AccessRule) := .ofList [
  ("Belarus", rulesWithTrunk),
  ("Brazil", rulesWithTrunk),
  ("Russian Federation", rulesWithTrunk),
  ("Ukraine", rulesWithTrunk)]

/-- The factors of surfaces. -/
def surfaces : List SurfaceRule := [
  .named "psurface-paved_good" .identity,
  .named "psurface-paved_bad" .identity,
  .named "psurface-unpaved_good" .identity,
  .named "psurface-unpaved_bad" (.literal 0.8 0.8)]

/-- The traits. -/
def traits : Traits where
  vehicle := .pedestrian
  yesPath := ["hwtag", "yesfoot"]
  noPath := ["hwtag", "nofoot"]
  respectsLimits := false
  offroad := .literal 3.0 3.0

/-- What pedestrians come with. -/
def defaults : Defaults where
  rules := rulesWithoutTrunk
  countryRules := countryRules
  tables := ⟨speeds, factors⟩
  surfaces := surfaces
  traits := traits

end Pedestrian

/-! ## Bicycles -/

namespace Bicycle

open Category

/-- The base speeds. -/
def speeds : Table Category (ByArea Speed) := .ofList [
  (trunk, .same (.literal 3.0 18.0)),
  (trunkLink, .same (.literal 3.0 18.0)),
  (primary, .same (.literal 8.0 18.0)),
  (primaryLink, .same (.literal 8.0 18.0)),
  (secondary, .same (.literal 12.0 18.0)),
  (secondaryLink, .same (.literal 12.0 18.0)),
  (tertiary, .same (.literal 15.0 18.0)),
  (tertiaryLink, .same (.literal 15.0 18.0)),
  (unclassified, .same (.literal 16.0 16.0)),
  (road, .same (.literal 14.0 14.0)),
  (residential, .same (.literal 16.0 16.0)),
  (livingStreet, .same (.literal 10.0 10.0)),
  (service, .same (.literal 14.0 14.0)),
  (track, ⟨.literal 10.0 10.0, .literal 12.0 12.0⟩),
  (path, ⟨.literal 10.0 10.0, .literal 12.0 12.0⟩),
  (cycleway, .same (.literal 20.0 18.0)),
  (footway, .same (.literal 5.0 8.0)),
  (pedestrian, .same (.literal 5.0 8.0)),
  (bridleway, .same (.literal 6.0 6.0)),
  (steps, .same (.literal 1.0 1.0)),
  (pier, .same (.literal 6.0 6.0)),
  (ferry, .same (.literal 10.0 10.0))]

/-- The factors: busy city traffic is slower than the open road. -/
def factors : Table Category (ByArea Factor) :=
  (plainFactors speeds).put primary ⟨.literal 0.8 0.9, .identity⟩

/-- The access rules where trunk roads are closed; bridleways are closed everywhere. -/
def rulesWithoutTrunk : List AccessRule :=
  allowed [primary, primaryLink, secondary, secondaryLink, tertiary, tertiaryLink, unclassified,
    road, residential, livingStreet, service, track, path, cycleway, footway, pedestrian] ++
  [⟨bridleway, true, false⟩] ++
  allowed [steps, pier, ferry]

/-- The access rules where trunk roads are open. -/
def rulesWithTrunk : List AccessRule :=
  rulesWithoutTrunk ++ [⟨trunk, false, true⟩, ⟨trunkLink, false, true⟩]

/-- The countries where cycling on trunk roads is forbidden. -/
def countryRules : Table String (List AccessRule) := .ofList [
  ("Denmark", rulesWithoutTrunk),
  ("Germany", rulesWithoutTrunk),
  ("Netherlands", rulesWithoutTrunk)]

/-- The factors of surfaces. -/
def surfaces : List SurfaceRule := [
  .named "psurface-paved_good" .identity,
  .named "psurface-paved_bad" (.literal 0.8 0.8),
  .named "psurface-unpaved_good" (.literal 0.8 0.8),
  .named "psurface-unpaved_bad" (.literal 0.5 0.5)]

/-- The traits. -/
def traits : Traits where
  vehicle := .bicycle
  yesPath := ["hwtag", "yesbicycle"]
  noPath := ["hwtag", "nobicycle"]
  respectsLimits := false
  offroad := .literal 3.0 3.0

/-- What bicycles come with. -/
def defaults : Defaults where
  rules := rulesWithTrunk
  countryRules := countryRules
  tables := ⟨speeds, factors⟩
  surfaces := surfaces
  traits := traits

end Bicycle

/-! ## By vehicle class -/

/-- What a vehicle class comes with. -/
def Vehicle.defaults : Vehicle → Defaults
  | .car => Car.defaults
  | .pedestrian => Pedestrian.defaults
  | .bicycle => Bicycle.defaults

/-- The traits of a class are marked with the class itself. -/
@[simp] theorem vehicle_defaults (v : Vehicle) : v.defaults.traits.vehicle = v := by
  cases v <;> rfl

end RoadSpeed
