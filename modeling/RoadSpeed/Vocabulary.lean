import RoadSpeed.Text

/-!
# Vocabularies

A vocabulary is a closed list of values, each known by a name of its own. Values are looked
up by their exact name; a word that is no name is refused with a message that quotes it.
Two vocabularies run through all tables: the categories of roads, whose names are the
readable names of their places in the map's classification, and the classes of travellers
that have a speed model of their own (specification, §3).

- `Vocabulary`: the values, their names and the law that a name finds its value.
- `Vocabulary.ofName?`, `Vocabulary.parse`: looking a name up.
- `Vocabulary.label`: the name in capitals.
- `name_injective`: names tell values apart.
- `Category`, `Vehicle`: the categories of roads and the classes of travellers.
-/

namespace RoadSpeed

/-- A closed list of values with names. -/
class Vocabulary (α : Type) where
  /-- What the vocabulary is called in messages. -/
  title : String
  /-- The values in order. -/
  all : List α
  /-- The name of a value. -/
  name : α → String
  /-- A name finds its value. -/
  find_name : ∀ a, all.find? (fun b => name b == name a) = some a

/-- A word that names no value of the vocabulary called `title`. -/
structure UnknownWord where
  title : String
  word : String
deriving DecidableEq, Repr

namespace UnknownWord

/-- The message that quotes the word. -/
def message (e : UnknownWord) : String :=
  s!"{Text.quoted e.word} is not a valid {e.title}"

end UnknownWord

namespace Vocabulary

variable {α : Type} [Vocabulary α]

/-- The value with this name. -/
def ofName? (word : String) : Option α := (all : List α).find? fun b => name b == word

/-- The value with this name, or the reason why there is none. -/
def parse (α : Type) [Vocabulary α] (word : String) : Except UnknownWord α :=
  match ofName? word with
  | some a => .ok a
  | none => .error ⟨title α, word⟩

/-- The name in capitals, with underscores for dashes. -/
def label (a : α) : String :=
  String.ofList ((name a).toList.map fun c => if c = '-' then '_' else c.toUpper)

@[simp] theorem ofName?_name (a : α) : ofName? (name a) = some a := find_name a

/-- Names tell values apart. -/
theorem name_injective {a b : α} (h : name a = name b) : a = b := by
  have ha := ofName?_name a
  rw [h, ofName?_name] at ha
  exact (Option.some.inj ha).symm

/-- What a name finds has that name. -/
theorem name_of_ofName? {word : String} {a : α} (h : ofName? word = some a) : name a = word := by
  simpa using List.find?_some h

end Vocabulary

/-! ## Categories of roads -/

/-- A road category (specification, §3, `HighwayType`). -/
inductive Category where
  | motorway
  | motorwayLink
  | trunk
  | trunkLink
  | primary
  | primaryLink
  | secondary
  | secondaryLink
  | tertiary
  | tertiaryLink
  | unclassified
  | road
  | residential
  | livingStreet
  | service
  | track
  | path
  | footway
  | cycleway
  | bridleway
  | pedestrian
  | steps
  | pier
  | motorail
  | ferry
  | shuttleTrain
deriving DecidableEq, Repr, Inhabited

namespace Category

/-- The categories in order. -/
def all : List Category :=
  [motorway, motorwayLink, trunk, trunkLink, primary, primaryLink, secondary, secondaryLink,
    tertiary, tertiaryLink, unclassified, road, residential, livingStreet, service, track, path,
    footway, cycleway, bridleway, pedestrian, steps, pier, motorail, ferry, shuttleTrain]

/-- The readable name of a category. -/
def name : Category → String
  | motorway => "highway-motorway"
  | motorwayLink => "highway-motorway_link"
  | trunk => "highway-trunk"
  | trunkLink => "highway-trunk_link"
  | primary => "highway-primary"
  | primaryLink => "highway-primary_link"
  | secondary => "highway-secondary"
  | secondaryLink => "highway-secondary_link"
  | tertiary => "highway-tertiary"
  | tertiaryLink => "highway-tertiary_link"
  | unclassified => "highway-unclassified"
  | road => "highway-road"
  | residential => "highway-residential"
  | livingStreet => "highway-living_street"
  | service => "highway-service"
  | track => "highway-track"
  | path => "highway-path"
  | footway => "highway-footway"
  | cycleway => "highway-cycleway"
  | bridleway => "highway-bridleway"
  | pedestrian => "highway-pedestrian"
  | steps => "highway-steps"
  | pier => "man_made-pier"
  | motorail => "railway-rail-motor_vehicle"
  | ferry => "route-ferry"
  | shuttleTrain => "route-shuttle_train"

instance : Vocabulary Category where
  title := "HighwayType"
  all := all
  name := name
  find_name a := by cases a <;> rfl

end Category

/-! ## Classes of travellers -/

/-- A vehicle class (specification, §2). -/
inductive Vehicle where
  | car
  | pedestrian
  | bicycle
deriving DecidableEq, Repr, Inhabited

namespace Vehicle

/-- The vehicle classes in order. -/
def all : List Vehicle := [car, pedestrian, bicycle]

/-- The name of a vehicle class. -/
def name : Vehicle → String
  | car => "car"
  | pedestrian => "pedestrian"
  | bicycle => "bicycle"

instance : Vocabulary Vehicle where
  title := "VehicleType"
  all := all
  name := name
  find_name a := by cases a <;> rfl

end Vehicle

end RoadSpeed
