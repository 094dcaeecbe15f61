import RoadSpeed.Json
import RoadSpeed.Profile.Basic
import RoadSpeed.Schema

/-!
# Profiles in documents

A profile is recorded as a JSON object (specification, §4.6). Only the vehicle class and, in a
setting, the weight have to be there; null stands for an eta, a setting outside the city or an
offroad setting that is left out. What is written is the record that reading takes: what a
setting leaves out stays left out, and the three dictionaries are always there.

- `Setting.ofJson`, `AreaSetting.ofJson`, `Profile.ofJson`: the records read.
- `Profile.parse`, `Profile.parseBytes`: a document as text or as bytes.
- `ProfileError`: no JSON, or JSON that is no profile.
- `Setting.toJson`, `AreaSetting.toJson`, `Profile.toJson`: the records written.
- `Profile.dump`: a profile as text.
- `Profile.roundTrips`: whether reading the text gives the profile back.
-/

namespace RoadSpeed

/-! ## Reading -/

variable {Bounds : Float → Prop}

/-- The record of a setting. -/
def Setting.ofJson (number : Json → Checked { x : Float // Bounds x }) (j : Json) :
    Checked (Setting Bounds) := do
  let members ← Schema.record j
  let weight := Schema.required "weight" number members
  let eta := Schema.optional "eta" none (Schema.nullable number) members
  (weight.both eta).map fun p => ⟨p.1, p.2⟩

/-- The record of an area setting. -/
def AreaSetting.ofJson (number : Json → Checked { x : Float // Bounds x }) (j : Json) :
    Checked (AreaSetting Bounds) := do
  let members ← Schema.record j
  let inCity := Schema.required "in_city" (Setting.ofJson number) members
  let outCity := Schema.optional "out_city" none (Schema.nullable (Setting.ofJson number)) members
  (inCity.both outCity).map fun p => ⟨p.1, p.2⟩

namespace Profile

/-- Settings by the readable names of surface tags. -/
abbrev SurfaceSettings :=
  { t : Table String (Setting Positive) // ∀ name ∈ t.keys, isSurfaceName name = true }

/-- The message for a name that does not lead below the root. -/
def surfaceNameMessage (name : String) : String :=
  "Surface name must be a classification path, got '" ++ name ++ "'"

/-- The table, if each of its names leads below the root. -/
def checkSurfaceNames (t : Table String (Setting Positive)) : Checked SurfaceSettings :=
  match h : t.keys.find? fun name => !isSurfaceName name with
  | some name => .fault (.invalid (surfaceNameMessage name))
  | none => .ok ⟨t, fun name hn => by simpa using List.find?_eq_none.mp h name hn⟩

/-- The record of the settings of categories. -/
def categorySettings (number : Json → Checked { x : Float // Bounds x }) (j : Json) :
    Checked (Table Category (AreaSetting Bounds)) :=
  (Schema.dictionary Schema.named (AreaSetting.ofJson number) j).map Table.ofList

/-- The record of the settings of surfaces. -/
def surfaceSettings (j : Json) : Checked SurfaceSettings := do
  -- names are only looked at in a dictionary without faults
  let entries ← Schema.dictionary .ok (Setting.ofJson Schema.positive) j
  checkSurfaceNames (.ofList entries)

theorem isSurfaceName_of_mem_empty :
    ∀ name ∈ (Table.empty : Table String (Setting Positive)).keys, isSurfaceName name = true := by
  decide

/-- No settings of surfaces. -/
def noSurfaces : SurfaceSettings := ⟨.empty, isSurfaceName_of_mem_empty⟩

/-- The record of a profile. -/
def ofJson (j : Json) : Checked Profile := do
  let members ← Schema.record j
  let vehicle := Schema.required "vehicle" Schema.word members
  let speeds := Schema.optional "speeds" .empty (categorySettings Schema.nonNegative) members
  let factors := Schema.optional "factors" .empty (categorySettings Schema.positive) members
  let surfaces := Schema.optional "surfaces" noSurfaces surfaceSettings members
  let offroad := Schema.optional "offroad" none
    (Schema.nullable (Setting.ofJson Schema.nonNegative)) members
  (vehicle.both (speeds.both (factors.both (surfaces.both offroad)))).map
    fun (vehicle, speeds, factors, surfaces, offroad) =>
      { vehicle, speeds, factors, offroad
        surfaces := surfaces.val
        surface_names := surfaces.property }

end Profile

/-- Why a document gives no profile (specification, §4.6). -/
inductive ProfileError where
  /-- The document is no JSON. -/
  | malformed
  /-- The JSON is no profile. -/
  | rejected (reason : Rejection)
deriving DecidableEq, Repr

namespace ProfileError

/-- The message that says how far reading came. -/
def message : ProfileError → String
  | malformed => "Invalid speed profile JSON"
  | rejected _ => "Invalid speed profile"

end ProfileError

namespace Profile

/-- The profile of what reading a document gave. -/
def ofDocument : Option Json → Except ProfileError Profile
  | none => .error .malformed
  | some j => (ofJson j).mapError .rejected

/-- The profile of a document given as text (specification, §4.6). -/
def parse (text : String) : Except ProfileError Profile :=
  ofDocument (Json.parse? .document text)

/-- The profile of a document given as bytes. -/
def parseBytes (bytes : ByteArray) : Except ProfileError Profile :=
  ofDocument (Json.parseBytes? .document bytes)

end Profile

/-! ## Writing -/

/-- The member of an object that may be left out. -/
def memberOf {α : Type} (name : String) (toJson : α → Json) : Option α → List (String × Json)
  | some a => [(name, toJson a)]
  | none => []

/-- The record of a setting. -/
def Setting.toJson (s : Setting Bounds) : Json :=
  .obj (("weight", .float s.weight) :: memberOf "eta" (fun x => .float x.val) s.eta)

/-- The record of an area setting. -/
def AreaSetting.toJson (s : AreaSetting Bounds) : Json :=
  .obj (("in_city", s.inCity.toJson) :: memberOf "out_city" Setting.toJson s.outCity)

/-- A dictionary whose keys are written by `name`. -/
def dictionaryOf {κ α : Type} (name : κ → String) (toJson : α → Json) (t : Table κ α) : Json :=
  .obj (t.toList.map fun e => (name e.1, toJson e.2))

namespace Profile

/-- The record of a profile. -/
def toJson (p : Profile) : Json :=
  .obj ([
    ("vehicle", .str p.vehicle.name),
    ("speeds", dictionaryOf Category.name AreaSetting.toJson p.speeds),
    ("factors", dictionaryOf Category.name AreaSetting.toJson p.factors),
    ("surfaces", dictionaryOf id Setting.toJson p.surfaces)] ++
    memberOf "offroad" Setting.toJson p.offroad)

/-- A profile as text. -/
def dump (p : Profile) : String := p.toJson.toText

/-- Whether reading the text of a profile gives it back, if it can be read. -/
def roundTrips (p : Profile) : Except ProfileError Bool := (parse p.dump).map (p == ·)

end Profile

end RoadSpeed
