import RoadSpeed.Limit
import RoadSpeed.Speed
import RoadSpeed.Tables
import RoadSpeed.Tag.Path
import RoadSpeed.Tag.Taxonomy
import RoadSpeed.Vocabulary

/-!
# Speed models

A model resolves speeds and road properties of a vehicle class from tags (specification, §4.1
to §4.3). A tag belongs to a category when it stands at the category's place or, failing that,
two levels below the root on the way to it. The last tag of a list that belongs to a known
category decides.

- `Traits`: what sets a vehicle class apart beside its tables, which are the tags that open and
  close roads to it, whether posted limits bind it, and its speed off the roads.
- `Vehicle.oneWay`: the one-way rule of a class, given which tags a road has.
- `Segment`: a road segment as the map hands it over, with its tags in the order in which the
  taxonomy reports them.
- `Model`: tables without defects, traits and the mode of posted limits.
- `Model.build`: a model, or the defects of its tables.
- `lastMatch`: what the last fitting element of a list gives.
- `Model.resolveRule`, `Model.resolveSpeed`: the category and the speed of tags.
- `Model.isRoad`, `Model.isOneWay`: whether and how a segment may be used.
-/

namespace RoadSpeed

/-! ## Traits -/

/-- The tag of one-way roads. -/
def oneWayPath : TagPath := ["hwtag", "oneway"]

/-- The tag of roads that are one-way for bicycles. -/
def oneDirectionBicyclePath : TagPath := ["hwtag", "onedir_bicycle"]

/-- The tag of roads that bicycles may use both ways. -/
def bidirectionalBicyclePath : TagPath := ["hwtag", "bidir_bicycle"]

/-- What sets a vehicle class apart beside its tables (specification, §12, `VehicleTraits`). -/
structure Traits where
  vehicle : Vehicle
  /-- The tag that makes any feature a road. -/
  yesPath : TagPath
  /-- The tag that forbids a feature. -/
  noPath : TagPath
  /-- Posted limits bind the class. -/
  respectsLimits : Bool
  /-- The speed where no road category is found. -/
  offroad : Speed

/-- Whether a road with these tags is one-way for the class: for cars by the
one-way tag, for pedestrians never, and for bicycles by their own tags first
(specification, §4.3). -/
def Vehicle.oneWay (v : Vehicle) (has : TagPath → Bool) : Bool :=
  match v with
  | .car => has oneWayPath
  | .pedestrian => false
  | .bicycle =>
    if has oneDirectionBicyclePath then true
    else if has bidirectionalBicyclePath then false
    else has oneWayPath

/-! ## Segments -/

/-- A road segment (specification, §3, `RoadFeature`). -/
structure Segment where
  tags : List TagId
  inCity : Bool := false
  posted : PostedLimit := .absent
  /-- The country, empty where no country has rules of its own. -/
  country : String := ""

namespace Segment

/-- A trip along the segment in one direction. -/
def trip (s : Segment) (forward : Bool) : Trip := ⟨forward, s.inCity, s.posted⟩

end Segment

/-! ## Models -/

/-- A speed model: tables without defects, traits and the mode of posted limits
(specification, §2, `VehicleModel`). -/
structure Model where
  rules : List AccessRule
  tables : SpeedTables
  surfaces : List SurfaceRule
  traits : Traits
  mode : LimitMode
  /-- The tables fit the access rules. -/
  sound : allDefects rules tables = []

/-- The message that lists defects (specification, §7, `VehicleModelConfigError`). -/
def defectsMessage (defects : List Defect) : String :=
  "Invalid vehicle model tables: " ++ "; ".intercalate (defects.map Defect.text)

/-- Why a speed cannot be resolved. -/
inductive ResolveError where
  /-- The posted limit has no value in km/h. -/
  | conversion (cause : WholeError)
  /-- A speed on the way breaks the rule of speeds. -/
  | component (cause : ComponentError)
  /-- The tables have no entry for a category with a rule. -/
  | noEntry (category : Category)
deriving DecidableEq, Repr

namespace ResolveError

/-- The message that says what went wrong. -/
def message : ResolveError → String
  | conversion cause => cause.message
  | component cause => cause.message
  | noEntry c => c.name ++ ": no table entry"

end ResolveError

/-- What the last element that gives something gives. -/
def lastMatch {α β : Type} (f : α → Option β) (xs : List α) : Option β :=
  xs.foldl (fun found x => (f x).or found) none

/-- Searching from the end finds the last match first. -/
theorem lastMatch_append {α β : Type} (f : α → Option β) (xs : List α) (x : α) :
    lastMatch f (xs ++ [x]) = (f x).or (lastMatch f xs) := by
  simp [lastMatch, List.foldl_append]

/-- How many segments of a path stand for its category. -/
def categoryLevel : Nat := 2

namespace Model

/-- The model with these parts, or the defects of its tables. -/
def build (rules : List AccessRule) (tables : SpeedTables) (surfaces : List SurfaceRule)
    (traits : Traits) (mode : LimitMode) : Except (List Defect) Model :=
  match h : allDefects rules tables with
  | [] => .ok ⟨rules, tables, surfaces, traits, mode, h⟩
  | d :: ds => .error (d :: ds)

/-- The vehicle class of the model. -/
def vehicle (m : Model) : Vehicle := m.traits.vehicle

/-- The speed where no road category is found (specification, §4.3, `offroad_speed`). -/
def offroad (m : Model) : Speed := m.traits.offroad

/-- The greatest base weight of the categories with a rule, zero if there is none. Path search
takes it for a bound (specification, §4.3, `max_configured_weight_speed`). -/
def maxWeight (m : Model) : Float :=
  -- each category with a rule has a speed, so that none is passed over
  match m.rules.filterMap fun r => (m.tables.speeds.get? r.category).map ByArea.maxWeight with
  | [] => 0.0
  | w :: ws => ws.foldl greater w

/-! ### Tags -/

/-- The rule of the category at a place. -/
def ruleAt? (m : Model) (path : TagPath) : Option AccessRule :=
  m.rules.find? fun r => r.category.place = path

/-- The rule that a path belongs to: at the path itself or, failing that, at its
first segments. -/
def ruleOf? (m : Model) (path : TagPath) : Option AccessRule :=
  match m.ruleAt? path with
  | some r => some r
  -- only longer paths are cut; shorter ones would lead back to themselves
  | none => if categoryLevel < path.length then m.ruleAt? (path.take categoryLevel) else none

/-- The rule that a tag belongs to. -/
def tagRule? (m : Model) (t : Classification) (tag : TagId) : Option AccessRule :=
  (t.path? tag).bind m.ruleOf?

/-- The rule that tags belong to: that of the last tag that has one (specification, §4.1). -/
def resolveRule (m : Model) (t : Classification) (tags : List TagId) : Option AccessRule :=
  lastMatch (m.tagRule? t) tags

/-- The factor of a surface: that of the last rule for its path. -/
def surfaceAt? (m : Model) (path : TagPath) : Option Factor :=
  lastMatch (fun r => if r.path = path then some r.factor else none) m.surfaces

/-- The factor of tags: that of the last tag that is a surface. -/
def surfaceFactor (m : Model) (t : Classification) (tags : List TagId) : Factor :=
  (lastMatch (fun tag => (t.path? tag).bind m.surfaceAt?) tags).getD .identity

/-- Whether one of the tags stands at a path. -/
def hasType (t : Classification) (tags : List TagId) (path : TagPath) : Bool :=
  tags.any fun tag => t.path? tag = some path

/-! ### Speeds -/

/-- The category of tags (specification, §4.3, `resolve_highway_type`). -/
def resolveCategory (m : Model) (t : Classification) (tags : List TagId) : Option Category :=
  (m.resolveRule t tags).map AccessRule.category

/-- The base speed of a category. -/
def baseSpeed (m : Model) (c : Category) (inCity : Bool) : Except ResolveError Speed :=
  match m.tables.speeds.get? c with
  | some p => .ok (p.get inCity)
  | none => .error (.noEntry c)

/-- The factor of a category. -/
def categoryFactor (m : Model) (c : Category) (inCity : Bool) : Except ResolveError Factor :=
  match m.tables.factors.get? c with
  | some p => .ok (p.get inCity)
  | none => .error (.noEntry c)

/-- The posted limit in force, in km/h. -/
def limitInForce (m : Model) (trip : Trip) : Except ResolveError (Option Float) :=
  if m.traits.respectsLimits then (trip.posted.kmph trip.forward).mapError .conversion
  else .ok none

/-- The speed of a category on a surface under a limit. -/
def speedUnder (m : Model) (c : Category) (surface : Factor) (inCity : Bool)
    (limit : Option Float) : Except ResolveError Speed := do
  let base ← match limit, m.mode with
    -- the limit takes the place of both base components
    | some l, .replaceBase => (Speed.uniform l).mapError .component
    | _, _ => m.baseSpeed c inCity
  let factor ← m.categoryFactor c inCity
  let speed ← (base.scale factor).mapError .component
  let speed ← (speed.scale surface).mapError .component
  -- the limit bounds the adjusted speed
  match limit, m.mode with
  | some l, .clamp => (speed.clamp l).mapError .component
  | _, _ => .ok speed

/-- The speed of tags on a trip; off the roads no limit counts (specification, §4.2,
`resolve_speed`). -/
def resolveSpeed (m : Model) (t : Classification) (tags : List TagId) (trip : Trip) :
    Except ResolveError Speed :=
  match m.resolveRule t tags with
  | none => .ok m.offroad
  | some rule => do
    -- the limit is converted first, and a failure of it is told before all others
    let limit ← m.limitInForce trip
    m.speedUnder rule.category (m.surfaceFactor t tags) trip.inCity limit

/-- The speed of a segment on a trip; without one, along the segment itself (specification,
§4.2, `get_speed`). -/
def speedOf (m : Model) (t : Classification) (s : Segment) (trip : Option Trip) :
    Except ResolveError Speed :=
  m.resolveSpeed t s.tags (trip.getD (s.trip true))

/-! ### Road properties -/

/-- Whether the tags say that the road is one-way (specification, §4.3, `has_one_way_tag`). -/
def hasOneWayTag (t : Classification) (tags : List TagId) : Bool := hasType t tags oneWayPath

/-- Whether the road is one-way for the model's vehicle class (specification, §4.3,
`is_one_way`). -/
def isOneWay (m : Model) (t : Classification) (tags : List TagId) : Bool :=
  m.vehicle.oneWay (hasType t tags)

/-- Whether routes may merely cross a road with these tags (specification, §4.3,
`has_pass_through_tag`). -/
def allowsPassThrough (m : Model) (t : Classification) (tags : List TagId) : Bool :=
  (m.resolveRule t tags).any AccessRule.passThrough

/-- Whether a tag belongs to a routable category (specification, §4.3, `is_road_type`). -/
def isRoadTag (m : Model) (t : Classification) (tag : TagId) : Bool :=
  (m.tagRule? t tag).any AccessRule.routable

/-- Whether the vehicle class may use a segment with these tags: the closing tag
forbids it, the opening tag allows it, and otherwise the category decides
(specification, §4.3, `is_road`). -/
def isRoad (m : Model) (t : Classification) (tags : List TagId) : Bool :=
  if hasType t tags m.traits.noPath then false
  else if hasType t tags m.traits.yesPath then true
  else (m.resolveRule t tags).any AccessRule.routable

end Model

end RoadSpeed
