import RoadSpeed.Number
import RoadSpeed.Schema
import RoadSpeed.Vocabulary

/-!
# Posted limits and trips

A road segment may have a posted limit in its own direction and another one against it
(specification, §3 and §4.4). Without a limit in its own direction none is known; without one
against it the same limit holds both ways. In a document, a value that is no number, or is not
finite, or is not above zero, counts as absent; only a whole number that is too large for any
double is refused. A trip is what a speed is asked for.

- `LimitMode`: how a posted limit combines with the speed of a category (§4.2).
- `Units.toKmph`: a value in km/h. An imperial value is rounded to the nearest whole km/h, as
  posted limits are whole numbers in either system.
- `PostedValue`, `PostedLimit`: finite numbers above zero, and two of them with their units.
- `PostedLimit.inUnits`, `PostedLimit.kmph`: the limit in one direction.
- `PostedValue.ofJson`, `PostedLimit.ofJson`: the record of a limit.
- `Trip`: the direction of travel, whether the segment lies in a city, and the posted limit.
-/

namespace RoadSpeed

/-! ## Modes -/

/-- How a posted limit combines with the speed of a category (specification, §4.2,
`MaxspeedMode`). -/
inductive LimitMode where
  /-- The adjusted speed is cut down to the limit. -/
  | clamp
  /-- The limit takes the place of the base speed, before factors. -/
  | replaceBase
deriving DecidableEq, Repr

namespace LimitMode

/-- The modes in order. -/
def all : List LimitMode := [clamp, replaceBase]

/-- The name of a mode. -/
def name : LimitMode → String
  | clamp => "clamp"
  | replaceBase => "replace_base"

instance : Vocabulary LimitMode where
  title := "MaxspeedMode"
  all := all
  name := name
  find_name a := by cases a <;> rfl

instance : Inhabited LimitMode := ⟨clamp⟩

end LimitMode

/-! ## Units -/

/-- The unit system a limit was recorded in. -/
inductive Units where
  | metric
  | imperial
deriving DecidableEq, Repr, Inhabited

namespace Units

/-- The unit systems in order. -/
def all : List Units := [metric, imperial]

/-- The name of a unit system. -/
def name : Units → String
  | metric => "metric"
  | imperial => "imperial"

instance : Vocabulary Units where
  title := "Units"
  all := all
  name := name
  find_name a := by cases a <;> rfl

/-- How many km/h one mile per hour is. -/
def kmphPerMph : Float := 1.609344

/-- A value in km/h; an imperial one is rounded to a whole number, ties to even
(specification, §4.4). -/
def toKmph (units : Units) (value : Float) : Except WholeError Float :=
  match units with
  | metric => .ok value
  | imperial => (toWhole (value * kmphPerMph)).map Float.ofInt

@[simp] theorem toKmph_metric (value : Float) : metric.toKmph value = .ok value := rfl

end Units

/-! ## Limits of a segment -/

/-- A limit as posted: finite and above zero. -/
@[ext] structure PostedValue where
  value : Float
  finite : value.isFinite = true
  pos : 0 < value

namespace PostedValue

/-- The value as a limit, unless it is not finite or not above zero. -/
def of? (value : Float) : Option PostedValue :=
  if h : value.isFinite = true ∧ 0 < value then some ⟨value, h.1, h.2⟩ else none

@[simp] theorem of?_value (v : PostedValue) : of? v.value = some v := by
  rw [of?, dif_pos ⟨v.finite, v.pos⟩]

end PostedValue

/-- The posted limits of a road segment (specification, §3, `Maxspeed`). -/
@[ext] structure PostedLimit where
  units : Units := .metric
  /-- The limit in the segment's own direction. -/
  forward : Option PostedValue := none
  /-- The limit against it, where it is posted separately. -/
  backward : Option PostedValue := none

namespace PostedLimit

/-- No limit is posted. -/
def absent : PostedLimit := ⟨.metric, none, none⟩

instance : Inhabited PostedLimit := ⟨absent⟩

/-- Whether a limit is known. -/
def isKnown (p : PostedLimit) : Bool := p.forward.isSome

/-- Whether the two directions have different limits. -/
def isBidirectional (p : PostedLimit) : Bool :=
  match p.forward, p.backward with
  | some f, some b => b.value != f.value
  | _, _ => false

/-- The limit in one direction: against the segment's own direction the separate
one holds, if both are known. -/
def inUnits (p : PostedLimit) (forward : Bool) : Option PostedValue :=
  match forward, p.forward, p.backward with
  | false, some _, some b => some b
  | _, f, _ => f

/-- The limit in one direction in km/h. -/
def kmph (p : PostedLimit) (forward : Bool) : Except WholeError (Option Float) :=
  match p.inUnits forward with
  | some v => (p.units.toKmph v.value).map some
  | none => .ok none

end PostedLimit

/-! ## Limits in documents -/

/-- A posted value, none when the number is malformed (specification, §4.4). -/
def PostedValue.ofJson : Json → Checked (Option PostedValue)
  | .int n =>
    match ofWhole? n with
    | some x => .ok (PostedValue.of? x)
    | none => .error .tooLarge
  | .float x => .ok (PostedValue.of? x)
  -- truth values and texts count as absent, even if a number could be read from them
  | _ => .ok none

/-- The record of a posted limit. -/
def PostedLimit.ofJson (j : Json) : Checked PostedLimit := do
  let members ← Schema.record j
  let units := Schema.optional "units" .metric Schema.word members
  let forward := Schema.optional "forward" none PostedValue.ofJson members
  let backward := Schema.optional "backward" none PostedValue.ofJson members
  -- all three are checked before any is used, so that faults come in the order of the fields
  (units.both (forward.both backward)).map fun p => ⟨p.1, p.2.1, p.2.2⟩

/-! ## Trips -/

/-- The circumstances that a speed is asked for (specification, §3, `SpeedParams`). -/
@[ext] structure Trip where
  /-- Travel goes along the segment's own direction. -/
  forward : Bool := true
  /-- The segment lies inside a city. -/
  inCity : Bool := false
  /-- The posted limit. -/
  posted : PostedLimit := .absent

namespace Trip

instance : Inhabited Trip := ⟨⟨true, false, .absent⟩⟩

/-- The record of a trip; what is absent has its default. -/
def ofJson (j : Json) : Checked Trip := do
  let members ← Schema.record j
  let forward := Schema.optional "forward" true Schema.boolean members
  let inCity := Schema.optional "in_city" false Schema.boolean members
  let posted := Schema.optional "maxspeed" .absent PostedLimit.ofJson members
  (forward.both (inCity.both posted)).map fun p => ⟨p.1, p.2.1, p.2.2⟩

end Trip

end RoadSpeed
