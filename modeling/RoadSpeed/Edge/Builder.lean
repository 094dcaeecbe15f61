import RoadSpeed.Fleet
import RoadSpeed.Speed
import RoadSpeed.Vocabulary

/-!
# Edges of the road graph

An edge runs from one node of the road graph to another. Its travel times follow from its length
in metres and its speed in km/h. A stretch of road becomes a pair of opposite edges, one edge
where it is one-way, and none where the vehicle class may not use it (specification, §4.7). Edges
are numbered from zero on in the order in which they are made.

- `travelTime`: seconds for a length at a speed.
- `Edge`, `Edge.weightTime`, `Edge.etaTime`: a directed edge, its cost in path search and its
  travel time.
- `Stretch`: a segment between two nodes.
- `EdgeBuilder`: a vehicle class of a fleet and the next number.
- `EdgeBuilder.build`: the edges of a stretch. A number that an edge has taken stays taken, also
  when the opposite edge cannot be made.
-/

namespace RoadSpeed

/-! ## Edges -/

/-- The number of a node in the road graph. -/
abbrev NodeId := Int

/-- Why there is no travel time. -/
inductive TravelError where
  /-- The speed in metres per second is too small for a double. -/
  | zeroRate
deriving DecidableEq, Repr

namespace TravelError

/-- The message that says what went wrong. -/
def message : TravelError → String
  | zeroRate => "float division by zero"

end TravelError

/-- Metres per second in one km/h. -/
def kmphInMetresPerSecond : Float := 1000.0 / 3600.0

/-- Seconds for a length in metres at a speed in km/h; infinite where nothing moves
(specification, §4.7). -/
def travelTime (length speed : Float) : Except TravelError Float :=
  if speed ≤ 0 then .ok (1.0 / 0.0)
  else
    -- the least double above zero has no rate above zero
    let rate := speed * kmphInMetresPerSecond
    if rate == 0 then .error .zeroRate else .ok (length / rate)

/-- A directed edge of the road graph (specification, §4.7, `Edge`). -/
@[ext] structure Edge where
  id : Nat
  source : NodeId
  target : NodeId
  /-- The length in metres. -/
  length : Float
  /-- The road category, none off the roads. -/
  category : Option Category
  speed : Speed
  /-- Routes may merely cross the edge. -/
  passThrough : Bool
  /-- The edge runs in the segment's own direction. -/
  forward : Bool

namespace Edge

/-- What path search minimises (specification, §4.7, `weight_s`). -/
def weightTime (e : Edge) : Except TravelError Float := travelTime e.length e.speed.weight

/-- The expected travel time (specification, §4.7, `eta_s`). -/
def etaTime (e : Edge) : Except TravelError Float := travelTime e.length e.speed.eta

end Edge

/-! ## Building edges -/

/-- A segment between two nodes. -/
structure Stretch where
  segment : Segment
  start : NodeId
  finish : NodeId
  /-- The length in metres. -/
  length : Float

namespace Stretch

/-- Where travel in a direction begins. -/
def source (s : Stretch) (forward : Bool) : NodeId := if forward then s.start else s.finish

/-- Where travel in a direction ends. -/
def target (s : Stretch) (forward : Bool) : NodeId := if forward then s.finish else s.start

end Stretch

/-- Why edges cannot be made. -/
inductive EdgeError where
  | negativeLength
  /-- The speed in one direction cannot be resolved. -/
  | speed (cause : ResolveError)
deriving DecidableEq, Repr

namespace EdgeError

/-- The message that says what went wrong. -/
def message : EdgeError → String
  | negativeLength => "length_m must be non-negative"
  | speed cause => cause.message

end EdgeError

/-- The edge of a stretch in one direction. -/
def Model.edge (m : Model) (t : Classification) (s : Stretch) (id : Nat) (forward : Bool) :
    Except EdgeError Edge :=
  match m.speedOf t s.segment (s.segment.trip forward) with
  | .error e => .error (.speed e)
  | .ok speed => .ok
    { id, speed, forward
      source := s.source forward
      target := s.target forward
      length := s.length
      category := m.resolveCategory t s.segment.tags
      passThrough := m.allowsPassThrough t s.segment.tags }

/-- The edges of a stretch, numbered from `id` on, and the next number. -/
def Model.edges (m : Model) (t : Classification) (s : Stretch) (id : Nat) :
    Except EdgeError (List Edge) × Nat :=
  if m.isRoad t s.segment.tags then
    match m.edge t s id true with
    | .error e => (.error e, id)
    | .ok there =>
      if m.isOneWay t s.segment.tags then (.ok [there], id + 1)
      else
        match m.edge t s (id + 1) false with
        -- the edge that was made keeps its number
        | .error e => (.error e, id + 1)
        | .ok back => (.ok [there, back], id + 2)
  else (.ok [], id)

/-- A vehicle class of a fleet and the number of the next edge (specification, §4.7,
`EdgeBuilder`). -/
structure EdgeBuilder where
  fleet : Fleet
  vehicle : Vehicle
  nextId : Nat := 0

namespace EdgeBuilder

/-- The model that a country's segments are built with. -/
def modelFor (b : EdgeBuilder) (country : String) : Model := b.fleet.modelFor b.vehicle country

/-- The edges of a stretch and the builder for the next one (specification, §4.7). -/
def build (b : EdgeBuilder) (t : Classification) (s : Stretch) :
    Except EdgeError (List Edge) × EdgeBuilder :=
  if s.length < 0 then (.error .negativeLength, b)
  else
    let (edges, nextId) := (b.modelFor s.segment.country).edges t s b.nextId
    (edges, { b with nextId })

/-- The outcomes of a run of builds and the builder after it. -/
def run (b : EdgeBuilder) : List (Classification × Stretch) →
    List (Except EdgeError (List Edge)) × EdgeBuilder
  | [] => ([], b)
  | (t, s) :: rest =>
    let (edges, b) := b.build t s
    let (outcomes, b) := run b rest
    (edges :: outcomes, b)

end EdgeBuilder

end RoadSpeed
