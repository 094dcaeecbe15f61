import RoadSpeed.Proofs.Edge.Atomicity
import RoadSpeed.Proofs.Edge.Layout
import RoadSpeed.Proofs.Number.Comparison

/-!
# Stretches seen from the other end

Which end of a segment its geometry begins at is a matter of drawing. Seen from the other end the
nodes change places, and so do the two posted limits where both are known. A builder makes the same
edges of the stretch either way, in the opposite order, or fails either way.

- `PostedLimit.reversed`, `Stretch.reversed`: the stretch as seen from its other end.
- `Edge.course`: an edge but for its number and the direction of its segment.
- `Model.resolveSpeed_reversed`: each direction keeps its speed.
- `Model.edges_reversed`: the edges of a model.
- `EdgeBuilder.build_reversed`: the edges of a builder, and where both have the same speed.
-/

namespace RoadSpeed

/-! ## Limits of both directions -/

namespace PostedLimit

/-- The limits as seen from the other end of the segment: the two change places if both are
known. -/
def reversed (p : PostedLimit) : PostedLimit :=
  if p.forward.isSome ∧ p.backward.isSome then ⟨p.units, p.backward, p.forward⟩ else p

@[simp] theorem units_reversed (p : PostedLimit) : p.reversed.units = p.units := by
  unfold reversed
  split <;> rfl

/-- Seen from the other end, each direction has the limit of the opposite one. -/
theorem inUnits_reversed (p : PostedLimit) (forward : Bool) :
    p.reversed.inUnits forward = p.inUnits !forward := by
  obtain ⟨units, along, against⟩ := p
  cases along <;> cases against <;> cases forward <;> rfl

theorem kmph_reversed (p : PostedLimit) (forward : Bool) :
    p.reversed.kmph forward = p.kmph !forward := by
  unfold kmph
  rw [inUnits_reversed, units_reversed]

/-- Limits that do not differ hold both ways, whether they are known or not. -/
theorem inUnits_of_not_bidirectional {p : PostedLimit} (h : p.isBidirectional = false)
    (forward : Bool) : p.inUnits forward = p.forward := by
  obtain ⟨units, along, against⟩ := p
  cases forward with
  | true => rfl
  | false => cases along with
    | none => rfl
    | some v => cases against with
      | none => rfl
      | some w =>
        have hbeq : (w.value == v.value) = true := (Bool.not_eq_false' _).mp h
        exact congrArg some (PostedValue.ext (Order.eq_of_beq w.pos hbeq))

end PostedLimit

/-! ## Stretches and edges -/

/-- The segment as seen from its other end. -/
def Segment.reversed (s : Segment) : Segment := { s with posted := s.posted.reversed }

/-- The stretch as seen from its other end. -/
def Stretch.reversed (s : Stretch) : Stretch := ⟨s.segment.reversed, s.finish, s.start, s.length⟩

/-- An edge but for its number and the direction of its segment. -/
def Edge.course (e : Edge) : Edge := { e with id := 0, forward := true }

/-! ## Speeds -/

namespace Model

variable (m : Model) (t : Classification)

/-- Seen from the other end, each direction has the speed of the opposite one. -/
theorem resolveSpeed_reversed (s : Segment) (forward : Bool) :
    m.resolveSpeed t s.reversed.tags (s.reversed.trip forward) =
      m.resolveSpeed t s.tags (s.trip !forward) := by
  have hlimit : m.limitInForce (s.reversed.trip forward) = m.limitInForce (s.trip !forward) := by
    unfold limitInForce Segment.trip Segment.reversed
    rw [PostedLimit.kmph_reversed]
  have hcity : (s.reversed.trip forward).inCity = (s.trip !forward).inCity := rfl
  exact resolveSpeed_of_limit hcity hlimit

/-- Both directions have the same speed where limits do not bind or do not differ. -/
theorem resolveSpeed_both_ways {s : Segment}
    (h : m.traits.respectsLimits = false ∨ s.posted.isBidirectional = false)
    (forward forward' : Bool) :
    m.resolveSpeed t s.tags (s.trip forward) = m.resolveSpeed t s.tags (s.trip forward') := by
  have hlimit : m.limitInForce (s.trip forward) = m.limitInForce (s.trip forward') := by
    unfold limitInForce
    rcases h with hfree | hsame
    · rw [hfree]
      rfl
    · unfold Segment.trip PostedLimit.kmph
      dsimp only
      rw [PostedLimit.inUnits_of_not_bidirectional hsame,
        PostedLimit.inUnits_of_not_bidirectional hsame]
  have hcity : (s.trip forward).inCity = (s.trip forward').inCity := rfl
  exact resolveSpeed_of_limit hcity hlimit

/-! ## The edges of a model -/

variable {m t} {s : Stretch}

/-- Seen from the other end, the edge of a direction is the one of the opposite direction. -/
theorem edge_reversed (id id' : Nat) (forward : Bool) :
    (m.edge t s.reversed id forward).map Edge.course =
      (m.edge t s id' !forward).map Edge.course := by
  have hspeed : m.resolveSpeed t s.reversed.segment.tags (s.reversed.segment.trip forward) =
      m.resolveSpeed t s.segment.tags (s.segment.trip !forward) :=
    m.resolveSpeed_reversed t s.segment forward
  unfold edge
  rw [speedOf_some, speedOf_some, hspeed]
  cases m.resolveSpeed t s.segment.tags (s.segment.trip !forward) with
  | error e => rfl
  | ok speed => cases forward <;> rfl

/-- There is one reason only why an edge cannot be made. -/
theorem edge_eq_error {id : Nat} {forward : Bool} {e : EdgeError}
    (h : m.edge t s id forward = .error e) : e = .speed (.conversion .infinite) := by
  obtain ⟨cause, rfl, hcause⟩ := edge_eq_error_iff.mp h
  rw [(resolveSpeed_eq_error_iff.mp hcause).1]

/-- Seen from the other end, a way that is not one-way has the same edges in the opposite order,
or there is a direction without a speed either way. -/
theorem edges_reversed (htwo : m.isOneWay t s.segment.tags = false) (id id' : Nat) :
    (m.edges t s.reversed id).1.map (List.map Edge.course) =
      (m.edges t s id').1.map fun edges => (edges.map Edge.course).reverse := by
  have htwo' : m.isOneWay t s.reversed.segment.tags = false := htwo
  have hroad : m.isRoad t s.reversed.segment.tags = m.isRoad t s.segment.tags := rfl
  -- the first edge is the second one of the other build, and the other way round
  have hfirst : (m.edge t s.reversed id true).map Edge.course =
      (m.edge t s (id' + 1) false).map Edge.course := edge_reversed id (id' + 1) true
  have hsecond : (m.edge t s.reversed (id + 1) false).map Edge.course =
      (m.edge t s id' true).map Edge.course := edge_reversed (id + 1) id' false
  unfold edges
  rw [hroad, htwo, htwo']
  split
  · rcases map_eq_map_iff.mp hfirst with
      ⟨e, hrev, horig⟩ | ⟨back, back', hrev, horig, hback⟩
    · rcases map_eq_map_iff.mp hsecond with
        ⟨e', hrev', horig'⟩ | ⟨there, there', hrev', horig', hthere⟩
      · rw [hrev, horig']
        show Except.error e = Except.error e'
        rw [edge_eq_error hrev, edge_eq_error hrev']
      · rw [hrev, horig']
        dsimp only
        rw [horig]
        rfl
    · rcases map_eq_map_iff.mp hsecond with
        ⟨e', hrev', horig'⟩ | ⟨there, there', hrev', horig', hthere⟩
      · rw [hrev, horig']
        dsimp only
        rw [hrev']
        rfl
      · rw [hrev, horig']
        dsimp only
        rw [hrev', horig]
        simp [Except.map, hback, hthere]
  · rfl

/-- All edges of a stretch have the same speed where limits do not bind or do not differ. -/
theorem Ends.speed_eq {id nextId : Nat} {edges : List Edge}
    (h : m.Ends t s id (.ok edges, nextId))
    (hsame : m.traits.respectsLimits = false ∨ s.segment.posted.isBidirectional = false) :
    ∀ e ∈ edges, ∀ e' ∈ edges, e.speed = e'.speed := by
  intro e he e' he'
  obtain ⟨_, forward, hlaid⟩ := h.exists_lays e he
  obtain ⟨_, forward', hlaid'⟩ := h.exists_lays e' he'
  have hboth := m.resolveSpeed_both_ways t hsame forward forward'
  rw [hlaid.speed, hlaid'.speed] at hboth
  exact Except.ok.inj hboth

end Model

namespace EdgeBuilder

variable {b : EdgeBuilder}

/-- Builds of a stretch and of the same stretch seen from its other end, if it is not one-way
for the vehicle class: both fail, or both make the same edges, in opposite order. The two edges
of one build have the same speed where the class is not bound by limits or the limits of the two
directions do not differ. -/
theorem build_reversed {parents : Parents} {profiles : List Profile} {mode : LimitMode}
    (hfleet : Fleet.build parents profiles mode = .ok b.fleet) (t : Classification)
    (s : Stretch) :
    (¬ b.vehicle.OneWay (Tagged t s.segment.tags) → ∀ nextId,
      (({ b with nextId } : EdgeBuilder).build t s.reversed).1.map (List.map Edge.course) =
        (b.build t s).1.map fun edges => (edges.map Edge.course).reverse) ∧
    (b.vehicle.defaults.traits.respectsLimits = false ∨
        s.segment.posted.isBidirectional = false →
      ∀ edges, (b.build t s).1 = .ok edges → ∀ e ∈ edges, ∀ e' ∈ edges, e.speed = e'.speed) := by
  have hcreate := Fleet.create_modelFor hfleet b.vehicle s.segment.country
  constructor
  · -- the length is checked first and is the same both ways
    intro htwo nextId
    have htwo' : (b.modelFor s.segment.country).isOneWay t s.segment.tags = false := by
      rw [← Bool.not_eq_true, Model.isOneWay_iff]
      exact Model.vehicle_create hcreate ▸ htwo
    have hlength : s.reversed.length = s.length := rfl
    unfold build
    rw [hlength]
    split
    · rfl
    · exact Model.edges_reversed htwo' nextId b.nextId
  · -- without a limit of its own each way, both edges are asked for the same speed
    intro hsame edges hedges
    have htraits := congrArg Traits.respectsLimits (Model.traits_create hcreate)
    have hends := b.build_ends t s
    generalize b.build t s = result at hends hedges
    cases hends with
    | refused hlength => cases hedges
    | decided hlength h =>
      subst hedges
      exact h.speed_eq (hsame.imp_left htraits.trans)

/-- Cars go both ways on a primary road with limits of 50 and 30 miles per hour. -/
theorem build_primary (hfleet : Fleet.build [] [] .clamp = .ok b.fleet) (hcar : b.vehicle = .car) :
    ∃ there back, (b.build primaryTaxonomy (primaryStretch 50 30)).1 = .ok [there, back] := by
  have hm : b.modelFor (primaryStretch 50 30).segment.country = _ :=
    Fleet.modelFor_of_build hfleet b.vehicle ""
  rw [b.fleet.countryFor_unnamed, hcar] at hm
  have hroad : (b.modelFor (primaryStretch 50 30).segment.country).isRoad primaryTaxonomy
      (primaryStretch 50 30).segment.tags = true := by
    rw [hm]
    rfl
  have htwo : (b.modelFor (primaryStretch 50 30).segment.country).isOneWay primaryTaxonomy
      (primaryStretch 50 30).segment.tags = false := by
    rw [hm]
    rfl
  -- neither limit overflows, so that both directions have a speed
  have hspeed (forward : Bool) (cause : ResolveError) :
      (b.modelFor (primaryStretch 50 30).segment.country).resolveSpeed primaryTaxonomy
        (primaryStretch 50 30).segment.tags ((primaryStretch 50 30).segment.trip forward) ≠
          .error cause := by
    intro hnone
    obtain ⟨-, -, -, -, v, hv, hinf⟩ := Model.resolveSpeed_eq_error_iff.mp hnone
    have hlarge : ∀ x ∈ [(50 : Float), 30], (x * Units.kmphPerMph).isInf = false := by
      decide +kernel
    have hposted : v.value ∈ [(50 : Float), 30] := by
      cases forward with
      | true =>
        have hv' : PostedValue.of? 50 = some v := hv
        rw [PostedValue.of?_eq_some_iff.mp hv']
        exact List.mem_cons_self
      | false =>
        have hv' : PostedValue.of? 30 = some v := hv
        rw [PostedValue.of?_eq_some_iff.mp hv']
        exact List.mem_cons_of_mem _ List.mem_cons_self
    rw [hlarge _ hposted] at hinf
    cases hinf
  have hends := b.build_ends primaryTaxonomy (primaryStretch 50 30)
  generalize b.build primaryTaxonomy (primaryStretch 50 30) = result at hends ⊢
  cases hends with
  | refused hlength => exact absurd hlength (by decide +kernel)
  | decided hlength hends =>
    cases hends with
    | noRoad hclosed => exact absurd (hclosed.symm.trans hroad) Bool.false_ne_true
    | noEdge _ hnone => exact absurd hnone (hspeed true _)
    | oneWay _ _ hone => exact absurd (htwo.symm.trans hone) Bool.false_ne_true
    | halfway _ _ _ hnone => exact absurd hnone (hspeed false _)
    | bothWays => exact ⟨_, _, rfl⟩

/-- Cars go both ways on a primary road, and the two edges change places with its ends. Under
the same limit both ways the edges have the same speed. -/
theorem build_reversed_primary : ∃ (b : EdgeBuilder) (there back : Edge),
    Fleet.build [] [] .clamp = .ok b.fleet ∧ b.vehicle = .car ∧
      (b.build primaryTaxonomy (primaryStretch 50 30)).1 = .ok [there, back] ∧
      (({ b with nextId := 2 } : EdgeBuilder).build primaryTaxonomy
        (primaryStretch 50 30).reversed).1.map (List.map Edge.course) =
          .ok [back.course, there.course] ∧
      ∀ edges, (b.build primaryTaxonomy (primaryStretch 50 50)).1 = .ok edges →
        ∀ e ∈ edges, ∀ e' ∈ edges, e.speed = e'.speed := by
  obtain ⟨f, hf⟩ := Fleet.exists_build [] .clamp
  let b : EdgeBuilder := ⟨f, .car, 0⟩
  obtain ⟨there, back, hbuilt⟩ := build_primary (b := b) hf rfl
  obtain ⟨hreversed, -⟩ := build_reversed (b := b) hf primaryTaxonomy (primaryStretch 50 30)
  obtain ⟨-, hspeed⟩ := build_reversed (b := b) hf primaryTaxonomy (primaryStretch 50 50)
  have htwo : ¬ Vehicle.car.OneWay
      (Tagged primaryTaxonomy (primaryStretch 50 30).segment.tags) := by
    rintro ⟨tag, htag, hpath⟩
    rw [List.mem_singleton.mp htag] at hpath
    exact absurd hpath (by decide +kernel)
  have hsame : (primaryStretch 50 50).segment.posted.isBidirectional = false := by
    decide +kernel
  refine ⟨b, there, back, hf, rfl, hbuilt, ?_, hspeed (.inr hsame)⟩
  rw [hreversed htwo 2, hbuilt]
  rfl

end EdgeBuilder

end RoadSpeed
