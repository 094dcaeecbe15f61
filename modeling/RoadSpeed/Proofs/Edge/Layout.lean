import RoadSpeed.Proofs.Edge.Outcome
import RoadSpeed.Proofs.Fleet.Construction
import RoadSpeed.Proofs.Model.Totality

/-!
# The edges of a stretch

What a builder makes of a stretch, told by the tags of its segment: whether there are
edges at all, which way they run, and what they carry (specification, §4.7).

- `Edge.Runs`: an edge along a stretch or against it.
- `EdgeBuilder.Layout`: what the edges of a stretch are like.
- `EdgeBuilder.build_layout`: when a build returns, and that what it returns is laid out so.
-/

namespace RoadSpeed

/-- The edge runs along the stretch, from its start to its finish, or against it. -/
structure Edge.Runs (e : Edge) (s : Stretch) (forward : Bool) : Prop where
  source : e.source = s.source forward
  target : e.target = s.target forward
  forward_eq : e.forward = forward

theorem Model.Lays.runs {m : Model} {t : Classification} {s : Stretch} {id : Nat}
    {forward : Bool} {e : Edge} (h : m.Lays t s id forward e) : e.Runs s forward :=
  ⟨h.source, h.target, h.forward_eq⟩

namespace EdgeBuilder

/-- What the edges of a stretch are like, by the model of the segment's country. -/
structure Layout (b : EdgeBuilder) (t : Classification) (s : Stretch) (edges : List Edge) :
    Prop where
  /-- Access and limits are those of the vehicle class; only the speed off the roads may be
  the model's own. -/
  traits_eq : (b.modelFor s.segment.country).traits =
    { b.vehicle.defaults.traits with
      offroad := (b.modelFor s.segment.country).offroad }
  /-- There are none exactly where the class may not go. -/
  eq_nil_iff : edges = [] ↔ (b.modelFor s.segment.country).Barred t s.segment.tags
  /-- Otherwise the first edge runs along the stretch, and one against it follows exactly
  where the segment is not one-way for the class. -/
  directions : edges ≠ [] → ∃ there rest, edges = there :: rest ∧ there.Runs s true ∧
    (b.vehicle.OneWay (Tagged t s.segment.tags) ∧ rest = [] ∨
      ¬ b.vehicle.OneWay (Tagged t s.segment.tags) ∧ ∃ back, rest = [back] ∧ back.Runs s false)
  /-- Each edge has the given length, the category of the tags and its pass-through flag. -/
  carries : ∀ e ∈ edges, e.length = s.length ∧
    (b.modelFor s.segment.country).Classes t s.segment.tags e.category e.passThrough
  /-- Each edge has the speed of its own direction. -/
  speed : ∀ e ∈ edges, (b.modelFor s.segment.country).resolveSpeed t s.segment.tags
    ⟨e.forward, s.segment.inCity, s.segment.posted⟩ = .ok e.speed
  /-- An edge without a category stands only where the class has its opening tag, and then
  every edge of the stretch is off the roads. -/
  offroad : ∀ e ∈ edges, e.category = none →
    Tagged t s.segment.tags b.vehicle.defaults.traits.yesPath ∧
      ∀ e' ∈ edges, e'.category = none ∧ e'.passThrough = false ∧
        e'.speed = (b.modelFor s.segment.country).offroad

end EdgeBuilder

namespace Model

variable {m : Model} {t : Classification} {s : Stretch} {id : Nat}

/-- A segment has a speed in each direction in which the vehicle class may go. -/
def HasSpeeds (m : Model) (t : Classification) (s : Segment) : Prop :=
  (∃ v, m.resolveSpeed t s.tags (s.trip true) = .ok v) ∧
    (¬ m.vehicle.OneWay (Tagged t s.tags) → ∃ v, m.resolveSpeed t s.tags (s.trip false) = .ok v)

/-- The speed of an edge is the one of its own direction. -/
theorem Lays.resolveSpeed {forward : Bool} {e : Edge} (h : m.Lays t s id forward e) :
    m.resolveSpeed t s.segment.tags ⟨e.forward, s.segment.inCity, s.segment.posted⟩ =
      .ok e.speed := by
  rw [h.forward_eq]
  exact h.speed

/-- No tag of an edge without a category belongs to a rule. -/
theorem Classes.not_belongs {tags : List TagId} {passThrough : Bool}
    (h : m.Classes t tags none passThrough) : ∀ tag ∈ tags, ∀ rule, ¬ m.Belongs t tag rule := by
  cases h with
  | offroad h => exact h

/-- Where no tag belongs to a rule, an edge is off the roads. -/
theorem Lays.offroad {forward : Bool} {e : Edge} (h : m.Lays t s id forward e)
    (hnone : ∀ tag ∈ s.segment.tags, ∀ rule, ¬ m.Belongs t tag rule) :
    e.category = none ∧ e.passThrough = false ∧ e.speed = m.offroad := by
  obtain ⟨hcategory, hpass⟩ := classes_iff.mp (Classes.offroad hnone)
  obtain ⟨hcategory', hpass'⟩ := classes_iff.mp h.classes
  have hspeed : m.resolveSpeed t s.segment.tags (s.segment.trip forward) = .ok m.offroad :=
    resolveSpeed_offroad (resolveRule_eq_none_iff.mpr hnone)
  rw [h.speed] at hspeed
  exact ⟨hcategory'.symm.trans hcategory, hpass'.symm.trans hpass, Except.ok.inj hspeed⟩

/-! ## Builds that return edges -/

namespace Ends

variable {edges : List Edge} {nextId : Nat}

theorem eq_nil_iff (h : m.Ends t s id (.ok edges, nextId)) :
    edges = [] ↔ m.Barred t s.segment.tags := by
  cases h with
  | noRoad h => exact iff_of_true rfl (isRoad_eq_false_iff.mp h)
  | oneWay hroad => exact iff_of_false (List.cons_ne_nil _ _) (isRoad_eq_true_iff.mp hroad)
  | bothWays hroad => exact iff_of_false (List.cons_ne_nil _ _) (isRoad_eq_true_iff.mp hroad)

theorem directions (h : m.Ends t s id (.ok edges, nextId)) (hne : edges ≠ []) :
    ∃ there rest, edges = there :: rest ∧ there.Runs s true ∧
      (m.vehicle.OneWay (Tagged t s.segment.tags) ∧ rest = [] ∨
        ¬ m.vehicle.OneWay (Tagged t s.segment.tags) ∧
          ∃ back, rest = [back] ∧ back.Runs s false) := by
  cases h with
  | noRoad h => exact absurd rfl hne
  | oneWay hroad hthere hone =>
    exact ⟨_, _, rfl, hthere.runs, .inl ⟨isOneWay_iff.mp hone, rfl⟩⟩
  | bothWays hroad hthere htwo hback =>
    refine ⟨_, _, rfl, hthere.runs, .inr ⟨?_, _, rfl, hback.runs⟩⟩
    rw [← isOneWay_iff, htwo]
    exact Bool.false_ne_true

/-- Every edge that is returned has been laid in its direction. -/
theorem exists_lays (h : m.Ends t s id (.ok edges, nextId)) :
    ∀ e ∈ edges, ∃ id' forward, m.Lays t s id' forward e := by
  cases h with
  | noRoad h => exact fun e he => absurd he List.not_mem_nil
  | oneWay hroad hthere hone =>
    rintro e (- | ⟨-, he⟩)
    · exact ⟨_, _, hthere⟩
    · exact absurd he List.not_mem_nil
  | bothWays hroad hthere htwo hback =>
    rintro e (- | ⟨-, - | ⟨-, he⟩⟩)
    · exact ⟨_, _, hthere⟩
    · exact ⟨_, _, hback⟩
    · exact absurd he List.not_mem_nil

/-- Edges are returned unless a speed that is needed cannot be resolved. -/
theorem exists_ok_iff {outcome : Except EdgeError (List Edge)}
    (h : m.Ends t s id (outcome, nextId)) :
    (∃ edges, outcome = .ok edges) ↔
      (¬ m.Barred t s.segment.tags → m.HasSpeeds t s.segment) := by
  rw [HasSpeeds, ← isRoad_eq_true_iff, ← isOneWay_iff]
  cases h with
  | noRoad h => simp [h]
  | noEdge hroad h => simp [hroad, h]
  | oneWay hroad hthere hone => simp [hroad, hone, hthere.speed]
  | halfway hroad hthere htwo h => simp [hroad, htwo, h]
  | bothWays hroad hthere htwo hback => simp [hroad, htwo, hthere.speed, hback.speed]

end Ends

end Model

namespace EdgeBuilder

variable {b : EdgeBuilder} {t : Classification} {s : Stretch}

/-- What a build returns is laid out by the model of the segment's country, when this is a
model of the builder's class. -/
theorem layout_of_ends {edges : List Edge} {nextId : Nat} {country : String}
    {profile : Option Profile} {mode : LimitMode}
    (hcreate : Model.create b.vehicle country profile mode = .ok (b.modelFor s.segment.country))
    (h : (b.modelFor s.segment.country).Ends t s b.nextId (.ok edges, nextId)) :
    b.Layout t s edges := by
  have htraits := Model.traits_create hcreate
  refine
    { traits_eq := htraits
      eq_nil_iff := h.eq_nil_iff
      directions := Model.vehicle_create hcreate ▸ h.directions
      carries := ?_
      speed := ?_
      offroad := ?_ }
  · intro e he
    obtain ⟨_, _, hlaid⟩ := h.exists_lays e he
    exact ⟨hlaid.length, hlaid.classes⟩
  · intro e he
    obtain ⟨_, _, hlaid⟩ := h.exists_lays e he
    exact hlaid.resolveSpeed
  · intro e he hcategory
    obtain ⟨_, _, hlaid⟩ := h.exists_lays e he
    have hnone := (hcategory ▸ hlaid.classes).not_belongs
    -- without a rule, only the opening tag keeps the way from being barred
    have hopen : ¬ (b.modelFor s.segment.country).Barred t s.segment.tags := by
      rw [← h.eq_nil_iff]
      exact List.ne_nil_of_mem he
    have hyes := congrArg Traits.yesPath htraits
    refine ⟨hyes ▸ Model.tagged_yesPath hopen hnone, ?_⟩
    intro e' he'
    obtain ⟨_, _, hlaid'⟩ := h.exists_lays e' he'
    exact hlaid'.offroad hnone

/-- A builder of a fleet has for each segment the model of its class in the segment's
country. A build returns edges unless the length is negative or a speed that is needed
cannot be resolved, and what it returns is laid out by that model. -/
theorem build_layout {parents : Parents} {profiles : List Profile} {mode : LimitMode}
    (hfleet : Fleet.build parents profiles mode = .ok b.fleet) (t : Classification)
    (s : Stretch) :
    Model.create b.vehicle (b.fleet.countryFor b.vehicle s.segment.country)
        (profiles.find? fun p => p.vehicle = b.vehicle) mode =
          .ok (b.modelFor s.segment.country) ∧
      ((∃ edges, (b.build t s).1 = .ok edges) ↔ ¬ s.length < 0 ∧
        (¬ (b.modelFor s.segment.country).Barred t s.segment.tags →
          (b.modelFor s.segment.country).HasSpeeds t s.segment)) ∧
      ∀ edges, (b.build t s).1 = .ok edges → b.Layout t s edges := by
  have hcreate := Fleet.create_modelFor hfleet b.vehicle s.segment.country
  refine ⟨hcreate, ?_⟩
  have hends := b.build_ends t s
  -- everything is read off the way in which the build ended
  generalize b.build t s = result at hends ⊢
  cases hends with
  | refused h => simp [h]
  | decided hlength h =>
    refine ⟨h.exists_ok_iff.trans (and_iff_right hlength).symm, ?_⟩
    rintro edges rfl
    exact layout_of_ends hcreate h

/-- A taxonomy of the tags that bicycles go by. -/
def laneTaxonomy : Taxonomy :=
  ((Taxonomy.empty.see Bicycle.traits.yesPath).see oneWayPath).see bidirectionalBicyclePath

/-- A stretch of no category that is open to bicycles and one-way, but not for them. -/
def lane : Stretch := ⟨⟨[1, 2, 3, 9], true, .absent, ""⟩, 5, 7, 120.0⟩

/-- Bicycles go both ways on the lane, by two edges without a category. -/
theorem build_layout_lane : ∃ (b : EdgeBuilder) (there back : Edge),
    Fleet.build [] [] .clamp = .ok b.fleet ∧ b.vehicle = .bicycle ∧
      (b.build laneTaxonomy lane).1 = .ok [there, back] ∧ there.category = none ∧
        b.Layout laneTaxonomy lane [there, back] := by
  obtain ⟨f, hf⟩ := Fleet.exists_build [] .clamp
  let b : EdgeBuilder := ⟨f, .bicycle, 0⟩
  obtain ⟨hcreate, hreturns, hlayout⟩ := build_layout (b := b) hf laneTaxonomy lane
  -- the model of the fleet is known to be the one that the class has by default, on which
  -- the lookups can be run
  have hm : b.modelFor "" = _ := Except.ok.inj
    (hcreate.symm.trans (Model.create_eq_ok .bicycle (f.countryFor .bicycle "") .clamp))
  rw [f.countryFor_unnamed] at hm
  have hroad : (b.modelFor "").isRoad laneTaxonomy lane.segment.tags = true := by
    rw [hm]
    decide +kernel
  have htwo : (b.modelFor "").isOneWay laneTaxonomy lane.segment.tags = false := by
    rw [hm]
    decide +kernel
  have hrule : (b.modelFor "").resolveRule laneTaxonomy lane.segment.tags = none := by
    rw [hm]
    decide +kernel
  obtain ⟨edges, hedges⟩ := hreturns.mpr ⟨by decide, fun _ =>
    ⟨⟨_, Model.resolveSpeed_offroad hrule⟩, fun _ => ⟨_, Model.resolveSpeed_offroad hrule⟩⟩⟩
  have hlaid := hlayout edges hedges
  obtain ⟨there, rest, rfl, -, ⟨hone, -⟩ | ⟨-, back, rfl, -⟩⟩ :=
    hlaid.directions (hlaid.eq_nil_iff.not.mpr (Model.isRoad_eq_true_iff.mp hroad))
  · have hvehicle : (b.modelFor "").vehicle = .bicycle := Model.vehicle_create hcreate
    rw [Model.isOneWay_iff.mpr (hvehicle ▸ hone)] at htwo
    cases htwo
  · obtain ⟨-, hclasses⟩ := hlaid.carries there List.mem_cons_self
    have hcategory : none = there.category := by
      rw [← (Model.classes_iff.mp hclasses).1]
      exact (congrArg (Option.map AccessRule.category) hrule).symm
    exact ⟨b, there, back, hf, rfl, hedges, hcategory.symm, hlaid⟩

end EdgeBuilder

end RoadSpeed
