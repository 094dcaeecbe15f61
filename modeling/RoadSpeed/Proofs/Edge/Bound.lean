import RoadSpeed.Proofs.Edge.Layout
import RoadSpeed.Proofs.Model.Bound

/-!
# Edges above the bound

Where a posted limit takes the place of the base speed, the bound of a model says nothing
about the edges of cars: a limit above it makes an edge that is heavier. Edges stay within
the bound exactly as long as the limits that count do. Path search takes the bound of the
model for its heuristic (specification, §4.3).

- `PostedLimit.Within`: the limits of a segment are at or below a bound.
- `Model.Tame.edges_le`: where edges stay within the bound.
- `motorwayTaxonomy`, `motorway`, `Model.exists_edge_at_limit`: a stretch of motorway whose
  edge weighs what its limit says.
- `EdgeBuilder.weights_le_iff`: both directions for the builders of a fleet.
-/

namespace RoadSpeed

/-- Where the limit along a segment has a value, the limits of both directions are at or
below a bound. -/
def PostedLimit.Within (p : PostedLimit) (bound : Float) : Prop :=
  (∃ along, p.kmph true = .ok (some along)) →
    ∀ forward limit, p.kmph forward = .ok (some limit) → limit ≤ bound

/-- A metric value that is posted for the segment holds in both directions. -/
theorem PostedLimit.kmph_metric {x : Float} (h : x.isFinite = true ∧ 0 < x) (forward : Bool) :
    (⟨.metric, PostedValue.of? x, none⟩ : PostedLimit).kmph forward = .ok (some x) := by
  rw [PostedValue.of?_eq_some h]
  cases forward <;> rfl

namespace Model

variable {m : Model} {t : Classification} {s : Stretch} {id : Nat}

/-! ## Edges within the bound -/

/-- Where a limit is in force and the edge along the segment has a speed, the limit along the
segment has a value. -/
theorem InForce.exists_along {seg : Segment} {forward : Bool} {limit : Float}
    {along : Option Float} (h : m.InForce (seg.trip forward) (some limit))
    (halong : m.InForce (seg.trip true) along) : ∃ l, seg.posted.kmph true = .ok (some l) := by
  cases along with
  | some l => exact ⟨l, halong.kmph_eq.2⟩
  | none =>
    obtain ⟨hbound, hkmph⟩ := h.kmph_eq
    obtain ⟨v, hactive, -⟩ := PostedLimit.kmph_eq_some_iff.mp hkmph
    obtain ⟨w, hw⟩ := hactive.exists_along
    cases halong with
    | unbound hfree =>
      rw [hbound] at hfree
      cases hfree
    | unposted _ hnone => exact absurd hw (hnone w)

/-- An edge beside one along the segment weighs no more than the bound of a tame model, if
the limits that bind the class are within it. -/
theorem Tame.lays_le (htame : m.Tame)
    (hwithin : m.traits.respectsLimits = true → s.segment.posted.Within m.maxWeight)
    {id' : Nat} {forward : Bool} {there e : Edge} (hthere : m.Lays t s id true there)
    (he : m.Lays t s id' forward e) : e.speed.weight ≤ m.maxWeight := by
  cases hrule : m.resolveRule t s.segment.tags with
  | none =>
    have hspeed := he.speed
    rw [resolveSpeed_offroad hrule] at hspeed
    exact Except.ok.inj hspeed ▸ htame.offroad
  | some rule =>
    rcases htame.road_le hrule he.speed with hle | ⟨-, limit, hlimit, hle⟩
    · exact hle
    · obtain ⟨along, halong⟩ := exists_inForce hrule hthere.speed
      obtain ⟨hbound, hkmph⟩ := hlimit.kmph_eq
      exact Order.le_trans hle
        (hwithin hbound (hlimit.exists_along halong) forward limit hkmph)

/-- Edges weigh no more than the bound of a tame model, if the limits that bind the class are
within it. -/
theorem Tame.edges_le (htame : m.Tame)
    (hwithin : m.traits.respectsLimits = true → s.segment.posted.Within m.maxWeight)
    {edges : List Edge} {nextId : Nat} (h : m.Ends t s id (.ok edges, nextId)) :
    ∀ e ∈ edges, e.speed.weight ≤ m.maxWeight := by
  cases h with
  | noRoad h => exact fun e he => absurd he List.not_mem_nil
  | oneWay hroad hthere hone =>
    rw [List.forall_mem_singleton]
    exact htame.lays_le hwithin hthere hthere
  | bothWays hroad hthere htwo hback =>
    rw [List.forall_mem_cons, List.forall_mem_singleton]
    exact ⟨htame.lays_le hwithin hthere hthere, htame.lays_le hwithin hthere hback⟩

/-! ## A motorway -/

/-- A taxonomy of motorways and of the one-way tag. -/
def motorwayTaxonomy : Taxonomy := (Taxonomy.empty.see Category.motorway.place).see oneWayPath

/-- A stretch of motorway out of town, one-way or not. -/
def motorway (posted : PostedLimit) (country : String) (oneWay : Bool) : Stretch :=
  ⟨⟨if oneWay then [1, 2] else [1], false, posted, country⟩, 0, 1, 100.0⟩

/-- The model of a class in which limits take the place of base speeds. -/
def replacing (v : Vehicle) (country : String) : Model :=
  ⟨v.defaults.rulesIn country, v.defaults.tables, v.defaults.surfaces, v.defaults.traits,
    .replaceBase, v.allDefects_defaults country⟩

variable (c : String) (posted : PostedLimit) (country : String) (oneWay : Bool)

theorem isRoad_motorway : (replacing .car c).isRoad motorwayTaxonomy.classification
    (motorway posted country oneWay).segment.tags = true := by
  cases oneWay <;> rfl

theorem isOneWay_motorway : (replacing .car c).isOneWay motorwayTaxonomy.classification
    (motorway posted country oneWay).segment.tags = oneWay := by
  cases oneWay <;> rfl

theorem resolveRule_motorway : (replacing .car c).resolveRule motorwayTaxonomy.classification
    (motorway posted country oneWay).segment.tags = some ⟨.motorway, true, true⟩ := by
  cases oneWay <;> rfl

theorem surfaceFactor_motorway : (replacing .car c).surfaceFactor motorwayTaxonomy.classification
    (motorway posted country oneWay).segment.tags = .identity := by
  cases oneWay <;> rfl

variable {c posted country oneWay}

/-- On a motorway the weight is the limit, whatever it is. -/
theorem weight_of_resolveSpeed_motorway {forward : Bool} {limit : Float}
    (h : posted.kmph forward = .ok (some limit)) :
    ∃ v, (replacing .car c).resolveSpeed motorwayTaxonomy.classification
        (motorway posted country oneWay).segment.tags
        ((motorway posted country oneWay).segment.trip forward) = .ok v ∧ v.weight = limit := by
  have hbase : (replacing .car c).tables.speeds.get? .motorway =
      some ⟨.literal 100.0 90.0, .literal 115.0 110.0⟩ := rfl
  have hfactor : (replacing .car c).tables.factors.get? .motorway = some (.same .identity) := rfl
  have hlimit : (replacing .car c).InForce ((motorway posted country oneWay).segment.trip forward)
      (some limit) := inForce_of_kmph rfl h
  obtain ⟨v, hv, hweight, -⟩ := resolveSpeed_eq_ok
    (resolveRule_motorway c posted country oneWay) hlimit hbase hfactor
  refine ⟨v, hv, ?_⟩
  rw [hweight, surfaceFactor_motorway]
  show limit * 1.0 * 1.0 = limit
  rw [Double.mul_one_eq, Double.mul_one_eq]

/-- A motorway has a speed wherever it has a limit. -/
theorem resolveSpeed_motorway_ne {forward : Bool} {limit : Float} {cause : ResolveError}
    (h : posted.kmph forward = .ok (some limit)) :
    (replacing .car c).resolveSpeed motorwayTaxonomy.classification
      (motorway posted country oneWay).segment.tags
      ((motorway posted country oneWay).segment.trip forward) ≠ .error cause := by
  obtain ⟨v, hv, -⟩ := weight_of_resolveSpeed_motorway h
  rw [hv]
  intro h
  cases h

/-- An edge of a motorway weighs what the limit of its direction says. -/
theorem weight_of_lays_motorway {id : Nat} {e : Edge} {forward : Bool} {limit : Float}
    (hlimit : posted.kmph forward = .ok (some limit))
    (h : (replacing .car c).Lays motorwayTaxonomy.classification (motorway posted country oneWay) id
      forward e) : e.speed.weight = limit := by
  obtain ⟨v, hv, hweight⟩ := weight_of_resolveSpeed_motorway hlimit
  rw [← Except.ok.inj (hv.symm.trans h.speed), hweight]

/-- A stretch of motorway that is one-way, or both ways to see the direction against it, has
an edge that weighs what the limit of the direction says. -/
theorem exists_edge_at_limit {id nextId : Nat} {outcome : Except EdgeError (List Edge)}
    {forward : Bool} {along limit : Float} (halong : posted.kmph true = .ok (some along))
    (hlimit : posted.kmph forward = .ok (some limit))
    (h : (replacing .car c).Ends motorwayTaxonomy.classification (motorway posted country forward)
      id (outcome, nextId)) :
    ∃ edges, outcome = .ok edges ∧ ∃ e ∈ edges, e.speed.weight = limit := by
  have hway := isOneWay_motorway c posted country forward
  -- the stretch is a road and both limits have a value, so that two ends are left
  cases h with
  | noRoad h =>
    rw [isRoad_motorway] at h
    cases h
  | noEdge hroad h => exact absurd h (resolveSpeed_motorway_ne halong)
  | @oneWay there hroad hthere hone =>
    obtain rfl : forward = true := hway.symm.trans hone
    exact ⟨_, rfl, there, List.mem_cons_self, weight_of_lays_motorway hlimit hthere⟩
  | halfway hroad hthere htwo h =>
    obtain rfl : forward = false := hway.symm.trans htwo
    exact absurd h (resolveSpeed_motorway_ne hlimit)
  | @bothWays there back hroad hthere htwo hback =>
    obtain rfl : forward = false := hway.symm.trans htwo
    exact ⟨_, rfl, back, List.mem_cons_of_mem _ List.mem_cons_self,
      weight_of_lays_motorway hlimit hback⟩

end Model

namespace EdgeBuilder

variable {b : EdgeBuilder} {parents : Parents} {posted : PostedLimit} {country : String}

/-- The models of a fleet without profiles are those of the class by default. -/
theorem modelFor_eq (hfleet : Fleet.build parents [] .replaceBase = .ok b.fleet)
    (country : String) :
    b.modelFor country = Model.replacing b.vehicle (b.fleet.countryFor b.vehicle country) :=
  Fleet.modelFor_of_build hfleet b.vehicle country

/-- They are tame, and bound by limits if they are for cars. -/
theorem tame_modelFor (hfleet : Fleet.build parents [] .replaceBase = .ok b.fleet)
    (country : String) :
    (b.modelFor country).Tame ∧
      ((b.modelFor country).traits.respectsLimits = true ↔ b.vehicle = .car) := by
  rw [modelFor_eq hfleet country]
  exact ⟨(Model.tame_create (Model.create_eq_ok _ _ _)).2, b.vehicle.respectsLimits_iff⟩

/-- A builder for cars makes edges of motorways that weigh what their limits say. -/
theorem exists_edge_at_limit (hfleet : Fleet.build parents [] .replaceBase = .ok b.fleet)
    (hcar : b.vehicle = .car) (country : String) {forward : Bool} {along limit : Float}
    (halong : posted.kmph true = .ok (some along))
    (hlimit : posted.kmph forward = .ok (some limit)) :
    ∃ edges, (b.build Model.motorwayTaxonomy (Model.motorway posted country forward)).1 =
      .ok edges ∧ ∃ e ∈ edges, e.speed.weight = limit := by
  have hmodel := modelFor_eq hfleet country
  rw [hcar] at hmodel
  have hends := b.build_ends Model.motorwayTaxonomy (Model.motorway posted country forward)
  generalize b.build _ _ = result at hends
  cases hends with
  | refused hlength => exact absurd hlength (by decide +kernel : ¬ (100.0 : Float) < 0)
  | decided hlength hends =>
    change (b.modelFor country).Ends _ _ _ _ at hends
    rw [hmodel] at hends
    exact Model.exists_edge_at_limit halong hlimit hends

/-- The edges of a builder, where limits take the place of base speeds, weigh no more than
the bound of the model that they are built with exactly if the builder is not for cars or
the posted limits are within that bound. -/
theorem weights_le_iff (hfleet : Fleet.build parents [] .replaceBase = .ok b.fleet)
    (posted : PostedLimit) (country : String) :
    (∀ (t : Classification) (s : Stretch) (edges : List Edge), s.segment.posted = posted →
      s.segment.country = country → (b.build t s).1 = .ok edges →
        ∀ e ∈ edges, e.speed.weight ≤ (b.modelFor country).maxWeight) ↔
      (b.vehicle = .car → posted.Within (b.modelFor country).maxWeight) := by
  constructor
  · rintro h hcar ⟨along, halong⟩ forward limit hlimit
    obtain ⟨edges, hbuilt, e, he, hweight⟩ :=
      exists_edge_at_limit hfleet hcar country halong hlimit
    have hle := h _ _ edges rfl rfl hbuilt e he
    rwa [hweight] at hle
  · rintro h t s edges rfl rfl hbuilt
    obtain ⟨htame, hbinds⟩ := tame_modelFor hfleet s.segment.country
    have hends := b.build_ends t s
    generalize b.build t s = result at hends hbuilt
    cases hends with
    | refused => cases hbuilt
    | decided hlength hends =>
      cases hbuilt
      exact htame.edges_le (fun hbound => h (hbinds.mp hbound)) hends

/-- Under a limit of 110 km/h all edges of cars are within the bound. -/
theorem weights_le_under_limit : ∃ b : EdgeBuilder,
    Fleet.build [] [] .replaceBase = .ok b.fleet ∧ b.vehicle = .car ∧
      ∀ (t : Classification) (s : Stretch) (edges : List Edge),
        s.segment.posted = ⟨.metric, PostedValue.of? 110, none⟩ → s.segment.country = "" →
          (b.build t s).1 = .ok edges →
            ∀ e ∈ edges, e.speed.weight ≤ (b.modelFor "").maxWeight := by
  obtain ⟨f, hf⟩ := Fleet.exists_build [] .replaceBase
  let b : EdgeBuilder := ⟨f, .car, 0⟩
  refine ⟨b, hf, rfl, (weights_le_iff (b := b) hf _ "").mpr ?_⟩
  rintro - - forward limit hlimit
  rw [PostedLimit.kmph_metric (by decide +kernel)] at hlimit
  cases hlimit
  show 110 ≤ (b.modelFor "").maxWeight
  rw [modelFor_eq hf]
  exact (by decide +kernel : 110 ≤ (Model.replacing .car "").maxWeight)

/-- A car on a motorway with a limit of 130 km/h: the edge weighs as much, but the bound of
the model is 115. -/
theorem motorway_above_bound : ∃ (b : EdgeBuilder) (edges : List Edge) (e : Edge),
    Fleet.build [] [] .replaceBase = .ok b.fleet ∧ b.vehicle = .car ∧
      (b.build Model.motorwayTaxonomy
        (Model.motorway ⟨.metric, PostedValue.of? 130, none⟩ "" true)).1 = .ok edges ∧
      e ∈ edges ∧ e.speed.weight = 130 ∧ (b.modelFor "").maxWeight = 115 ∧
      ¬ e.speed.weight ≤ (b.modelFor "").maxWeight := by
  obtain ⟨f, hf⟩ := Fleet.exists_build [] .replaceBase
  let b : EdgeBuilder := ⟨f, .car, 0⟩
  have hvalue : Float.isFinite 130 = true ∧ 0 < (130 : Float) := by decide +kernel
  have hlimit := PostedLimit.kmph_metric hvalue true
  obtain ⟨edges, hbuilt, e, he, hweight⟩ := exists_edge_at_limit (b := b) hf rfl "" hlimit hlimit
  have hmax : (b.modelFor "").maxWeight = 115 := by
    rw [modelFor_eq hf, f.countryFor_unnamed]
    exact (by decide +kernel : (Model.replacing .car "").maxWeight = 115)
  refine ⟨b, edges, e, hf, rfl, hbuilt, he, hweight, hmax, ?_⟩
  rw [hweight, hmax]
  decide +kernel

end EdgeBuilder

end RoadSpeed
