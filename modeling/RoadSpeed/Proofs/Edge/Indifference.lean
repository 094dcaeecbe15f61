import RoadSpeed.Proofs.Edge.Atomicity
import RoadSpeed.Proofs.Edge.Layout
import RoadSpeed.Proofs.Edge.Ways
import RoadSpeed.Proofs.Model.Agreement

/-!
# Classes that limits do not bind

Pedestrians and bicycles are not bound by posted limits (specification, §4.2). What is posted,
and what a limit would do to speeds, makes no difference to their edges: a limit is never
converted, so that not even one without a value in km/h keeps an edge from being made.

- `Model.withMode`, `Model.create_withMode`: the same model in another mode of limits.
- `Model.edges_withMode`, `Model.edges_unposted`: neither the mode nor what is posted counts.
- `EdgeBuilder.exists_edges`: edges are made, with the speeds that they have under no limit.
- `EdgeBuilder.Indifferent`: builders whose models differ in their modes, with the step and the
  run.
- `EdgeBuilder.limits_make_no_difference`: all of this for the fleets of any profiles.
-/

namespace RoadSpeed

namespace Model

/-- The model in another mode of limits. -/
def withMode (m : Model) (mode : LimitMode) : Model := { m with mode }

/-- What a model is created from in one mode gives the same model in every other one. -/
theorem create_withMode {v : Vehicle} {country : String} {profile : Option Profile}
    {mode : LimitMode} {m : Model} (h : create v country profile mode = .ok m)
    (mode' : LimitMode) : create v country profile mode' = .ok (m.withMode mode') := by
  cases profile with
  | none =>
    obtain ⟨hrules, htables, hsurfaces, htraits, -⟩ := of_defaults_iff.mp h
    exact of_defaults_iff.mpr ⟨hrules, htables, hsurfaces, htraits, rfl⟩
  | some p =>
    obtain ⟨hvehicle, htuned⟩ := create_tuned_iff.mp h
    obtain ⟨hrules, htables, hsurfaces, htraits, -⟩ := of_defaults_iff.mp htuned
    exact create_tuned_iff.mpr
      ⟨hvehicle, of_defaults_iff.mpr ⟨hrules, htables, hsurfaces, htraits, rfl⟩⟩

/-- Models that allow the same ways and make the same edges one by one make the same edges of
stretches. -/
theorem edges_congr {m n : Model} {t : Classification} {s s' : Stretch}
    (hroad : m.isRoad t s.segment.tags = n.isRoad t s'.segment.tags)
    (honeWay : m.isOneWay t s.segment.tags = n.isOneWay t s'.segment.tags)
    (hedge : ∀ id forward, m.edge t s id forward = n.edge t s' id forward) (id : Nat) :
    m.edges t s id = n.edges t s' id := by
  unfold edges
  simp only [hroad, honeWay, hedge]

section Unbound

variable {m : Model} (hfree : m.traits.respectsLimits = false) (t : Classification)
variable (s : Stretch) (id : Nat) (forward : Bool) (mode : LimitMode)

include hfree

theorem limitInForce_of_unbound (trip : Trip) : m.limitInForce trip = .ok none :=
  limitInForce_eq_ok_iff.mpr (.unbound hfree)

/-! ## Speeds -/

theorem resolveSpeed_withMode (tags : List TagId) (trip : Trip) :
    (m.withMode mode).resolveSpeed t tags trip = m.resolveSpeed t tags trip :=
  resolveSpeed_congr
    { rule := rfl
      surface := rfl
      limit := rfl
      mode := .inl (limitInForce_of_unbound hfree trip)
      entries := fun _ _ => ⟨rfl, rfl⟩
      offroad := fun _ => rfl }

/-- What is posted makes no difference to a speed. -/
theorem resolveSpeed_unposted : m.resolveSpeed t s.segment.tags (s.unposted.segment.trip forward) =
    m.resolveSpeed t s.segment.tags (s.segment.trip forward) := by
  refine resolveSpeed_of_limit rfl ?_
  rw [limitInForce_of_unbound hfree, limitInForce_of_unbound hfree]

/-- There is a speed under every limit. -/
theorem resolveSpeed_ne_error (tags : List TagId) (trip : Trip) (cause : ResolveError) :
    m.resolveSpeed t tags trip ≠ .error cause := by
  intro hnone
  obtain ⟨-, hbound, -⟩ := resolveSpeed_eq_error_iff.mp hnone
  rw [hfree] at hbound
  cases hbound

/-! ## Edges -/

theorem edge_withMode : (m.withMode mode).edge t s id forward = m.edge t s id forward := by
  unfold edge
  rw [speedOf_some, speedOf_some, resolveSpeed_withMode hfree]
  rfl

theorem edge_unposted : m.edge t s.unposted id forward = m.edge t s id forward := by
  unfold edge
  rw [speedOf_some, speedOf_some, ← resolveSpeed_unposted hfree t s forward]
  rfl

theorem edges_withMode : (m.withMode mode).edges t s id = m.edges t s id := by
  refine edges_congr ?_ ?_ ?_ id
  · rfl
  · rfl
  · intro id forward
    exact edge_withMode hfree t s id forward mode

theorem edges_unposted : m.edges t s.unposted id = m.edges t s id := by
  refine edges_congr ?_ ?_ ?_ id
  · rfl
  · rfl
  · exact edge_unposted hfree t s

end Unbound

end Model

namespace EdgeBuilder

variable {b c : EdgeBuilder} {t : Classification} {s s' : Stretch}

/-! ## Builds -/

theorem build_unposted (hfree : (b.modelFor s.segment.country).traits.respectsLimits = false)
    (t : Classification) : b.build t s.unposted = b.build t s := by
  have hedges : (b.modelFor s.segment.country).edges t s.unposted b.nextId =
      (b.modelFor s.segment.country).edges t s b.nextId := Model.edges_unposted hfree t s b.nextId
  unfold build
  show (if s.length < 0 then _ else _) = _
  rw [← hedges]
  rfl

/-- Edges have the speeds that tags have in their direction where no limit is known. -/
def SpeedsUnposted (b : EdgeBuilder) (t : Classification) (s : Segment) (edges : List Edge) :
    Prop :=
  ∀ e ∈ edges, (b.modelFor s.country).resolveSpeed t s.tags ⟨e.forward, s.inCity, .absent⟩ =
    .ok e.speed

/-- Where limits do not bind, a build of a stretch whose length is not negative returns edges, and
these have the speeds that they have under no limit. -/
theorem exists_edges (hfree : (b.modelFor s.segment.country).traits.respectsLimits = false)
    (hlength : ¬ s.length < 0) :
    ∃ edges, (b.build t s).1 = .ok edges ∧ b.SpeedsUnposted t s.segment edges := by
  have hends := b.build_ends t s
  generalize b.build t s = result at hends ⊢
  cases hends with
  | refused h => exact absurd h hlength
  | @decided outcome nextId _ hends =>
    cases outcome with
    | error e =>
      cases hends with
      | noEdge _ hnone => exact absurd hnone (Model.resolveSpeed_ne_error hfree t _ _ _)
      | halfway _ _ _ hnone => exact absurd hnone (Model.resolveSpeed_ne_error hfree t _ _ _)
    | ok edges =>
      refine ⟨edges, rfl, fun e he => ?_⟩
      obtain ⟨_, _, hlaid⟩ := hends.exists_lays e he
      exact (Model.resolveSpeed_unposted hfree t s e.forward).trans hlaid.resolveSpeed

/-! ## Two builders -/

/-- Two builders have the same models in other modes of limits, which do not bind, and give the
next edge the same number. -/
structure Indifferent (b c : EdgeBuilder) : Prop where
  models : ∀ country, ∃ mode, c.modelFor country = (b.modelFor country).withMode mode
  free : ∀ country, (b.modelFor country).traits.respectsLimits = false
  nextId : b.nextId = c.nextId

/-- Builders of fleets with the same parents and profiles differ in the modes of their models. -/
theorem indifferent_of_build {parents : Parents} {profiles : List Profile} {mode mode' : LimitMode}
    (hb : Fleet.build parents profiles mode = .ok b.fleet)
    (hc : Fleet.build parents profiles mode' = .ok c.fleet) (hclass : b.vehicle ≠ .car)
    (hvehicle : b.vehicle = c.vehicle) (hnext : b.nextId = c.nextId) : b.Indifferent c where
  models country := by
    have hm := Fleet.create_modelFor hb b.vehicle country
    have hn := Fleet.create_modelFor hc b.vehicle country
    rw [← Fleet.countryFor_eq hb hc, Model.create_withMode hm mode'] at hn
    unfold modelFor
    rw [← hvehicle]
    exact ⟨mode', (Except.ok.inj hn).symm⟩
  free country := by
    have htraits := Model.traits_create (Fleet.create_modelFor hb b.vehicle country)
    have hlimits := congrArg Traits.respectsLimits htraits
    exact hlimits.trans (Bool.eq_false_iff.mpr (mt b.vehicle.respectsLimits_iff.mp hclass))
  nextId := hnext

namespace Indifferent

/-- The models of the second builder are free of limits as well. -/
theorem free_right (h : b.Indifferent c) (country : String) :
    (c.modelFor country).traits.respectsLimits = false := by
  obtain ⟨mode, hmode⟩ := h.models country
  rw [hmode]
  exact h.free country

/-- A build of the same stretch makes the same edges and leaves the builders indifferent. -/
theorem build (h : b.Indifferent c) (t : Classification) (s : Stretch) :
    (b.build t s).1 = (c.build t s).1 ∧ (b.build t s).2.Indifferent (c.build t s).2 := by
  obtain ⟨mode, hmode⟩ := h.models s.segment.country
  unfold EdgeBuilder.build
  rw [hmode, Model.edges_withMode (h.free _), h.nextId]
  split
  · exact ⟨rfl, h⟩
  · exact ⟨rfl, h.models, h.free, rfl⟩

/-- So does a build of stretches that differ in what is posted. -/
theorem build_of_unposted_eq (h : b.Indifferent c) (t : Classification)
    (hs : s.unposted = s'.unposted) :
    (b.build t s).1 = (c.build t s').1 ∧ (b.build t s).2.Indifferent (c.build t s').2 := by
  have hsame := h.build t s.unposted
  rw [build_unposted (h.free _), hs, build_unposted (h.free_right _)] at hsame
  exact hsame

/-- A run of builds of such stretches. -/
theorem run (h : b.Indifferent c) {calls calls' : List (Classification × Stretch)}
    (hcalls : List.Forall₂ (fun x y => x.1 = y.1 ∧ x.2.unposted = y.2.unposted) calls calls') :
    (b.run calls).1 = (c.run calls').1 ∧ (b.run calls).2.Indifferent (c.run calls').2 := by
  induction hcalls generalizing b c with
  | nil => exact ⟨rfl, h⟩
  | @cons x y calls calls' hfirst _ ih =>
    obtain ⟨t, s⟩ := x
    obtain ⟨t', s'⟩ := y
    obtain ⟨rfl, hs⟩ := hfirst
    obtain ⟨houtcome, hafter⟩ := h.build_of_unposted_eq t hs
    obtain ⟨houtcomes, hend⟩ := ih hafter
    refine ⟨?_, hend⟩
    rw [fst_run_cons, fst_run_cons, houtcome, houtcomes]

end Indifferent

/-- For pedestrians and bicycles, builders of fleets that differ in the mode of limits make the
same edges of stretches that differ in what is posted, and leave the same number for the next
edge. Where the length is not negative edges are returned, with the speeds that they have under no
limit. So it is in a run of builds. -/
theorem limits_make_no_difference {parents : Parents} {profiles : List Profile}
    {mode mode' : LimitMode} (hb : Fleet.build parents profiles mode = .ok b.fleet)
    (hc : Fleet.build parents profiles mode' = .ok c.fleet) (hclass : b.vehicle ≠ .car)
    (hvehicle : b.vehicle = c.vehicle) (hnext : b.nextId = c.nextId) :
    (∀ (t : Classification) (s s' : Stretch), s.unposted = s'.unposted → ¬ s.length < 0 →
      ∃ edges, (b.build t s).1 = .ok edges ∧ (c.build t s').1 = .ok edges ∧
        (b.build t s).2.nextId = (c.build t s').2.nextId ∧
        b.SpeedsUnposted t s.segment edges ∧ c.SpeedsUnposted t s'.segment edges) ∧
    ∀ calls calls',
      List.Forall₂ (fun x y => x.1 = y.1 ∧ x.2.unposted = y.2.unposted) calls calls' →
        (b.run calls).1 = (c.run calls').1 ∧
          (b.run calls).2.nextId = (c.run calls').2.nextId := by
  -- that one builder is indifferent to what tells it from the other carries over each call
  have h : b.Indifferent c := indifferent_of_build hb hc hclass hvehicle hnext
  constructor
  · intro t s s' hs hlength
    have hlength' : ¬ s'.unposted.length < 0 := by
      rw [← hs]
      exact hlength
    obtain ⟨edges, hedges, hspeeds⟩ := exists_edges (t := t) (h.free s.segment.country) hlength
    obtain ⟨edges', hedges', hspeeds'⟩ :=
      exists_edges (t := t) (h.free_right s'.segment.country) hlength'
    obtain ⟨hsame, hafter⟩ := h.build_of_unposted_eq t hs
    obtain rfl : edges = edges' :=
      Except.ok.inj (hedges.symm.trans (hsame.trans hedges'))
    exact ⟨edges, hedges, hedges', hafter.nextId, hspeeds, hspeeds'⟩
  · intro calls calls' hcalls
    obtain ⟨hsame, hafter⟩ := h.run hcalls
    exact ⟨hsame, hafter.nextId⟩

/-- On a primary road a bicycle has two edges, under a limit that has no value in km/h and would cut
speeds down, and the same two under a limit that would take the place of its base speed. -/
theorem bicycle_ignores_limits : ∃ (b c : EdgeBuilder) (there back : Edge),
    Fleet.build [] [] .clamp = .ok b.fleet ∧ Fleet.build [] [] .replaceBase = .ok c.fleet ∧
    b.vehicle = .bicycle ∧ c.vehicle = .bicycle ∧
    (primaryStretch 1.7e308 1.7e308).segment.posted.Overflows true ∧
    (b.build primaryTaxonomy (primaryStretch 1.7e308 1.7e308)).1 = .ok [there, back] ∧
    (c.build primaryTaxonomy (primaryStretch 50 30)).1 = .ok [there, back] := by
  obtain ⟨f, hf⟩ := Fleet.exists_build [] .clamp
  obtain ⟨g, hg⟩ := Fleet.exists_build [] .replaceBase
  let b : EdgeBuilder := ⟨f, .bicycle, 0⟩
  let c : EdgeBuilder := ⟨g, .bicycle, 0⟩
  -- such a limit would be fatal to a car
  have hoverflows (x y : Float) (hx : x.isFinite = true ∧ 0 < x)
      (hinf : (x * Units.kmphPerMph).isInf = true) :
      (primaryStretch x y).segment.posted.Overflows true :=
    ⟨rfl, _, PostedValue.of?_eq_some hx, hinf⟩
  have hposted (w x y z : Float) : (primaryStretch w x).unposted = (primaryStretch y z).unposted :=
    rfl
  obtain ⟨hbuild, -⟩ := limits_make_no_difference (b := b) (c := c) hf hg nofun rfl rfl
  obtain ⟨edges, hb, hc, -⟩ := hbuild primaryTaxonomy (primaryStretch 1.7e308 1.7e308)
    (primaryStretch 50 30) (hposted _ _ _ _) (by decide +kernel)
  have hm : c.modelFor "" = _ := Fleet.modelFor_of_build hg .bicycle ""
  rw [g.countryFor_unnamed] at hm
  have htwo : (c.build primaryTaxonomy (primaryStretch 50 30)).1.map List.length = .ok 2 := by
    show ((c.modelFor "").edges primaryTaxonomy (primaryStretch 50 30) 0).1.map List.length = .ok 2
    rw [hm]
    rfl
  rw [hc] at htwo
  obtain ⟨there, back, rfl⟩ := List.length_eq_two.mp (Except.ok.inj htwo)
  exact ⟨b, c, there, back, hf, hg, rfl, rfl,
    hoverflows _ _ (by decide +kernel) (by decide +kernel), hb, hc⟩

end EdgeBuilder

end RoadSpeed
