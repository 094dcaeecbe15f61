import RoadSpeed.Proofs.Edge.Numbering
import RoadSpeed.Proofs.Fleet.Construction

/-!
# Builds that fail

A build that fails leaves the builder as it was, but in one case. Where the edge along the
stretch has been made and the one against it has no speed, the number of the first one is used
up, and all edges that are made later have numbers that are larger by one. No query should fail
(specification, §7); an imperial limit that overflows is what makes one fail.

- `EdgeBuilder.run_ahead`: a builder that is some numbers ahead makes the same edges with
  larger numbers.
- `EdgeBuilder.StopsHalfway`: the builds that use up a number for nothing.
- `EdgeBuilder.after_error`: the builder after a build that fails.
- `EdgeBuilder.build_failure`: what such a build changes, for itself and for later builds.
-/

namespace RoadSpeed

/-! ## Numbers ahead -/

/-- The edge with a number that is larger by `k`. -/
def Edge.later (k : Nat) (e : Edge) : Edge := { e with id := e.id + k }

/-- The outcome of a build with numbers that are larger by `k`. -/
def EdgeBuilder.later (k : Nat) (outcome : Except EdgeError (List Edge)) :
    Except EdgeError (List Edge) :=
  outcome.map (List.map (Edge.later k))

/-- The builder, `k` numbers ahead. -/
def EdgeBuilder.ahead (b : EdgeBuilder) (k : Nat) : EdgeBuilder :=
  { b with nextId := b.nextId + k }

namespace Model

variable (m : Model) (t : Classification) (s : Stretch) (id k : Nat)

theorem edge_add (forward : Bool) :
    m.edge t s (id + k) forward = (m.edge t s id forward).map (Edge.later k) := by
  unfold edge
  cases m.speedOf t s.segment (s.segment.trip forward) with
  | error e => rfl
  | ok speed => rfl

/-- From a larger number on the same edges are made, or the build fails in the same place. -/
theorem edges_add : m.edges t s (id + k) =
    (EdgeBuilder.later k (m.edges t s id).1, (m.edges t s id).2 + k) := by
  unfold edges
  split
  · rw [edge_add, Nat.add_right_comm id k 1, edge_add]
    cases m.edge t s id true with
    | error e => rfl
    | ok there =>
      dsimp only [Except.map]
      split
      · rfl
      · cases m.edge t s (id + 1) false with
        | error e => rfl
        | ok back =>
          rw [Nat.add_right_comm id k 2]
          rfl
  · rfl

end Model

namespace EdgeBuilder

variable (b : EdgeBuilder) (t : Classification) (s : Stretch) (k : Nat)

theorem build_ahead :
    (b.ahead k).build t s = (later k (b.build t s).1, (b.build t s).2.ahead k) := by
  have hedges : ((b.ahead k).modelFor s.segment.country).edges t s (b.ahead k).nextId = _ :=
    Model.edges_add (b.modelFor s.segment.country) t s b.nextId k
  unfold build
  split
  · rfl
  · rw [hedges]
    rfl

/-- A run of a builder that is some numbers ahead: the same edges with larger numbers. -/
theorem run_ahead (calls : List (Classification × Stretch)) :
    (b.ahead k).run calls = ((b.run calls).1.map (later k), (b.run calls).2.ahead k) := by
  induction calls generalizing b with
  | nil => rfl
  | cons call calls ih =>
    unfold run
    rw [build_ahead]
    dsimp only
    rw [ih]
    rfl

end EdgeBuilder

/-! ## Failing halfway -/

/-- The stretch without posted limits. -/
def Stretch.unposted (s : Stretch) : Stretch :=
  { s with segment := { s.segment with posted := .absent } }

theorem PostedLimit.not_overflows_absent (forward : Bool) : ¬ absent.Overflows forward := by
  rintro ⟨hunits, -⟩
  cases hunits

namespace EdgeBuilder

/-- The build of a stretch uses up a number for nothing: the class may go both ways, posted
limits bind it, and only the one against the stretch overflows. -/
structure StopsHalfway (b : EdgeBuilder) (t : Classification) (s : Stretch) : Prop where
  length : ¬ s.length < 0
  road : (b.modelFor s.segment.country).isRoad t s.segment.tags = true
  bothWays : (b.modelFor s.segment.country).isOneWay t s.segment.tags = false
  bound : (b.modelFor s.segment.country).traits.respectsLimits = true
  category : ((b.modelFor s.segment.country).resolveCategory t s.segment.tags).isSome = true
  along : ¬ s.segment.posted.Overflows true
  against : s.segment.posted.Overflows false

variable {b : EdgeBuilder} {t : Classification} {s : Stretch}

/-- The builder after a build that fails: as it was or, after one that stops halfway, one
number ahead. -/
theorem after_error {e : EdgeError} (h : (b.build t s).1 = .error e) :
    ¬ b.StopsHalfway t s ∧ (b.build t s).2 = b ∨
      b.StopsHalfway t s ∧ (b.build t s).2 = b.ahead 1 := by
  have hends := b.build_ends t s
  -- the five ends of a build; only two of them are failures past the length
  generalize b.build t s = result at hends h ⊢
  cases hends with
  | refused hlength => exact .inl ⟨fun hstop => hstop.length hlength, rfl⟩
  | decided hlength hends =>
    cases hends with
    | noRoad => cases h
    | oneWay => cases h
    | bothWays => cases h
    | noEdge hroad hnone =>
      obtain ⟨-, -, -, hover⟩ := Model.resolveSpeed_eq_error_iff.mp hnone
      exact .inl ⟨fun hstop => hstop.along hover, rfl⟩
    | halfway hroad hthere hboth hnone =>
      obtain ⟨-, hbound, hcategory, hover⟩ := Model.resolveSpeed_eq_error_iff.mp hnone
      refine .inr ⟨⟨hlength, hroad, hboth, hbound, hcategory, ?_, hover⟩, rfl⟩
      -- the edge that was laid has a speed, which overflow would have denied it
      intro halong
      have hspeed := hthere.speed
      rw [Model.resolveSpeed_eq_error_iff.mpr ⟨rfl, hbound, hcategory, halong⟩] at hspeed
      cases hspeed

/-- A build that stops halfway fails, and the builder is one number ahead. -/
theorem StopsHalfway.build_eq (h : b.StopsHalfway t s) :
    b.build t s = (.error (.speed (.conversion .infinite)), b.ahead 1) := by
  have hends := b.build_ends t s
  generalize b.build t s = result at hends ⊢
  -- each other end contradicts one of the conditions
  cases hends with
  | refused hlength => exact absurd hlength h.length
  | decided hlength hends =>
    cases hends with
    | noRoad hclosed => exact absurd (hclosed.symm.trans h.road) Bool.false_ne_true
    | oneWay _ _ hone => exact absurd (h.bothWays.symm.trans hone) Bool.false_ne_true
    | noEdge _ hnone =>
      obtain ⟨-, -, -, hover⟩ := Model.resolveSpeed_eq_error_iff.mp hnone
      exact absurd hover h.along
    | halfway _ _ _ hnone =>
      obtain ⟨rfl, -⟩ := Model.resolveSpeed_eq_error_iff.mp hnone
      rfl
    | bothWays _ _ _ hback =>
      have hspeed := hback.speed
      rw [Model.resolveSpeed_eq_error_iff.mpr ⟨rfl, h.bound, h.category, h.against⟩] at hspeed
      cases hspeed

/-- Without posted limits the stretch is built, and its edges have the next two numbers. -/
theorem StopsHalfway.build_unposted (h : b.StopsHalfway t s) :
    ∃ there back, (b.build t s.unposted).1 = .ok [there, back] ∧ there.id = b.nextId ∧
      back.id = b.nextId + 1 := by
  -- without a limit there is nothing to overflow
  have hspeed (forward : Bool) (cause : ResolveError) :
      (b.modelFor s.segment.country).resolveSpeed t s.segment.tags
        (s.unposted.segment.trip forward) ≠ .error cause := by
    intro hnone
    obtain ⟨-, -, -, hover⟩ := Model.resolveSpeed_eq_error_iff.mp hnone
    exact PostedLimit.not_overflows_absent forward hover
  have hends := b.build_ends t s.unposted
  generalize b.build t s.unposted = result at hends ⊢
  cases hends with
  | refused hlength => exact absurd hlength h.length
  | decided hlength hends =>
    cases hends with
    | noRoad hclosed => exact absurd (hclosed.symm.trans h.road) Bool.false_ne_true
    | oneWay _ _ hone => exact absurd (h.bothWays.symm.trans hone) Bool.false_ne_true
    | noEdge _ hnone => exact absurd hnone (hspeed true _)
    | halfway _ _ _ hnone => exact absurd hnone (hspeed false _)
    | bothWays _ hthere _ hback => exact ⟨_, _, rfl, hthere.id_eq, hback.id_eq⟩

/-- The numbers of these edges, also for the builder that is one number ahead. -/
theorem StopsHalfway.numbers_unposted (h : b.StopsHalfway t s) :
    (returned (b.run [(t, s.unposted)]).1).map Edge.id = [b.nextId, b.nextId + 1] ∧
      (returned ((b.ahead 1).run [(t, s.unposted)]).1).map Edge.id =
        [b.nextId + 1, b.nextId + 2] := by
  obtain ⟨there, back, hbuilt, hthere, hback⟩ := h.build_unposted
  have houtcomes : (b.run [(t, s.unposted)]).1 = [.ok [there, back]] := by
    rw [fst_run_cons, hbuilt]
    rfl
  rw [run_ahead, houtcomes]
  constructor
  · show [there.id, back.id] = _
    rw [hthere, hback]
  · show [there.id + 1, back.id + 1] = _
    rw [hthere, hback]

/-- A build that fails leaves the builder as it was, and all later builds with it, exactly if
it does not stop halfway. If it does, the builder is one number ahead, and later builds make
the same edges with numbers that are larger by one. -/
theorem build_failure {e : EdgeError} (h : (b.build t s).1 = .error e) :
    ((b.build t s).2 = b ↔ ¬ b.StopsHalfway t s) ∧
    ((∀ calls, ((b.build t s).2.run calls).1 = (b.run calls).1) ↔ ¬ b.StopsHalfway t s) ∧
    (b.StopsHalfway t s → (b.build t s).2 = b.ahead 1 ∧
      ∀ calls, ((b.build t s).2.run calls).1 = (b.run calls).1.map (later 1)) := by
  rcases after_error h with ⟨hwhole, hafter⟩ | ⟨hstop, hafter⟩
  · rw [hafter]
    exact ⟨iff_of_true rfl hwhole, iff_of_true (fun _ => rfl) hwhole,
      fun hstop => absurd hstop hwhole⟩
  · rw [hafter]
    refine ⟨iff_of_false ?_ (not_not_intro hstop), iff_of_false ?_ (not_not_intro hstop), ?_⟩
    · intro heq
      exact absurd (congrArg nextId heq) (Nat.succ_ne_self b.nextId)
    · intro hsame
      -- the stretch itself, without its limits, is a later build that tells the two apart
      obtain ⟨hids, hlater⟩ := hstop.numbers_unposted
      rw [hsame, hids] at hlater
      simp at hlater
    · intro _
      exact ⟨rfl, fun calls => congrArg Prod.fst (b.run_ahead 1 calls)⟩

/-! ## A primary road -/

/-- A taxonomy of primary roads. -/
def primaryTaxonomy : Taxonomy := Taxonomy.empty.see Category.primary.place

/-- A stretch of primary road with limits in miles per hour. -/
def primaryStretch (along against : Float) : Stretch :=
  ⟨⟨[1], false, ⟨.imperial, PostedValue.of? along, PostedValue.of? against⟩, ""⟩, 3, 4, 250.0⟩

/-- A builder for cars stops halfway under a limit of 50 miles per hour along the stretch and
one of 1.7e308 against it. -/
theorem stopsHalfway_primary (hfleet : Fleet.build [] [] .clamp = .ok b.fleet)
    (hcar : b.vehicle = .car) : b.StopsHalfway primaryTaxonomy (primaryStretch 50 1.7e308) := by
  have hm : b.modelFor (primaryStretch 50 1.7e308).segment.country = _ :=
    Fleet.modelFor_of_build hfleet b.vehicle ""
  rw [b.fleet.countryFor_unnamed, hcar] at hm
  have hvalue : Float.isFinite 50 = true ∧ 0 < (50 : Float) := by decide +kernel
  have hvalue' : Float.isFinite 1.7e308 = true ∧ 0 < (1.7e308 : Float) := by decide +kernel
  have hposted : (primaryStretch 50 1.7e308).segment.posted =
      ⟨.imperial, some ⟨50, hvalue.1, hvalue.2⟩, some ⟨1.7e308, hvalue'.1, hvalue'.2⟩⟩ := by
    rw [← PostedValue.of?_eq_some hvalue, ← PostedValue.of?_eq_some hvalue']
    rfl
  -- fifty miles are a speed, and nearly the largest double of miles is none
  have hsmall : ¬ ((50 : Float) * Units.kmphPerMph).isInf = true := by decide +kernel
  have hlarge : ((1.7e308 : Float) * Units.kmphPerMph).isInf = true := by decide +kernel
  exact
    { length := by decide +kernel
      road := by
        rw [hm]
        rfl
      bothWays := by
        rw [hm]
        rfl
      bound := by
        rw [hm]
        rfl
      category := by
        rw [hm]
        rfl
      along := by
        rw [hposted]
        rintro ⟨-, v, hv, hinf⟩
        rw [← Option.some.inj hv] at hinf
        exact hsmall hinf
      against := by
        rw [hposted]
        exact ⟨rfl, _, rfl, hlarge⟩ }

/-- After the stretch of primary road all edges have numbers that are larger by one. -/
theorem build_failure_primary : ∃ b : EdgeBuilder,
    Fleet.build [] [] .clamp = .ok b.fleet ∧ b.vehicle = .car ∧
      (b.build primaryTaxonomy (primaryStretch 50 1.7e308)).1 =
        .error (.speed (.conversion .infinite)) ∧
      ∀ calls, ((b.build primaryTaxonomy (primaryStretch 50 1.7e308)).2.run calls).1 =
        (b.run calls).1.map (later 1) := by
  obtain ⟨f, hf⟩ := Fleet.exists_build [] .clamp
  let b : EdgeBuilder := ⟨f, .car, 0⟩
  have hstop := stopsHalfway_primary (b := b) hf rfl
  have hfails := congrArg Prod.fst hstop.build_eq
  obtain ⟨-, -, hlater⟩ := build_failure hfails
  exact ⟨b, hf, rfl, hfails, (hlater hstop).2⟩

/-- The build fails and does not leave the builder as it was: the next edges have the numbers
one and two, and would have had zero and one without it. -/
theorem primary_uses_up_number : ∃ b : EdgeBuilder,
    Fleet.build [] [] .clamp = .ok b.fleet ∧ b.vehicle = .car ∧ b.nextId = 0 ∧
      (b.build primaryTaxonomy (primaryStretch 50 1.7e308)).1 =
        .error (.speed (.conversion .infinite)) ∧
      (b.build primaryTaxonomy (primaryStretch 50 1.7e308)).2 ≠ b ∧
      ∃ calls, (returned (b.run calls).1).map Edge.id = [0, 1] ∧
        (returned ((b.build primaryTaxonomy (primaryStretch 50 1.7e308)).2.run calls).1).map
          Edge.id = [1, 2] := by
  obtain ⟨f, hf⟩ := Fleet.exists_build [] .clamp
  let b : EdgeBuilder := ⟨f, .car, 0⟩
  have hstop := stopsHalfway_primary (b := b) hf rfl
  obtain ⟨hids, hlater⟩ := hstop.numbers_unposted
  refine ⟨b, hf, rfl, rfl, ?_, ?_, _, hids, ?_⟩
  · rw [hstop.build_eq]
  · rw [hstop.build_eq]
    intro heq
    exact absurd (congrArg nextId heq) (Nat.succ_ne_self 0)
  · rw [hstop.build_eq]
    exact hlater

end EdgeBuilder

end RoadSpeed
