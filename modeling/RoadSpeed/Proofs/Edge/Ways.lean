import RoadSpeed.Proofs.Edge.Outcome
import RoadSpeed.Proofs.Fleet.Agreement

/-!
# Where a vehicle may go

A profile says how fast a vehicle is, not where it may go (specification, §4.6). Models of a
class in a country answer all questions about access alike, whatever they are tuned by, and
builders that go by them make edges that differ in their speeds only.

- `Model.SameRules`, `Model.SameAccess`: models with the same rules let a class go the same
  ways.
- `Model.SameRules.edges_atRest`: their edges, speeds apart.
- `EdgeBuilder.Alike`: builders whose models have the same rules, with the step and the run.
- `EdgeBuilder.profiles_keep_ways`: all of this for the models and fleets of profiles.
-/

namespace RoadSpeed

namespace Model

/-- Two models have the same rules and, but for the speed off the roads, the same traits. -/
structure SameRules (m n : Model) : Prop where
  rules : m.rules = n.rules
  traits : m.traits = { n.traits with offroad := m.traits.offroad }

/-- Two models give the same answers about access. Whether a tag of one-way roads stands is
no question to a model. -/
structure SameAccess (m n : Model) : Prop where
  road : ∀ t tags, m.isRoad t tags = n.isRoad t tags
  roadTag : ∀ t tag, m.isRoadTag t tag = n.isRoadTag t tag
  category : ∀ t tags, m.resolveCategory t tags = n.resolveCategory t tags
  passThrough : ∀ t tags, m.allowsPassThrough t tags = n.allowsPassThrough t tags
  oneWay : ∀ t tags, m.isOneWay t tags = n.isOneWay t tags

variable {m n : Model}

/-- Models that a class has in a country have the same rules, whatever they are tuned by. -/
theorem sameRules_create {v : Vehicle} {country : String} {profile other : Option Profile}
    {mode mode' : LimitMode} (h : create v country profile mode = .ok m)
    (h' : create v country other mode' = .ok n) : m.SameRules n where
  rules := (rules_create h).trans (rules_create h').symm
  traits := by rw [traits_create h, traits_create h']

namespace SameRules

/-! ## Answers about access -/

theorem tagRule?_eq (h : m.SameRules n) : m.tagRule? = n.tagRule? := by
  funext t tag
  unfold tagRule? ruleOf? ruleAt?
  rw [h.rules]

theorem resolveRule_eq (h : m.SameRules n) : m.resolveRule = n.resolveRule := by
  unfold resolveRule
  rw [h.tagRule?_eq]

/-- Models with the same rules give the same answers about access. -/
theorem sameAccess (h : m.SameRules n) : m.SameAccess n where
  road t tags := by
    unfold isRoad
    rw [h.resolveRule_eq, h.traits]
  roadTag t tag := by
    unfold isRoadTag
    rw [h.tagRule?_eq]
  category t tags := by
    unfold resolveCategory
    rw [h.resolveRule_eq]
  passThrough t tags := by
    unfold allowsPassThrough
    rw [h.resolveRule_eq]
  oneWay t tags := by
    unfold isOneWay vehicle
    rw [h.traits]

/-- Where one of the models has no speed, the other one has none for the same reason. -/
theorem resolveSpeed_eq_error_iff (h : m.SameRules n) {t : Classification} {tags : List TagId}
    {trip : Trip} {e : ResolveError} :
    m.resolveSpeed t tags trip = .error e ↔ n.resolveSpeed t tags trip = .error e := by
  rw [Model.resolveSpeed_eq_error_iff, Model.resolveSpeed_eq_error_iff, h.sameAccess.category,
    h.traits]

end SameRules

end Model

/-! ## Edges -/

/-- An edge but for its speed, which is zero instead. -/
def Edge.atRest (e : Edge) : Edge := { e with speed := .literal 0.0 0.0 }

/-- The outcome of a build but for the speeds. -/
def EdgeBuilder.atRest (outcome : Except EdgeError (List Edge)) : Except EdgeError (List Edge) :=
  outcome.map (List.map Edge.atRest)

namespace Model

variable {m n : Model}

/-- Models with the same rules make the same edge but for its speed, or both make none. -/
theorem SameRules.edge_atRest (h : m.SameRules n) (t : Classification) (s : Stretch) (id : Nat)
    (forward : Bool) :
    (m.edge t s id forward).map Edge.atRest = (n.edge t s id forward).map Edge.atRest := by
  unfold edge
  rw [speedOf_some, speedOf_some, h.sameAccess.category, h.sameAccess.passThrough]
  cases hm : m.resolveSpeed t s.segment.tags (s.segment.trip forward) with
  | error e => rw [h.resolveSpeed_eq_error_iff.mp hm]
  | ok speed =>
    cases hn : n.resolveSpeed t s.segment.tags (s.segment.trip forward) with
    | error e =>
      rw [h.resolveSpeed_eq_error_iff.mpr hn] at hm
      cases hm
    | ok speed' => rfl

/-- Models with the same rules make the same edges but for their speeds, and fail alike. -/
theorem SameRules.edges_atRest (h : m.SameRules n) (t : Classification) (s : Stretch) (id : Nat) :
    EdgeBuilder.atRest (m.edges t s id).1 = EdgeBuilder.atRest (n.edges t s id).1 ∧
      (m.edges t s id).2 = (n.edges t s id).2 := by
  unfold edges
  rw [h.sameAccess.road, h.sameAccess.oneWay]
  split
  · -- the first edges of both fail alike or agree in all but their speeds
    rcases map_eq_map_iff.mp (h.edge_atRest t s id true) with
      ⟨e, hm, hn⟩ | ⟨there, there', hm, hn, hthere⟩
    · rw [hm, hn]
      exact ⟨rfl, rfl⟩
    · rw [hm, hn]
      dsimp only
      split
      · refine ⟨?_, rfl⟩
        simp [EdgeBuilder.atRest, Except.map, hthere]
      · -- so do the second ones, which take the next number
        rcases map_eq_map_iff.mp (h.edge_atRest t s (id + 1) false) with
          ⟨e, hm', hn'⟩ | ⟨back, back', hm', hn', hback⟩
        · rw [hm', hn']
          exact ⟨rfl, rfl⟩
        · rw [hm', hn']
          refine ⟨?_, rfl⟩
          simp [EdgeBuilder.atRest, Except.map, hthere, hback]
  · exact ⟨rfl, rfl⟩

end Model

namespace EdgeBuilder

/-- Two builders have the same rules in each country and give the next edge the same number. -/
structure Alike (b c : EdgeBuilder) : Prop where
  sameRules : ∀ country, (b.modelFor country).SameRules (c.modelFor country)
  nextId : b.nextId = c.nextId

variable {b c : EdgeBuilder}

/-- A build leaves both builders alike, and what it makes of a stretch is the same but for
the speeds. -/
theorem Alike.build (h : b.Alike c) (t : Classification) (s : Stretch) :
    atRest (b.build t s).1 = atRest (c.build t s).1 ∧ (b.build t s).2.Alike (c.build t s).2 := by
  unfold EdgeBuilder.build
  split
  · exact ⟨rfl, h⟩
  · obtain ⟨hedges, hnext⟩ := (h.sameRules s.segment.country).edges_atRest t s b.nextId
    rw [h.nextId] at hedges hnext ⊢
    exact ⟨hedges, h.sameRules, hnext⟩

/-- The same for a run of builds. -/
theorem Alike.run (h : b.Alike c) (calls : List (Classification × Stretch)) :
    (b.run calls).1.map atRest = (c.run calls).1.map atRest ∧
      (b.run calls).2.Alike (c.run calls).2 := by
  induction calls generalizing b c with
  | nil => exact ⟨rfl, h⟩
  | cons call calls ih =>
    obtain ⟨houtcome, hafter⟩ := h.build call.1 call.2
    obtain ⟨houtcomes, hend⟩ := ih hafter
    refine ⟨?_, hend⟩
    rw [fst_run_cons, fst_run_cons, List.map_cons, List.map_cons, houtcome, houtcomes]

/-- Builders of fleets with the same parents have the same rules, whatever the profiles. -/
theorem alike_of_build {parents : Parents} {profiles others : List Profile}
    {mode mode' : LimitMode} (hb : Fleet.build parents profiles mode = .ok b.fleet)
    (hc : Fleet.build parents others mode' = .ok c.fleet) (hvehicle : b.vehicle = c.vehicle)
    (hnext : b.nextId = c.nextId) : b.Alike c where
  sameRules country := by
    have hm := Fleet.create_modelFor hb b.vehicle country
    have hn := Fleet.create_modelFor hc b.vehicle country
    rw [Fleet.countryFor_eq hb hc] at hm
    unfold modelFor
    rw [← hvehicle]
    exact Model.sameRules_create hm hn
  nextId := hnext

/-- A model that is tuned by a profile gives the same answers about access as the one that is
not, and a builder of a fleet of profiles makes of any stretches the same edges as one of a
fleet without, but for the speeds, and fails where that one does. -/
theorem profiles_keep_ways :
    (∀ v country p mode m, Model.create v country (some p) mode = .ok m →
      ∃ n, Model.create v country none mode = .ok n ∧ m.SameAccess n) ∧
    ∀ parents profiles mode (b c : EdgeBuilder),
      Fleet.build parents profiles mode = .ok b.fleet →
        Fleet.build parents [] mode = .ok c.fleet → b.vehicle = c.vehicle →
          b.nextId = c.nextId → ∀ calls,
            (b.run calls).1.map atRest = (c.run calls).1.map atRest ∧
              (b.run calls).2.nextId = (c.run calls).2.nextId := by
  constructor
  · intro v country p mode m hm
    have hn := Model.create_eq_ok v country mode
    exact ⟨_, hn, (Model.sameRules_create hm hn).sameAccess⟩
  · intro parents profiles mode b c hb hc hvehicle hnext calls
    obtain ⟨houtcomes, hend⟩ := (alike_of_build hb hc hvehicle hnext).run calls
    exact ⟨houtcomes, hend.nextId⟩

/-- A profile whose surfaces have the names of a road category and of a closing tag. -/
def decoy : Profile where
  vehicle := .bicycle
  speeds := .ofList [(.primary, ⟨⟨⟨30, by decide⟩, none⟩, none⟩)]
  surfaces := .ofList [("highway-primary", ⟨⟨0.6, by decide⟩, none⟩),
    ("hwtag-nobicycle", ⟨⟨1.4, by decide⟩, none⟩)]

/-- The profile leaves bicycles the ways that they have without it. -/
theorem profiles_keep_ways_decoy : ∃ (m n : Model) (b c : EdgeBuilder),
    Model.create .bicycle "" (some decoy) .clamp = .ok m ∧
      Model.create .bicycle "" none .clamp = .ok n ∧ m.SameAccess n ∧
        Fleet.build [] [decoy] .clamp = .ok b.fleet ∧ Fleet.build [] [] .clamp = .ok c.fleet ∧
          b.vehicle = .bicycle ∧ c.vehicle = .bicycle ∧
            ∀ calls, (b.run calls).1.map atRest = (c.run calls).1.map atRest := by
  -- the profile fits all rules of the class, so that a fleet can be built with it
  have hfit : ∀ rules ∈ Bicycle.defaults.rules :: Bicycle.defaults.countryRules.toList.map Prod.snd,
      allDefects rules (decoy.applyTables Bicycle.defaults.tables) = [] := by decide +kernel
  obtain ⟨f, hf⟩ : ∃ f, Fleet.build [] [decoy] .clamp = .ok f :=
    Fleet.exists_build_iff_fits.mpr ⟨by decide, List.forall_mem_singleton.mpr fun country =>
      hfit _ (Bicycle.defaults.rulesIn_mem country)⟩
  obtain ⟨g, hg⟩ := Fleet.exists_build [] .clamp
  have hm := Fleet.create_modelFor hf .bicycle ""
  rw [f.countryFor_unnamed] at hm
  obtain ⟨hmodels, hbuilders⟩ := profiles_keep_ways
  obtain ⟨n, hn, hsame⟩ := hmodels .bicycle "" decoy .clamp _ hm
  let b : EdgeBuilder := ⟨f, .bicycle, 0⟩
  let c : EdgeBuilder := ⟨g, .bicycle, 0⟩
  exact ⟨_, n, b, c, hm, hn, hsame, hf, hg, rfl, rfl,
    fun calls => (hbuilders [] [decoy] .clamp b c hf hg rfl rfl calls).1⟩

end EdgeBuilder

end RoadSpeed
