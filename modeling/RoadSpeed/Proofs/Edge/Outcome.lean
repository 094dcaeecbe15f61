import RoadSpeed.Edge.Builder
import RoadSpeed.Proofs.Model.Access
import RoadSpeed.Proofs.Success

/-!
# How a build of edges ends

All ways in which a build can end (specification, §4.7), each with what brings it about, what
it returns and the number of the next edge. What holds of every build is proved by cases on them.

- `Model.Lays`, `Model.edge_eq_ok_iff`: what an edge in one direction is like.
- `Model.Ends`, `Model.edges_ends`: the ends of a build by one model.
- `EdgeBuilder.Ends`, `EdgeBuilder.build_ends`, `EdgeBuilder.exists_ends`: the ends of a build, and
  of one that returns edges.
-/

namespace RoadSpeed

namespace Model

variable {m : Model} {t : Classification} {s : Stretch} {id : Nat} {forward : Bool}

/-- On a trip that is given, the speed of a segment is the one of its tags. -/
theorem speedOf_some (m : Model) (t : Classification) (s : Segment) (trip : Trip) :
    m.speedOf t s (some trip) = m.resolveSpeed t s.tags trip := rfl

/-- The edge of a stretch in one direction. -/
structure Lays (m : Model) (t : Classification) (s : Stretch) (id : Nat) (forward : Bool)
    (e : Edge) : Prop where
  id_eq : e.id = id
  forward_eq : e.forward = forward
  source : e.source = s.source forward
  target : e.target = s.target forward
  length : e.length = s.length
  classes : m.Classes t s.segment.tags e.category e.passThrough
  speed : m.resolveSpeed t s.segment.tags (s.segment.trip forward) = .ok e.speed

/-- An edge is made exactly when its speed can be resolved. -/
theorem edge_eq_ok_iff {e : Edge} : m.edge t s id forward = .ok e ↔ m.Lays t s id forward e := by
  unfold edge
  rw [speedOf_some]
  -- an edge takes everything but its speed from the stretch
  cases hresolved : m.resolveSpeed t s.segment.tags (s.segment.trip forward) with
  | error cause =>
    constructor
    · intro h
      cases h
    · intro h
      rw [h.speed] at hresolved
      cases hresolved
  | ok speed =>
    constructor
    · rintro ⟨⟩
      exact ⟨rfl, rfl, rfl, rfl, rfl, classes_iff.mpr ⟨rfl, rfl⟩, hresolved⟩
    · intro h
      have hs : speed = e.speed := Except.ok.inj (hresolved.symm.trans h.speed)
      obtain ⟨hcategory, hpass⟩ := classes_iff.mp h.classes
      exact congrArg Except.ok (Edge.ext h.id_eq.symm h.source.symm h.target.symm h.length.symm
        hcategory hs hpass h.forward_eq.symm)

theorem edge_eq_error_iff {e : EdgeError} : m.edge t s id forward = .error e ↔
    ∃ cause, e = .speed cause ∧
      m.resolveSpeed t s.segment.tags (s.segment.trip forward) = .error cause := by
  unfold edge
  rw [speedOf_some]
  cases m.resolveSpeed t s.segment.tags (s.segment.trip forward) with
  | error cause => simp [eq_comm]
  | ok speed => simp

/-- The ends of a build by one model: what is returned and the number of the next edge. -/
inductive Ends (m : Model) (t : Classification) (s : Stretch) (id : Nat) :
    Except EdgeError (List Edge) × Nat → Prop where
  | noRoad (h : m.isRoad t s.segment.tags = false) : Ends m t s id (.ok [], id)
  | noEdge {cause : ResolveError} (hroad : m.isRoad t s.segment.tags = true)
      (h : m.resolveSpeed t s.segment.tags (s.segment.trip true) = .error cause) :
      Ends m t s id (.error (.speed cause), id)
  | oneWay {there : Edge} (hroad : m.isRoad t s.segment.tags = true)
      (hthere : m.Lays t s id true there) (h : m.isOneWay t s.segment.tags = true) :
      Ends m t s id (.ok [there], id + 1)
  /-- The edge along the segment is made, but the one against it cannot be. -/
  | halfway {there : Edge} {cause : ResolveError} (hroad : m.isRoad t s.segment.tags = true)
      (hthere : m.Lays t s id true there) (htwo : m.isOneWay t s.segment.tags = false)
      (h : m.resolveSpeed t s.segment.tags (s.segment.trip false) = .error cause) :
      Ends m t s id (.error (.speed cause), id + 1)
  | bothWays {there back : Edge} (hroad : m.isRoad t s.segment.tags = true)
      (hthere : m.Lays t s id true there) (htwo : m.isOneWay t s.segment.tags = false)
      (hback : m.Lays t s (id + 1) false back) :
      Ends m t s id (.ok [there, back], id + 2)

theorem edges_ends (m : Model) (t : Classification) (s : Stretch) (id : Nat) :
    m.Ends t s id (m.edges t s id) := by
  -- along the branches of the definition, in its order
  unfold edges
  cases hroad : m.isRoad t s.segment.tags with
  | false => exact .noRoad hroad
  | true =>
    rw [if_pos rfl]
    cases hthere : m.edge t s id true with
    | error e =>
      obtain ⟨cause, rfl, h⟩ := edge_eq_error_iff.mp hthere
      exact .noEdge hroad h
    | ok there =>
      have hlaid := edge_eq_ok_iff.mp hthere
      cases hone : m.isOneWay t s.segment.tags with
      | true => exact .oneWay hroad hlaid hone
      | false =>
        dsimp only
        rw [if_neg Bool.false_ne_true]
        cases hback : m.edge t s (id + 1) false with
        | error e =>
          obtain ⟨cause, rfl, h⟩ := edge_eq_error_iff.mp hback
          exact .halfway hroad hlaid hone h
        | ok back => exact .bothWays hroad hlaid hone (edge_eq_ok_iff.mp hback)

end Model

namespace EdgeBuilder

/-- The ends of a build: a negative length is refused at once, and otherwise the model of
the segment's country decides. Fleet and vehicle class stay. -/
inductive Ends (b : EdgeBuilder) (t : Classification) (s : Stretch) :
    Except EdgeError (List Edge) × EdgeBuilder → Prop where
  | refused (h : s.length < 0) : Ends b t s (.error .negativeLength, b)
  | decided {outcome : Except EdgeError (List Edge)} {nextId : Nat} (hlength : ¬ s.length < 0)
      (h : (b.modelFor s.segment.country).Ends t s b.nextId (outcome, nextId)) :
      Ends b t s (outcome, { b with nextId })

theorem build_ends (b : EdgeBuilder) (t : Classification) (s : Stretch) :
    b.Ends t s (b.build t s) := by
  unfold build
  split
  · rename_i h
    exact .refused h
  · rename_i h
    exact .decided h (Model.edges_ends _ t s b.nextId)

/-- Edges that are returned have been laid by the model of the segment's country. -/
theorem exists_ends {b : EdgeBuilder} {t : Classification} {s : Stretch} {edges : List Edge}
    (h : (b.build t s).1 = .ok edges) :
    ∃ nextId, (b.modelFor s.segment.country).Ends t s b.nextId (.ok edges, nextId) := by
  have hends := b.build_ends t s
  generalize b.build t s = result at hends h
  cases hends with
  | refused => cases h
  | decided _ hends =>
    cases h
    exact ⟨_, hends⟩

theorem fst_run_cons (b : EdgeBuilder) (call : Classification × Stretch)
    (calls : List (Classification × Stretch)) : (b.run (call :: calls)).1 =
      (b.build call.1 call.2).1 :: ((b.build call.1 call.2).2.run calls).1 := rfl

end EdgeBuilder

end RoadSpeed
