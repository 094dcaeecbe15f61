import RoadSpeed.Proofs.Edge.Outcome
import RoadSpeed.Proofs.Model.Totality

/-!
# The numbers of edges

A builder numbers its edges in the order in which it makes them. A build that fails may
use up a number, so that a run of builds may leave gaps, but no number comes twice
(specification, §4.7).

- `Numbers`: numbers that ascend between two values of the counter.
- `EdgeBuilder.build_numbers`, `EdgeBuilder.build_dense`: what one build does.
- `EdgeBuilder.run_numbers`, `EdgeBuilder.run_dense`: what a run does.
- `EdgeBuilder.run_numbering`: the numbers of the edges of a run.
-/

namespace RoadSpeed

/-- Numbers that ascend from `start` on and end before `next`. -/
structure Numbers (start : Nat) (ids : List Nat) (next : Nat) : Prop where
  ascending : ids.Pairwise (· < ·)
  within : ∀ id ∈ ids, start ≤ id ∧ id < next
  start_le : start ≤ next

namespace Numbers

variable {start middle next : Nat} {ids ids' : List Nat}

theorem nil (h : start ≤ next) : Numbers start [] next :=
  ⟨.nil, fun _ hid => absurd hid List.not_mem_nil, h⟩

theorem range' (start n : Nat) : Numbers start (List.range' start n) (start + n) where
  ascending := List.pairwise_lt_range'
  within id hid := by
    rw [List.mem_range'_1] at hid
    exact hid
  start_le := Nat.le_add_right start n

/-- Numbers that take up where others end ascend with them. -/
theorem append (h : Numbers start ids middle) (h' : Numbers middle ids' next) :
    Numbers start (ids ++ ids') next where
  ascending := by
    refine List.pairwise_append.mpr ⟨h.ascending, h'.ascending, ?_⟩
    intro id hid id' hid'
    exact Nat.lt_of_lt_of_le (h.within id hid).2 (h'.within id' hid').1
  within id hid := by
    rcases List.mem_append.mp hid with hid | hid
    · exact ⟨(h.within id hid).1, Nat.lt_of_lt_of_le (h.within id hid).2 h'.start_le⟩
    · exact ⟨Nat.le_trans h.start_le (h'.within id hid).1, (h'.within id hid).2⟩
  start_le := Nat.le_trans h.start_le h'.start_le

end Numbers

namespace Model

variable {m : Model} {t : Classification} {s : Stretch} {id next : Nat}

/-- The edges that a build returns take the numbers from the counter on, one by one. -/
theorem Ends.dense {edges : List Edge} (h : m.Ends t s id (.ok edges, next)) :
    edges.map Edge.id = List.range' id edges.length ∧ next = id + edges.length := by
  cases h with
  | noRoad => exact ⟨rfl, rfl⟩
  | oneWay hroad hthere hone => simp [hthere.id_eq]
  | bothWays hroad hthere htwo hback => simp [hthere.id_eq, hback.id_eq, List.range']

/-- A build that fails may use up a number. -/
theorem Ends.id_le {e : EdgeError} (h : m.Ends t s id (.error e, next)) : id ≤ next := by
  cases h with
  | noEdge => exact Nat.le_refl id
  | halfway => exact Nat.le_succ id

end Model

namespace EdgeBuilder

/-- The edges of a build, none where it fails. -/
def edgesOf : Except EdgeError (List Edge) → List Edge
  | .ok edges => edges
  | .error _ => []

/-- The edges that a run of builds returns, in order. -/
def returned (outcomes : List (Except EdgeError (List Edge))) : List Edge :=
  outcomes.flatMap edgesOf

variable (b : EdgeBuilder) (t : Classification) (s : Stretch)

/-! ## One build -/

theorem build_dense {edges : List Edge} (h : (b.build t s).1 = .ok edges) :
    edges.map Edge.id = List.range' b.nextId edges.length ∧
      (b.build t s).2.nextId = b.nextId + edges.length := by
  have hends := b.build_ends t s
  generalize b.build t s = result at hends h ⊢
  cases hends with
  | refused => cases h
  | decided hlength hm =>
    cases h
    exact hm.dense

theorem build_numbers : Numbers b.nextId ((edgesOf (b.build t s).1).map Edge.id)
    (b.build t s).2.nextId := by
  cases hbuild : (b.build t s).1 with
  | ok edges =>
    obtain ⟨hids, hnext⟩ := b.build_dense t s hbuild
    rw [edgesOf, hids, hnext]
    exact .range' b.nextId edges.length
  | error e =>
    refine .nil ?_
    have hends := b.build_ends t s
    generalize b.build t s = result at hends hbuild ⊢
    cases hends with
    | refused => exact Nat.le_refl b.nextId
    | decided hlength hm =>
      cases hbuild
      exact hm.id_le

/-! ## Runs of builds -/

theorem returned_run_cons (call : Classification × Stretch)
    (calls : List (Classification × Stretch)) :
    returned (b.run (call :: calls)).1 = edgesOf (b.build call.1 call.2).1 ++
      returned ((b.build call.1 call.2).2.run calls).1 := by
  rw [fst_run_cons, returned, List.flatMap_cons, returned]

/-- The invariant of a run: the numbers of the edges so far ascend and end before the
number of the next one. -/
theorem run_numbers (calls : List (Classification × Stretch)) :
    Numbers b.nextId ((returned (b.run calls).1).map Edge.id) (b.run calls).2.nextId := by
  induction calls generalizing b with
  | nil => exact .nil (Nat.le_refl b.nextId)
  | cons call calls ih =>
    -- the rest of the run starts where the first build has left the counter
    rw [returned_run_cons, List.map_append]
    exact (b.build_numbers call.1 call.2).append (ih (b.build call.1 call.2).2)

/-- Where no build fails there are no gaps. -/
theorem run_dense (calls : List (Classification × Stretch))
    (h : ∀ outcome ∈ (b.run calls).1, outcome.isOk = true) :
    (returned (b.run calls).1).map Edge.id =
        List.range' b.nextId (returned (b.run calls).1).length ∧
      (b.run calls).2.nextId = b.nextId + (returned (b.run calls).1).length := by
  -- on the calls; the numbers of the first one end where those of the others begin
  induction calls generalizing b with
  | nil => exact ⟨rfl, rfl⟩
  | cons call calls ih =>
    have hfirst : (b.build call.1 call.2).1.isOk = true := h _ List.mem_cons_self
    cases hbuild : (b.build call.1 call.2).1 with
    | error e =>
      rw [hbuild] at hfirst
      cases hfirst
    | ok edges =>
      obtain ⟨hids, hnext⟩ := b.build_dense call.1 call.2 hbuild
      obtain ⟨hids', hnext'⟩ := ih (b.build call.1 call.2).2
        fun outcome ho => h outcome (List.mem_cons_of_mem _ ho)
      rw [returned_run_cons, hbuild, edgesOf, List.map_append, hids, hids', hnext,
        List.range'_append_1, List.length_append]
      refine ⟨rfl, ?_⟩
      rw [← Nat.add_assoc, ← hnext]
      exact hnext'

/-- The numbers of the edges of a run ascend, so that none comes twice, and lie between
the numbers of the next edge before the run and after it. If no build fails they are the
numbers in between without a gap: for a new builder, the numbers from zero on. -/
theorem run_numbering (calls : List (Classification × Stretch)) :
    ((returned (b.run calls).1).map Edge.id).Pairwise (· < ·) ∧
      ((returned (b.run calls).1).map Edge.id).Nodup ∧
      (∀ e ∈ returned (b.run calls).1,
        b.nextId ≤ e.id ∧ e.id < (b.run calls).2.nextId) ∧
      ((∀ outcome ∈ (b.run calls).1, outcome.isOk = true) →
        (returned (b.run calls).1).map Edge.id =
            List.range' b.nextId (returned (b.run calls).1).length ∧
          (b.run calls).2.nextId = b.nextId + (returned (b.run calls).1).length) := by
  have hrun := b.run_numbers calls
  refine ⟨hrun.ascending, hrun.ascending.imp Nat.ne_of_lt, ?_, b.run_dense calls⟩
  intro e he
  exact hrun.within e.id (List.mem_map_of_mem he)

/-- A new builder for cars, with one model for all countries. -/
def newCar : EdgeBuilder where
  vehicle := .car
  fleet.parents := []
  fleet.roster v :=
    { standard := ⟨v.defaults.rulesIn "", v.defaults.tables, v.defaults.surfaces, v.defaults.traits,
        .clamp, v.allDefects_defaults ""⟩
      byCountry := .empty }

/-- A taxonomy of the tags of a street. -/
def streetTaxonomy : Taxonomy :=
  ((Taxonomy.empty.see Category.residential.place).see oneWayPath).see Car.traits.noPath

/-- A street that is open both ways, closed, and one-way in turn. -/
def streets : List (Classification × Stretch) :=
  [[1], [1, 3], [1, 2]].map fun tags => (streetTaxonomy, ⟨⟨tags, true, .absent, ""⟩, 1, 2, 80.0⟩)

/-- The edges of the streets have the numbers from zero to two. -/
theorem run_numbering_streets : (∀ outcome ∈ (newCar.run streets).1, outcome.isOk = true) ∧
    (returned (newCar.run streets).1).map Edge.id = [0, 1, 2] := by
  obtain ⟨hok, hlength⟩ : (∀ outcome ∈ (newCar.run streets).1, outcome.isOk = true) ∧
      (returned (newCar.run streets).1).length = 3 := by decide +kernel
  obtain ⟨-, -, -, hdense⟩ := newCar.run_numbering streets
  obtain ⟨hids, -⟩ := hdense hok
  rw [hlength] at hids
  exact ⟨hok, hids⟩

end EdgeBuilder

end RoadSpeed
