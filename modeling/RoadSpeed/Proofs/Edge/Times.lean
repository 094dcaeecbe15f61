import RoadSpeed.Proofs.Edge.Bound
import RoadSpeed.Proofs.Model.Proper
import RoadSpeed.Proofs.Number.Product

/-!
# The travel times of edges

A travel time is a length over a rate, and the rate is a speed in metres per second. Where
nothing moves the time is infinite (specification, §4.7). But the least double is above zero as
a speed and too small for a double as a rate, so that there is no time at that speed, and at
that one only.

- `rate_pos_iff`: the speeds that have a rate.
- `TimeAt`, `timeAt_travelTime`: the times of lengths at speeds.
- `Model.Ends.proper`: edges of a model with finite factors have speeds that are numbers.
- `EdgeBuilder.costs`: the times of the edges of a fleet without profiles.
-/

namespace RoadSpeed

/-! ## Rates and times -/

/-- A speed above zero has a rate above zero, but for the least one, whose rate is less than
half of it. -/
theorem rate_pos_iff {speed : Float} (h : 0 < speed) :
    0 < speed * kmphInMetresPerSecond ↔ speed ≠ leastDouble := by
  constructor
  · rintro hrate rfl
    exact absurd hrate (by decide +kernel)
  · intro hne
    exact Double.zero_lt_mul_of_ne_least h hne (by decide +kernel) (by decide +kernel)

/-- A cost that path search can go by: a number at or above zero, maybe infinite. -/
def IsCost (time : Except TravelError Float) : Prop := ∃ x, time = .ok x ∧ 0 ≤ x

/-- The time for a length at a speed: a cost, unless the speed is the least one above zero,
and infinite where nothing moves. -/
structure TimeAt (speed : Float) (time : Except TravelError Float) : Prop where
  isCost_iff : IsCost time ↔ speed ≠ leastDouble
  eq_error_iff : time = .error .zeroRate ↔ speed = leastDouble
  still : speed ≤ 0 → time = .ok (1.0 / 0.0)

variable {length speed : Float}

theorem travelTime_of_le_zero (h : speed ≤ 0) : travelTime length speed = .ok (1.0 / 0.0) :=
  if_pos h

theorem travelTime_of_pos (h : 0 < speed) (hne : speed ≠ leastDouble) :
    travelTime length speed = .ok (length / (speed * kmphInMetresPerSecond)) := by
  have hrate := Double.beq_zero_of_pos ((rate_pos_iff h).mpr hne)
  rw [travelTime, if_neg (not_le_of_lt h)]
  dsimp only
  rw [hrate, if_neg Bool.false_ne_true]

theorem travelTime_least : travelTime length leastDouble = .error .zeroRate := by
  have hmoves : ¬ leastDouble ≤ 0 := by decide +kernel
  have hrate : (leastDouble * kmphInMetresPerSecond == 0) = true := by decide +kernel
  rw [travelTime, if_neg hmoves]
  exact if_pos hrate

/-- Finite lengths at or above zero have such times, at speeds that are not below zero. -/
theorem timeAt_travelTime (hlength : 0 ≤ length) (hfinite : length.isFinite = true)
    (hspeed : 0 ≤ speed) : TimeAt speed (travelTime length speed) := by
  have hleast : ¬ leastDouble ≤ 0 := by decide +kernel
  -- above zero the least double is the one speed whose rate in metres underflows
  by_cases hmoves : 0 < speed
  · by_cases hne : speed = leastDouble
    · subst hne
      rw [travelTime_least]
      refine ⟨iff_of_false ?_ (fun h => h rfl), iff_of_true rfl rfl, fun h => absurd h hleast⟩
      rintro ⟨x, hx, -⟩
      cases hx
    · rw [travelTime_of_pos hmoves hne]
      have hcost := Double.zero_le_div hlength hfinite ((rate_pos_iff hmoves).mpr hne)
      exact ⟨iff_of_true ⟨_, rfl, hcost⟩ hne, iff_of_false nofun hne,
        fun h => absurd h (not_le_of_lt hmoves)⟩
  · have hstill : speed ≤ 0 :=
      Order.le_of_not_lt (Order.le_left hspeed) (Order.le_right hspeed) hmoves
    have hne : speed ≠ leastDouble := by
      rintro rfl
      exact hleast hstill
    rw [travelTime_of_le_zero hstill]
    exact ⟨iff_of_true ⟨_, rfl, by decide +kernel⟩ hne, iff_of_false nofun hne, fun _ => rfl⟩

/-! ## The times of edges -/

/-- The edges of a model with finite factors have speeds that are numbers. -/
theorem Model.Ends.proper {m : Model} {t : Classification} {s : Stretch} {id nextId : Nat}
    {edges : List Edge} (hm : m.Finite) (h : m.Ends t s id (.ok edges, nextId)) :
    ∀ e ∈ edges, e.length = s.length ∧ e.speed.Proper := by
  intro e he
  obtain ⟨id', forward, hlaid⟩ := h.exists_lays e he
  exact ⟨hlaid.length, hm.proper hlaid.speed⟩

namespace EdgeBuilder

/-- Each edge of a fleet without profiles has, at a finite length, costs for path search and
travel time, unless its speed is the least one above zero, and infinite ones where nothing
moves. -/
theorem costs {b : EdgeBuilder} {parents : Parents} {mode : LimitMode}
    (hfleet : Fleet.build parents [] mode = .ok b.fleet) (t : Classification) (s : Stretch)
    (hlength : 0 ≤ s.length) (hfinite : s.length.isFinite = true) {edges : List Edge}
    (hbuilt : (b.build t s).1 = .ok edges) :
    ∀ e ∈ edges, TimeAt e.speed.weight e.weightTime ∧ TimeAt e.speed.eta e.etaTime := by
  intro e he
  have hm := Model.finite_create (Fleet.create_modelFor hfleet b.vehicle s.segment.country)
  have hends := b.build_ends t s
  generalize b.build t s = result at hends hbuilt
  cases hends with
  | refused => cases hbuilt
  | decided _ hends =>
    cases hbuilt
    obtain ⟨hlen, hweight, heta⟩ := hends.proper hm e he
    unfold Edge.weightTime Edge.etaTime
    rw [hlen]
    exact ⟨timeAt_travelTime hlength hfinite hweight, timeAt_travelTime hlength hfinite heta⟩

/-- A limit that takes the place of the base speed makes an edge of a motorway with as much
weight. -/
theorem exists_motorway_edge {x : Float} (h : x.isFinite = true ∧ 0 < x) :
    ∃ (b : EdgeBuilder) (edges : List Edge) (e : Edge),
      Fleet.build [] [] .replaceBase = .ok b.fleet ∧ b.vehicle = .car ∧
        (b.build Model.motorwayTaxonomy
          (Model.motorway ⟨.metric, PostedValue.of? x, none⟩ "" true)).1 = .ok edges ∧
        e ∈ edges ∧ e.speed.weight = x := by
  obtain ⟨f, hf⟩ := Fleet.exists_build [] .replaceBase
  let b : EdgeBuilder := ⟨f, .car, 0⟩
  have hlimit := PostedLimit.kmph_metric h true
  obtain ⟨edges, hbuilt, e, he, hweight⟩ := exists_edge_at_limit (b := b) hf rfl "" hlimit hlimit
  exact ⟨b, edges, e, hf, rfl, hbuilt, he, hweight⟩

/-- Path search can go by the edge of a motorway with a limit of 110 km/h. -/
theorem costs_motorway : ∃ (b : EdgeBuilder) (edges : List Edge) (e : Edge),
    Fleet.build [] [] .replaceBase = .ok b.fleet ∧ b.vehicle = .car ∧
      (b.build Model.motorwayTaxonomy
        (Model.motorway ⟨.metric, PostedValue.of? 110, none⟩ "" true)).1 = .ok edges ∧
      e ∈ edges ∧ IsCost e.weightTime := by
  have hvalue : Float.isFinite 110 = true ∧ 0 < (110 : Float) := by decide +kernel
  obtain ⟨b, edges, e, hfleet, hcar, hbuilt, he, hweight⟩ := exists_motorway_edge hvalue
  obtain ⟨htime, -⟩ := costs hfleet Model.motorwayTaxonomy (Model.motorway _ "" true)
    (by decide +kernel) (by decide +kernel) hbuilt e he
  refine ⟨b, edges, e, hfleet, hcar, hbuilt, he, htime.isCost_iff.mpr ?_⟩
  rw [hweight]
  decide +kernel

/-- Under a limit of the least double in km/h the edge of a motorway has no cost. -/
theorem motorway_without_cost : ∃ (b : EdgeBuilder) (edges : List Edge) (e : Edge),
    Fleet.build [] [] .replaceBase = .ok b.fleet ∧ b.vehicle = .car ∧
      (b.build Model.motorwayTaxonomy
        (Model.motorway ⟨.metric, PostedValue.of? 5e-324, none⟩ "" true)).1 = .ok edges ∧
      e ∈ edges ∧ e.weightTime = .error .zeroRate ∧ ¬ IsCost e.weightTime := by
  have hvalue : Float.isFinite 5e-324 = true ∧ 0 < (5e-324 : Float) := by decide +kernel
  obtain ⟨b, edges, e, hfleet, hcar, hbuilt, he, hweight⟩ := exists_motorway_edge hvalue
  have hnone : e.weightTime = .error .zeroRate := by
    unfold Edge.weightTime
    rw [hweight]
    exact travelTime_least
  refine ⟨b, edges, e, hfleet, hcar, hbuilt, he, hnone, ?_⟩
  rintro ⟨x, hx, -⟩
  rw [hnone] at hx
  cases hx

end EdgeBuilder

end RoadSpeed
