import RoadSpeed.Proofs.Model.UnderLimit
import RoadSpeed.Proofs.Number.Whole

/-!
# Roads that a limit closes

A posted value is above zero, and so is a metric limit in km/h. An imperial one is rounded to
whole km/h (specification, §4.4), and what is at most one half of them comes out as zero. Where
such a limit cuts speeds down the road is closed; every other limit leaves a positive speed
positive.

- `PostedLimit.Vanishes`: the limits that are rounded to zero.
- `PostedLimit.kmph_pos_iff`: all others are above zero in km/h.
- `Model.Finite.isPositive_iff`: which speeds are still positive under a limit.
- `Model.limit_closes_iff`: both.
-/

namespace RoadSpeed

/-! ## Limits that are rounded to zero -/

/-- A posted value is above zero in km/h unless it is imperial and at most half a km/h. -/
theorem Units.toKmph_pos_iff {units : Units} {v : PostedValue} {limit : Float}
    (h : units.toKmph v.value = .ok limit) :
    0 < limit ↔ ¬ (units = .imperial ∧ v.value * kmphPerMph ≤ 0.5) := by
  cases units with
  | metric =>
    rw [toKmph_metric] at h
    cases h
    exact iff_of_true v.pos (fun hvanish => by cases hvanish.1)
  | imperial =>
    obtain ⟨k, hk, rfl⟩ := map_eq_ok_iff.mp h
    have hscaled : 0 ≤ v.value * kmphPerMph :=
      Double.zero_le_mul_of_isFinite (Order.le_of_lt v.pos) (by decide) (not_le_of_lt (by decide))
    rw [Double.zero_lt_ofInt_iff, Double.toWhole_pos_iff hscaled hk]
    exact not_congr (and_iff_right rfl).symm

namespace PostedLimit

/-- The limit in a direction is imperial and at most half a km/h. -/
def Vanishes (p : PostedLimit) (forward : Bool) : Prop :=
  p.units = .imperial ∧ ∃ v, p.Active forward v ∧ v.value * Units.kmphPerMph ≤ 0.5

/-- A limit in km/h is above zero unless it is rounded to zero. -/
theorem kmph_pos_iff {p : PostedLimit} {forward : Bool} {limit : Float}
    (h : p.kmph forward = .ok (some limit)) : 0 < limit ↔ ¬ p.Vanishes forward := by
  obtain ⟨v, hactive, hkmph⟩ := kmph_eq_some_iff.mp h
  have hvalue := inUnits_eq_some_iff.mpr hactive
  refine (Units.toKmph_pos_iff hkmph).trans (not_congr (and_congr_right fun _ => ?_))
  constructor
  · intro hle
    exact ⟨v, hactive, hle⟩
  · rintro ⟨w, hw, hle⟩
    rw [Option.some.inj (hvalue.symm.trans (inUnits_eq_some_iff.mpr hw))]
    exact hle

/-- Where no limit is known none is rounded to zero. -/
theorem not_vanishes_of_unposted {p : PostedLimit} {forward : Bool}
    (h : ∀ v, ¬ p.Active forward v) : ¬ p.Vanishes forward := by
  rintro ⟨-, v, hv, -⟩
  exact h v hv

end PostedLimit

/-! ## Speeds that are cut down -/

/-- A number above zero that is cut down is above zero where the limit is. -/
theorem CutTo.pos_iff {limit free cut : Float} (h : CutTo limit free cut)
    (hlimit : limit ≤ limit) (hfree : 0 < free) : 0 < cut ↔ 0 < limit := by
  constructor
  · intro hcut
    exact Order.lt_of_lt_of_le hcut h.le_limit
  · intro hpos
    by_cases hover : limit < free
    · rw [h.eq_limit hover]
      exact hpos
    · have hself := Order.le_right (Order.le_of_lt hfree)
      rw [h.eq_free (Order.le_of_not_lt hlimit hself hover)]
      exact hfree

namespace Speed

theorem isPositive_iff {s : Speed} : s.isPositive = true ↔ 0 < s.weight ∧ 0 < s.eta := by
  unfold isPositive
  rw [Bool.and_eq_true, decide_eq_true_iff, decide_eq_true_iff]

theorem CutTo.isPositive_iff {limit : Float} {free cut : Speed} (h : CutTo limit free cut)
    (hlimit : limit ≤ limit) (hfree : free.isPositive = true) :
    cut.isPositive = true ↔ 0 < limit := by
  obtain ⟨hweight, heta⟩ := Speed.isPositive_iff.mp hfree
  rw [Speed.isPositive_iff, h.weight.pos_iff hlimit hweight, h.eta.pos_iff hlimit heta, and_self]

end Speed

/-! ## Models -/

namespace Model

variable {m : Model} {t : Classification} {tags : List TagId} {forward inCity : Bool}
  {p : PostedLimit} {free s : Speed}

/-- A road that a limit closes: the class is bound by limits, the tags have a category, and the
limit is rounded to zero. -/
structure ClosedBy (m : Model) (t : Classification) (tags : List TagId) (forward : Bool)
    (p : PostedLimit) : Prop where
  bound : m.traits.respectsLimits = true
  category : (m.resolveCategory t tags).isSome = true
  vanishes : p.Vanishes forward

/-- Without posted limits none is in force. -/
theorem limitInForce_absent (m : Model) (forward inCity : Bool) :
    m.limitInForce ⟨forward, inCity, .absent⟩ = .ok none := by
  unfold limitInForce
  cases m.traits.respectsLimits <;> cases forward <;> rfl

/-- Where limits cut speeds down, a speed that is positive without a limit is so under it unless
the limit closes the road. -/
theorem Finite.isPositive_iff (h : m.Finite) (hmode : m.mode = .clamp)
    (hfree : m.resolveSpeed t tags ⟨forward, inCity, .absent⟩ = .ok free)
    (hpos : free.isPositive = true)
    (hs : m.resolveSpeed t tags ⟨forward, inCity, p⟩ = .ok s) :
    s.isPositive = true ↔ ¬ m.ClosedBy t tags forward p := by
  cases hrule : m.resolveRule t tags with
  | none =>
    -- off the roads both speeds are the one of the traits
    rw [resolveSpeed_offroad hrule] at hfree hs
    cases hfree
    cases hs
    refine iff_of_true hpos fun hclosed => ?_
    have hcategory := hclosed.category
    rw [resolveCategory, hrule] at hcategory
    cases hcategory
  | some rule =>
    have hcategory : (m.resolveCategory t tags).isSome = true := by
      rw [resolveCategory, hrule]
      rfl
    have hunposted := m.limitInForce_absent forward inCity
    obtain ⟨limit, hlimit⟩ := exists_inForce hrule hs
    cases limit with
    | none =>
      have hsame : m.resolveSpeed t tags ⟨forward, inCity, p⟩ =
          m.resolveSpeed t tags ⟨forward, inCity, .absent⟩ :=
        resolveSpeed_of_limit rfl ((limitInForce_eq_ok_iff.mpr hlimit).trans hunposted.symm)
      obtain rfl : s = free := Except.ok.inj (hs.symm.trans (hsame.trans hfree))
      refine iff_of_true hpos fun hclosed => ?_
      cases hlimit with
      | unbound hbound => exact absurd (hbound.symm.trans hclosed.bound) Bool.false_ne_true
      | unposted _ hnone => exact PostedLimit.not_vanishes_of_unposted hnone hclosed.vanishes
    | some limit =>
      obtain ⟨hbound, hkmph⟩ := hlimit.kmph_eq
      obtain ⟨free', s', hfree', hs', hcut⟩ :=
        h.cutTo hmode hrule hlimit (limitInForce_eq_ok_iff.mp hunposted)
      obtain rfl : free = free' := Except.ok.inj (hfree.symm.trans hfree')
      obtain rfl : s = s' := Except.ok.inj (hs.symm.trans hs')
      rw [hcut.isPositive_iff (Order.le_right hlimit.zero_le) hpos,
        PostedLimit.kmph_pos_iff hkmph]
      exact not_congr ⟨fun hvanish => ⟨hbound, hcategory, hvanish⟩, fun hclosed => hclosed.vanishes⟩

/-- Where a posted limit has a value in km/h, or there is none, the model knows what binds. -/
theorem exists_limitInForce {known : Option Float} (h : p.kmph forward = .ok known)
    (m : Model) (inCity : Bool) : ∃ limit, m.limitInForce ⟨forward, inCity, p⟩ = .ok limit := by
  unfold limitInForce
  split
  · exact ⟨known, congrArg (Except.mapError ResolveError.conversion) h⟩
  · exact ⟨none, rfl⟩

/-- A limit in km/h is at or above zero, and above it unless the limit is imperial and at most
half a km/h. Under a posted limit that has a value in km/h, or none, there is a speed. In a model
with finite factors whose limits cut speeds down it is positive if it is so without the limit,
unless the limit closes the road. -/
theorem limit_closes_iff (hm : m.Finite) (hmode : m.mode = .clamp) (t : Classification)
    (tags : List TagId) (forward inCity : Bool) (p : PostedLimit) :
    (∀ limit, p.kmph forward = .ok (some limit) →
      0 ≤ limit ∧ (0 < limit ↔ ¬ p.Vanishes forward)) ∧
    (∀ known, p.kmph forward = .ok known →
      ∃ s, m.resolveSpeed t tags ⟨forward, inCity, p⟩ = .ok s) ∧
    ∀ free s, m.resolveSpeed t tags ⟨forward, inCity, .absent⟩ = .ok free →
      free.isPositive = true → m.resolveSpeed t tags ⟨forward, inCity, p⟩ = .ok s →
        (s.isPositive = true ↔ ¬ m.ClosedBy t tags forward p) := by
  refine ⟨?_, ?_, ?_⟩
  · intro limit hlimit
    obtain ⟨v, -, hkmph⟩ := PostedLimit.kmph_eq_some_iff.mp hlimit
    exact ⟨zero_le_toKmph hkmph, PostedLimit.kmph_pos_iff hlimit⟩
  · intro known hknown
    obtain ⟨limit, hlimit⟩ := exists_limitInForce hknown m inCity
    exact exists_resolveSpeed hlimit t tags
  · intro free s hfree hpos hs
    exact hm.isPositive_iff hmode hfree hpos hs

/-! ## Cars on a primary road -/

/-- The model of cars, with limits that cut speeds down. -/
def ofCars : Model :=
  ⟨Vehicle.car.defaults.rulesIn "", Vehicle.car.defaults.tables, Vehicle.car.defaults.surfaces,
    Vehicle.car.defaults.traits, .clamp, Vehicle.car.allDefects_defaults ""⟩

theorem create_ofCars : create .car "" none .clamp = .ok ofCars := create_eq_ok .car "" .clamp

/-- A taxonomy of primary roads. -/
def primaries : Classification := (Taxonomy.empty.see Category.primary.place).classification

/-- The posted value of three tenths. -/
def threeTenths : PostedValue := ⟨0.3, by decide +kernel, by decide +kernel⟩

/-- Without a limit a car moves on a primary road. -/
theorem exists_free_primary : ∃ free,
    ofCars.resolveSpeed primaries [1] ⟨true, false, .absent⟩ = .ok free ∧
      free.isPositive = true := by
  have hvalue : (ofCars.resolveSpeed primaries [1] ⟨true, false, .absent⟩).map Speed.isPositive =
      .ok true := by decide +kernel
  exact map_eq_ok_iff.mp hvalue

/-- Under a limit of three tenths of a km/h it still moves. -/
theorem limit_closes_iff_primary : ∃ s,
    create .car "" none .clamp = .ok ofCars ∧
      ofCars.resolveSpeed primaries [1] ⟨true, false, ⟨.metric, some threeTenths, none⟩⟩ = .ok s ∧
      s.isPositive = true := by
  obtain ⟨free, hfree, hpos⟩ := exists_free_primary
  obtain ⟨-, hreturns, hiff⟩ := limit_closes_iff (finite_create create_ofCars) rfl primaries [1]
    true false ⟨.metric, some threeTenths, none⟩
  obtain ⟨s, hs⟩ := hreturns (some threeTenths.value) rfl
  refine ⟨s, create_ofCars, hs, (hiff free s hfree hpos hs).mpr ?_⟩
  intro hclosed
  cases hclosed.vanishes.1

/-- Three tenths of a mile per hour are rounded to zero, and it stops. -/
theorem slow_mile_closes_primary : ∃ free s,
    create .car "" none .clamp = .ok ofCars ∧ ofCars.AllFinite ∧
      PostedLimit.kmph ⟨.imperial, some threeTenths, none⟩ true = .ok (some 0) ∧
      ofCars.resolveSpeed primaries [1] ⟨true, false, .absent⟩ = .ok free ∧
      free.isPositive = true ∧
      ofCars.resolveSpeed primaries [1] ⟨true, false, ⟨.imperial, some threeTenths, none⟩⟩ =
        .ok s ∧
      s.isPositive = false := by
  obtain ⟨free, hfree, hpos⟩ := exists_free_primary
  have hvalue : (ofCars.resolveSpeed primaries [1]
      ⟨true, false, ⟨.imperial, some threeTenths, none⟩⟩).map Speed.isPositive = .ok false := by
    decide +kernel
  obtain ⟨s, hs, hstops⟩ := map_eq_ok_iff.mp hvalue
  have hfinite : ofCars.AllFinite := by
    refine ⟨?_, ?_, ?_, ?_⟩ <;> decide +kernel
  exact ⟨free, s, create_ofCars, hfinite, by decide +kernel, hfree, hpos, hs, hstops⟩

end Model

end RoadSpeed
