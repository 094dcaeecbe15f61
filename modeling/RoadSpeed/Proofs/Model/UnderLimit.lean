import RoadSpeed.Proofs.Model.Proper
import RoadSpeed.Proofs.Number.Monotone
import RoadSpeed.Proofs.Success

/-!
# Speeds under limits

A higher limit never makes a speed lower, whether limits cut speeds down or take the place of
base speeds, and whether they are posted in km/h or in miles per hour. A limit that cuts speeds
down leaves what is within it as it is and lowers the rest to itself (specification, §4.2).

- `Units.toKmph_le_toKmph`: posted values stay in order in km/h.
- `Model.adjusted_le_adjusted`: one component under two limits.
- `CutTo`, `Speed.CutTo`: numbers and speeds that are cut down to a limit.
- `Model.Finite.le_of_posted`, `Model.Finite.cutTo`: speeds under two limits, and under one
  limit and none.
- `Model.limits_order_and_cut`: the speeds of a model with finite factors.
-/

namespace RoadSpeed

/-! ## Posted values in order -/

/-- Posted values of the same units stay in order when they are turned into km/h. -/
theorem Units.toKmph_le_toKmph {units : Units} {v w : PostedValue} {limit limit' : Float}
    (h : v.value ≤ w.value) (hv : units.toKmph v.value = .ok limit)
    (hw : units.toKmph w.value = .ok limit') : limit ≤ limit' := by
  cases units with
  | metric =>
    rw [toKmph_metric] at hv hw
    cases hv
    cases hw
    exact h
  | imperial =>
    have hzero : 0 ≤ v.value := Order.le_of_lt v.pos
    have hpos : ¬ kmphPerMph ≤ 0 := not_le_of_lt (by decide)
    have hscaled := Double.mul_le_mul_right hzero h (by decide) hpos
    obtain ⟨k, hk, rfl⟩ := map_eq_ok_iff.mp hv
    obtain ⟨l, hl, rfl⟩ := map_eq_ok_iff.mp hw
    exact Double.ofInt_toWhole_le (Double.zero_le_mul_of_isFinite hzero (by decide) hpos)
      hscaled hk hl

/-! ## One component -/

/-- A number cut down to a limit: within the limit it stays, and else the limit is left. -/
structure CutTo (limit free cut : Float) : Prop where
  le_limit : cut ≤ limit
  le_free : cut ≤ free
  eq_free : free ≤ limit → cut = free
  eq_limit : limit < free → cut = limit

theorem lesser_cutTo {limit free : Float} (hlimit : limit ≤ limit) (hfree : free ≤ free) :
    CutTo limit free (lesser free limit) where
  le_limit := Order.lesser_le_right hfree hlimit
  le_free := Order.lesser_le hfree
  eq_free h := if_neg (not_lt_of_le h)
  eq_limit h := if_pos h

namespace Model

/-- Under a higher limit a component is not lower, in either mode. -/
theorem adjusted_le_adjusted (mode : LimitMode) {limit limit' base factor surface : Float}
    (hlimit : 0 ≤ limit) (hle : limit ≤ limit') (hbase : 0 ≤ base)
    (hfactor : factor.isFinite = true ∧ ¬ factor ≤ 0)
    (hsurface : surface.isFinite = true ∧ ¬ surface ≤ 0) :
    adjusted mode (some limit) base factor surface ≤
      adjusted mode (some limit') base factor surface := by
  cases mode with
  | clamp =>
    have hfree : 0 ≤ adjusted .clamp none base factor surface :=
      zero_le_adjusted .clamp nofun hbase hfactor hsurface
    exact Order.lesser_le_lesser (Order.le_right hfree) hle
  | replaceBase =>
    exact Double.mul_le_mul_right (Double.zero_le_mul_of_isFinite hlimit hfactor.1 hfactor.2)
      (Double.mul_le_mul_right hlimit hle hfactor.1 hfactor.2) hsurface.1 hsurface.2

end Model

/-! ## Speeds -/

/-- Speeds are in order where both components are. -/
instance : LE Speed where
  le s s' := s.weight ≤ s'.weight ∧ s.eta ≤ s'.eta

theorem Speed.Proper.le_self {s : Speed} (h : s.Proper) : s ≤ s :=
  ⟨Order.le_right h.1, Order.le_right h.2⟩

/-- A speed cut down to a limit: each component is. -/
structure Speed.CutTo (limit : Float) (free cut : Speed) : Prop where
  weight : RoadSpeed.CutTo limit free.weight cut.weight
  eta : RoadSpeed.CutTo limit free.eta cut.eta

namespace Model

variable {m : Model} {t : Classification} {tags : List TagId}

/-- On a road speeds are in the order of the limits in force. -/
theorem Finite.road_le_road (h : m.Finite) {rule : AccessRule}
    (hrule : m.resolveRule t tags = some rule) {forward inCity : Bool} {p q : PostedLimit}
    {limit limit' : Float} (hp : m.InForce ⟨forward, inCity, p⟩ (some limit))
    (hq : m.InForce ⟨forward, inCity, q⟩ (some limit')) (hle : limit ≤ limit') :
    ∃ s s', m.resolveSpeed t tags ⟨forward, inCity, p⟩ = .ok s ∧
      m.resolveSpeed t tags ⟨forward, inCity, q⟩ = .ok s' ∧ s ≤ s' := by
  obtain ⟨base, factor, surface, hbase, hfactor, hsurface, hspeed⟩ :=
    h.exists_components hrule inCity
  obtain ⟨s, hs, hweight, heta⟩ := hspeed forward p _ hp
  obtain ⟨s', hs', hweight', heta'⟩ := hspeed forward q _ hq
  refine ⟨s, s', hs, hs', ?_, ?_⟩
  · rw [hweight, hweight']
    exact adjusted_le_adjusted m.mode hp.zero_le hle hbase.1 hfactor.weight hsurface.weight
  · rw [heta, heta']
    exact adjusted_le_adjusted m.mode hp.zero_le hle hbase.2 hfactor.eta hsurface.eta

/-- Where no limit counts, speeds depend on the tags and on the city only. -/
theorem Finite.le_of_unbound (h : m.Finite) (hbound : m.traits.respectsLimits = false)
    (forward inCity : Bool) (p q : PostedLimit) :
    ∃ s s', m.resolveSpeed t tags ⟨forward, inCity, p⟩ = .ok s ∧
      m.resolveSpeed t tags ⟨forward, inCity, q⟩ = .ok s' ∧ s ≤ s' := by
  have hlimit (posted : PostedLimit) : m.limitInForce ⟨forward, inCity, posted⟩ = .ok none :=
    limitInForce_eq_ok_iff.mpr (.unbound hbound)
  obtain ⟨s, hs⟩ := exists_resolveSpeed (hlimit p) t tags
  have hsame : m.resolveSpeed t tags ⟨forward, inCity, q⟩ =
      m.resolveSpeed t tags ⟨forward, inCity, p⟩ :=
    resolveSpeed_of_limit rfl ((hlimit q).trans (hlimit p).symm)
  exact ⟨s, s, hs, hsame.trans hs, (h.proper hs).le_self⟩

/-- Where limits cut speeds down, the speed under a limit is the one without any, cut down to
the limit. -/
theorem Finite.cutTo (h : m.Finite) (hmode : m.mode = .clamp) {rule : AccessRule}
    (hrule : m.resolveRule t tags = some rule) {forward inCity : Bool} {p q : PostedLimit}
    {limit : Float} (hp : m.InForce ⟨forward, inCity, p⟩ (some limit))
    (hq : m.InForce ⟨forward, inCity, q⟩ none) :
    ∃ free s, m.resolveSpeed t tags ⟨forward, inCity, q⟩ = .ok free ∧
      m.resolveSpeed t tags ⟨forward, inCity, p⟩ = .ok s ∧ free.CutTo limit s := by
  obtain ⟨base, factor, surface, hbase, hfactor, hsurface, hspeed⟩ :=
    h.exists_components hrule inCity
  obtain ⟨free, hfree, hweight, heta⟩ := hspeed forward q _ hq
  obtain ⟨s, hs, hweight', heta'⟩ := hspeed forward p _ hp
  have hproper := h.proper hfree
  rw [hmode] at hweight heta hweight' heta'
  -- the component under the limit is the smaller one of the free component and the limit
  have hcut : s.weight = lesser free.weight limit ∧ s.eta = lesser free.eta limit := by
    rw [hweight, heta]
    exact ⟨hweight', heta'⟩
  refine ⟨free, s, hfree, hs, ?_, ?_⟩
  · rw [hcut.1]
    exact lesser_cutTo (Order.le_right hp.zero_le) (Order.le_right hproper.1)
  · rw [hcut.2]
    exact lesser_cutTo (Order.le_right hp.zero_le) (Order.le_right hproper.2)

/-- Speeds are in the order of the posted values: off the roads and for a class that limits do
not bind the values do not count, and else those in force decide. -/
theorem Finite.le_of_posted (h : m.Finite) {forward inCity : Bool} {p q : PostedLimit}
    {v w : PostedValue} {limit limit' : Float} (hunits : p.units = q.units)
    (hp : p.Active forward v) (hq : q.Active forward w) (hle : v.value ≤ w.value)
    (hlimit : p.units.toKmph v.value = .ok limit) (hlimit' : q.units.toKmph w.value = .ok limit') :
    ∃ s s', m.resolveSpeed t tags ⟨forward, inCity, p⟩ = .ok s ∧
      m.resolveSpeed t tags ⟨forward, inCity, q⟩ = .ok s' ∧ s ≤ s' := by
  cases hrule : m.resolveRule t tags with
  | none =>
    exact ⟨_, _, resolveSpeed_offroad hrule, resolveSpeed_offroad hrule, h.offroad.le_self⟩
  | some rule =>
    cases hbound : m.traits.respectsLimits with
    | false => exact h.le_of_unbound hbound forward inCity p q
    | true =>
      have hkmph := Units.toKmph_le_toKmph hle hlimit (hunits ▸ hlimit')
      exact h.road_le_road hrule (.posted hbound hp hlimit) (.posted hbound hq hlimit') hkmph

/-- In a model with finite factors speeds are in the order of the posted values of the direction,
in either mode and either system of units. Where limits bind and cut speeds down, the speed of a
road under a limit is the one without any, cut down to the limit. -/
theorem limits_order_and_cut (hm : m.Finite) (t : Classification) (tags : List TagId)
    (forward inCity : Bool) (p : PostedLimit) :
    (∀ q v w limit limit', p.units = q.units → p.Active forward v → q.Active forward w →
      v.value ≤ w.value → p.units.toKmph v.value = .ok limit →
      q.units.toKmph w.value = .ok limit' →
        ∃ s s', m.resolveSpeed t tags ⟨forward, inCity, p⟩ = .ok s ∧
          m.resolveSpeed t tags ⟨forward, inCity, q⟩ = .ok s' ∧ s ≤ s') ∧
    (m.mode = .clamp → m.traits.respectsLimits = true →
      (m.resolveCategory t tags).isSome = true →
      ∀ unposted limit, p.kmph forward = .ok (some limit) → unposted.kmph forward = .ok none →
        ∃ free s, m.resolveSpeed t tags ⟨forward, inCity, unposted⟩ = .ok free ∧
          m.resolveSpeed t tags ⟨forward, inCity, p⟩ = .ok s ∧ free.CutTo limit s) := by
  constructor
  · intro q v w limit limit' hunits hp hq hle hlimit hlimit'
    exact hm.le_of_posted hunits hp hq hle hlimit hlimit'
  · -- a category makes the tags those of a road, where the limit cuts the free speed
    intro hmode hbound hcategory unposted limit hlimit hnone
    rw [resolveCategory, Option.isSome_map] at hcategory
    obtain ⟨rule, hrule⟩ := Option.isSome_iff_exists.mp hcategory
    exact hm.cutTo hmode hrule (inForce_of_kmph hbound hlimit)
      (.unposted hbound (PostedLimit.kmph_eq_none_iff.mp hnone))

/-- A car against the direction of a primary road that 55 miles per hour are posted along: the 30
that are posted against it cut the speed down to 48 km/h, and the 55 alone do not make it lower. -/
theorem limits_order_and_cut_primary :
    ∃ m t, ∃ v w : PostedValue, create .car "" none .clamp = .ok m ∧ v.value = 30 ∧ w.value = 55 ∧
      ∃ free s s', m.resolveSpeed t [1] ⟨false, false, .absent⟩ = .ok free ∧
        m.resolveSpeed t [1] ⟨false, false, ⟨.imperial, some w, some v⟩⟩ = .ok s ∧
        m.resolveSpeed t [1] ⟨false, false, ⟨.imperial, some w, none⟩⟩ = .ok s' ∧ s ≤ s' ∧
        free.CutTo 48 s ∧ s.weight = 48 := by
  let t := (Taxonomy.empty.see Category.primary.place).classification
  let v : PostedValue := ⟨30, by decide +kernel, by decide +kernel⟩
  let w : PostedValue := ⟨55, by decide +kernel, by decide +kernel⟩
  have hcreated := create_eq_ok .car "" .clamp
  refine ⟨_, t, v, w, hcreated, rfl, rfl, ?_⟩
  obtain ⟨horder, hcut⟩ := limits_order_and_cut (finite_create hcreated) t [1] false false
    ⟨.imperial, some w, some v⟩
  obtain ⟨s, s', hs, hs', hle⟩ := horder ⟨.imperial, some w, none⟩ v w 48 89 rfl
    (.against rfl rfl) (.either rfl rfl) (by decide +kernel) (by decide +kernel) (by decide +kernel)
  obtain ⟨free, s₂, hfree, hs₂, hcutTo⟩ :=
    hcut rfl rfl (by decide +kernel) .absent 48 (by decide +kernel) rfl
  obtain rfl : s = s₂ := Except.ok.inj (hs.symm.trans hs₂)
  refine ⟨free, s, s', hfree, hs, hs', hle, hcutTo, hcutTo.weight.eq_limit ?_⟩
  have hfast : (Except.ok free : Except ResolveError Speed).map (fun s => decide (48 < s.weight)) =
      .ok true := by
    rw [← hfree]
    decide +kernel
  exact of_decide_eq_true (Except.ok.inj hfast)

end Model

end RoadSpeed
