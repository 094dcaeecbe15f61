import RoadSpeed.Proofs.Limit.Conversion
import RoadSpeed.Proofs.Model.Search
import RoadSpeed.Proofs.Number.Sign
import RoadSpeed.Speed

/-!
# What speed tags have

The speed of a list of tags as a relation that names each part on its own: the rule
of the rightmost tag that belongs to one, the factor of the rightmost surface, the
limit in force, and the entries of the tables for the category (specification, §4.2).
Scaling a speed and cutting it down check the rule of speeds again on their result. The
rule always holds there, so that neither operation fails on values that keep it.

- `Speed.scale_eq_ok`: scaling succeeds, by any factor.
- `Speed.uniform_eq_ok`, `Speed.clamp_eq_ok`: so do limits that are not below zero.
- `PostedLimit.Active`, `Model.InForce`: the limit of a direction and of a trip.
- `adjusted`: one component under a limit.
- `Model.Resolves`: the relation.
- `Model.resolveSpeed_correct`: the model gives the speed of the relation, and gives
  one whenever the limit has a value in km/h.
-/

namespace RoadSpeed

/-! ## Operations on speeds -/

/-- The smaller one of two numbers that are not below zero is not below zero. -/
theorem lesser_not_lt_zero {a b : Float} (ha : ¬ a < 0) (hb : ¬ b < 0) : ¬ lesser a b < 0 := by
  unfold lesser
  split
  · exact hb
  · exact ha

namespace Speed

theorem of_eq_ok {weight eta : Float} (h : ¬ weight < 0 ∧ ¬ eta < 0) :
    of weight eta = .ok ⟨weight, eta, h⟩ :=
  of_eq_ok_iff.mpr ⟨rfl, rfl⟩

theorem scale_nonneg (s : Speed) (f : Factor) :
    ¬ s.weight * f.weight < 0 ∧ ¬ s.eta * f.eta < 0 :=
  ⟨Double.mul_not_lt_zero s.nonneg.1 f.pos.1, Double.mul_not_lt_zero s.nonneg.2 f.pos.2⟩

/-- Scaling always succeeds: products of the components keep the rule. -/
theorem scale_eq_ok (s : Speed) (f : Factor) :
    s.scale f = .ok ⟨s.weight * f.weight, s.eta * f.eta, s.scale_nonneg f⟩ :=
  of_eq_ok _

theorem uniform_eq_ok {value : Float} (h : ¬ value < 0) :
    uniform value = .ok ⟨value, value, h, h⟩ :=
  of_eq_ok _

theorem clamp_nonneg (s : Speed) {limit : Float} (h : ¬ limit < 0) :
    ¬ lesser s.weight limit < 0 ∧ ¬ lesser s.eta limit < 0 :=
  ⟨lesser_not_lt_zero s.nonneg.1 h, lesser_not_lt_zero s.nonneg.2 h⟩

/-- Cutting down to a limit that is not below zero succeeds. -/
theorem clamp_eq_ok (s : Speed) {limit : Float} (h : ¬ limit < 0) :
    s.clamp limit = .ok ⟨lesser s.weight limit, lesser s.eta limit, s.clamp_nonneg h⟩ :=
  of_eq_ok _

end Speed

/-! ## The limit of a trip -/

/-- The value that is posted for a direction. The one against the segment counts only
where both are known. -/
inductive PostedLimit.Active (p : PostedLimit) : Bool → PostedValue → Prop where
  | along {v : PostedValue} (h : p.forward = some v) : Active p true v
  | against {v w : PostedValue} (hv : p.forward = some v) (hw : p.backward = some w) :
      Active p false w
  | either {v : PostedValue} (h : p.forward = some v) (hnone : p.backward = none) :
      Active p false v

namespace PostedLimit

variable {p : PostedLimit} {forward : Bool}

/-- A limit against a segment is only known where one along it is. -/
theorem Active.exists_along {v : PostedValue} (h : p.Active forward v) : ∃ w, p.Active true w := by
  cases h with
  | along h => exact ⟨v, .along h⟩
  | against hv => exact ⟨_, .along hv⟩
  | either h => exact ⟨v, .along h⟩

theorem inUnits_eq_some_iff {v : PostedValue} :
    p.inUnits forward = some v ↔ p.Active forward v := by
  constructor
  · intro h
    cases forward with
    | true => exact .along h
    | false =>
      cases hf : p.forward with
      | none => simp [inUnits, hf] at h
      | some f =>
        cases hb : p.backward with
        | none => exact .either (by simpa [inUnits, hf, hb] using h) hb
        | some b => exact .against hf (by simpa [inUnits, hf, hb] using h)
  · rintro (h | ⟨hv, hw⟩ | ⟨h, hnone⟩) <;> simp only [inUnits, *]

theorem inUnits_eq_none_iff : p.inUnits forward = none ↔ ∀ v, ¬ p.Active forward v := by
  rw [Option.eq_none_iff_forall_ne_some]
  exact forall_congr' fun v => not_congr inUnits_eq_some_iff

/-- There is a limit in km/h when the value of the direction has one. -/
theorem kmph_eq_some_iff {limit : Float} :
    p.kmph forward = .ok (some limit) ↔
      ∃ v, p.Active forward v ∧ p.units.toKmph v.value = .ok limit := by
  simp only [← inUnits_eq_some_iff]
  unfold kmph
  cases p.inUnits forward with
  | none => simp
  | some v => cases h : p.units.toKmph v.value <;> simp [h, Except.map]

/-- No limit is known when there is no value for the direction. -/
theorem kmph_eq_none_iff : p.kmph forward = .ok none ↔ ∀ v, ¬ p.Active forward v := by
  rw [← inUnits_eq_none_iff]
  unfold kmph
  cases p.inUnits forward with
  | none => simp
  | some v => cases h : p.units.toKmph v.value <;> simp [h, Except.map]

end PostedLimit

namespace Model

variable {m : Model} {t : Classification} {tags : List TagId} {trip : Trip}

/-- The limit that a trip is under: none for a class that limits do not bind or where
none is posted, and else the posted value in km/h. -/
inductive InForce (m : Model) (trip : Trip) : Option Float → Prop where
  | unbound (h : m.traits.respectsLimits = false) : InForce m trip none
  | unposted (hbound : m.traits.respectsLimits = true)
      (h : ∀ v, ¬ trip.posted.Active trip.forward v) : InForce m trip none
  | posted {v : PostedValue} {limit : Float} (hbound : m.traits.respectsLimits = true)
      (h : trip.posted.Active trip.forward v)
      (hkmph : trip.posted.units.toKmph v.value = .ok limit) : InForce m trip (some limit)

theorem limitInForce_eq_ok_iff {limit : Option Float} :
    m.limitInForce trip = .ok limit ↔ m.InForce trip limit := by
  unfold limitInForce
  -- a class that no limit binds does not even convert it, so that nothing can fail
  cases hbound : m.traits.respectsLimits with
  | false =>
    constructor
    · rintro ⟨⟩
      exact .unbound hbound
    · rintro (- | ⟨h, -⟩ | ⟨h, -, -⟩)
      · rfl
      all_goals rw [hbound] at h; cases h
  | true =>
    rw [if_pos rfl]
    have hmap : (trip.posted.kmph trip.forward).mapError ResolveError.conversion = .ok limit ↔
        trip.posted.kmph trip.forward = .ok limit := by
      cases trip.posted.kmph trip.forward <;> simp [Except.mapError]
    rw [hmap]
    constructor
    · intro h
      cases limit with
      | none => exact .unposted hbound (PostedLimit.kmph_eq_none_iff.mp h)
      | some l =>
        obtain ⟨v, hactive, hkmph⟩ := PostedLimit.kmph_eq_some_iff.mp h
        exact .posted hbound hactive hkmph
    · rintro (h | ⟨-, hnone⟩ | ⟨-, hactive, hkmph⟩)
      · rw [hbound] at h
        cases h
      · exact PostedLimit.kmph_eq_none_iff.mpr hnone
      · exact PostedLimit.kmph_eq_some_iff.mpr ⟨_, hactive, hkmph⟩

/-- The limit of a trip is that of its direction, and it is in force for a class that limits
bind. -/
theorem InForce.kmph_eq {limit : Float} (h : m.InForce trip (some limit)) :
    m.traits.respectsLimits = true ∧ trip.posted.kmph trip.forward = .ok (some limit) := by
  cases h with
  | posted hbound hactive hkmph =>
    exact ⟨hbound, PostedLimit.kmph_eq_some_iff.mpr ⟨_, hactive, hkmph⟩⟩

theorem inForce_of_kmph {limit : Float} (hbound : m.traits.respectsLimits = true)
    (h : trip.posted.kmph trip.forward = .ok (some limit)) : m.InForce trip (some limit) := by
  obtain ⟨v, hactive, hkmph⟩ := PostedLimit.kmph_eq_some_iff.mp h
  exact .posted hbound hactive hkmph

/-- A limit in force is not below zero. -/
theorem InForce.not_lt_zero {limit : Option Float} (h : m.InForce trip limit) :
    ∀ l, limit = some l → ¬ l < 0 := by
  rintro l rfl
  cases h with
  | posted _ hactive hkmph =>
    exact PostedLimit.kmph_not_lt_zero (PostedLimit.kmph_eq_some_iff.mpr ⟨_, hactive, hkmph⟩)

/-! ## The speed under a limit -/

/-- One component of a speed under a limit: the base, adjusted by the factors of the
category and of the surface. The limit cuts the result down or takes the place of the
base. -/
def adjusted (mode : LimitMode) (limit : Option Float) (base factor surface : Float) : Float :=
  match limit, mode with
  | none, _ => base * factor * surface
  | some l, .clamp => lesser (base * factor * surface) l
  | some l, .replaceBase => l * factor * surface

/-- With entries in both tables and a limit that is not below zero there is a speed,
and its components are the adjusted ones. -/
theorem speedUnder_eq_ok {c : Category} {surface : Factor} {inCity : Bool}
    {limit : Option Float} {base : ByArea Speed} {factor : ByArea Factor}
    (hbase : m.tables.speeds.get? c = some base)
    (hfactor : m.tables.factors.get? c = some factor) (hlimit : ∀ l, limit = some l → ¬ l < 0) :
    ∃ s, m.speedUnder c surface inCity limit = .ok s ∧
      s.weight = adjusted m.mode limit (base.get inCity).weight (factor.get inCity).weight
        surface.weight ∧
      s.eta = adjusted m.mode limit (base.get inCity).eta (factor.get inCity).eta
        surface.eta := by
  have hb : m.baseSpeed c inCity = .ok (base.get inCity) := by rw [baseSpeed, hbase]
  have hf : m.categoryFactor c inCity = .ok (factor.get inCity) := by rw [categoryFactor, hfactor]
  unfold speedUnder
  rw [hb, hf]
  -- no step fails: scaling keeps the rule of speeds, and the limit is not below zero
  cases limit with
  | none =>
    simp only [Speed.scale_eq_ok, Except.mapError, bind, Except.bind]
    exact ⟨_, rfl, rfl, rfl⟩
  | some l =>
    cases m.mode with
    | clamp =>
      simp only [Speed.scale_eq_ok, Speed.clamp_eq_ok _ (hlimit l rfl), Except.mapError, bind,
        Except.bind]
      exact ⟨_, rfl, rfl, rfl⟩
    | replaceBase =>
      simp only [Speed.scale_eq_ok, Speed.uniform_eq_ok (hlimit l rfl), Except.mapError, bind,
        Except.bind]
      exact ⟨_, rfl, rfl, rfl⟩

/-! ## The speed of tags -/

/-- The speed of a list of tags on a trip. Off the roads neither the other tags nor the
trip count. -/
inductive Resolves (m : Model) (t : Classification) (tags : List TagId) (trip : Trip) :
    Speed → Prop where
  | offroad (h : ∀ tag ∈ tags, ∀ rule, ¬ m.Belongs t tag rule) : Resolves m t tags trip m.offroad
  | road {rule : AccessRule} {surface : Factor} {limit : Option Float} {base : ByArea Speed}
      {factor : ByArea Factor} {s : Speed}
      (hrule : Rightmost (m.Belongs t) tags rule)
      (hsurface : m.Surfaced t tags surface)
      (hlimit : m.InForce trip limit)
      (hbase : m.tables.speeds.get? rule.category = some base)
      (hfactor : m.tables.factors.get? rule.category = some factor)
      (hweight : s.weight = adjusted m.mode limit (base.get trip.inCity).weight
        (factor.get trip.inCity).weight surface.weight)
      (heta : s.eta = adjusted m.mode limit (base.get trip.inCity).eta
        (factor.get trip.inCity).eta surface.eta) : Resolves m t tags trip s

/-- Off the roads the speed is the one of the traits. -/
theorem resolveSpeed_offroad (h : m.resolveRule t tags = none) :
    m.resolveSpeed t tags trip = .ok m.offroad := by
  rw [resolveSpeed, h]

/-- Of a trip only the city and the limit in force count. -/
theorem resolveSpeed_of_limit {trip' : Trip} (hcity : trip.inCity = trip'.inCity)
    (hlimit : m.limitInForce trip = m.limitInForce trip') :
    m.resolveSpeed t tags trip = m.resolveSpeed t tags trip' := by
  unfold resolveSpeed
  rw [hcity, hlimit]

/-- On a road the speed is the one under the limit in force. -/
theorem resolveSpeed_road {rule : AccessRule} (h : m.resolveRule t tags = some rule) :
    m.resolveSpeed t tags trip = (m.limitInForce trip).bind fun limit =>
      m.speedUnder rule.category (m.surfaceFactor t tags) trip.inCity limit := by
  rw [resolveSpeed, h]
  rfl

/-- On a road and under a limit in force there is a speed with the adjusted components. -/
theorem resolveSpeed_eq_ok {rule : AccessRule} {limit : Option Float} {base : ByArea Speed}
    {factor : ByArea Factor} (hrule : m.resolveRule t tags = some rule)
    (hlimit : m.InForce trip limit) (hbase : m.tables.speeds.get? rule.category = some base)
    (hfactor : m.tables.factors.get? rule.category = some factor) :
    ∃ s, m.resolveSpeed t tags trip = .ok s ∧
      s.weight = adjusted m.mode limit (base.get trip.inCity).weight
        (factor.get trip.inCity).weight (m.surfaceFactor t tags).weight ∧
      s.eta = adjusted m.mode limit (base.get trip.inCity).eta
        (factor.get trip.inCity).eta (m.surfaceFactor t tags).eta := by
  rw [resolveSpeed_road hrule, limitInForce_eq_ok_iff.mpr hlimit]
  exact speedUnder_eq_ok hbase hfactor hlimit.not_lt_zero

/-- On a road there is a speed only under a limit in force. -/
theorem exists_inForce {rule : AccessRule} {s : Speed} (hrule : m.resolveRule t tags = some rule)
    (h : m.resolveSpeed t tags trip = .ok s) : ∃ limit, m.InForce trip limit := by
  rw [resolveSpeed_road hrule] at h
  cases hlimit : m.limitInForce trip with
  | error e =>
    rw [hlimit] at h
    cases h
  | ok limit => exact ⟨limit, limitInForce_eq_ok_iff.mp hlimit⟩

/-- A speed that the model gives is one of the relation. -/
theorem resolves_of_eq_ok {s : Speed} (h : m.resolveSpeed t tags trip = .ok s) :
    m.Resolves t tags trip s := by
  cases hrule : m.resolveRule t tags with
  | none =>
    rw [resolveSpeed_offroad hrule] at h
    cases h
    exact .offroad (resolveRule_eq_none_iff.mp hrule)
  | some rule =>
    obtain ⟨limit, hlimit⟩ := exists_inForce hrule h
    obtain ⟨base, factor, hbase, hfactor⟩ := m.exists_entries (mem_rules_of_resolveRule hrule)
    obtain ⟨s', hs', hweight, heta⟩ := resolveSpeed_eq_ok hrule hlimit hbase hfactor
    rw [hs'] at h
    cases h
    exact .road (resolveRule_eq_some_iff.mp hrule) (surfaceFactor_eq_iff.mp rfl) hlimit hbase
      hfactor hweight heta

/-- A speed of the relation is the one that the model gives. -/
theorem Resolves.eq_ok {s : Speed} (h : m.Resolves t tags trip s) :
    m.resolveSpeed t tags trip = .ok s := by
  cases h with
  | offroad hnone => exact resolveSpeed_offroad (resolveRule_eq_none_iff.mpr hnone)
  | road hrule hsurface hlimit hbase hfactor hweight heta =>
    -- both speeds have the adjusted components, which determine them
    obtain ⟨s', hs', hweight', heta'⟩ :=
      resolveSpeed_eq_ok (resolveRule_eq_some_iff.mpr hrule) hlimit hbase hfactor
    rw [surfaceFactor_eq_iff.mpr hsurface] at hweight' heta'
    rw [hs', Speed.ext (hweight.trans hweight'.symm) (heta.trans heta'.symm)]

/-- There is a speed off the roads, and on a road whenever the limit has a value. -/
theorem exists_eq_ok_iff :
    (∃ s, m.resolveSpeed t tags trip = .ok s) ↔
      (∀ tag ∈ tags, ∀ rule, ¬ m.Belongs t tag rule) ∨ ∃ limit, m.InForce trip limit := by
  constructor
  · rintro ⟨s, hs⟩
    cases resolves_of_eq_ok hs with
    | offroad hnone => exact .inl hnone
    | road _ _ hlimit => exact .inr ⟨_, hlimit⟩
  · rintro (hnone | ⟨limit, hlimit⟩)
    · exact ⟨_, resolveSpeed_offroad (resolveRule_eq_none_iff.mpr hnone)⟩
    cases hrule : m.resolveRule t tags with
    | none => exact ⟨_, resolveSpeed_offroad hrule⟩
    | some rule =>
      obtain ⟨base, factor, hbase, hfactor⟩ := m.exists_entries (mem_rules_of_resolveRule hrule)
      obtain ⟨s, hs, -⟩ := resolveSpeed_eq_ok hrule hlimit hbase hfactor
      exact ⟨s, hs⟩

/-- A model resolves tags to the speed of the relation. It has one off the roads, and
on a road whenever there is a limit in force or none is posted. -/
theorem resolveSpeed_correct (m : Model) (t : Classification) (tags : List TagId) (trip : Trip) :
    (∀ s, m.resolveSpeed t tags trip = .ok s ↔ m.Resolves t tags trip s) ∧
      ((∃ s, m.resolveSpeed t tags trip = .ok s) ↔
        (∀ tag ∈ tags, ∀ rule, ¬ m.Belongs t tag rule) ∨ ∃ limit, m.InForce trip limit) := by
  refine ⟨?_, exists_eq_ok_iff⟩
  intro s
  exact ⟨resolves_of_eq_ok, Resolves.eq_ok⟩

end Model

end RoadSpeed
