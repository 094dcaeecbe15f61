import RoadSpeed.Proofs.Edge.Reversal
import RoadSpeed.Proofs.Edge.Times
import RoadSpeed.Proofs.Model.UnderLimit

/-!
# Tighter limits

Where limits cut speeds down (specification, §4.2), a tighter one makes no edge cheaper, neither
for path search nor in travel time. It leaves a speed that is not higher, which has the lower
rate and so the larger quotient. At a speed at which nothing moves the time is infinite, and no
time is longer than that.

- `travelTime_antitone`: travel times are in the order opposite to the one of speeds.
- `PostedLimit.Tighter`, `Model.Finite.le_of_tighter`: speeds under limits of which one is
  tighter, or under a limit and none.
- `Edge.NoCheaper`, `Edge.noCheaper_of_speed_le`: the costs of two edges.
- `EdgeBuilder.tighter_limits_no_cheaper`: the edges of a stretch under both limits.
-/

namespace RoadSpeed

/-! ## Travel times in order -/

section TravelTime

variable {length speed slow fast x y : Float}

/-- At the least speed above zero there is no time. -/
theorem ne_least_of_travelTime (h : travelTime length speed = .ok x) : speed ≠ leastDouble := by
  rintro rfl
  rw [travelTime_least] at h
  cases h

/-- A time for a length at a speed is at or above zero. -/
theorem zero_le_travelTime (hlength : 0 ≤ length) (hfinite : length.isFinite = true)
    (hspeed : 0 ≤ speed) (h : travelTime length speed = .ok x) : 0 ≤ x := by
  have htime := timeAt_travelTime hlength hfinite hspeed
  obtain ⟨x', hx', hzero⟩ := htime.isCost_iff.mpr (ne_least_of_travelTime h)
  rw [h] at hx'
  exact Except.ok.inj hx' ▸ hzero

/-- At a lower speed a length takes at least as long, wherever both speeds have a time. -/
theorem travelTime_antitone (hlength : 0 ≤ length) (hfinite : length.isFinite = true)
    (hslow : 0 ≤ slow) (hle : slow ≤ fast) (hx : travelTime length fast = .ok x)
    (hy : travelTime length slow = .ok y) : x ≤ y := by
  have hne := ne_least_of_travelTime hy
  have hne' := ne_least_of_travelTime hx
  have hzero := zero_le_travelTime hlength hfinite (Order.le_trans hslow hle) hx
  by_cases hmoves : 0 < slow
  · rw [travelTime_of_pos (Order.lt_of_lt_of_le hmoves hle) hne'] at hx
    rw [travelTime_of_pos hmoves hne] at hy
    cases hx
    cases hy
    have hrates : slow * kmphInMetresPerSecond ≤ fast * kmphInMetresPerSecond :=
      Double.mul_le_mul_right hslow hle (by decide +kernel) (by decide +kernel)
    exact Double.div_le_div_left hlength hfinite ((rate_pos_iff hmoves).mpr hne) hrates
  · -- nothing moves at the lower speed, so that its time is infinite
    have hstill := Order.le_of_not_lt (Order.le_left hslow) (Order.le_right hslow) hmoves
    rw [travelTime_of_le_zero hstill] at hy
    cases hy
    exact Order.le_of_infinity (Order.le_right hzero) rfl

end TravelTime

/-! ## Speeds under tighter limits -/

/-- Limits that are tighter than other ones: in each direction there is one in km/h, and the other
ones have none there or none below it. -/
def PostedLimit.Tighter (q p : PostedLimit) : Prop :=
  ∀ forward, ∃ limit, q.kmph forward = .ok (some limit) ∧
    ∀ limit', p.kmph forward = .ok (some limit') → limit ≤ limit'

/-- Where both limits are known both ways, the values decide. -/
theorem PostedLimit.tighter_of_le {p q : PostedLimit} (limit limit' : Bool → Float)
    (hq : ∀ forward, q.kmph forward = .ok (some (limit forward)))
    (hp : ∀ forward, p.kmph forward = .ok (some (limit' forward)))
    (hle : ∀ forward, limit forward ≤ limit' forward) : q.Tighter p := by
  intro forward
  refine ⟨limit forward, hq forward, fun other hother => ?_⟩
  rw [hp forward] at hother
  cases hother
  exact hle forward

namespace Model

variable {m : Model} {t : Classification} {tags : List TagId}

/-- Where limits cut speeds down, a speed under tighter limits is not higher. -/
theorem Finite.le_of_tighter (h : m.Finite) (hmode : m.mode = .clamp) {forward inCity : Bool}
    {p q : PostedLimit} (htighter : q.Tighter p) {s s' : Speed}
    (hs : m.resolveSpeed t tags ⟨forward, inCity, p⟩ = .ok s)
    (hs' : m.resolveSpeed t tags ⟨forward, inCity, q⟩ = .ok s') : s' ≤ s := by
  -- off the roads no limit counts, nor does one for a class that none binds
  cases hrule : m.resolveRule t tags with
  | none =>
    rw [resolveSpeed_offroad hrule] at hs hs'
    cases hs
    cases hs'
    exact h.offroad.le_self
  | some rule =>
    cases hbound : m.traits.respectsLimits with
    | false =>
      obtain ⟨u, u', hu, hu', hle⟩ := h.le_of_unbound hbound forward inCity q p
      rwa [← Except.ok.inj (hu.symm.trans hs'), ← Except.ok.inj (hu'.symm.trans hs)]
    | true =>
      obtain ⟨limit, hlimit, hleast⟩ := htighter forward
      have hq : m.InForce ⟨forward, inCity, q⟩ (some limit) := inForce_of_kmph hbound hlimit
      obtain ⟨other, hp⟩ := exists_inForce hrule hs
      -- the new limit cuts the free speed where none was posted, and is at or below the old one
      -- where one was
      cases other with
      | none =>
        obtain ⟨u, u', hu, hu', hcut⟩ := h.cutTo hmode hrule hq hp
        rw [← Except.ok.inj (hu.symm.trans hs), ← Except.ok.inj (hu'.symm.trans hs')]
        exact ⟨hcut.weight.le_free, hcut.eta.le_free⟩
      | some limit' =>
        obtain ⟨u, u', hu, hu', hle⟩ := h.road_le_road hrule hq hp (hleast limit' hp.kmph_eq.2)
        rwa [← Except.ok.inj (hu.symm.trans hs'), ← Except.ok.inj (hu'.symm.trans hs)]

end Model

/-! ## Edges under tighter limits -/

/-- The stretch under other limits. -/
def Stretch.under (s : Stretch) (posted : PostedLimit) : Stretch :=
  { s with segment := { s.segment with posted } }

/-- An edge is not cheaper than another one, neither for path search nor in travel time, wherever
both have the times. -/
structure Edge.NoCheaper (e' e : Edge) : Prop where
  weight : ∀ x y, e.weightTime = .ok x → e'.weightTime = .ok y → x ≤ y
  eta : ∀ x y, e.etaTime = .ok x → e'.etaTime = .ok y → x ≤ y

/-- Of two edges of the same length the slower one is not cheaper. -/
theorem Edge.noCheaper_of_speed_le {e e' : Edge} (hlen : e'.length = e.length)
    (hlength : 0 ≤ e.length) (hfinite : e.length.isFinite = true) (hproper : e'.speed.Proper)
    (hle : e'.speed ≤ e.speed) : e'.NoCheaper e where
  weight x y hx hy := by
    unfold weightTime at hx hy
    rw [hlen] at hy
    exact travelTime_antitone hlength hfinite hproper.1 hle.1 hx hy
  eta x y hx hy := by
    unfold etaTime at hx hy
    rw [hlen] at hy
    exact travelTime_antitone hlength hfinite hproper.2 hle.2 hx hy

namespace Model

variable {m : Model} {t : Classification} {s : Stretch} {id id' : Nat}

/-- The edge of a direction is not cheaper under tighter limits. -/
theorem Lays.noCheaper {forward : Bool} {e e' : Edge} {q : PostedLimit} (hm : m.Finite)
    (hmode : m.mode = .clamp) (hlength : 0 ≤ s.length) (hfinite : s.length.isFinite = true)
    (htighter : q.Tighter s.segment.posted) (h : m.Lays t s id forward e)
    (h' : m.Lays t (s.under q) id' forward e') : e'.NoCheaper e := by
  have hle : e'.speed ≤ e.speed := hm.le_of_tighter hmode htighter h.speed h'.speed
  have hlen : e'.length = e.length := h'.length.trans h.length.symm
  rw [← h.length] at hlength hfinite
  exact Edge.noCheaper_of_speed_le hlen hlength hfinite (hm.proper h'.speed) hle

/-- The directions in which a model lays edges. -/
def directions (m : Model) (t : Classification) (tags : List TagId) : List Bool :=
  if m.isRoad t tags then if m.isOneWay t tags then [true] else [true, false] else []

/-- Which way the edges of a stretch run is up to its tags. -/
theorem Ends.map_forward {edges : List Edge} {nextId : Nat}
    (h : m.Ends t s id (.ok edges, nextId)) :
    edges.map Edge.forward = m.directions t s.segment.tags := by
  unfold Model.directions
  cases h with
  | noRoad h => simp [h]
  | oneWay hroad hthere hone => simp [hroad, hone, hthere.forward_eq]
  | bothWays hroad hthere htwo hback =>
    simp [hroad, htwo, hthere.forward_eq, hback.forward_eq]

end Model

namespace EdgeBuilder

variable {b : EdgeBuilder} {t : Classification} {s : Stretch}

/-- Where limits cut speeds down, a fleet without profiles has no cheaper edges under tighter
limits: of two builds of a stretch with a finite length, once under its own limits and once under
tighter ones, the edges run the same ways, and the edge of a direction takes at least as long under
the tighter limits, for path search and in travel time. -/
theorem tighter_limits_no_cheaper {parents : Parents}
    (hfleet : Fleet.build parents [] .clamp = .ok b.fleet) (t : Classification) (s : Stretch)
    (hlength : 0 ≤ s.length) (hfinite : s.length.isFinite = true) {q : PostedLimit}
    (htighter : q.Tighter s.segment.posted) {nextId : Nat} {edges edges' : List Edge}
    (hbuilt : (b.build t s).1 = .ok edges)
    (hbuilt' : (({ b with nextId } : EdgeBuilder).build t (s.under q)).1 = .ok edges') :
    edges'.map Edge.forward = edges.map Edge.forward ∧
      ∀ e ∈ edges, ∀ e' ∈ edges', e'.forward = e.forward → e'.NoCheaper e := by
  have hcreate := Fleet.create_modelFor hfleet b.vehicle s.segment.country
  have hm := Model.finite_create hcreate
  have hmode := (Model.tame_create hcreate).1
  obtain ⟨_, hends⟩ := exists_ends hbuilt
  obtain ⟨_, hends'⟩ := exists_ends hbuilt'
  -- the two runs lay edges in the same directions, since limits decide on no road
  refine ⟨hends'.map_forward.trans hends.map_forward.symm, ?_⟩
  intro e he e' he' hforward
  obtain ⟨_, _, hlaid⟩ := hends.exists_lays e he
  obtain ⟨_, _, hlaid'⟩ := hends'.exists_lays e' he'
  rw [hlaid.forward_eq, hlaid'.forward_eq] at hforward
  subst hforward
  exact hlaid.noCheaper hm hmode hlength hfinite htighter hlaid'

/-- The edge of a car against the direction of a primary road of 250 metres, with a limit of 50
miles per hour along it: under the same limit against it, and under 30. -/
theorem exists_against_primary {f : Fleet} (hf : Fleet.build [] [] .clamp = .ok f)
    {against time : Float} (h : (against, time) ∈ [(50, 11.25), (30, 18.75)]) :
    ∃ edges, ((⟨f, .car, 0⟩ : EdgeBuilder).build primaryTaxonomy (primaryStretch 50 against)).1 =
      .ok edges ∧ ∃ e ∈ edges, e.forward = false ∧ e.weightTime = .ok time := by
  have hm := Fleet.modelFor_of_build hf .car ""
  rw [f.countryFor_unnamed] at hm
  have hedges : ((⟨f, .car, 0⟩ : EdgeBuilder).build primaryTaxonomy (primaryStretch 50 against)).1 =
      ((f.modelFor .car "").edges primaryTaxonomy (primaryStretch 50 against) 0).1 := by
    have hlength : ¬ (primaryStretch 50 against).length < 0 :=
      (by decide +kernel : ¬ (250.0 : Float) < 0)
    unfold build
    rw [if_neg hlength]
    rfl
  have htimes : ∀ p ∈ [((50 : Float), (11.25 : Float)), (30, 18.75)],
      ((f.modelFor .car "").edges primaryTaxonomy (primaryStretch 50 p.1) 0).1.map
        (List.map fun e => (e.forward, e.weightTime)) =
          .ok [(true, .ok 11.25), (false, .ok p.2)] := by
    rw [hm]
    decide +kernel
  obtain ⟨edges, hbuilt, hmap⟩ := map_eq_ok_iff.mp (htimes _ h)
  have hlast : (false, Except.ok time) ∈ edges.map fun e => (e.forward, e.weightTime) := by
    rw [hmap]
    exact List.mem_cons_of_mem _ List.mem_cons_self
  obtain ⟨e, he, hvalue⟩ := List.mem_map.mp hlast
  obtain ⟨hforward, htime⟩ := Prod.mk.inj hvalue
  exact ⟨edges, hedges.trans hbuilt, e, he, hforward, htime⟩

/-- A limit against the primary road that is lowered from 50 to 30 miles per hour lengthens the
travel against it from 11.25 to 18.75 seconds. -/
theorem no_cheaper_primary : ∃ (b : EdgeBuilder) (edges edges' : List Edge),
    Fleet.build [] [] .clamp = .ok b.fleet ∧ b.vehicle = .car ∧
      (b.build primaryTaxonomy (primaryStretch 50 50)).1 = .ok edges ∧
      (b.build primaryTaxonomy (primaryStretch 50 30)).1 = .ok edges' ∧
      ∃ e ∈ edges, ∃ e' ∈ edges', e.forward = false ∧ e'.forward = false ∧ e'.NoCheaper e ∧
        e.weightTime = .ok 11.25 ∧ e'.weightTime = .ok 18.75 := by
  obtain ⟨f, hf⟩ := Fleet.exists_build [] .clamp
  obtain ⟨edges, hbuilt, e, he, hforward, htime⟩ :=
    exists_against_primary hf (List.mem_cons_self (a := ((50 : Float), (11.25 : Float))))
  obtain ⟨edges', hbuilt', e', he', hforward', htime'⟩ := exists_against_primary hf
    (List.mem_cons_of_mem _ (List.mem_cons_self (a := ((30 : Float), (18.75 : Float)))))
  have htighter : (primaryStretch 50 30).segment.posted.Tighter
      (primaryStretch 50 50).segment.posted :=
    PostedLimit.tighter_of_le (fun forward => if forward then 80 else 48) (fun _ => 80)
      (by decide +kernel) (by decide +kernel) (by decide +kernel)
  obtain ⟨-, hcosts⟩ := tighter_limits_no_cheaper (b := ⟨f, .car, 0⟩) hf primaryTaxonomy
    (primaryStretch 50 50) (by decide +kernel) (by decide +kernel) htighter hbuilt hbuilt'
  exact ⟨⟨f, .car, 0⟩, edges, edges', hf, rfl, hbuilt, hbuilt', e, he, e', he', hforward, hforward',
    hcosts e he e' he' (hforward'.trans hforward.symm), htime, htime'⟩

end EdgeBuilder

end RoadSpeed
