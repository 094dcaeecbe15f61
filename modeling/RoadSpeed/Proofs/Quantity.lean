import RoadSpeed.Quantity
import RoadSpeed.Proofs.Model.Proper
import RoadSpeed.Proofs.Number.Product

/-!
# Chains of products

Each operation checks the rule of its result again (specification, §3 and §7). A factor that
passes is above zero in both components, for a product of numbers above zero is a number. A
speed that passes need not be a number: factors may overflow on the way, and an infinite one
times a speed of zero is no number, which the rule lets pass. In a chain of finite numbers this
is the only way to lose the number, and no later step brings it back.

- `Double.Clash`: zero times infinity.
- `Quantity.Proper`, `Quantity.ClashIn`: values that are numbers, and chains that lose them.
- `Quantity.step_proper_iff`: what one step keeps.
- `Quantity.run_proper`: which results of a chain of finite numbers are numbers.
-/

namespace RoadSpeed

/-! ## One component -/

namespace Double

variable {a x : Float}

/-- The one is zero and the other infinite, so that the product is no number. -/
def Clash (a x : Float) : Prop := (a == 0) = true ∧ x.isInf = true

theorem not_zero_le_of_form_nan (h : form a = .notANumber) : ¬ 0 ≤ a := by
  intro hle
  have hnan : (form a).isNaN = false := Order.isNaN_of_zero_le hle
  rw [h] at hnan
  cases hnan

/-- What is not below zero is at or above it unless it is no number. -/
theorem zero_le_iff_isNaN (ha : ¬ a < 0) : 0 ≤ a ↔ a.isNaN = false := by
  constructor
  · exact Order.isNaN_of_zero_le
  · intro hnan
    have hnan' : (form a).isNaN = false := hnan
    rcases (not_lt_zero_iff a).mp ha with h | h
    · rw [h] at hnan'
      cases hnan'
    · exact Order.zero_le_iff.mpr h

/-- A product of numbers above zero that is not rounded to zero. -/
theorem zero_lt_mul_of_pos (ha : 0 < a) (hx : 0 < x) (h : ¬ a * x ≤ 0) : 0 < a * x := by
  rcases Order.zero_or_pos (zero_le_mul_of_pos ha hx) with ⟨s, hs⟩ | hpos
  · exact absurd (Order.le_zero_of_zero hs) h
  · exact hpos

/-- A product is a number unless one factor is none or zero meets infinity. -/
theorem zero_le_mul_iff (ha : ¬ a < 0) (hx : 0 < x) : 0 ≤ a * x ↔ 0 ≤ a ∧ ¬ Clash a x := by
  rcases (not_lt_zero_iff a).mp ha with hnan | hnum
  · refine iff_of_false (not_zero_le_of_form_nan ?_) (fun h => not_zero_le_of_form_nan hnan h.1)
    rw [form_mul, hnan, mul_nan_left, unpack_pack_nan]
  have hle : 0 ≤ a := Order.zero_le_iff.mpr hnum
  rcases Order.zero_or_pos hle with ⟨s, hs⟩ | hpos
  · have hzero : (a == 0) = true := (beq_zero_iff a).mpr ⟨s, hs⟩
    rcases (zero_lt_iff x).mp hx with hinf | ⟨n, f, hn, hfin⟩
    · have hisInf : x.isInf = true := congrArg Float.Model.UnpackedFloat.isInf hinf
      refine iff_of_false (not_zero_le_of_form_nan ?_) (fun h => h.2 ⟨hzero, hisInf⟩)
      rw [form_mul, hs, hinf, mul_zero_infinity, unpack_pack_nan]
    · have hisInf : x.isInf = false := congrArg Float.Model.UnpackedFloat.isInf hfin
      refine iff_of_true (Order.zero_le_of_form (form_mul a x) (.inl ⟨s * .positive, ?_⟩)) ⟨hle, ?_⟩
      · rw [hs, hfin, mul_zero_finite]
      · rintro ⟨-, hclash⟩
        exact Bool.false_ne_true (hisInf.symm.trans hclash)
  · refine iff_of_true (zero_le_mul_of_pos hpos hx) ⟨hle, ?_⟩
    rintro ⟨hclash, -⟩
    exact Bool.false_ne_true ((beq_zero_of_pos hpos).symm.trans hclash)

/-- Cutting down to a finite number keeps a number and does not make one. -/
theorem zero_le_lesser_iff (hx : x.isFinite = true) (h : ¬ lesser a x < 0) :
    0 ≤ lesser a x ↔ 0 ≤ a := by
  unfold lesser at h ⊢
  split at h
  · rename_i hlt
    rw [if_pos hlt]
    have hle : 0 ≤ x := Order.zero_le_of_isFinite hx h
    exact iff_of_true hle (Order.le_trans hle (Order.le_of_lt hlt))
  · rename_i hge
    rw [if_neg hge]

end Double

/-! ## Speeds and factors -/

/-- Both components are above zero. -/
def Factor.Proper (f : Factor) : Prop := 0 < f.weight ∧ 0 < f.eta

theorem Factor.IsFinite.proper {f : Factor} (h : f.IsFinite) : f.Proper :=
  ⟨Double.zero_lt_of_isFinite h.1 f.pos.1, Double.zero_lt_of_isFinite h.2 f.pos.2⟩

/-- One factor after another is above zero if both are. -/
theorem Factor.Proper.compose {f g h : Factor} (hf : f.Proper) (hg : g.Proper)
    (hh : f.compose g = .ok h) : h.Proper := by
  obtain ⟨hweight, heta⟩ := of_eq_ok_iff.mp hh
  constructor
  · rw [hweight]
    exact Double.zero_lt_mul_of_pos hf.1 hg.1 (hweight ▸ h.pos.1)
  · rw [heta]
    exact Double.zero_lt_mul_of_pos hf.2 hg.2 (heta ▸ h.pos.2)

namespace Speed

variable {s s' : Speed} {f : Factor}

/-- The rule of speeds leaves out no number but lets pass what is none. -/
theorem proper_iff : s.Proper ↔ s.weight.isNaN = false ∧ s.eta.isNaN = false :=
  and_congr (Double.zero_le_iff_isNaN s.nonneg.1) (Double.zero_le_iff_isNaN s.nonneg.2)

/-- A component of the speed is zero and the same one of the factor infinite. -/
def Clash (s : Speed) (f : Factor) : Prop :=
  Double.Clash s.weight f.weight ∨ Double.Clash s.eta f.eta

theorem scale_proper_iff (hf : f.Proper) (h : s.scale f = .ok s') :
    s'.Proper ↔ s.Proper ∧ ¬ s.Clash f := by
  obtain ⟨hweight, heta⟩ := of_eq_ok_iff.mp h
  unfold Proper Clash
  rw [hweight, heta, Double.zero_le_mul_iff s.nonneg.1 hf.1, Double.zero_le_mul_iff s.nonneg.2 hf.2,
    not_or, and_and_and_comm]

theorem clamp_proper_iff {limit : Float} (hlimit : limit.isFinite = true)
    (h : s.clamp limit = .ok s') : s'.Proper ↔ s.Proper := by
  obtain ⟨hweight, heta⟩ := of_eq_ok_iff.mp h
  unfold Proper
  rw [hweight, heta, Double.zero_le_lesser_iff hlimit (hweight ▸ s'.nonneg.1),
    Double.zero_le_lesser_iff hlimit (heta ▸ s'.nonneg.2)]

end Speed

/-! ## One step -/

namespace Quantity

/-- The components of a speed are numbers at or above zero, and those of a factor above it. -/
def Proper : Quantity → Prop
  | speed s => s.Proper
  | factor f => f.Proper
  | number _ => True

/-- The value is made of finite numbers. -/
def IsFinite : Quantity → Prop
  | speed s => s.IsFinite
  | factor f => f.IsFinite
  | number x => x.isFinite = true

/-- If the value is a factor, both components are above zero. -/
def KeepsFactors (q : Quantity) : Prop := ∀ f, q = .factor f → f.Proper

variable {p q r : Quantity}

theorem IsFinite.proper (h : q.IsFinite) : q.Proper := by
  cases q with
  | speed s => exact Speed.IsFinite.proper h
  | factor f => exact Factor.IsFinite.proper h
  | number x => trivial

theorem Proper.keepsFactors (h : q.Proper) : q.KeepsFactors := by
  rintro f rfl
  exact h

theorem keepsFactors_speed (s : Speed) : KeepsFactors (.speed s) := by
  intro f h
  cases h

/-- Only a speed can pass the check of its rule and have a component that is no number. -/
theorem exists_nan_of_not_proper (hq : q.KeepsFactors) (h : ¬ q.Proper) :
    ∃ s, q = .speed s ∧ (s.weight.isNaN = true ∨ s.eta.isNaN = true) := by
  cases q with
  | speed s =>
    have hnan : ¬ (s.weight.isNaN = false ∧ s.eta.isNaN = false) := Speed.proper_iff.not.mp h
    rw [not_and_or, Bool.not_eq_false, Bool.not_eq_false] at hnan
    exact ⟨s, rfl, hnan⟩
  | factor f => exact absurd (hq f rfl) h
  | number x => exact absurd trivial h

theorem ofSpeed_eq_ok_iff {o : Except ComponentError Speed} :
    ofSpeed o = .ok q ↔ ∃ s, o = .ok s ∧ q = .speed s := by
  cases o <;> simp [ofSpeed, eq_comm]

theorem ofFactor_eq_ok_iff {o : Except ComponentError Factor} :
    ofFactor o = .ok q ↔ ∃ f, o = .ok f ∧ q = .factor f := by
  cases o <;> simp [ofFactor, eq_comm]

/-- A speed meets a factor, in either order, that is infinite where the speed is zero. -/
def Clash : Quantity → Quantity → Prop
  | speed s, factor f => s.Clash f
  | factor f, speed s => s.Clash f
  | _, _ => False

/-- A speed that is scaled keeps its numbers unless it clashes with the factor. -/
theorem ofSpeed_scale_proper_iff {s : Speed} {f : Factor} (hf : f.Proper)
    (h : ofSpeed (s.scale f) = .ok r) :
    r.KeepsFactors ∧ (r.Proper ↔ s.Proper ∧ ¬ s.Clash f) := by
  obtain ⟨s', hs, rfl⟩ := ofSpeed_eq_ok_iff.mp h
  exact ⟨keepsFactors_speed s', Speed.scale_proper_iff hf hs⟩

/-- A product is made of numbers exactly if both values are and do not clash. -/
theorem mul_proper_iff (hp : p.KeepsFactors) (hq : q.KeepsFactors) (h : p.mul q = .ok r) :
    r.KeepsFactors ∧ (r.Proper ↔ p.Proper ∧ q.Proper ∧ ¬ p.Clash q) := by
  -- only a speed and a factor, in either order, and two factors have a product
  cases p with
  | speed s => cases q with
    | speed s' => cases h
    | factor f =>
      obtain ⟨hkeeps, hiff⟩ := ofSpeed_scale_proper_iff (hq f rfl) h
      have hf : Proper (.factor f) := hq f rfl
      exact ⟨hkeeps, hiff.trans (and_congr_right fun _ => (and_iff_right hf).symm)⟩
    | number x => cases h
  | factor f => cases q with
    | speed s =>
      obtain ⟨hkeeps, hiff⟩ := ofSpeed_scale_proper_iff (hp f rfl) h
      have hf : Proper (.factor f) := hp f rfl
      exact ⟨hkeeps, hiff.trans (and_iff_right hf).symm⟩
    | factor g =>
      obtain ⟨f', hf', rfl⟩ := ofFactor_eq_ok_iff.mp h
      have hproper := (hp f rfl).compose (hq g rfl) hf'
      exact ⟨Proper.keepsFactors hproper, iff_of_true hproper ⟨hp f rfl, hq g rfl, not_false⟩⟩
    | number x => cases h
  | number x => cases h

/-- A speed and a factor have a product. -/
theorem exists_scale (s : Speed) (f : Factor) :
    ∃ s', ofSpeed (s.scale f) = .ok (.speed s') ∧ s'.weight = s.weight * f.weight ∧
      s'.eta = s.eta * f.eta :=
  ⟨_, ofSpeed_eq_ok_iff.mpr ⟨_, s.scale_eq_ok f, rfl⟩, rfl, rfl⟩

/-- Values that clash have a product. -/
theorem Clash.exists_mul_eq_ok (h : p.Clash q) : ∃ r, p.mul q = .ok r := by
  cases p with
  | speed s => cases q with
    | speed s' => cases h
    | factor f =>
      obtain ⟨s', hs', -⟩ := exists_scale s f
      exact ⟨_, hs'⟩
    | number x => cases h
  | factor f => cases q with
    | speed s =>
      obtain ⟨s', hs', -⟩ := exists_scale s f
      exact ⟨_, hs'⟩
    | factor g => cases h
    | number x => cases h
  | number x => cases h

end Quantity

namespace Step

/-- The value or the limit of the step is finite. -/
def IsFinite : Step → Prop
  | times right => right.IsFinite
  | timesFrom left => left.IsFinite
  | clamp limit => limit.isFinite = true

/-- The step multiplies by a value that the current one clashes with. -/
def ClashesWith (current : Quantity) : Step → Prop
  | times right => current.Clash right
  | timesFrom left => left.Clash current
  | clamp _ => False

end Step

namespace Quantity

variable {current q : Quantity} {s : Step} {steps : List Step}

/-- What one step keeps: factors stay above zero, and the result is made of numbers exactly if
the current value is and the step does not clash with it. -/
theorem step_proper_iff (hs : s.IsFinite) (hcurrent : current.KeepsFactors)
    (h : current.step s = .ok q) :
    q.KeepsFactors ∧ (q.Proper ↔ current.Proper ∧ ¬ s.ClashesWith current) := by
  -- the operand of a step is proper by itself, so that all hangs on the current value
  cases s with
  | times right =>
    have hright := IsFinite.proper hs
    obtain ⟨hkeeps, hiff⟩ := mul_proper_iff hcurrent hright.keepsFactors h
    exact ⟨hkeeps, hiff.trans (and_congr_right fun _ => and_iff_right hright)⟩
  | timesFrom left =>
    have hleft := IsFinite.proper hs
    obtain ⟨hkeeps, hiff⟩ := mul_proper_iff hleft.keepsFactors hcurrent h
    exact ⟨hkeeps, hiff.trans (and_iff_right hleft)⟩
  -- a limit cuts a component that is no number down to itself, and mends none
  | clamp limit =>
    cases current with
    | speed v =>
      obtain ⟨v', hv', rfl⟩ := ofSpeed_eq_ok_iff.mp h
      have hiff := Speed.clamp_proper_iff hs hv'
      exact ⟨keepsFactors_speed v', hiff.trans (and_iff_left not_false).symm⟩
    | factor f => cases h
    | number x => cases h

/-- A step that fails did not clash. -/
theorem not_clashesWith_of_error {e : StepError} (h : current.step s = .error e) :
    ¬ s.ClashesWith current := by
  intro hclash
  cases s with
  | times right =>
    obtain ⟨r, hr⟩ := Clash.exists_mul_eq_ok hclash
    cases hr.symm.trans h
  | timesFrom left =>
    obtain ⟨r, hr⟩ := Clash.exists_mul_eq_ok hclash
    cases hr.symm.trans h
  | clamp limit => exact hclash

/-- The value after a step, whether it failed or not. -/
theorem after_proper_iff (hs : s.IsFinite) (hcurrent : current.KeepsFactors) :
    (current.after (current.step s)).KeepsFactors ∧
      ((current.after (current.step s)).Proper ↔ current.Proper ∧ ¬ s.ClashesWith current) := by
  cases hstep : current.step s with
  | ok q => exact step_proper_iff hs hcurrent hstep
  | error e => exact ⟨hcurrent, (and_iff_left (not_clashesWith_of_error hstep)).symm⟩

/-! ## Chains -/

/-- One of the steps clashes with the value that it meets in the chain. -/
def ClashIn (current : Quantity) : List Step → Prop
  | [] => False
  | s :: steps => s.ClashesWith current ∨ ClashIn (current.after (current.step s)) steps

theorem not_clashIn_cons_iff : ¬ current.ClashIn (s :: steps) ↔
    ¬ s.ClashesWith current ∧ ¬ (current.after (current.step s)).ClashIn steps := not_or

/-- What a chain keeps up to one of its results. -/
theorem run_proper_iff (hsteps : ∀ s ∈ steps, s.IsFinite) (hcurrent : current.KeepsFactors)
    {i : Nat} (h : (current.run steps)[i]? = some (.ok q)) :
    q.KeepsFactors ∧ (q.Proper ↔ current.Proper ∧ ¬ current.ClashIn (steps.take (i + 1))) := by
  -- for every current value: a step that fails hands on the old one
  induction steps generalizing current i with
  | nil => cases h
  | cons s steps ih =>
    have hs := hsteps s List.mem_cons_self
    rw [List.take_succ_cons, not_clashIn_cons_iff]
    cases i with
    | zero =>
      have hstep : current.step s = .ok q := Option.some.inj h
      obtain ⟨hkeeps, hiff⟩ := step_proper_iff hs hcurrent hstep
      exact ⟨hkeeps, hiff.trans (and_congr_right fun _ => (and_iff_left not_false).symm)⟩
    | succ i =>
      obtain ⟨hkeeps, hiff⟩ := after_proper_iff hs hcurrent
      obtain ⟨hkeeps', hiff'⟩ :=
        ih (fun s' hs' => hsteps s' (List.mem_cons_of_mem s hs')) hkeeps h
      exact ⟨hkeeps', hiff'.trans ((and_congr_left' hiff).trans and_assoc)⟩

/-- A chain that starts from finite numbers and goes on by finite ones: each factor that comes
out is above zero in both components, and each result is made of numbers exactly if no step up
to it has clashed. What comes out otherwise is a speed with a component that is no number. -/
theorem run_proper {start : Quantity} (hstart : start.IsFinite)
    (hsteps : ∀ s ∈ steps, s.IsFinite) {i : Nat}
    (h : (start.run steps)[i]? = some (.ok q)) :
    (∀ f, q = .factor f → f.Proper) ∧ (q.Proper ↔ ¬ start.ClashIn (steps.take (i + 1))) ∧
      (start.ClashIn (steps.take (i + 1)) →
        ∃ s, q = .speed s ∧ (s.weight.isNaN = true ∨ s.eta.isNaN = true)) := by
  obtain ⟨hkeeps, hiff⟩ := run_proper_iff hsteps hstart.proper.keepsFactors h
  rw [and_iff_right hstart.proper] at hiff
  exact ⟨hkeeps, hiff, fun hclash =>
    exists_nan_of_not_proper hkeeps (hiff.not.mpr (not_not_intro hclash))⟩

/-- A step that succeeds hands on its result. -/
theorem run_cons_of_step (h : current.step s = .ok q) :
    current.run (s :: steps) = .ok q :: q.run steps := by
  have hcons : current.run (s :: steps) =
      current.step s :: (current.after (current.step s)).run steps := rfl
  rw [hcons, h]
  rfl

/-- A factor whose square overflows. -/
def huge : Factor := .literal 1e200 1e200 (by decide +kernel)

/-- An infinite factor. -/
def endless : Factor := .literal (1.0 / 0.0) (1.0 / 0.0) (by decide +kernel)

/-- A speed of zero. -/
def rest : Speed := .literal 0 0

/-- A walking speed. -/
def walk : Speed := .literal 5 4.5

/-- The walking speed, scaled up and cut down, is still a number. -/
theorem run_proper_walk : ∃ q,
    ((speed walk).run [.timesFrom (.factor huge), .clamp 6])[1]? = some (.ok q) ∧ q.Proper := by
  -- the factor sends both components to infinity, and the limit brings them back
  obtain ⟨fast, hfast, -⟩ := exists_scale walk huge
  obtain ⟨slow, hslow⟩ : ∃ s, fast.clamp 6 = .ok s :=
    ⟨_, fast.clamp_eq_ok (by decide +kernel)⟩
  have hstep : (speed walk).step (.timesFrom (.factor huge)) = .ok (.speed fast) := hfast
  have hstep' : (speed fast).step (.clamp 6) = .ok (.speed slow) :=
    ofSpeed_eq_ok_iff.mpr ⟨_, hslow, rfl⟩
  have hrun : ((speed walk).run [.timesFrom (.factor huge), .clamp 6])[1]? =
      some (.ok (.speed slow)) := by
    rw [run_cons_of_step hstep, run_cons_of_step hstep']
    rfl
  have hstart : IsFinite (.speed walk) := show walk.IsFinite by decide +kernel
  have hhuge : Step.IsFinite (.timesFrom (.factor huge)) := show huge.IsFinite by decide +kernel
  have hsix : Step.IsFinite (.clamp 6) := show Float.isFinite 6 = true by decide +kernel
  have hsteps : ∀ s ∈ [Step.timesFrom (.factor huge), .clamp 6], s.IsFinite := by
    intro s hs
    rcases List.mem_pair.mp hs with rfl | rfl
    · exact hhuge
    · exact hsix
  obtain ⟨-, hproper, -⟩ := run_proper hstart hsteps hrun
  refine ⟨_, hrun, hproper.mpr ?_⟩
  have hsmall : ¬ walk.Clash huge := by
    rintro (⟨-, h⟩ | ⟨-, h⟩)
    · exact absurd h (by decide +kernel)
    · exact absurd h (by decide +kernel)
  show ¬ ClashIn (.speed walk) [.timesFrom (.factor huge), .clamp 6]
  exact not_clashIn_cons_iff.mpr ⟨hsmall, not_clashIn_cons_iff.mpr ⟨not_false, not_false⟩⟩

/-- The square of the factor is infinite, and times a speed of zero it is no number. -/
theorem huge_squared_loses_rest : ∃ s,
    (factor huge).run [.times (.factor huge), .times (.speed rest)] =
      [.ok (.factor endless), .ok (.speed s)] ∧
    huge.IsFinite ∧ rest.IsFinite ∧ s.weight.isNaN = true ∧ ¬ s.Proper := by
  obtain ⟨s, hs, hweight, -⟩ := exists_scale rest endless
  have hsquare : huge.compose huge = .ok endless := Factor.of_eq_ok_iff.mpr (by decide +kernel)
  have hstep : (factor huge).step (.times (.factor huge)) = .ok (.factor endless) := by
    show ofFactor (huge.compose huge) = _
    rw [hsquare]
    rfl
  have hstep' : (factor endless).step (.times (.speed rest)) = .ok (.speed s) := hs
  have hnan : s.weight.isNaN = true := by
    rw [hweight]
    decide +kernel
  refine ⟨s, ?_, by decide +kernel, by decide +kernel, hnan, ?_⟩
  · rw [run_cons_of_step hstep, run_cons_of_step hstep']
    rfl
  · intro hproper
    exact absurd ((Speed.proper_iff.mp hproper).1.symm.trans hnan) Bool.false_ne_true

end Quantity

end RoadSpeed
