import RoadSpeed.Proofs.Number.Comparison
import RoadSpeed.Proofs.Number.Nearest

/-!
# Products and quotients of doubles

A product with a factor up to one is not above the other factor, also where it is rounded, and
where it is too small for any double. Products and quotients of numbers that are not negative
are not below zero, whatever overflows or underflows on the way, and with a factor that is
finite and above zero they are numbers, also where the other one is infinite. Between zero and
the least double above it there is none, so that what is scaled down to less than half of it is
zero. All other doubles above zero are at least twice as large, and a factor above one quarter
leaves each of them above zero.

- `zero_le_mul_of_isFinite`, `zero_le_mul_of_pos`, `zero_le_div`: products and quotients that
  are not below zero.
- `mul_le_self`, `zero_le_mul`, `zero_lt_mul`, `mul_one_eq`: products with a factor up to one.
- `zero_le_ofInt`: the double nearest to a whole number.
- `leastDouble`: the least double above zero.
- `beq_zero_iff`: the doubles that equal zero.
- `zero_lt_mul_of_ne_least`: scaling down a double above the least one.
-/

namespace RoadSpeed

/-! ## Products and quotients of numbers that are not negative -/

namespace Double

open Float.Model (Format UnpackedFloat totalExponent)
open Float.Model.UnpackedFloat

variable {a b : Float} {m n : ℕ} {e f : ℤ}

/-- What is finite and not at or below zero. -/
theorem form_of_isFinite_of_pos (hfinite : b.isFinite = true) (hpos : ¬ b ≤ 0) :
    ∃ n f hn, form b = .finite .positive n f hn := by
  rw [isFinite_eq] at hfinite
  rcases (not_le_zero_iff b).mp hpos with hb | hb | hb
  · rw [hb] at hfinite
    cases hfinite
  · rw [hb] at hfinite
    cases hfinite
  · exact hb

/-- A product with a factor that is finite and above zero. -/
theorem zero_le_mul_of_isFinite (ha : 0 ≤ a) (hfinite : b.isFinite = true) (hpos : ¬ b ≤ 0) :
    0 ≤ a * b := by
  obtain ⟨n, f, hn, hb⟩ := form_of_isFinite_of_pos hfinite hpos
  refine Order.zero_le_of_form (form_mul a b) ?_
  rw [hb]
  rcases Order.zero_or_pos ha with ⟨s, hs⟩ | hlt
  · rw [hs]
    exact .inl ⟨_, mul_zero_finite s .positive hn⟩
  · rcases (zero_lt_iff a).mp hlt with ha | ⟨m, e, hm, ha⟩
    · rw [ha]
      exact .inr .infinity
    · rw [ha]
      exact .inr (mul_signed hm hn)

/-- What is finite and not at or below zero is above it. -/
theorem zero_lt_of_isFinite (hfinite : b.isFinite = true) (hpos : ¬ b ≤ 0) : 0 < b :=
  (zero_lt_iff b).mpr (.inr (form_of_isFinite_of_pos hfinite hpos))

/-- A product of numbers above zero, infinity included. -/
theorem zero_le_mul_of_pos (ha : 0 < a) (hb : 0 < b) : 0 ≤ a * b := by
  refine Order.zero_le_of_form (form_mul a b) (.inr ?_)
  have hfactor := (zero_lt_iff b).mp hb
  rcases (zero_lt_iff a).mp ha with hform | ⟨m, e, hm, hform⟩
  · rw [hform]
    exact Signed.infinity.mul (fun _ h => by cases h) hfactor
  · rw [hform]
    exact (Signed.finite m e hm).mul (fun _ h => by cases h) hfactor

/-- Zero over a number above zero. -/
theorem exists_zero_div (s : Sign) (hb : 0 < b) :
    ∃ t, div Format.binary64 (.zero s) (form b) = .zero t := by
  rcases (zero_lt_iff b).mp hb with hb | ⟨n, f, hn, hb⟩ <;> rw [hb] <;> exact ⟨_, rfl⟩

/-- A quotient of a finite number by one that is above zero. -/
theorem zero_le_div (ha : 0 ≤ a) (hfinite : a.isFinite = true) (hb : 0 < b) : 0 ≤ a / b := by
  refine Order.zero_le_of_form (form_div a b) ?_
  rw [isFinite_eq] at hfinite
  rcases Order.zero_or_pos ha with ⟨s, hs⟩ | hlt
  · rw [hs]
    exact .inl (exists_zero_div s hb)
  · rcases (zero_lt_iff a).mp hlt with ha | ⟨m, e, hm, ha⟩
    · rw [ha] at hfinite
      cases hfinite
    · rw [ha]
      rcases (zero_lt_iff b).mp hb with hb | ⟨n, f, hn, hb⟩
      · rw [hb]
        exact .inl ⟨_, rfl⟩
      · rw [hb]
        exact .inr (div_signed hm hn)

/-! ## Products with a factor up to one -/

/-- The product of canonical forms has all the bits that its size calls for, so that
rounding only drops bits. -/
theorem Canonical.add_le_targetExponent (h : Canonical m e) (h' : Canonical n f) :
    e + f ≤ Format.binary64.targetExponent (totalExponent (m * n) (e + f)) := by
  have hpos : 0 < m * n := Nat.mul_pos h.pos h'.pos
  rw [targetExponent_eq, totalExponent]
  have hlarge : 2 ^ 52 ≤ m * n → 52 ≤ (m * n).log2 := fun hbits =>
    (Nat.le_log2 hpos.ne').mpr hbits
  rcases h.normal with hm | rfl
  · have := hlarge (hm.trans (Nat.le_mul_of_pos_right m h'.pos))
    omega
  · rcases h'.normal with hn | rfl
    · have := hlarge (hn.trans (Nat.le_mul_of_pos_left n h.pos))
      omega
    · omega

/-- A form with a factor up to one. -/
theorem mul_form_le (s t : Sign) (h : Canonical m e) (h' : Canonical n f) (hone : dyadic n f ≤ 1) :
    dyadic m e * dyadic n f ≤ 2 ^ (-1075 : ℤ) ∧
        mul Format.binary64 (.finite s m e h.pos) (.finite t n f h'.pos) = .zero (s * t) ∨
      ∃ m' e', ∃ hc : Canonical m' e', dyadic m' e' ≤ dyadic m e ∧
        mul Format.binary64 (.finite s m e h.pos) (.finite t n f h'.pos) =
          .finite (s * t) m' e' hc.pos := by
  rw [← dyadic_mul]
  refine roundWithAccuracy_le (s * t) (h.add_le_targetExponent h') h ?_
  rw [dyadic_mul]
  exact mul_le_of_le_one_right (dyadic_pos h.pos e).le hone

theorem canonical_one : Canonical (2 ^ 52) (-52) :=
  ⟨by norm_num, by norm_num, by norm_num, .inl (le_refl _)⟩

theorem form_one : form 1 = .finite .positive (2 ^ 52) (-52) canonical_one.pos := rfl

theorem dyadic_one : dyadic (2 ^ 52) (-52) = 1 := by
  norm_num [dyadic]

/-- What is above zero and up to one. -/
theorem form_of_le_one {x : Float} (hpos : ¬ x ≤ 0) (hone : x ≤ 1) :
    ∃ n f, ∃ h : Canonical n f, dyadic n f ≤ 1 ∧ form x = .finite .positive n f h.pos := by
  rcases (not_le_zero_iff x).mp hpos with hx | hx | ⟨n, f, hn, hx⟩
  · obtain ⟨r, -, hr, -⟩ := Order.le_iff_rank.mp hone
    rw [hx] at hr
    cases hr
  · rw [Order.le_iff_rank, hx, form_one] at hone
    simp [rank, Prod.Lex.toLex_le_toLex] at hone
  · obtain ⟨h, -⟩ := canonical_of_unpack hx
    rw [Order.le_iff_of_finite hx form_one, ← dyadic_le_dyadic_iff h canonical_one,
      dyadic_one] at hone
    exact ⟨n, f, h, hone, hx⟩

/-- A product with a factor up to one is at or below the other factor. -/
theorem mul_le_self {a x : Float} (ha : 0 ≤ a) (hpos : ¬ x ≤ 0) (hone : x ≤ 1) : a * x ≤ a := by
  obtain ⟨n, f, h, hle, hx⟩ := form_of_le_one hpos hone
  have hmul := form_mul a x
  -- zero and infinity stay as they are
  rcases Order.zero_or_pos ha with ⟨s, hform⟩ | hlt
  · rw [hform, hx, mul_zero_finite, unpack_pack_zero] at hmul
    exact Order.le_of_zero hmul ha
  rcases (zero_lt_iff a).mp hlt with hform | ⟨m, e, hm, hform⟩
  · have hinfinity : form (a * x) = .infinity .positive := by
      rw [hmul, hform, hx]
      exact unpack_pack_infinity .positive
    rw [eq_of_form_eq (hinfinity.trans hform.symm)]
    exact Order.le_right ha
  · rw [hform, hx] at hmul
    obtain ⟨hc, hfit⟩ := canonical_of_unpack hform
    rcases mul_form_le .positive .positive hc h hle with ⟨-, hprod⟩ | ⟨m', e', hc', hbound, hprod⟩
    · rw [hprod, unpack_pack_zero] at hmul
      exact Order.le_of_zero hmul ha
    · -- being at or below a double, the product is not too large for one either
      have hlex := (dyadic_le_dyadic_iff hc' hc).mp hbound
      rw [hprod, unpack_pack_finite _ hc' (by omega)] at hmul
      exact (Order.le_iff_of_finite hmul hform).mpr hlex

/-- A product with a factor up to one is at or above zero. -/
theorem zero_le_mul {a x : Float} (ha : 0 ≤ a) (hpos : ¬ x ≤ 0) (hone : x ≤ 1) : 0 ≤ a * x :=
  Order.le_of_not_lt (Order.le_left (mul_le_self ha hpos hone)) (Order.le_left ha)
    (mul_not_lt_zero (not_lt_of_le ha) hpos)

/-- A product with a factor up to one is above zero if it is more than half of the least
double. -/
theorem zero_lt_mul {a x : Float} {hm : 0 < m} {hn : 0 < n}
    (ha : form a = .finite .positive m e hm) (hx : form x = .finite .positive n f hn)
    (hone : dyadic n f ≤ 1) (hlow : 2 ^ (-1075 : ℤ) < dyadic m e * dyadic n f) : 0 < a * x := by
  obtain ⟨hc, hfit⟩ := canonical_of_unpack ha
  obtain ⟨h, -⟩ := canonical_of_unpack hx
  have hmul := form_mul a x
  rw [ha, hx] at hmul
  rcases mul_form_le .positive .positive hc h hone with ⟨hle, -⟩ | ⟨m', e', hc', hbound, hprod⟩
  · exact absurd hlow (not_lt.mpr hle)
  · have hlex := (dyadic_le_dyadic_iff hc' hc).mp hbound
    rw [hprod, unpack_pack_finite _ hc' (by omega)] at hmul
    exact (zero_lt_iff _).mpr (.inr ⟨m', e', hc'.pos, hmul⟩)

/-- The factor one changes nothing. -/
theorem mul_one_eq (a : Float) : a * 1.0 = a := by
  have hone : form 1.0 = .finite .positive (2 ^ 52) (-52) canonical_one.pos := rfl
  refine eq_of_form_eq ?_
  rw [form_mul, hone]
  cases hform : form a with
  | notANumber => rfl
  | zero s => cases s <;> rfl
  | infinity s => cases s <;> rfl
  | finite s m e hm =>
    obtain ⟨h, hfit⟩ := canonical_of_unpack hform
    have hsign : s * Sign.positive = s := by cases s <;> rfl
    rw [mul_exact hm canonical_one.pos h (by rw [dyadic_one, mul_one]) (by omega),
      unpack_pack_finite _ h hfit, hsign]

/-! ## Whole numbers -/

/-- The double nearest to a natural number is at or above zero. -/
theorem zero_le_ofNat (n : ℕ) : 0 ≤ Float.ofNat n := by
  show 0 ≤ Float.ofScientific n false 0
  unfold Float.ofScientific
  split
  · show 0 ≤ n.toUInt64.toFloat * 1.0
    rw [mul_one_eq]
    exact Order.zero_le_iff.mpr (.inr (toFloat_signed _))
  · exact Order.zero_le_iff.mpr (.inr (ofScientific_signed _ _).unpack_pack)

theorem zero_le_ofInt {n : ℤ} (h : 0 ≤ n) : 0 ≤ Float.ofInt n := by
  obtain ⟨k, rfl⟩ := Int.eq_ofNat_of_zero_le h
  exact zero_le_ofNat k

end Double

/-! ## The least double -/

/-- The least double above zero. -/
def leastDouble : Float := 5e-324

namespace Double

open Float.Model

theorem form_leastDouble : form leastDouble = .finite .positive 1 (-1074) Nat.one_pos := by
  -- the literal is too small to be unfolded, but not to be computed
  have h : leastDouble = .ofBits 1 := Float.toBits_inj.mp (by decide +kernel)
  rw [h]
  rfl

theorem beq_zero_iff (x : Float) : (x == 0) = true ↔ ∃ s, form x = .zero s := by
  show UnpackedFloat.beq (form x) (form 0) = true ↔ _
  rw [form_zero]
  generalize form x = u
  cases u with
  | notANumber => simp [UnpackedFloat.beq, UnpackedFloat.compare]
  | zero s => simp [UnpackedFloat.beq, UnpackedFloat.compare]
  | infinity s => cases s <;> simp [UnpackedFloat.beq, UnpackedFloat.compare]
  | finite s m e h => cases s <;> simp [UnpackedFloat.beq, UnpackedFloat.compare]

/-- What is above zero does not equal it. -/
theorem beq_zero_of_pos {x : Float} (h : 0 < x) : (x == 0) = false := by
  rw [Bool.eq_false_iff, ne_eq, beq_zero_iff]
  rintro ⟨s, hs⟩
  rcases (zero_lt_iff x).mp h with hx | ⟨m, e, hm, hx⟩ <;> rw [hx] at hs <;> cases hs

/-- What is at or above zero is above it unless it equals zero. -/
theorem zero_lt_iff_of_le {x : Float} (h : 0 ≤ x) : 0 < x ↔ ¬ (x == 0) = true := by
  rcases Order.zero_or_pos h with hzero | hpos
  · obtain ⟨s, hs⟩ := hzero
    exact iff_of_false (not_lt_of_le (Order.le_zero_of_zero hs))
      (not_not_intro ((beq_zero_iff x).mpr ⟨s, hs⟩))
  · exact iff_of_true hpos (Bool.eq_false_iff.mp (beq_zero_of_pos hpos))

/-- A finite double above the least one is at least twice as large. -/
theorem two_zpow_le_dyadic_of_ne_least {m : ℕ} {e : ℤ} (h : Canonical m e)
    (hne : ¬ (m = 1 ∧ e = -1074)) : (2 : ℚ) ^ (-1073 : ℤ) ≤ dyadic m e := by
  have htwo : Canonical 2 (-1074) := ⟨by norm_num, by norm_num, le_refl _, .inr rfl⟩
  calc (2 : ℚ) ^ (-1073 : ℤ) = 2 * 2 ^ (-1074 : ℤ) := zpow_one_add₀ (by norm_num) (-1074)
    _ = dyadic 2 (-1074) := by rw [dyadic, Nat.cast_ofNat]
    _ ≤ dyadic m e := by
      rw [dyadic_le_dyadic_iff htwo h]
      have := h.le
      have := h.pos
      omega

/-- A double above one quarter is the number above one quarter that it stands for. -/
theorem quarter_lt_dyadic {x : Float} {n : ℕ} {f : ℤ} (h : Canonical n f)
    (hx : form x = .finite .positive n f h.pos) (hlow : ¬ x ≤ 0.25) : 1 / 4 < dyadic n f := by
  have hc : Canonical (2 ^ 52) (-54) := ⟨by norm_num, by norm_num, by norm_num, .inl le_rfl⟩
  have hform : form 0.25 = .finite .positive (2 ^ 52) (-54) hc.pos := rfl
  have hquarter : dyadic (2 ^ 52) (-54) = 1 / 4 := by norm_num [dyadic]
  rw [Order.le_iff_of_finite hx hform, ← dyadic_le_dyadic_iff h hc, hquarter] at hlow
  exact not_le.mp hlow

/-- A factor above one quarter and up to one leaves a double above the least one above
zero. -/
theorem zero_lt_mul_of_ne_least {a x : Float} (ha : 0 < a) (hne : a ≠ leastDouble)
    (hlow : ¬ x ≤ 0.25) (hone : x ≤ 1) : 0 < a * x := by
  have hpos : ¬ x ≤ 0 := fun h => hlow (Order.le_trans h (by decide +kernel))
  obtain ⟨n, f, h, hle, hx⟩ := form_of_le_one hpos hone
  rcases (zero_lt_iff a).mp ha with hinf | ⟨m, e, hm, hform⟩
  · refine (zero_lt_iff _).mpr (.inl ?_)
    rw [form_mul, hinf, hx]
    exact unpack_pack_infinity .positive
  · obtain ⟨hc, -⟩ := canonical_of_unpack hform
    have hlarge := two_zpow_le_dyadic_of_ne_least hc (by
      rintro ⟨rfl, rfl⟩
      exact hne (eq_of_form_eq (hform.trans form_leastDouble.symm)))
    have hquarter := quarter_lt_dyadic h hx hlow
    refine zero_lt_mul hform hx hle ?_
    -- half of the least double is a quarter of twice the least double
    calc (2 : ℚ) ^ (-1075 : ℤ) = 2 ^ (-1073 : ℤ) * 2 ^ (-2 : ℤ) :=
          zpow_add₀ (by norm_num) (-1073) (-2)
      _ = 2 ^ (-1073 : ℤ) * (1 / 4) := by
        congr 1
        norm_num
      _ < 2 ^ (-1073 : ℤ) * dyadic n f := mul_lt_mul_of_pos_left hquarter (by positivity)
      _ ≤ dyadic m e * dyadic n f := mul_le_mul_of_nonneg_right hlarge (dyadic_pos h.pos f).le

end Double

end RoadSpeed
