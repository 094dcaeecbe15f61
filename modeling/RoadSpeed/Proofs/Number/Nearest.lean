import RoadSpeed.Proofs.Decimal.Exactness
import RoadSpeed.Proofs.Number.Comparison
import RoadSpeed.Proofs.Number.Mantissa

/-!
# Rounding keeps the order

Of two numbers the larger one is not rounded to the smaller double. Where both are rounded to
multiples of the same power of two, the mantissas are in order; where the larger one calls for a
larger power, the least mantissa of 53 bits on its grid lies between them. The numbers are
quotients, given by whole part and remainder; a mantissa with nothing behind it is one of these.

- `dyadic_le_dyadic_iff`: canonical forms are in the order of the numbers they stand for.
- `quotient_range`, `roundDiv_range`: the bits that are kept, and the mantissa that rounding
  leaves, a carry included.
- `Rounded`, `roundWithAccuracy_rounded`: the form that a quotient is rounded to.
- `roundWithAccuracy_div_mono`, `roundWithAccuracy_mono`: rounding keeps the order of quotients
  and of mantissas.
- `roundWithAccuracy_le`: rounding stays at or below a canonical form, and only half of the
  least double or less is rounded to zero.
- `le_of_rounded`: doubles that are packed from rounded forms are in the order of these, also
  where the forms are too large for a finite double.
-/

namespace RoadSpeed.Double

open Float.Model (Format UnpackedFloat totalExponent)
open Float.Model.UnpackedFloat

variable {m n a b c d : ℕ} {e f t u : ℤ}

/-! ## The order of forms -/

/-- Bits of a mantissa that is a power of two, moved into the exponent. -/
theorem two_pow_mul_two_zpow (j : ℕ) (f : ℤ) : (2 : ℚ) ^ j * 2 ^ f = 2 ^ (f + j) := by
  rw [zpow_add₀ (by norm_num), zpow_natCast, mul_comm]

/-- A mantissa of 53 bits makes a number at least as large as its first bit. -/
theorem two_zpow_le_dyadic (h : 2 ^ 52 ≤ n) (f : ℤ) : 2 ^ (f + 52) ≤ dyadic n f := by
  have hn : (2 : ℚ) ^ 52 ≤ n := by exact_mod_cast h
  calc (2 : ℚ) ^ (f + 52) = 2 ^ 52 * 2 ^ f := (two_pow_mul_two_zpow 52 f).symm
    _ ≤ n * 2 ^ f := by gcongr

/-- A larger exponent means a larger number, and else a larger mantissa does. -/
theorem dyadic_lt_dyadic (h : Canonical m e) (h' : Canonical n f)
    (hlt : e < f ∨ e = f ∧ m < n) : dyadic m e < dyadic n f := by
  rcases hlt with hlt | ⟨rfl, hlt⟩
  · -- an exponent above another one is not the least, so that all 53 bits are in use
    have hn : 2 ^ 52 ≤ n := h'.normal.resolve_right (by have := h.le; omega)
    calc dyadic m e < 2 ^ (e + 53) := Decimal.dyadic_lt h
      _ ≤ 2 ^ (f + 52) := zpow_le_zpow_right₀ (by norm_num) (by omega)
      _ ≤ dyadic n f := two_zpow_le_dyadic hn f
  · have : (m : ℚ) < n := by exact_mod_cast hlt
    exact mul_lt_mul_of_pos_right this (by positivity)

/-- Canonical forms are in the order of the numbers that they stand for. -/
theorem dyadic_le_dyadic_iff (h : Canonical m e) (h' : Canonical n f) :
    dyadic m e ≤ dyadic n f ↔ e < f ∨ e = f ∧ m ≤ n := by
  constructor
  · intro hle
    by_contra hgt
    have hlt : f < e ∨ f = e ∧ n < m := by omega
    exact absurd (dyadic_lt_dyadic h' h hlt) (not_lt.mpr hle)
  · rintro (hlt | ⟨rfl, hle⟩)
    · exact (dyadic_lt_dyadic h h' (.inl hlt)).le
    · rcases hle.lt_or_eq with hlt | rfl
      · exact (dyadic_lt_dyadic h h' (.inr ⟨rfl, hlt⟩)).le
      · exact le_refl _

/-! ## The mantissa that is left -/

theorem targetExponent_eq (t : ℤ) : Format.binary64.targetExponent t = max (t - 53) (-1074) := rfl

/-- A quotient has at most the 53 bits that are kept, and all of them unless the exponent is the
least one. -/
theorem quotient_range {k : ℕ} (hb : 0 < b)
    (hk : Format.binary64.targetExponent (totalExponent (a / b) t) = t + k) :
    a < 2 ^ 53 * (2 ^ k * b) ∧ (2 ^ 52 * (2 ^ k * b) ≤ a ∨ t + k = -1074) := by
  rw [targetExponent_eq, totalExponent] at hk
  constructor
  · rw [← Nat.mul_assoc, ← Nat.pow_add, ← Nat.div_lt_iff_lt_mul hb]
    exact Nat.lt_log2_self.trans_le (Nat.pow_le_pow_right (by norm_num) (by omega))
  · by_cases hleast : t + k = -1074
    · exact .inr hleast
    · -- above the least exponent exactly 53 bits are kept
      have hbits : (a / b).log2 = 52 + k := by omega
      have hpos : a / b ≠ 0 := by
        intro hzero
        rw [hzero, Nat.log2_zero] at hbits
        omega
      refine .inl ?_
      rw [← Nat.mul_assoc, ← Nat.pow_add, ← Nat.le_div_iff_mul_le hb, ← hbits]
      exact Nat.log2_self_le hpos

/-- The mantissa that rounding leaves has at most a carry too much, and all its bits unless the
exponent is the least one. -/
theorem roundDiv_range {k : ℕ} (hb : 0 < b)
    (hk : Format.binary64.targetExponent (totalExponent (a / b) t) = t + k) :
    roundDiv a (2 ^ k * b) ≤ 2 ^ 53 ∧ (2 ^ 52 ≤ roundDiv a (2 ^ k * b) ∨ t + k = -1074) := by
  have hgrid : 0 < 2 ^ k * b := by positivity
  obtain ⟨hlt, hle⟩ := quotient_range hb hk
  exact ⟨roundDiv_le hgrid hlt.le, hle.imp_left (le_roundDiv hgrid)⟩

/-- A quotient on the grid that it is rounded on. -/
theorem dyadic_div_eq (a b : ℕ) (t : ℤ) (k : ℕ) :
    dyadic a t / b = a / ((2 ^ k * b : ℕ) : ℚ) * 2 ^ (t + k) := by
  rw [dyadic, zpow_add₀ (by norm_num), zpow_natCast, Nat.cast_mul, Nat.cast_pow, Nat.cast_ofNat]
  field_simp

/-- A smaller quotient is rounded on the same grid or on a finer one. -/
theorem grid_le_grid {k l : ℕ} (hb : 0 < b) (hd : 0 < d)
    (hk : Format.binary64.targetExponent (totalExponent (a / b) t) = t + k)
    (hl : Format.binary64.targetExponent (totalExponent (c / d) u) = u + l)
    (h : dyadic a t / b ≤ dyadic c u / d) : t + k ≤ u + l := by
  -- a grid above the least one is set by the leading bit of the number
  rcases (quotient_range hb hk).2 with hlow | hleast
  · have hlow' : (2 : ℚ) ^ 52 ≤ a / ((2 ^ k * b : ℕ) : ℚ) := by
      rw [le_div_iff₀ (by positivity)]
      exact_mod_cast hlow
    have hhigh : c / ((2 ^ l * d : ℕ) : ℚ) < 2 ^ 53 := by
      rw [div_lt_iff₀ (by positivity)]
      exact_mod_cast (quotient_range hd hl).1
    rw [dyadic_div_eq a b t k, dyadic_div_eq c d u l] at h
    have hlt : (2 : ℚ) ^ (t + k + 52) < 2 ^ (u + l + 53) :=
      calc (2 : ℚ) ^ (t + k + 52) = 2 ^ 52 * 2 ^ (t + k) :=
            (two_pow_mul_two_zpow 52 (t + k)).symm
        _ ≤ a / ((2 ^ k * b : ℕ) : ℚ) * 2 ^ (t + k) :=
            mul_le_mul_of_nonneg_right hlow' (by positivity)
        _ ≤ c / ((2 ^ l * d : ℕ) : ℚ) * 2 ^ (u + l) := h
        _ < 2 ^ 53 * 2 ^ (u + l) := mul_lt_mul_of_pos_right hhigh (by positivity)
        _ = 2 ^ (u + l + 53) := two_pow_mul_two_zpow 53 (u + l)
    have := (zpow_lt_zpow_iff_right₀ (by norm_num : (1 : ℚ) < 2)).mp hlt
    omega
  · rw [hleast, ← hl, targetExponent_eq]
    exact le_max_right _ _

/-- Quotients that are rounded on the same grid keep their order. -/
theorem roundDiv_mono {k l : ℕ} (hb : 0 < b) (hd : 0 < d) (hexp : t + k = u + l)
    (h : dyadic a t / b ≤ dyadic c u / d) :
    roundDiv a (2 ^ k * b) ≤ roundDiv c (2 ^ l * d) := by
  rw [dyadic_div_eq a b t k, dyadic_div_eq c d u l, hexp] at h
  have hquotients := le_of_mul_le_mul_right h (by positivity)
  rw [div_le_div_iff₀ (by positivity) (by positivity)] at hquotients
  exact roundDiv_le_roundDiv (by positivity) (by positivity) (by exact_mod_cast hquotients)

/-- Rounding keeps the order of quotients, on whatever grids they are rounded. -/
theorem dyadic_roundDiv_mono {k l : ℕ} (hb : 0 < b) (hd : 0 < d)
    (hk : Format.binary64.targetExponent (totalExponent (a / b) t) = t + k)
    (hl : Format.binary64.targetExponent (totalExponent (c / d) u) = u + l)
    (h : dyadic a t / b ≤ dyadic c u / d) :
    dyadic (roundDiv a (2 ^ k * b)) (t + k) ≤ dyadic (roundDiv c (2 ^ l * d)) (u + l) := by
  rcases (grid_le_grid hb hd hk hl h).eq_or_lt with heq | hlt
  · rw [heq]
    have hround : (roundDiv a (2 ^ k * b) : ℚ) ≤ roundDiv c (2 ^ l * d) := by
      exact_mod_cast roundDiv_mono hb hd heq h
    exact mul_le_mul_of_nonneg_right hround (by positivity)
  · -- the least mantissa of 53 bits on the coarser grid lies between them
    have hleast : -1074 ≤ t + k := by
      rw [← hk, targetExponent_eq]
      exact le_max_right _ _
    have hroom : (roundDiv a (2 ^ k * b) : ℚ) ≤ 2 ^ 53 := by
      exact_mod_cast (roundDiv_range hb hk).1
    have hbits : 2 ^ 52 ≤ roundDiv c (2 ^ l * d) :=
      (roundDiv_range hd hl).2.resolve_right (by omega)
    calc dyadic (roundDiv a (2 ^ k * b)) (t + k) ≤ 2 ^ 53 * 2 ^ (t + k) :=
          mul_le_mul_of_nonneg_right hroom (by positivity)
      _ = 2 ^ (t + k + 53) := two_pow_mul_two_zpow 53 (t + k)
      _ ≤ 2 ^ (u + l + 52) := zpow_le_zpow_right₀ (by norm_num) (by omega)
      _ ≤ dyadic (roundDiv c (2 ^ l * d)) (u + l) := two_zpow_le_dyadic hbits _

/-! ## The form that is left -/

/-- The first shift drops as many bits as the target exponent is above the given one. -/
theorem shiftToTargetExponent_eq {k : ℕ} (accuracy : Accuracy)
    (hk : Format.binary64.targetExponent (totalExponent m t) = t + k) :
    shiftToTargetExponent Format.binary64 m t accuracy =
      (ExtendedMantissa.ofMantissaAndAccuracy m accuracy >>> k, t + k) := by
  have hshift : (t + k - t : ℤ).toNat = k := by omega
  unfold shiftToTargetExponent shiftToExponent
  dsimp only
  rw [hk, hshift]

theorem mantissa_shiftToTargetExponent_zero (t : ℤ) :
    (shiftToTargetExponent Format.binary64 0 t .exact).1.mantissa = 0 :=
  ((tells_mantissa 0).shift _).mantissa_eq_zero (by positivity)

/-- The second shift takes care of a carry and keeps the number. -/
theorem shiftToTargetExponent_carry {r : ℕ} {t : ℤ} (hpos : 0 < r) (hroom : r ≤ 2 ^ 53)
    (hnormal : 2 ^ 52 ≤ r ∨ t = -1074) (hleast : -1074 ≤ t) :
    ∃ m' e', Canonical m' e' ∧ dyadic m' e' = dyadic r t ∧
      shiftToTargetExponent Format.binary64 r t .exact = (⟨m', false, false⟩, e') := by
  rcases hroom.lt_or_eq with hlt | rfl
  · have h : Canonical r t := ⟨hpos, hlt, hleast, hnormal⟩
    exact ⟨r, t, h, rfl, shiftToTargetExponent_exact hpos h rfl (le_refl t)⟩
  · have h : Canonical (2 ^ 52) (t + 1) := ⟨by norm_num, by norm_num, by omega, .inl le_rfl⟩
    have heq : dyadic (2 ^ 53) t = dyadic (2 ^ 52) (t + 1) := by
      have hshift := dyadic_shift (2 ^ 52) (t + 1) 1
      rwa [show t + 1 - ((1 : ℕ) : ℤ) = t by omega] at hshift
    exact ⟨2 ^ 52, t + 1, h, heq.symm, shiftToTargetExponent_exact hpos h heq (by omega)⟩

/-- The form that rounding leaves: zero, or a canonical form with the number that it stands
for. -/
inductive Rounded (s : Sign) : UnpackedFloat → ℚ → Prop where
  | zero : Rounded s (.zero s) 0
  | finite {m : ℕ} {e : ℤ} (h : Canonical m e) : Rounded s (.finite s m e h.pos) (dyadic m e)

/-- A quotient, given by its whole part and its remainder, is rounded to a multiple of the power
of two that its size calls for. -/
theorem roundWithAccuracy_rounded (s : Sign) {k : ℕ} (hb : 0 < b)
    (hk : Format.binary64.targetExponent (totalExponent (a / b) t) = t + k) :
    Rounded s (roundWithAccuracy Format.binary64 s (a / b) t (accuracyOfFraction (a % b) b))
      (dyadic (roundDiv a (2 ^ k * b)) (t + k)) := by
  obtain ⟨hroom, hnormal⟩ := roundDiv_range hb hk
  have hleast : -1074 ≤ t + k := by
    rw [← hk, targetExponent_eq]
    exact le_max_right _ _
  have hround := ((tells_fraction a hb).shift k).roundedMantissa_eq (by positivity)
  unfold roundWithAccuracy
  rw [shiftToTargetExponent_eq _ hk]
  dsimp only
  rw [hround]
  -- a mantissa that rounds to zero has no bits to be normalised
  rcases Nat.eq_zero_or_pos (roundDiv a (2 ^ k * b)) with hzero | hpos
  · rw [hzero, dif_pos (mantissa_shiftToTargetExponent_zero (t + k)), dyadic, Nat.cast_zero,
      zero_mul]
    exact .zero
  · obtain ⟨m', e', h', heq, hsecond⟩ := shiftToTargetExponent_carry hpos hroom hnormal hleast
    rw [hsecond, ← heq]
    exact dif_neg h'.pos.ne' ▸ .finite h'

/-- Rounding keeps the order of quotients. -/
theorem roundWithAccuracy_div_mono (s : Sign) (hb : 0 < b) (hd : 0 < d)
    (ht : t ≤ Format.binary64.targetExponent (totalExponent (a / b) t))
    (hu : u ≤ Format.binary64.targetExponent (totalExponent (c / d) u))
    (h : dyadic a t / b ≤ dyadic c u / d) :
    ∃ p q, p ≤ q ∧
      Rounded s (roundWithAccuracy Format.binary64 s (a / b) t (accuracyOfFraction (a % b) b)) p ∧
      Rounded s (roundWithAccuracy Format.binary64 s (c / d) u (accuracyOfFraction (c % d) d))
        q := by
  obtain ⟨k, hk⟩ := Int.le.dest ht
  obtain ⟨l, hl⟩ := Int.le.dest hu
  exact ⟨_, _, dyadic_roundDiv_mono hb hd hk.symm hl.symm h,
    roundWithAccuracy_rounded s hb hk.symm, roundWithAccuracy_rounded s hd hl.symm⟩

/-- A mantissa is the quotient of itself by one, with nothing behind it. -/
theorem roundWithAccuracy_div_one (s : Sign) (m : ℕ) (e : ℤ) :
    roundWithAccuracy Format.binary64 s (m / 1) e (accuracyOfFraction (m % 1) 1) =
      roundWithAccuracy Format.binary64 s m e .exact := by
  rw [Nat.div_one, Nat.mod_one]
  rfl

/-- Rounding keeps the order. -/
theorem roundWithAccuracy_mono (s : Sign)
    (he : e ≤ Format.binary64.targetExponent (totalExponent m e))
    (hf : f ≤ Format.binary64.targetExponent (totalExponent n f))
    (h : dyadic m e ≤ dyadic n f) :
    ∃ p q, p ≤ q ∧ Rounded s (roundWithAccuracy Format.binary64 s m e .exact) p ∧
      Rounded s (roundWithAccuracy Format.binary64 s n f .exact) q := by
  have hquotients : dyadic m e / (1 : ℕ) ≤ dyadic n f / (1 : ℕ) := by
    rwa [Nat.cast_one, div_one, div_one]
  rw [← Nat.div_one m] at he
  rw [← Nat.div_one n] at hf
  have hmono := roundWithAccuracy_div_mono s Nat.one_pos Nat.one_pos he hf hquotients
  rwa [roundWithAccuracy_div_one, roundWithAccuracy_div_one] at hmono

/-! ## Rounding at or below a canonical form -/

/-- A mantissa that is at most half of the last bit kept, where that is the bit of the least
double. -/
theorem dyadic_le_half_least {k : ℕ} (hleast : e + k = -1074) (h : 2 * m ≤ 2 ^ k) :
    dyadic m e ≤ 2 ^ (-1075 : ℤ) := by
  have hm : 2 * (m : ℚ) ≤ 2 ^ k := by exact_mod_cast h
  calc dyadic m e = 2 * (m : ℚ) * 2 ^ (e - 1) := by
        rw [zpow_sub_one₀ (by norm_num), dyadic]
        ring
    _ ≤ 2 ^ k * 2 ^ (e - 1) := by gcongr
    _ = 2 ^ (-1075 : ℤ) := by
        rw [← zpow_natCast, ← zpow_add₀ (by norm_num)]
        congr 1
        omega

/-- Rounding a number that is at or below a canonical form gives zero or a canonical form
that is at or below that one. It gives zero only up to half of the least double. -/
theorem roundWithAccuracy_le (s : Sign)
    (htarget : e ≤ Format.binary64.targetExponent (totalExponent m e)) (h : Canonical n f)
    (hle : dyadic m e ≤ dyadic n f) :
    dyadic m e ≤ 2 ^ (-1075 : ℤ) ∧ roundWithAccuracy Format.binary64 s m e .exact = .zero s ∨
      ∃ m' e', ∃ h' : Canonical m' e', dyadic m' e' ≤ dyadic n f ∧
        roundWithAccuracy Format.binary64 s m e .exact = .finite s m' e' h'.pos := by
  obtain ⟨k, hk⟩ := Int.le.dest htarget
  rw [← Nat.div_one m] at hk
  have hown : Format.binary64.targetExponent (totalExponent (n / 1) f) = f + (0 : ℕ) := by
    rw [Nat.div_one, h.targetExponent, Nat.cast_zero, add_zero]
  have hbound := dyadic_roundDiv_mono Nat.one_pos Nat.one_pos hk.symm hown
    (by rwa [Nat.cast_one, div_one, div_one])
  have hsame := roundDiv_mul n Nat.one_pos
  rw [Nat.mul_one] at hsame
  rw [pow_zero, Nat.mul_one, Nat.mul_one, hsame, Nat.cast_zero, add_zero] at hbound
  have hrounded := roundWithAccuracy_rounded s Nat.one_pos hk.symm
  rw [roundWithAccuracy_div_one, Nat.mul_one] at hrounded
  generalize hq : dyadic (roundDiv m (2 ^ k)) (e + k) = q at hrounded hbound
  generalize roundWithAccuracy Format.binary64 s m e .exact = u at hrounded
  cases hrounded with
  | zero =>
    -- nothing is left only at the least exponent
    have hnone : roundDiv m (2 ^ k) = 0 := by
      by_contra hsome
      exact (dyadic_pos (Nat.pos_of_ne_zero hsome) (e + k)).ne' hq
    have hrange := (roundDiv_range Nat.one_pos hk.symm).2
    rw [Nat.mul_one] at hrange
    have hlast : e + k = -1074 := hrange.resolve_left (by omega)
    exact .inl ⟨dyadic_le_half_least hlast ((roundDiv_eq_zero_iff (by positivity)).mp hnone), rfl⟩
  | finite h' => exact .inr ⟨_, _, h', hbound, rfl⟩

/-! ## Doubles that are packed -/

/-- A double that is packed from a rounded form with a plus sign is at or above zero. -/
theorem zero_le_of_rounded {x : Float} {u : UnpackedFloat} {p : ℚ}
    (hx : form x = (Float.Model.pack u).unpack) (hu : Rounded .positive u p) : 0 ≤ x := by
  refine Order.zero_le_of_form hx ?_
  cases hu with
  | zero => exact .inl ⟨_, rfl⟩
  | finite h => exact .inr (.finite _ _ h.pos)

/-- Doubles are in the order of the rounded forms that they are packed from. -/
theorem le_of_rounded {x y : Float} {u v : UnpackedFloat} {p q : ℚ}
    (hx : form x = (Float.Model.pack u).unpack) (hy : form y = (Float.Model.pack v).unpack)
    (hu : Rounded .positive u p) (hv : Rounded .positive v q) (h : p ≤ q) : x ≤ y := by
  have hx' := zero_le_of_rounded hx hu
  have hy' := zero_le_of_rounded hy hv
  cases hu with
  | zero => exact Order.le_of_zero (hx.trans (unpack_pack_zero _)) hy'
  | @finite m e hm => cases hv with
    | zero => exact absurd (dyadic_pos hm.pos e) (not_lt.mpr h)
    | @finite n f hn =>
      have hlex := (dyadic_le_dyadic_iff hm hn).mp h
      by_cases hfit : f ≤ 971
      · rw [unpack_pack_finite _ hm (by omega)] at hx
        rw [unpack_pack_finite _ hn hfit] at hy
        exact (Order.le_iff_of_finite hx hy).mpr hlex
      · exact Order.le_of_infinity (Order.le_right hx')
          (hy.trans (unpack_pack_too_large _ hn (not_le.mp hfit)))

end RoadSpeed.Double
