import RoadSpeed.Proofs.Number.Packing

/-!
# Rounding to doubles

Rounding shifts a mantissa to the exponent that its size calls for and rounds off
what is shifted out. Where nothing but zeros is shifted out, rounding is exact.

- `dyadic m e`: the number that a mantissa and an exponent stand for.
- `roundWithAccuracy_exact`: a number that a canonical form stands for rounds to
  that form.
- `mul_exact`, `div_exact`: products and quotients that a canonical form stands for.
-/

namespace RoadSpeed.Double

open Float.Model (Format totalExponent)
open Float.Model.UnpackedFloat

/-- The number that a mantissa and an exponent stand for. -/
def dyadic (m : Nat) (e : Int) : ℚ := m * 2 ^ e

theorem dyadic_pos {m : Nat} (h : 0 < m) (e : Int) : 0 < dyadic m e := by
  have : (0 : ℚ) < m := by exact_mod_cast h
  unfold dyadic
  positivity

/-- Bits moved from the exponent into the mantissa. -/
theorem dyadic_shift (m : Nat) (e : Int) (k : Nat) : dyadic (m * 2 ^ k) (e - k) = dyadic m e := by
  have h : (2 : ℚ) ^ (e - k) = 2 ^ e / 2 ^ k := by
    rw [zpow_sub₀ (by norm_num), zpow_natCast]
  unfold dyadic
  rw [h]
  push_cast
  field_simp

theorem dyadic_mul (m n : Nat) (e f : Int) : dyadic (m * n) (e + f) = dyadic m e * dyadic n f := by
  unfold dyadic
  rw [zpow_add₀ (by norm_num)]
  push_cast
  ring

/-- A form with a smaller exponent has the mantissa shifted. -/
theorem mantissa_of_dyadic_eq {m n : Nat} {e f : Int} (h : dyadic m e = dyadic n f) (hle : e ≤ f) :
    m = n * 2 ^ (f - e).toNat := by
  have hexp : f - ((f - e).toNat : Int) = e := by omega
  rw [← dyadic_shift n f (f - e).toNat, hexp] at h
  have hpow : (2 : ℚ) ^ e ≠ 0 := by positivity
  exact_mod_cast mul_right_cancel₀ hpow h

theorem log2_shift {n : Nat} (h : 0 < n) (k : Nat) : (n * 2 ^ k).log2 = n.log2 + k := by
  have hn : n ≠ 0 := by omega
  have hlt := Nat.lt_log2_self (n := n)
  have hle := Nat.log2_self_le hn
  refine (Nat.log2_eq_iff (by positivity)).mpr ⟨?_, ?_⟩
  · rw [Nat.pow_add]
    exact Nat.mul_le_mul_right _ hle
  · rw [show n.log2 + k + 1 = n.log2 + 1 + k by omega, Nat.pow_add]
    exact Nat.mul_lt_mul_of_pos_right hlt (by positivity)

/-- The place of the first bit belongs to the number, not to the form. -/
theorem totalExponent_congr {m n : Nat} {e f : Int} (hm : 0 < m) (hn : 0 < n)
    (h : dyadic m e = dyadic n f) : totalExponent m e = totalExponent n f := by
  unfold totalExponent
  rcases Int.le_total e f with hle | hle
  · rw [mantissa_of_dyadic_eq h hle, log2_shift hn]
    omega
  · rw [mantissa_of_dyadic_eq h.symm hle, log2_shift hm]
    omega

/-! ## Exact rounding -/

/-- The exponent that the size of a canonical form calls for is its own. -/
theorem Canonical.targetExponent {m : Nat} {e : Int} (h : Canonical m e) :
    Format.binary64.targetExponent (totalExponent m e) = e := by
  show max ((m.log2 + 1 : Int) + e - 53) (-1074) = e
  rcases h.normal with hm | rfl
  · have := log2_of_normal hm h.lt
    have := h.le
    omega
  · have : m.log2 < 53 := (Nat.log2_lt h.pos.ne').mpr h.lt
    omega

/-- Zeros that are shifted out leave no trace. -/
theorem shift_exact (n k : Nat) :
    (ExtendedMantissa.mk (n * 2 ^ k) false false) >>> k = ExtendedMantissa.mk n false false := by
  show k.repeat ExtendedMantissa.shiftRightOne _ = _
  induction k generalizing n with
  | zero => simp [Nat.repeat]
  | succ k ih =>
    have hstep : n * 2 ^ (k + 1) = n * 2 * 2 ^ k := by rw [Nat.pow_succ']; ring
    rw [Nat.repeat, hstep, ih]
    simp [ExtendedMantissa.shiftRightOne]

theorem shiftToTargetExponent_exact {m n : Nat} {e f : Int} (hm : 0 < m) (h : Canonical n f)
    (heq : dyadic m e = dyadic n f) (hle : e ≤ f) :
    shiftToTargetExponent Format.binary64 m e .exact = (⟨n, false, false⟩, f) := by
  have htarget : Format.binary64.targetExponent (totalExponent m e) = f := by
    rw [totalExponent_congr hm h.pos heq, h.targetExponent]
  have hexp : e + ((f - e).toNat : Int) = f := by omega
  unfold shiftToTargetExponent shiftToExponent
  rw [htarget, mantissa_of_dyadic_eq heq hle]
  show (ExtendedMantissa.mk _ false false >>> (f - e).toNat, e + ((f - e).toNat : Int)) = _
  rw [shift_exact, hexp]

/-- A number that a canonical form stands for rounds to that form. -/
theorem roundWithAccuracy_exact (s : Sign) {m n : Nat} {e f : Int} (hm : 0 < m)
    (h : Canonical n f) (heq : dyadic m e = dyadic n f) (hle : e ≤ f) :
    roundWithAccuracy Format.binary64 s m e .exact = .finite s n f h.pos := by
  unfold roundWithAccuracy
  rw [shiftToTargetExponent_exact hm h heq hle]
  -- the second shift, for a mantissa that rounding has carried over, does nothing
  show (let (em, e₂) := shiftToTargetExponent Format.binary64 n f .exact
        if h : em.mantissa = 0 then Float.Model.UnpackedFloat.zero s
        else .finite s em.mantissa e₂ (Nat.pos_of_ne_zero h)) = _
  rw [shiftToTargetExponent_exact h.pos h rfl (le_refl f)]
  exact dif_neg h.pos.ne'

/-- Rounding finds the canonical form of a number also where it has to add zeros. -/
theorem round_exact (s : Sign) {m n : Nat} {e f : Int} (hm : 0 < m) (h : Canonical n f)
    (heq : dyadic m e = dyadic n f) :
    Float.Model.UnpackedFloat.round Format.binary64 s m e = .finite s n f h.pos := by
  have htarget : Format.binary64.targetExponent (totalExponent m e) = f := by
    rw [totalExponent_congr hm h.pos heq, h.targetExponent]
  unfold Float.Model.UnpackedFloat.round decreaseExponent
  rw [htarget]
  dsimp only
  rw [Nat.shiftLeft_eq]
  refine roundWithAccuracy_exact s (Nat.mul_pos hm (by positivity)) h ?_ (by omega)
  rw [dyadic_shift, heq]

/-- A product that a canonical form stands for. -/
theorem mul_exact {s t : Sign} {m₁ m₂ n : Nat} {e₁ e₂ f : Int} (h₁ : 0 < m₁) (h₂ : 0 < m₂)
    (h : Canonical n f) (heq : dyadic m₁ e₁ * dyadic m₂ e₂ = dyadic n f) (hle : e₁ + e₂ ≤ f) :
    mul Format.binary64 (.finite s m₁ e₁ h₁) (.finite t m₂ e₂ h₂) = .finite (s * t) n f h.pos := by
  refine roundWithAccuracy_exact (s * t) (Nat.mul_pos h₁ h₂) h ?_ hle
  rw [dyadic_mul, heq]

/-- A product of mantissas has at most one bit more than its factors together. -/
theorem log2_mul_le {m n : Nat} (hm : 0 < m) (hn : 0 < n) :
    (m * n).log2 ≤ m.log2 + n.log2 + 1 := by
  have hlt : m * n < 2 ^ (m.log2 + n.log2 + 2) := by
    rw [show m.log2 + n.log2 + 2 = m.log2 + 1 + (n.log2 + 1) by omega, Nat.pow_add]
    exact Nat.mul_lt_mul'' (Nat.lt_log2_self (n := m)) (Nat.lt_log2_self (n := n))
  have := (Nat.log2_lt (Nat.mul_pos hm hn).ne').mpr hlt
  omega

/-- Long division stops at an exponent from which nothing is left over, when a
canonical form stands for the quotient. -/
theorem divCore_exact {m₁ m₂ n : Nat} {e₁ e₂ f : Int} (h₁ : 0 < m₁) (h₂ : 0 < m₂)
    (h : Canonical n f) (heq : dyadic m₁ e₁ = dyadic n f * dyadic m₂ e₂) :
    ∃ t ≤ f, divCore Format.binary64 m₁ e₁ m₂ e₂ = (n * 2 ^ (f - t).toNat, t, .exact) := by
  set t := min (e₁ - e₂)
    (Format.binary64.targetExponent (totalExponent m₁ e₁ - totalExponent m₂ e₂)) with ht
  have hprod : dyadic m₁ e₁ = dyadic (n * m₂) (f + e₂) := by rw [heq, dyadic_mul]
  -- the quotient has no more bits than the difference of the sizes allows for
  have hle : t ≤ f := by
    have hsize := totalExponent_congr h₁ (Nat.mul_pos h.pos h₂) hprod
    have hbits := log2_mul_le h.pos h₂
    have htarget : max ((n.log2 + 1 : Int) + f - 53) (-1074) = f := h.targetExponent
    change t = min (e₁ - e₂) (max (totalExponent m₁ e₁ - totalExponent m₂ e₂ - 53) (-1074)) at ht
    simp only [totalExponent] at hsize ht
    omega
  have hshift : m₁ <<< (e₁ - e₂ - t).toNat = n * 2 ^ (f - t).toNat * m₂ := by
    rw [Nat.shiftLeft_eq]
    have hexp : e₁ - ((e₁ - e₂ - t).toNat : Int) = t + e₂ := by omega
    have hdiff : (f + e₂ - (t + e₂)).toNat = (f - t).toNat := by congr 1; omega
    rw [mantissa_of_dyadic_eq (m := m₁ * 2 ^ (e₁ - e₂ - t).toNat) (e := t + e₂)
      (n := n * m₂) (f := f + e₂) (by rw [← hexp, dyadic_shift, hprod]) (by omega), hdiff]
    ring
  refine ⟨t, hle, ?_⟩
  unfold divCore
  simp only [← ht, hshift, Nat.mul_div_cancel _ h₂, Nat.mul_mod_left]
  rfl

/-- A quotient that a canonical form stands for. -/
theorem div_exact {s t : Sign} {m₁ m₂ n : Nat} {e₁ e₂ f : Int} (h₁ : 0 < m₁) (h₂ : 0 < m₂)
    (h : Canonical n f) (heq : dyadic m₁ e₁ = dyadic n f * dyadic m₂ e₂) :
    div Format.binary64 (.finite s m₁ e₁ h₁) (.finite t m₂ e₂ h₂) = .finite (s / t) n f h.pos := by
  obtain ⟨u, hle, hcore⟩ := divCore_exact h₁ h₂ h heq
  show (let (m, e, acc) := divCore Format.binary64 m₁ e₁ m₂ e₂
        roundWithAccuracy Format.binary64 (s / t) m e acc) = _
  rw [hcore]
  have hexp : f - ((f - u).toNat : Int) = u := by omega
  refine roundWithAccuracy_exact (s / t) (Nat.mul_pos h.pos (by positivity)) h ?_ hle
  rw [← dyadic_shift n f (f - u).toNat, hexp]

/-- A whole number below 2^53 is a double: the form that its size calls for. -/
theorem exists_canonical_of_lt {n : Nat} (hpos : 0 < n) (hlt : n < 2 ^ 53) :
    ∃ m f, Canonical m f ∧ f ≤ 0 ∧ -52 ≤ f ∧ dyadic m f = n := by
  have hlog : n.log2 < 53 := (Nat.log2_lt hpos.ne').mpr hlt
  have hsize := log2_shift hpos (52 - n.log2)
  have hbounds := (Nat.log2_eq_iff (by positivity)).mp hsize
  refine ⟨n * 2 ^ (52 - n.log2), (n.log2 : Int) - 52, ⟨by positivity, ?_, by omega, .inl ?_⟩,
    by omega, by omega, ?_⟩
  · exact hbounds.2.trans_le (Nat.pow_le_pow_right (by norm_num) (by omega))
  · exact (Nat.pow_le_pow_right (by norm_num) (by omega)).trans hbounds.1
  · have hexp : (n.log2 : Int) - 52 = 0 - ((52 - n.log2 : Nat) : Int) := by omega
    rw [hexp, dyadic_shift]
    simp [dyadic]

end RoadSpeed.Double
