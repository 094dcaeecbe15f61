import RoadSpeed.Number
import RoadSpeed.Proofs.Number.Rounding

/-!
# Mantissas with bits behind them

Rounding shifts a mantissa to the right and keeps of the bits that fall out the first one
and whether any other one was set. That is enough to round to the nearest whole number.

- `lt_roundDiv_iff`, `roundDiv_le_roundDiv`: quotients rounded to whole numbers, and that
  rounding keeps their order.
- `Tells`: a mantissa with bits behind it tells how a quotient compares with halves of whole
  numbers, and goes on telling it when it is shifted.
- `tells_fraction`: the whole part of a quotient, with what its remainder leaves behind it, does.
- `Tells.roundedMantissa_eq`: it is rounded as the quotient is.
-/

namespace RoadSpeed.Double

open Float.Model.UnpackedFloat

/-! ## Quotients rounded to whole numbers -/

/-- A number is below twice a whole part, one of the two halves that begin with it, or beyond
both of them. -/
theorem halves_cases (n q b : ℕ) :
    n < 2 * q ∧ n * b + b ≤ 2 * (q * b) ∨ n = 2 * q ∧ n * b = 2 * (q * b) ∨
      n = 2 * q + 1 ∧ n * b = 2 * (q * b) + b ∨ 2 * q + 1 < n ∧ 2 * (q * b) + 2 * b ≤ n * b := by
  have hdouble : 2 * q * b = 2 * (q * b) := Nat.mul_assoc 2 q b
  rcases Nat.lt_or_ge n (2 * q) with h | h
  · have hle := Nat.mul_le_mul_right b h
    rw [Nat.succ_mul] at hle
    omega
  · obtain ⟨k, rfl⟩ := Nat.exists_eq_add_of_le h
    rw [Nat.add_mul]
    match k with
    | 0 => omega
    | 1 => omega
    | k + 2 =>
      rw [Nat.add_mul]
      omega

/-- What a rounded quotient is above: numbers whose upper half the quotient is above, and,
where it lies on that half, the odd ones. -/
theorem lt_roundDiv_iff {a b : ℕ} (hb : 0 < b) (n : ℕ) :
    n < roundDiv a b ↔ (2 * n + 1) * b < 2 * a ∨ (2 * n + 1) * b ≤ 2 * a ∧ n % 2 = 1 := by
  have hdiv := Nat.div_add_mod' a b
  have hmod := Nat.mod_lt a hb
  unfold roundDiv
  dsimp only
  generalize a / b = q at hdiv ⊢
  generalize a % b = r at hdiv hmod ⊢
  have hcases := halves_cases (2 * n + 1) q b
  split
  · omega
  · split <;> omega

/-- Rounding to whole numbers keeps the order of quotients. -/
theorem roundDiv_le_roundDiv {a b c d : ℕ} (hb : 0 < b) (hd : 0 < d) (h : a * d ≤ c * b) :
    roundDiv a b ≤ roundDiv c d := by
  refine le_of_forall_lt fun n hn => ?_
  rw [lt_roundDiv_iff hd]
  -- both sides of each comparison are multiplied by the other denominator
  have hscaled : (2 * a) * d ≤ (2 * c) * b := by
    rw [Nat.mul_assoc, Nat.mul_assoc]
    exact Nat.mul_le_mul_left 2 h
  rcases (lt_roundDiv_iff hb n).mp hn with hlt | ⟨hle, hodd⟩
  · refine .inl (Nat.lt_of_mul_lt_mul_right (a := b) ?_)
    calc (2 * n + 1) * d * b = (2 * n + 1) * b * d := Nat.mul_right_comm ..
      _ < 2 * a * d := Nat.mul_lt_mul_of_pos_right hlt hd
      _ ≤ 2 * c * b := hscaled
  · refine .inr ⟨Nat.le_of_mul_le_mul_right ?_ hb, hodd⟩
    calc (2 * n + 1) * d * b = (2 * n + 1) * b * d := Nat.mul_right_comm ..
      _ ≤ 2 * a * d := Nat.mul_le_mul_right d hle
      _ ≤ 2 * c * b := hscaled

theorem roundDiv_mul (n : ℕ) {b : ℕ} (hb : 0 < b) : roundDiv (n * b) b = n := by
  unfold roundDiv
  rw [Nat.mul_div_cancel n hb, Nat.mul_mod_left]
  exact if_pos hb

theorem roundDiv_le {a b n : ℕ} (hb : 0 < b) (h : a ≤ n * b) : roundDiv a b ≤ n :=
  (roundDiv_le_roundDiv hb hb (Nat.mul_le_mul_right b h)).trans_eq (roundDiv_mul n hb)

theorem le_roundDiv {a b n : ℕ} (hb : 0 < b) (h : n * b ≤ a) : n ≤ roundDiv a b :=
  (roundDiv_mul n hb).symm.trans_le (roundDiv_le_roundDiv hb hb (Nat.mul_le_mul_right b h))

/-- A quotient is rounded to zero up to one half; one half itself goes to zero, which is even. -/
theorem roundDiv_eq_zero_iff {a b : ℕ} (hb : 0 < b) : roundDiv a b = 0 ↔ 2 * a ≤ b := by
  have h := lt_roundDiv_iff (a := a) hb 0
  omega

/-! ## Halves -/

/-- Twice the number that a mantissa and the bits behind it stand for is above `n`. The
first of these bits is a half; the other ones are less than that. -/
def Above (em : ExtendedMantissa) (n : ℕ) : Prop :=
  n < 2 * em.mantissa + em.roundBit.toNat ∨
    n = 2 * em.mantissa + em.roundBit.toNat ∧ em.stickyBit = true

/-- Twice the number is at or above `n`. -/
def AtLeast (em : ExtendedMantissa) (n : ℕ) : Prop := n ≤ 2 * em.mantissa + em.roundBit.toNat

/-- A mantissa and the bits behind it tell how twice a quotient compares with whole numbers. -/
structure Tells (em : ExtendedMantissa) (a b : ℕ) : Prop where
  above_iff : ∀ n, Above em n ↔ n * b < 2 * a
  atLeast_iff : ∀ n, AtLeast em n ↔ n * b ≤ 2 * a

/-- A whole mantissa tells of itself. -/
theorem tells_mantissa (m : ℕ) : Tells ⟨m, false, false⟩ m 1 := by
  constructor <;> intro n <;> simp [Above, AtLeast]

/-- The bits behind the whole part of a quotient, by its remainder: the first one is set from one
half on, and whether any other one is set tells zero and one half from the rest. -/
theorem ofMantissaAndAccuracy_fraction (q r : ℕ) {b : ℕ} (hb : 0 < b) :
    ExtendedMantissa.ofMantissaAndAccuracy q (accuracyOfFraction r b) =
      ⟨q, decide (b ≤ 2 * r), decide (0 < r ∧ 2 * r ≠ b)⟩ := by
  unfold accuracyOfFraction
  split
  · rename_i hzero
    simp [ExtendedMantissa.ofMantissaAndAccuracy, hzero, hb.ne']
  · rename_i hpos
    have hr := Nat.pos_of_ne_zero hpos
    rcases Nat.lt_trichotomy (2 * r) b with h | h | h
    · rw [compare_lt_iff_lt.mpr h]
      simp [ExtendedMantissa.ofMantissaAndAccuracy, hr, h, h.ne]
    · rw [compare_eq_iff_eq.mpr h]
      simp [ExtendedMantissa.ofMantissaAndAccuracy, h]
    · rw [compare_gt_iff_gt.mpr h]
      simp [ExtendedMantissa.ofMantissaAndAccuracy, hr, h.le, h.ne']

/-- A quotient with its remainder tells of itself. -/
theorem tells_fraction (a : ℕ) {b : ℕ} (hb : 0 < b) :
    Tells (.ofMantissaAndAccuracy (a / b) (accuracyOfFraction (a % b) b)) a b := by
  have hdiv := Nat.div_add_mod' a b
  have hmod := Nat.mod_lt a hb
  rw [ofMantissaAndAccuracy_fraction _ _ hb]
  generalize a / b = q at hdiv ⊢
  generalize a % b = r at hdiv hmod ⊢
  have hbit : (decide (b ≤ 2 * r)).toNat = if b ≤ 2 * r then 1 else 0 := by
    split <;> simp [*]
  constructor
  · intro n
    have hcases := halves_cases n q b
    simp only [Above, hbit, decide_eq_true_iff]
    split <;> omega
  · intro n
    have hcases := halves_cases n q b
    simp only [AtLeast, hbit]
    split <;> omega

/-- A bit that is shifted out halves the quotient. -/
theorem Tells.shiftRightOne {em : ExtendedMantissa} {a b : ℕ} (h : Tells em a b) :
    Tells em.shiftRightOne a (2 * b) := by
  have habove (n : ℕ) : Above em.shiftRightOne n ↔ Above em (n * 2) := by
    obtain ⟨q, r, s⟩ := em
    rcases Nat.mod_two_eq_zero_or_one q with hq | hq <;> cases r <;> cases s <;>
      simp [Above, ExtendedMantissa.shiftRightOne, hq] <;> omega
  have hatLeast (n : ℕ) : AtLeast em.shiftRightOne n ↔ AtLeast em (n * 2) := by
    obtain ⟨q, r, s⟩ := em
    rcases Nat.mod_two_eq_zero_or_one q with hq | hq <;> cases r <;>
      simp [AtLeast, ExtendedMantissa.shiftRightOne, hq] <;> omega
  constructor
  · intro n
    rw [habove, h.above_iff, Nat.mul_assoc]
  · intro n
    rw [hatLeast, h.atLeast_iff, Nat.mul_assoc]

theorem Tells.shift {em : ExtendedMantissa} {a b : ℕ} (h : Tells em a b) (k : ℕ) :
    Tells (em >>> k) a (2 ^ k * b) := by
  show Tells (k.repeat ExtendedMantissa.shiftRightOne em) a _
  induction k with
  | zero => simpa [Nat.repeat] using h
  | succ k ih =>
    rw [Nat.repeat, Nat.pow_succ', Nat.mul_assoc]
    exact ih.shiftRightOne

theorem Tells.mantissa_eq_zero {em : ExtendedMantissa} {b : ℕ} (h : Tells em 0 b) (hb : 0 < b) :
    em.mantissa = 0 := by
  have hless : ¬ 1 ≤ 2 * em.mantissa + em.roundBit.toNat := (h.atLeast_iff 1).not.mpr (by omega)
  omega

theorem lt_roundedMantissa_iff (em : ExtendedMantissa) (n : ℕ) :
    n < em.roundedMantissa ↔ Above em (2 * n + 1) ∨ AtLeast em (2 * n + 1) ∧ n % 2 = 1 := by
  obtain ⟨q, r, s⟩ := em
  cases r <;> cases s <;>
    simp [Above, AtLeast, ExtendedMantissa.roundedMantissa, ExtendedMantissa.accuracy,
      Accuracy.roundToNearestEven] <;> omega

/-- What a mantissa is rounded to is the quotient that it tells of, rounded. -/
theorem Tells.roundedMantissa_eq {em : ExtendedMantissa} {a b : ℕ} (h : Tells em a b)
    (hb : 0 < b) : em.roundedMantissa = roundDiv a b := by
  refine eq_of_forall_lt_iff fun n => ?_
  rw [lt_roundedMantissa_iff, lt_roundDiv_iff hb, h.above_iff, h.atLeast_iff]

end RoadSpeed.Double
