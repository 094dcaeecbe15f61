import RoadSpeed.Proofs.Number.Product

/-!
# Arithmetic in order

Products with one factor are in the order of the other factor, quotients of one number are in the
order opposite to the one of the divisors, and rounding to whole numbers keeps the order, whatever
overflows or underflows on the way. A double that is rounded to a whole number comes out as a
double again: below 2^53 each whole number is one, and from there on each double is whole.

- `mul_le_mul_right`: products.
- `divCore_eq`, `div_le_div_left`: long division, and quotients.
- `wholeMagnitude_le_wholeMagnitude`: doubles rounded to whole numbers.
- `IsDouble`, `ofNat_le_ofNat`: whole numbers that are doubles.
- `ofInt_toWhole_le`: doubles rounded to whole numbers, as doubles.
-/

namespace RoadSpeed.Double

open Float.Model (Format totalExponent)
open Float.Model.UnpackedFloat

variable {a b c x : Float} {m n : ℕ} {e f : ℤ}

/-! ## Products -/

/-- Products with a factor that is finite and above zero are in the order of the other
factor. -/
theorem mul_le_mul_right (ha : 0 ≤ a) (hab : a ≤ b) (hfinite : x.isFinite = true)
    (hpos : ¬ x ≤ 0) : a * x ≤ b * x := by
  obtain ⟨n, f, hn, hx⟩ := form_of_isFinite_of_pos hfinite hpos
  have hax := zero_le_mul_of_isFinite ha hfinite hpos
  have hbx := zero_le_mul_of_isFinite (Order.le_trans ha hab) hfinite hpos
  -- zero and infinity multiply without rounding; what is left are two finite numbers above zero
  rcases Order.zero_or_pos ha with ⟨s, hzero⟩ | hlt
  · have hprod : form (a * x) = .zero (s * .positive) := by
      rw [form_mul, hzero, hx, mul_zero_finite, unpack_pack_zero]
    exact Order.le_of_zero hprod hbx
  rcases (zero_lt_iff b).mp (Order.lt_of_lt_of_le hlt hab) with hinf | ⟨m', e', hm', hb⟩
  · have hprod : form (b * x) = .infinity .positive := by
      rw [form_mul, hinf, hx]
      exact unpack_pack_infinity .positive
    exact Order.le_of_infinity (Order.le_right hax) hprod
  rcases (zero_lt_iff a).mp hlt with hinf | ⟨m, e, hm, ha⟩
  · -- infinity is not at or below a finite number
    rw [Order.le_iff_rank, hinf, hb] at hab
    simp [rank, Prod.Lex.toLex_le_toLex] at hab
  obtain ⟨hc, -⟩ := canonical_of_unpack ha
  obtain ⟨hc', -⟩ := canonical_of_unpack hb
  obtain ⟨h, -⟩ := canonical_of_unpack hx
  rw [Order.le_iff_of_finite ha hb, ← dyadic_le_dyadic_iff hc hc'] at hab
  -- exact products are in order, and rounding keeps it
  have hnumbers : dyadic (m * n) (e + f) ≤ dyadic (m' * n) (e' + f) := by
    rw [dyadic_mul, dyadic_mul]
    exact mul_le_mul_of_nonneg_right hab (dyadic_pos hn f).le
  obtain ⟨p, q, hpq, hp, hq⟩ := roundWithAccuracy_mono .positive (hc.add_le_targetExponent h)
    (hc'.add_le_targetExponent h) hnumbers
  refine le_of_rounded ?_ ?_ hp hq hpq
  · rw [form_mul, ha, hx]
    rfl
  · rw [form_mul, hb, hx]
    rfl

/-! ## Quotients -/

/-- A dividend that is longer than the divisor by more than `k` bits leaves a quotient of more than
`k` bits. -/
theorem le_log2_div {k : ℕ} (hn : 0 < n) (hbits : n.log2 + k + 1 ≤ m.log2) :
    k ≤ (m / n).log2 := by
  have hm : m ≠ 0 := by
    rintro rfl
    rw [Nat.log2_zero] at hbits
    omega
  have hle : 2 ^ k * n ≤ m :=
    calc 2 ^ k * n ≤ 2 ^ k * 2 ^ (n.log2 + 1) := Nat.mul_le_mul_left _ Nat.lt_log2_self.le
      _ = 2 ^ (n.log2 + k + 1) := by rw [← Nat.pow_add]; congr 1; omega
      _ ≤ 2 ^ m.log2 := Nat.pow_le_pow_right (by norm_num) hbits
      _ ≤ m := Nat.log2_self_le hm
  have hquotient : 2 ^ k ≤ m / n := (Nat.le_div_iff_mul_le hn).mpr hle
  have hpos : 0 < 2 ^ k := by positivity
  exact (Nat.le_log2 (by omega)).mpr hquotient

/-- Long division shifts the dividend, as a whole number, and divides it with a remainder. The
quotient has all the bits that its size calls for. -/
theorem divCore_eq (hm : 0 < m) (hn : 0 < n) (e f : ℤ) :
    ∃ a t, divCore Format.binary64 m e n f = (a / n, t, accuracyOfFraction (a % n) n) ∧
      t ≤ Format.binary64.targetExponent (totalExponent (a / n) t) ∧
      dyadic a t / n = dyadic m e / dyadic n f := by
  -- the quotient is taken on a grid that leaves it at least 53 bits
  let t := min (e - f) (Format.binary64.targetExponent (totalExponent m e - totalExponent n f))
  obtain ⟨k, hk⟩ := Int.le.dest (show t ≤ e - f from min_le_left _ _)
  have hshift : (e - f - t).toNat = k := by omega
  refine ⟨m * 2 ^ k, t, ?_, ?_, ?_⟩
  · unfold divCore
    dsimp only
    rw [hshift, Nat.shiftLeft_eq]
  · have hdrop : t ≤ max (totalExponent m e - totalExponent n f - 53) (-1074) :=
      min_le_right _ _
    have hbits := log2_shift hm k
    have hquotient := le_log2_div (m := m * 2 ^ k) (k := 52) hn
    rw [targetExponent_eq, totalExponent]
    simp only [totalExponent] at hdrop
    omega
  · have hexp : t = e - f - (k : ℤ) := by omega
    rw [hexp, dyadic_shift, dyadic, dyadic, dyadic, zpow_sub₀ (by norm_num)]
    field_simp

/-- Quotients of a finite number are in the order opposite to the one of the divisors. -/
theorem div_le_div_left (ha : 0 ≤ a) (hfinite : a.isFinite = true) (hc : 0 < c) (hcb : c ≤ b) :
    a / b ≤ a / c := by
  have hb : 0 < b := Order.lt_of_lt_of_le hc hcb
  have hquotient := zero_le_div ha hfinite hc
  rcases Order.zero_or_pos ha with ⟨s, hzero⟩ | hpos
  · obtain ⟨s', hdiv⟩ := exists_zero_div s hb
    have hnone : form (a / b) = .zero s' := by
      rw [form_div, hzero, hdiv, unpack_pack_zero]
    exact Order.le_of_zero hnone hquotient
  obtain ⟨m, e, hm, hform⟩ := form_of_isFinite_of_pos hfinite (not_le_of_lt hpos)
  rcases (zero_lt_iff b).mp hb with hinf | ⟨n, f, hn, hb⟩
  · have hnone : form (a / b) = .zero (.positive / .positive) := by
      rw [form_div, hform, hinf]
      exact unpack_pack_zero _
    exact Order.le_of_zero hnone hquotient
  rcases (zero_lt_iff c).mp hc with hinf | ⟨n', f', hn', hc⟩
  · -- infinity is not at or below a finite number
    rw [Order.le_iff_rank, hinf, hb] at hcb
    simp [rank, Prod.Lex.toLex_le_toLex] at hcb
  obtain ⟨hcanon, -⟩ := canonical_of_unpack hb
  obtain ⟨hcanon', -⟩ := canonical_of_unpack hc
  rw [Order.le_iff_of_finite hc hb, ← dyadic_le_dyadic_iff hcanon' hcanon] at hcb
  obtain ⟨p, t, hcore, hp, hvalue⟩ := divCore_eq hm hn e f
  obtain ⟨q, u, hcore', hq, hvalue'⟩ := divCore_eq hm hn' e f'
  -- exact quotients are in order, and rounding keeps it on whatever grids they are taken
  have hnumbers : dyadic p t / n ≤ dyadic q u / n' := by
    rw [hvalue, hvalue']
    exact div_le_div_of_nonneg_left (dyadic_pos hm e).le (dyadic_pos hn' f') hcb
  obtain ⟨r, r', hle, hr, hr'⟩ :=
    roundWithAccuracy_div_mono .positive hn hn' hp hq hnumbers
  refine le_of_rounded ?_ ?_ hr hr' hle
  · rw [form_div, hform, hb, div, hcore]
    rfl
  · rw [form_div, hform, hc, div, hcore']
    rfl

/-! ## Rounding to whole numbers -/

/-- A double is rounded to a whole number as a quotient of whole numbers is. -/
theorem wholeMagnitude_eq (m : ℕ) (e : ℤ) :
    wholeMagnitude m e = roundDiv (m * 2 ^ e.toNat) (2 ^ (-e).toNat) := by
  cases e with
  | ofNat k =>
    have hzero : (-(Int.ofNat k)).toNat = 0 := by
      rw [Int.ofNat_eq_natCast]
      omega
    have hone := roundDiv_mul (m * 2 ^ k) Nat.one_pos
    rw [Nat.mul_one] at hone
    rw [hzero, pow_zero]
    exact hone.symm
  | negSucc k => rw [Int.toNat_negSucc, pow_zero, Nat.mul_one]; rfl

theorem dyadic_eq_div (m : ℕ) (e : ℤ) :
    dyadic m e = ((m * 2 ^ e.toNat : ℕ) : ℚ) / ((2 ^ (-e).toNat : ℕ) : ℚ) := by
  rw [eq_div_iff (by positivity), dyadic]
  push_cast
  rw [mul_assoc, ← zpow_natCast, ← zpow_natCast, ← zpow_add₀ (by norm_num)]
  congr 2
  omega

/-- Rounding to whole numbers keeps the order. -/
theorem wholeMagnitude_le_wholeMagnitude (h : dyadic m e ≤ dyadic n f) :
    wholeMagnitude m e ≤ wholeMagnitude n f := by
  rw [dyadic_eq_div, dyadic_eq_div, div_le_div_iff₀ (by positivity) (by positivity)] at h
  rw [wholeMagnitude_eq, wholeMagnitude_eq]
  exact roundDiv_le_roundDiv (by positivity) (by positivity) (by exact_mod_cast h)

/-! ## Whole numbers that are doubles -/

/-- A whole number that is a double. -/
def IsDouble (n : ℕ) : Prop := n = 0 ∨ ∃ m f, Canonical m f ∧ f ≤ 971 ∧ dyadic m f = n

theorem isDouble_of_lt (h : n < 2 ^ 53) : IsDouble n := by
  rcases Nat.eq_zero_or_pos n with hzero | hpos
  · exact .inl hzero
  · obtain ⟨m, f, hc, hle, -, heq⟩ := exists_canonical_of_lt hpos h
    exact .inr ⟨m, f, hc, by omega, heq⟩

/-- A double that is rounded to a whole number comes out as a double. -/
theorem isDouble_wholeMagnitude (h : Canonical m e) (hfit : e ≤ 971) :
    IsDouble (wholeMagnitude m e) := by
  cases e with
  | ofNat k =>
    refine .inr ⟨m, k, h, hfit, ?_⟩
    simp [wholeMagnitude, dyadic]
  | negSucc k =>
    have hpow : 0 < 2 ^ (k + 1) := by positivity
    exact isDouble_of_lt ((roundDiv_le hpow (Nat.le_mul_of_pos_right m hpow)).trans_lt h.lt)

/-- Whole numbers that are doubles are in the order of these. -/
theorem ofNat_le_ofNat (hm : IsDouble m) (hn : IsDouble n) (h : m ≤ n) :
    Float.ofNat m ≤ Float.ofNat n := by
  have hform {k : ℕ} {m' : ℕ} {f' : ℤ} (hc : Canonical m' f') (hfit : f' ≤ 971)
      (hval : dyadic m' f' = k) : form (Float.ofNat k) = .finite .positive m' f' hc.pos :=
    Decimal.form_ofScientific_exact (j := 0) hc hfit (by rw [hval, zpow_zero, mul_one])
  rcases hm with rfl | ⟨m', e', hc, hfit, hval⟩
  · have hzero : form (Float.ofNat 0) = .zero .positive := rfl
    exact Order.le_of_zero hzero (zero_le_ofNat n)
  rcases hn with rfl | ⟨n', f', hc', hfit', hval'⟩
  · obtain rfl : m = 0 := Nat.le_zero.mp h
    exact absurd hval (dyadic_pos hc.pos e').ne'
  · rw [Order.le_iff_of_finite (hform hc hfit hval) (hform hc' hfit' hval'),
      ← dyadic_le_dyadic_iff hc hc', hval, hval']
    exact_mod_cast h

theorem toWhole_of_zero {s : Sign} (ha : form a = .zero s) : toWhole a = .ok 0 := by
  unfold toWhole
  rw [ofFloat_eq_exact, ha]
  cases s <;> rfl

theorem toWhole_of_finite {hm : 0 < m} (ha : form a = .finite .positive m e hm) :
    toWhole a = .ok (wholeMagnitude m e) := by
  unfold toWhole
  rw [ofFloat_eq_exact, ha]
  rfl

theorem toWhole_of_infinity (ha : form a = .infinity .positive) :
    toWhole a = .error .infinite := by
  unfold toWhole
  rw [ofFloat_eq_exact, ha]
  rfl

/-- What a number at or above zero is rounded to is zero or comes from a mantissa. -/
theorem toWhole_cases {k : ℤ} (ha : 0 ≤ a) (hk : toWhole a = .ok k) :
    (∃ s, form a = .zero s) ∧ k = 0 ∨
      ∃ m e hm, form a = .finite .positive m e hm ∧ k = wholeMagnitude m e := by
  rcases Order.zero_or_pos ha with ⟨s, hzero⟩ | hpos
  · rw [toWhole_of_zero hzero] at hk
    cases hk
    exact .inl ⟨⟨s, hzero⟩, rfl⟩
  · rcases (zero_lt_iff a).mp hpos with hinf | ⟨m, e, hm, hform⟩
    · rw [toWhole_of_infinity hinf] at hk
      cases hk
    · rw [toWhole_of_finite hform] at hk
      cases hk
      exact .inr ⟨m, e, hm, hform, rfl⟩

/-- Doubles rounded to whole numbers are in order, as doubles again. -/
theorem ofInt_toWhole_le {k l : ℤ} (ha : 0 ≤ a) (hab : a ≤ b) (hk : toWhole a = .ok k)
    (hl : toWhole b = .ok l) : Float.ofInt k ≤ Float.ofInt l := by
  rcases toWhole_cases ha hk with ⟨-, rfl⟩ | ⟨m, e, hm, hform, rfl⟩
  · have hl' : 0 ≤ l := by
      rcases toWhole_cases (Order.le_trans ha hab) hl with ⟨-, rfl⟩ | ⟨n, f, -, -, rfl⟩
      · exact le_refl 0
      · exact Int.natCast_nonneg _
    have hzero : form (Float.ofInt 0) = .zero .positive := rfl
    exact Order.le_of_zero hzero (zero_le_ofInt hl')
  rcases toWhole_cases (Order.le_trans ha hab) hl with ⟨⟨s, hzero⟩, -⟩ | ⟨n, f, hn, hform', rfl⟩
  · -- a number above zero is not at or below it
    rw [Order.le_iff_rank, hform, hzero] at hab
    simp [rank, Prod.Lex.toLex_le_toLex] at hab
  · obtain ⟨hc, hfit⟩ := canonical_of_unpack hform
    obtain ⟨hc', hfit'⟩ := canonical_of_unpack hform'
    rw [Order.le_iff_of_finite hform hform', ← dyadic_le_dyadic_iff hc hc'] at hab
    exact ofNat_le_ofNat (isDouble_wholeMagnitude hc hfit) (isDouble_wholeMagnitude hc' hfit')
      (wholeMagnitude_le_wholeMagnitude hab)

end RoadSpeed.Double
