import RoadSpeed.Decimal
import RoadSpeed.Proofs.Number.Sign

/-!
# Decimals that are doubles

A decimal that stands for the very number that a double stands for has that double as
its value, whether it is read by one multiplication or division of small doubles or
by exact arithmetic. The decimal of a double is either found by reading candidates
back, or it is the number in full; either way it reads back.

- `value`: the number that a decimal stands for, which the normal form keeps.
- `form_ofScientific_exact`: digits and a power of ten that are exactly a double.
- `form_toFloat_exact`: the same for decimals.
- `toFloat_shortest`: the shortest decimal of a double reads back.
-/

namespace RoadSpeed.Decimal

open Double Float.Model.UnpackedFloat

/-! ## The value of a decimal -/

/-- The number that a decimal stands for. -/
def value (d : Decimal) : ℚ := d.digits * 10 ^ d.exponent

/-- The normal form stands for the same number. -/
theorem value_normal (d : Decimal) : d.normal.value = d.value := by
  induction d using normal.induct with
  | case1 d h =>
    rw [normal, if_pos h]
    simp [value, h]
  | case2 d h hmod ih =>
    rw [normal, if_neg h, if_pos hmod, ih]
    have hdigits : d.digits = d.digits / 10 * 10 := by omega
    unfold value
    rw [zpow_add_one₀ (by norm_num)]
    conv_rhs => rw [hdigits]
    push_cast
    ring
  | case3 d h hmod => rw [normal, if_neg h, if_neg hmod]

/-- The normal form of a normal form is itself. -/
theorem normal_normal (d : Decimal) : d.normal.normal = d.normal := by
  induction d using normal.induct with
  | case1 d h =>
    have hzero : normal d = ⟨0, 0⟩ := by rw [normal, if_pos h]
    rw [hzero, normal, if_pos rfl]
  | case2 d h hmod ih =>
    have hstep : normal d = normal ⟨d.digits / 10, d.exponent + 1⟩ := by
      rw [normal, if_neg h, if_pos hmod]
    rw [hstep, ih]
  | case3 d h hmod =>
    have heq : normal d = d := by rw [normal, if_neg h, if_neg hmod]
    rw [heq, heq]

theorem toFloat_normal (d : Decimal) : d.normal.toFloat = d.toFloat := by
  rw [toFloat, toFloat, normal_normal]

/-- All the digits of a binary number stand for it. -/
theorem value_expansion (m : Nat) (e : Int) : (expansion m e).value = dyadic m e := by
  cases e with
  | ofNat k => simp [expansion, value, dyadic, Nat.pow_eq]
  | negSucc k =>
    have hten : (10 : ℚ) ^ (k + 1) = 2 ^ (k + 1) * 5 ^ (k + 1) := by
      rw [← mul_pow]
      norm_num
    simp only [expansion, value, dyadic, Nat.pow_eq, zpow_neg, zpow_natCast, zpow_negSucc, hten]
    push_cast
    field_simp

/-! ## Small whole numbers and small powers of ten -/

/-- A whole number below 2^53 becomes a double without loss. -/
theorem form_toFloat_of_lt {n : Nat} (hpos : 0 < n) (hlt : n < 2 ^ 53) :
    ∃ m f, ∃ h : Canonical m f, f ≤ 0 ∧ -52 ≤ f ∧ dyadic m f = n ∧
      form n.toUInt64.toFloat = .finite .positive m f h.pos := by
  obtain ⟨m, f, h, hle, hge, heq⟩ := exists_canonical_of_lt hpos hlt
  refine ⟨m, f, h, hle, hge, heq, ?_⟩
  have htoNat : n.toUInt64.toNat = n := by
    rw [Nat.toUInt64_eq, UInt64.toNat_ofNat']
    exact Nat.mod_eq_of_lt (by omega)
  rw [form_toFloat, htoNat]
  have hgt : compare (n : Int) 0 = .gt := by
    rw [compare_gt_iff_gt]
    omega
  have hround : Float.Model.UnpackedFloat.normalize Float.Model.Format.binary64 (n : Int) 0
      .positive = .finite .positive m f h.pos := by
    unfold Float.Model.UnpackedFloat.normalize
    rw [hgt]
    exact round_exact .positive hpos h (by rw [heq]; simp [dyadic])
  rw [hround, unpack_pack_finite _ h (by omega)]

/-- Whether a form is that of a power of ten, in whole numbers. -/
def isPowerOfTen (i : Nat) : Float.Model.UnpackedFloat → Bool
  | .finite .positive m f _ =>
    2 ^ 52 ≤ m && m < 2 ^ 53 && -52 ≤ f && m * 2 ^ (f + 52).toNat = 10 ^ i * 2 ^ 52
  | _ => false

/-- The powers of ten in the table are exact. -/
theorem form_powerOfTen (i : Fin 23) :
    ∃ m f, ∃ h : Canonical m f, 2 ^ 52 ≤ m ∧ dyadic m f = 10 ^ i.val ∧
      form Float.exactlyRepresentablePowersOfTen[i] = .finite .positive m f h.pos := by
  -- the stored powers are checked one by one; what follows only reads the check
  have hall : ∀ i : Fin 23,
      isPowerOfTen i (form Float.exactlyRepresentablePowersOfTen[i]) = true := by
    decide +kernel
  specialize hall i
  unfold isPowerOfTen at hall
  split at hall
  · rename_i m f hpos heq
    simp only [Bool.and_eq_true, decide_eq_true_eq] at hall
    obtain ⟨⟨⟨hm, hlt⟩, hle⟩, hval⟩ := hall
    refine ⟨m, f, ⟨hpos, hlt, by omega, .inl hm⟩, hm, ?_, heq⟩
    have hshift := dyadic_shift m f (f + 52).toNat
    have hexp : f - ((f + 52).toNat : Int) = -((52 : Nat) : Int) := by omega
    have htwo : (2 : ℚ) ^ 52 ≠ 0 := by positivity
    rw [hval, hexp, dyadic, zpow_neg, zpow_natCast] at hshift
    rw [← hshift]
    push_cast
    field_simp
    norm_num
  · cases hall

/-! ## Digits and a power of ten -/

/-- A canonical form is below the power of two that its mantissa has no room for. -/
theorem dyadic_lt {m : Nat} {f : Int} (h : Canonical m f) : dyadic m f < 2 ^ (f + 53) := by
  have hlt : (m : ℚ) < 2 ^ 53 := by exact_mod_cast h.lt
  calc dyadic m f < 2 ^ 53 * 2 ^ f := mul_lt_mul_of_pos_right hlt (by positivity)
    _ = 2 ^ (f + 53) := by
      rw [zpow_add₀ (by norm_num), mul_comm]
      rfl

theorem le_dyadic {m : Nat} {f : Int} (h : 0 < m) : 2 ^ f ≤ dyadic m f :=
  le_mul_of_one_le_left (by positivity) (by exact_mod_cast h)

variable {n : Nat} {j : Int} {m : Nat} {f : Int}

theorem digits_pos (h : Canonical m f) (heq : (n : ℚ) * 10 ^ j = dyadic m f) : 0 < n := by
  refine Nat.pos_of_ne_zero ?_
  intro hzero
  have := dyadic_pos h.pos f
  simp [← heq, hzero] at this

/-- A power of ten that is too large for any double is refused unseen; it does not
come up. -/
theorem exponent_le (h : Canonical m f) (hfit : f ≤ 971)
    (heq : (n : ℚ) * 10 ^ j = dyadic m f) : j ≤ 2048 := by
  by_contra hj
  have hn : (1 : ℚ) ≤ n := by exact_mod_cast digits_pos h heq
  have hsmall : dyadic m f < 10 ^ j := calc
    dyadic m f < 2 ^ (f + 53) := dyadic_lt h
    _ ≤ 2 ^ j := zpow_le_zpow_right₀ (by norm_num) (by omega)
    _ ≤ 10 ^ j := zpow_le_zpow_left₀ (by omega) (by norm_num) (by norm_num)
  have hlarge : (10 : ℚ) ^ j ≤ n * 10 ^ j := le_mul_of_one_le_left (by positivity) hn
  rw [heq] at hlarge
  exact absurd hsmall (not_lt.mpr hlarge)

/-- A power of ten that takes the digits below any double is refused unseen; it does
not come up either. -/
theorem le_exponent (h : Canonical m f) (heq : (n : ℚ) * 10 ^ j = dyadic m f) :
    -(2048 + n.log2) ≤ j := by
  by_contra hj
  obtain ⟨k, rfl⟩ : ∃ k : Nat, j = -k := ⟨(-j).toNat, by omega⟩
  have hn : (n : ℚ) < 2 ^ (n.log2 + 1) := by exact_mod_cast Nat.lt_log2_self
  have hten : (10 : ℚ) ^ (-k : Int) ≤ 2 ^ (-k : Int) := by
    rw [zpow_neg, zpow_neg]
    exact inv_anti₀ (by positivity) (zpow_le_zpow_left₀ (by omega) (by norm_num) (by norm_num))
  have hsmall : (n : ℚ) * 10 ^ (-k : Int) < 2 ^ f := calc
    (n : ℚ) * 10 ^ (-k : Int) ≤ n * 2 ^ (-k : Int) := by gcongr
    _ < 2 ^ (n.log2 + 1) * 2 ^ (-k : Int) := by gcongr
    _ = 2 ^ ((n.log2 + 1 : Nat) - k : Int) := by
      rw [sub_eq_add_neg, zpow_add₀ (by norm_num), zpow_natCast]
    _ ≤ 2 ^ f := zpow_le_zpow_right₀ (by norm_num) (by have := h.le; omega)
  rw [heq] at hsmall
  exact absurd hsmall (not_lt.mpr (le_dyadic h.pos))

/-- A whole number has no bits below the point. -/
theorem neg_le_exponent_of_whole {k : Nat} (h : Canonical m f)
    (heq : (n : ℚ) * 10 ^ (k : Int) = dyadic m f) : -53 ≤ f := by
  by_contra hlt
  have hn := digits_pos h heq
  have hone : (1 : ℚ) ≤ n * 10 ^ (k : Int) := by
    rw [zpow_natCast]
    exact_mod_cast Nat.mul_pos hn (by positivity)
  have hpow : (2 : ℚ) ^ (f + 53) ≤ 1 := zpow_le_one_of_nonpos₀ (by norm_num) (by omega)
  have : dyadic m f < 1 := (dyadic_lt h).trans_le hpow
  rw [heq] at hone
  exact absurd this (not_lt.mpr hone)

theorem dyadic_zero (n : Nat) : dyadic n 0 = n := by
  simp [dyadic]

/-- Exact arithmetic on digits and a power of ten that are a double. -/
theorem ofScientific_exact (h : Canonical m f) (hfit : f ≤ 971)
    (heq : (n : ℚ) * 10 ^ j = dyadic m f) :
    ofScientific Float.Model.Format.binary64 n j = .finite .positive m f h.pos := by
  have hn := digits_pos h heq
  -- neither shortcut for numbers that are out of all range is taken
  have hlarge : ¬ j > 2 ^ Float.Model.Format.binary64.exponentBits := by
    have := exponent_le h hfit heq
    show ¬ j > 2048
    omega
  have hsmall : ¬ j < -((2 ^ Float.Model.Format.binary64.exponentBits : Int) + n.log2) := by
    have := le_exponent h heq
    show ¬ j < -(2048 + (n.log2 : Int))
    omega
  unfold ofScientific
  rw [dif_neg hn.ne', if_neg hlarge, if_neg hsmall]
  -- a power of ten above one multiplies, one below divides; both are exact
  split
  · rename_i hj
    obtain ⟨k, rfl⟩ := Int.eq_ofNat_of_zero_le hj
    have hf := neg_le_exponent_of_whole h heq
    refine mul_exact _ _ h ?_ ?_
    · have hshift : dyadic (n <<< 53) (-53) = n := by
        rw [Nat.shiftLeft_eq]
        exact (dyadic_shift n 0 53).trans (dyadic_zero n)
      have hten : dyadic (10 ^ k) 0 = 10 ^ (k : Int) := by simp [dyadic_zero]
      rw [← heq, ← hten, ← hshift]
      rfl
    · show -53 + 0 ≤ f
      omega
  · rename_i hj
    refine div_exact _ _ h ?_
    obtain ⟨k, rfl⟩ : ∃ k : Nat, j = -k := ⟨(-j).toNat, by omega⟩
    have hten : dyadic (10 ^ (- -(k : Int)).toNat) 0 = 10 ^ (k : Int) := by simp [dyadic_zero]
    rw [hten, ← heq, mul_assoc, ← zpow_add₀ (by norm_num)]
    simp [dyadic]

/-- Whole numbers and powers of ten that are doubles themselves: one product. -/
theorem mul_powerOfTen_exact (hlt : n < 2 ^ 53) (i : Fin 23) (h : Canonical m f) (hfit : f ≤ 971)
    (heq : (n : ℚ) * 10 ^ i.val = dyadic m f) :
    form (n.toUInt64.toFloat * Float.exactlyRepresentablePowersOfTen[i]) =
      .finite .positive m f h.pos := by
  have hn : 0 < n := digits_pos (j := (i.val : Int)) h (by rw [zpow_natCast, heq])
  obtain ⟨m₁, f₁, h₁, hf₁, hf₁', hval₁, hform₁⟩ := form_toFloat_of_lt hn hlt
  obtain ⟨m₂, f₂, h₂, hm₂, hval₂, hform₂⟩ := form_powerOfTen i
  have hprod : dyadic m₁ f₁ * dyadic m₂ f₂ = dyadic m f := by rw [hval₁, hval₂, heq]
  -- two mantissas of 53 bits have more bits in their product than one has room for
  have hle : f₁ + f₂ ≤ f := by
    by_contra hgt
    have hm₁ : 2 ^ 52 ≤ m₁ := h₁.normal.resolve_right (by omega)
    have hshift : dyadic (m₁ * m₂) (f₁ + f₂) = dyadic m f := by rw [dyadic_mul, hprod]
    have hmant := mantissa_of_dyadic_eq hshift.symm (by omega)
    have hbig : 2 ^ 52 * 2 ^ 52 ≤ m₁ * m₂ := Nat.mul_le_mul hm₁ hm₂
    have hmul : m₁ * m₂ ≤ m := by
      rw [hmant]
      exact Nat.le_mul_of_pos_right _ (by positivity)
    have := h.lt
    omega
  rw [form_mul, hform₁, hform₂, mul_exact _ _ h hprod hle]
  exact unpack_pack_finite _ h hfit

/-- The same for one quotient. -/
theorem div_powerOfTen_exact (hlt : n < 2 ^ 53) (i : Fin 23) (h : Canonical m f) (hfit : f ≤ 971)
    (heq : (n : ℚ) = dyadic m f * 10 ^ i.val) :
    form (n.toUInt64.toFloat / Float.exactlyRepresentablePowersOfTen[i]) =
      .finite .positive m f h.pos := by
  have hn : 0 < n := by
    refine Nat.pos_of_ne_zero ?_
    intro hzero
    have hpos : 0 < dyadic m f * 10 ^ i.val := mul_pos (dyadic_pos h.pos f) (by positivity)
    simp [← heq, hzero] at hpos
  obtain ⟨m₁, f₁, h₁, -, -, hval₁, hform₁⟩ := form_toFloat_of_lt hn hlt
  obtain ⟨m₂, f₂, h₂, -, hval₂, hform₂⟩ := form_powerOfTen i
  have hquot : dyadic m₁ f₁ = dyadic m f * dyadic m₂ f₂ := by rw [hval₁, hval₂, heq]
  rw [form_div, hform₁, hform₂, div_exact _ _ h hquot]
  exact unpack_pack_finite _ h hfit

/-- Digits and a power of ten that are a double are read as that double. -/
theorem form_ofScientific_exact (h : Canonical m f) (hfit : f ≤ 971)
    (heq : (n : ℚ) * 10 ^ j = dyadic m f) :
    form (Float.ofScientific n (j < 0) j.natAbs) = .finite .positive m f h.pos := by
  unfold Float.ofScientific
  -- few digits and a small power are taken from the stored powers, all else goes the long way
  split
  · rename_i hfast
    have hi : j.natAbs < 23 := by omega
    by_cases hj : j < 0
    · rw [decide_eq_true hj]
      refine div_powerOfTen_exact hfast.1 ⟨j.natAbs, hi⟩ h hfit ?_
      obtain ⟨k, rfl⟩ : ∃ k : Nat, j = -k := ⟨(-j).toNat, by omega⟩
      have habs : (-(k : Int)).natAbs = k := by omega
      show (n : ℚ) = dyadic m f * 10 ^ (-(k : Int)).natAbs
      rw [← heq, mul_assoc, habs, zpow_neg, zpow_natCast, inv_mul_cancel₀ (by positivity),
        mul_one]
    · rw [decide_eq_false hj]
      refine mul_powerOfTen_exact hfast.1 ⟨j.natAbs, hi⟩ h hfit ?_
      obtain ⟨k, rfl⟩ := Int.eq_ofNat_of_zero_le (not_lt.mp hj)
      show (n : ℚ) * 10 ^ (k : Int).natAbs = dyadic m f
      rw [← heq, zpow_natCast, Int.natAbs_natCast]
  · have hexp :
        (if decide (j < 0) = true then Int.negOfNat j.natAbs else Int.ofNat j.natAbs) = j := by
      by_cases hj : j < 0
      · rw [if_pos (by simpa using hj), Int.negOfNat_eq, Int.ofNat_eq_natCast]
        omega
      · rw [if_neg (by simpa using hj), Int.ofNat_eq_natCast]
        omega
    show (Float.Model.pack (ofScientific Float.Model.Format.binary64 n _)).unpack = _
    rw [hexp, ofScientific_exact h hfit heq]
    exact unpack_pack_finite _ h hfit

/-! ## Decimals -/

/-- A decimal that is a double is read as that double. -/
theorem form_toFloat_exact {d : Decimal} (h : Canonical m f) (hfit : f ≤ 971)
    (heq : d.value = dyadic m f) : form d.toFloat = .finite .positive m f h.pos :=
  form_ofScientific_exact h hfit ((value_normal d).trans heq)

/-- The shortest decimal of a positive finite double reads back. -/
theorem toFloat_shortest {x : Float} {hpos : 0 < m} (hx : form x = .finite .positive m f hpos) :
    (shortest x).toFloat = x := by
  unfold shortest
  rw [ofFloat_eq_exact, hx]
  dsimp only [exact]
  cases hfound : (grids (quotient m f).1 (quotient m f).2).find? fun d => d.toFloat = x with
  | some d => exact toFloat_of_find? hfound
  | none =>
    -- the number in full, which is exact
    obtain ⟨h, hfit⟩ := canonical_of_unpack hx
    refine (toFloat_normal _).trans (eq_of_form_eq ?_)
    rw [hx, form_toFloat_exact h hfit (value_expansion m f)]

end RoadSpeed.Decimal
