import RoadSpeed.Proofs.Number.Monotone

/-!
# Whole numbers as doubles

Every whole number has a nearest double. Larger numbers have larger ones, those above zero have
doubles above zero, and from half a unit below two to the power of 1024 on the nearest one is
infinite.

- `form_ofNat`: the double nearest to a natural number, as a rounded mantissa.
- `ofNat_mono`: these doubles are in order.
- `zero_lt_ofInt_iff`: which of them are above zero.
- `isFinite_ofInt_iff`: which of them are finite.
- `toWhole_pos_iff`: which doubles have a nearest whole number above zero.
-/

namespace RoadSpeed.Double

open Float.Model (Format UnpackedFloat totalExponent)
open Float.Model.UnpackedFloat

variable {m n : ℕ}

/-! ## The nearest double -/

theorem dyadic_room (n : ℕ) : dyadic (n * 2 ^ 53) (-53) = n := by
  have hshift := dyadic_shift n 0 53
  rw [show (0 : ℤ) - (53 : ℕ) = -53 by norm_num] at hshift
  rw [hshift, dyadic, zpow_zero, mul_one]

/-- The double nearest to a natural number, from a mantissa with room for rounding. -/
theorem form_ofNat (hn : 0 < n) : form (Float.ofNat n) = (Float.Model.pack
    (roundWithAccuracy Format.binary64 .positive (n * 2 ^ 53) (-53) .exact)).unpack := by
  -- a number of at most 53 bits is exact, and a larger one is read like a decimal numeral
  by_cases hlt : n < 2 ^ 53
  · obtain ⟨m, f, h, hle, hge, heq⟩ := exists_canonical_of_lt hn hlt
    have hroom : dyadic (n * 2 ^ 53) (-53) = dyadic m f := (dyadic_room n).trans heq.symm
    have hround := roundWithAccuracy_exact .positive (by positivity) h hroom (by omega)
    have hform : form (Float.ofNat n) = .finite .positive m f h.pos :=
      Decimal.form_ofScientific_exact (j := 0) h (by omega) (by rw [heq, zpow_zero, mul_one])
    rw [hround, hform, unpack_pack_finite _ h (by omega)]
  · show form (Float.ofScientific n false 0) = _
    unfold Float.ofScientific
    rw [dif_neg (fun h => hlt h.1)]
    show (Float.Model.pack (ofScientific Format.binary64 n 0)).unpack = _
    have hlow : ¬ (0 : ℤ) < -(2 ^ 11 + n.log2) := by omega
    unfold ofScientific
    rw [dif_neg hn.ne', if_neg (by decide), if_neg hlow, if_pos (le_refl 0)]
    show (Float.Model.pack
      (roundWithAccuracy Format.binary64 .positive (n <<< 53 * 1) (-53) .exact)).unpack = _
    rw [Nat.shiftLeft_eq, Nat.mul_one]

/-! ## Order -/

/-- The nearest doubles are in the order of the numbers. -/
theorem ofNat_mono (h : m ≤ n) : Float.ofNat m ≤ Float.ofNat n := by
  rcases Nat.eq_zero_or_pos m with rfl | hm
  · have hzero : form (Float.ofNat 0) = .zero .positive := rfl
    exact Order.le_of_zero hzero (zero_le_ofNat n)
  have hn := hm.trans_le h
  have hroom {k : ℕ} (hk : 0 < k) :
      (-53 : ℤ) ≤ Format.binary64.targetExponent (totalExponent (k * 2 ^ 53) (-53)) := by
    rw [targetExponent_eq, totalExponent, log2_shift hk]
    omega
  obtain ⟨p, q, hpq, hp, hq⟩ := roundWithAccuracy_mono .positive (hroom hm) (hroom hn)
    (by rw [dyadic_room, dyadic_room]; exact_mod_cast h)
  exact le_of_rounded (form_ofNat hm) (form_ofNat hn) hp hq hpq

/-- The nearest double is above zero where the number is. -/
theorem zero_lt_ofNat_iff : 0 < Float.ofNat n ↔ 0 < n := by
  constructor
  · intro h
    rcases Nat.eq_zero_or_pos n with rfl | hn
    · exact absurd h (by decide)
    · exact hn
  · intro hn
    have hone : (0 : Float) < Float.ofNat 1 := by decide
    exact Order.lt_of_lt_of_le hone (ofNat_mono hn)

/-- The opposite of a number that is not below zero is not above it. -/
theorem not_zero_lt_neg {x : Float} (hx : 0 ≤ x) : ¬ 0 < -x := by
  have hform : (∃ s, form (-x) = .zero s) ∨ Signed .negative (form (-x)) := by
    rw [form_neg]
    rcases Order.zero_or_pos hx with ⟨s, hs⟩ | hpos
    · rw [hs]
      exact .inl ⟨_, unpack_pack_zero _⟩
    · refine .inr (Signed.unpack_pack ?_)
      rcases (zero_lt_iff x).mp hpos with h | ⟨m, e, hm, h⟩
      · rw [h]
        exact .infinity
      · rw [h]
        exact .finite m e hm
  intro hlt
  rcases (zero_lt_iff _).mp hlt with h | ⟨m, e, hm, h⟩
  · rw [h] at hform
    rcases hform with ⟨s, hs⟩ | hs <;> cases hs
  · rw [h] at hform
    rcases hform with ⟨s, hs⟩ | hs <;> cases hs

theorem zero_lt_ofInt_iff {k : ℤ} : 0 < Float.ofInt k ↔ 0 < k := by
  cases k with
  | ofNat n => exact zero_lt_ofNat_iff.trans Int.natCast_pos.symm
  | negSucc n => exact iff_of_false (not_zero_lt_neg (zero_le_ofNat n.succ)) (by omega)

/-! ## Overflow -/

/-- The first natural number whose nearest double is infinite. -/
def overflow : ℕ := 2 ^ 1024 - 2 ^ 970

/-- What is finite has nothing infinite between itself and zero. -/
theorem isFinite_of_le {a b : Float} (ha : 0 ≤ a) (hab : a ≤ b) (hb : b.isFinite = true) :
    a.isFinite = true := by
  rcases Order.zero_or_pos ha with ⟨s, hs⟩ | hpos
  · exact congrArg UnpackedFloat.isFinite hs
  rcases (zero_lt_iff a).mp hpos with hinf | ⟨m, e, hm, hfin⟩
  · obtain ⟨n, f, hn, hform⟩ :=
      form_of_isFinite_of_pos hb (not_le_of_lt (Order.lt_of_lt_of_le hpos hab))
    rw [Order.le_iff_rank, hinf, hform] at hab
    simp [rank, Prod.Lex.toLex_le_toLex] at hab
  · exact congrArg UnpackedFloat.isFinite hfin

/-- The nearest double is finite up to the one that overflows. -/
theorem isFinite_ofNat_iff : (Float.ofNat n).isFinite = true ↔ n < overflow := by
  -- the doubles on both sides of the border are computed, and order does the rest
  constructor
  · intro hfinite
    by_contra hlarge
    have hover : (Float.ofNat overflow).isFinite = false := by decide +kernel
    rw [isFinite_of_le (zero_le_ofNat _) (ofNat_mono (not_lt.mp hlarge)) hfinite] at hover
    cases hover
  · intro hlt
    have hlast : (Float.ofNat (overflow - 1)).isFinite = true := by decide +kernel
    exact isFinite_of_le (zero_le_ofNat n) (ofNat_mono (Nat.le_sub_one_of_lt hlt)) hlast

theorem isFinite_neg (x : Float) : (-x).isFinite = x.isFinite := by
  rw [isFinite_eq, isFinite_eq, form_neg]
  cases hx : form x with
  | notANumber => rfl
  | infinity s => cases s <;> rfl
  | zero s => cases s <;> rfl
  | finite s m e hm =>
    obtain ⟨h, hfit⟩ := canonical_of_unpack hx
    exact (congrArg UnpackedFloat.isFinite (unpack_pack_finite _ h hfit)).trans rfl

/-- The nearest double is finite where the number is nearer to zero than the first one that
overflows. -/
theorem isFinite_ofInt_iff {k : ℤ} : (Float.ofInt k).isFinite = true ↔ k.natAbs < overflow := by
  cases k with
  | ofNat n => exact isFinite_ofNat_iff
  | negSucc n =>
    show (-(Float.ofNat n.succ)).isFinite = true ↔ _
    rw [isFinite_neg]
    exact isFinite_ofNat_iff

/-! ## The nearest whole number -/

/-- One half, as a mantissa. -/
theorem canonical_half : Canonical (2 ^ 52) (-53) :=
  ⟨by norm_num, by norm_num, by norm_num, .inl le_rfl⟩

/-- A double above one half is rounded up; one half itself goes to zero, which is even. -/
theorem toWhole_pos_iff {a : Float} {k : ℤ} (ha : 0 ≤ a) (hk : toWhole a = .ok k) :
    0 < k ↔ ¬ a ≤ 0.5 := by
  rcases toWhole_cases ha hk with ⟨⟨s, hzero⟩, rfl⟩ | ⟨m, e, hm, hform, rfl⟩
  · exact iff_of_false (lt_irrefl 0) (not_not_intro (Order.le_of_zero hzero (by decide)))
  · obtain ⟨hc, -⟩ := canonical_of_unpack hform
    have hhalf : form 0.5 = .finite .positive (2 ^ 52) (-53) canonical_half.pos := rfl
    have hvalue : dyadic (2 ^ 52) (-53) = 1 / 2 := by norm_num [dyadic]
    rw [Order.le_iff_of_finite hform hhalf, ← dyadic_le_dyadic_iff hc canonical_half, hvalue,
      dyadic_eq_div, div_le_div_iff₀ (by positivity) (by norm_num), wholeMagnitude_eq,
      Int.natCast_pos, Nat.pos_iff_ne_zero, ne_eq, roundDiv_eq_zero_iff (by positivity)]
    refine not_congr ?_
    rw [one_mul, mul_comm 2]
    exact_mod_cast Iff.rfl

end RoadSpeed.Double
