import RoadSpeed.Number
import RoadSpeed.Proofs.Number.Rounding

/-!
# The sign of computed doubles

Rounding keeps the sign, and so do packing, products and conversions. A number that
is computed from numbers that are not below zero is therefore not below zero, also
where it overflows, underflows or is no number at all.

- `Signed s u`: the form `u` is a number with the sign `s`.
- `not_lt_zero_iff`, `not_le_zero_iff`: comparisons with zero as facts about forms.
- `mul_not_lt_zero`: a product of a number that is not below zero and one that is
  not at or below zero.
- `ofInt_not_lt_zero`: the double nearest to a whole number.
-/

namespace RoadSpeed.Double

open Float.Model (Format UnpackedFloat)
open Float.Model.UnpackedFloat

/-- What a form stands for. -/
def exact : UnpackedFloat → Exact
  | .notANumber => .nan
  | .infinity s => .infinite (Exact.isNegative s)
  | .zero s => .finite (Exact.isNegative s) 0 0
  | .finite s m e _ => .finite (Exact.isNegative s) m e

theorem ofFloat_eq_exact (x : Float) : Exact.ofFloat x = exact (form x) := rfl

/-- A number with the sign `s`, which zero and infinity have too. -/
inductive Signed (s : Sign) : UnpackedFloat → Prop where
  | zero : Signed s (.zero s)
  | infinity : Signed s (.infinity s)
  | finite (m : Nat) (e : Int) (h : 0 < m) : Signed s (.finite s m e h)

/-! ## Finite doubles -/

theorem isFinite_eq (x : Float) : x.isFinite = (form x).isFinite := rfl

/-- A finite double is a zero or has a mantissa. -/
theorem form_of_isFinite {x : Float} (h : x.isFinite = true) :
    (∃ s, form x = .zero s) ∨ ∃ s m e hpos, form x = .finite s m e hpos := by
  rw [isFinite_eq] at h
  generalize form x = u at h
  cases u with
  | notANumber => cases h
  | infinity s => cases h
  | zero s => exact .inl ⟨s, rfl⟩
  | finite s m e hpos => exact .inr ⟨s, m, e, hpos, rfl⟩

/-! ## Comparisons with zero -/

theorem form_zero : form 0 = .zero .positive := rfl

/-- What is not below zero: a number with a plus sign, either zero, and what is no
number. -/
theorem not_lt_zero_iff (x : Float) :
    ¬ x < 0 ↔ form x = .notANumber ∨ (∃ s, form x = .zero s) ∨ Signed .positive (form x) := by
  rw [Order.lt_iff, Order.compare?]
  change ¬ (form x).compare (form 0) = some .lt ↔ _
  rw [form_zero]
  -- by the form of the double; zero of either sign and what is no number are not below zero
  cases form x with
  | notANumber => simp [UnpackedFloat.compare]
  | zero s => simp [UnpackedFloat.compare]
  | infinity s =>
    cases s with
    | negative =>
      refine iff_of_false (fun h => h rfl) ?_
      rintro (h | ⟨s, h⟩ | h) <;> cases h
    | positive => exact iff_of_true (by simp [UnpackedFloat.compare]) (.inr (.inr .infinity))
  | finite s m e h =>
    cases s with
    | negative =>
      refine iff_of_false (fun h => h rfl) ?_
      rintro (h | ⟨s, h⟩ | h) <;> cases h
    | positive =>
      exact iff_of_true (by simp [UnpackedFloat.compare]) (.inr (.inr (.finite m e h)))

/-- What is not at or below zero: a number with a plus sign other than zero, and
what is no number. -/
theorem not_le_zero_iff (x : Float) :
    ¬ x ≤ 0 ↔ form x = .notANumber ∨ form x = .infinity .positive ∨
      ∃ m e h, form x = .finite .positive m e h := by
  rw [Order.le_iff, Order.compare?]
  change ¬ ((form x).compare (form 0) = some .lt ∨ (form x).compare (form 0) = some .eq) ↔ _
  rw [form_zero]
  cases form x with
  | notANumber => simp [UnpackedFloat.compare]
  | zero s => simp [UnpackedFloat.compare]
  | infinity s => cases s <;> simp [UnpackedFloat.compare]
  | finite s m e h => cases s <;> simp [UnpackedFloat.compare, h]

/-- What is above zero: infinity with a plus sign and finite numbers with one. -/
theorem zero_lt_iff (x : Float) :
    0 < x ↔ form x = .infinity .positive ∨ ∃ m e h, form x = .finite .positive m e h := by
  rw [Order.lt_iff, Order.compare?]
  change (form 0).compare (form x) = some .lt ↔ _
  rw [form_zero]
  cases form x with
  | notANumber => simp [UnpackedFloat.compare]
  | zero s => simp [UnpackedFloat.compare]
  | infinity s => cases s <;> simp [UnpackedFloat.compare]
  | finite s m e h => cases s <;> simp [UnpackedFloat.compare, h]

/-- What is above zero is a number. -/
theorem isNaN_of_zero_lt {x : Float} (h : 0 < x) : x.isNaN = false := by
  change (form x).isNaN = false
  obtain hx | ⟨m, e, hpos, hx⟩ := (zero_lt_iff x).mp h <;> rw [hx] <;> rfl

theorem Signed.not_lt_zero {x : Float} (h : Signed .positive (form x)) : ¬ x < 0 :=
  (not_lt_zero_iff x).mpr (.inr (.inr h))

/-! ## Rounding and packing keep the sign -/

theorem roundWithAccuracy_signed (s : Sign) (m : Nat) (e : Int) (a : Accuracy) :
    Signed s (roundWithAccuracy Format.binary64 s m e a) := by
  simp only [roundWithAccuracy]
  split
  · exact .zero
  · exact .finite ..

theorem round_signed (s : Sign) (m : Nat) (e : Int) : Signed s (round Format.binary64 s m e) :=
  roundWithAccuracy_signed ..

/-- Bits with an exponent below the top one are those of a number. -/
theorem unpack_packComponents_signed (s : Sign) {e : BitVec 11} (m : BitVec 52) (h : e ≠ -1#11) :
    Signed s (unpack Format.binary64 (packComponents Format.binary64 s e m)) := by
  rw [unpack_packComponents, if_neg h]
  split
  · split
    · exact .zero
    · exact .finite ..
  · exact .finite ..

/-- Packing keeps the sign, whatever the form; it never makes a number no number. -/
theorem Signed.unpack_pack {s : Sign} {u : UnpackedFloat} (h : Signed s u) :
    Signed s (Float.Model.pack u).unpack := by
  cases h with
  | zero =>
    rw [unpack_pack_zero]
    exact .zero
  | infinity =>
    rw [unpack_pack_infinity]
    exact .infinity
  | finite m e h =>
    show Signed s (unpack Format.binary64 (pack Format.binary64 (.finite s m e h)))
    unfold Float.Model.UnpackedFloat.pack
    dsimp only
    -- a number that is too large is packed as infinity, which has the same sign
    split
    · show Signed s (Float.Model.pack (.infinity s)).unpack
      rw [unpack_pack_infinity]
      exact .infinity
    rename_i hroom
    split
    · refine unpack_packComponents_signed s _ ?_
      intro htop
      apply hroom
      have := congrArg BitVec.toNat htop
      rw [BitVec.toNat_ofNat] at this
      change _ % 2048 = 2047 at this
      change 2048 ≤ _
      omega
    · exact unpack_packComponents_signed s _ (by decide)

/-! ## Opposites -/

theorem form_neg (x : Float) : form (-x) = (Float.Model.pack (form x).neg).unpack := rfl

/-! ## Products -/

theorem form_mul (a b : Float) :
    form (a * b) = (Float.Model.pack (mul Format.binary64 (form a) (form b))).unpack := rfl

theorem mul_nan_left (u : UnpackedFloat) : mul Format.binary64 .notANumber u = .notANumber := rfl

theorem mul_nan_right (u : UnpackedFloat) : mul Format.binary64 u .notANumber = .notANumber := by
  cases u <;> rfl

theorem mul_zero_infinity (s t : Sign) :
    mul Format.binary64 (.zero s) (.infinity t) = .notANumber := rfl

theorem mul_zero_finite (s t : Sign) {m : Nat} {e : Int} (h : 0 < m) :
    mul Format.binary64 (.zero s) (.finite t m e h) = .zero (s * t) := rfl

/-- The product of two positive forms has a plus sign. -/
theorem mul_signed {m n : Nat} {e f : Int} (hm : 0 < m) (hn : 0 < n) :
    Signed .positive (mul Format.binary64 (.finite .positive m e hm) (.finite .positive n f hn)) :=
  roundWithAccuracy_signed ..

/-- A form with a plus sign, other than zero, times one that is not zero. -/
theorem Signed.mul {u v : UnpackedFloat} (hu : Signed .positive u) (hzero : ∀ s, u ≠ .zero s)
    (hv : v = .infinity .positive ∨ ∃ m e h, v = .finite .positive m e h) :
    Signed .positive (mul Format.binary64 u v) := by
  rcases hv with rfl | ⟨n, f, hn, rfl⟩
  · cases hu with
    | zero => exact absurd rfl (hzero _)
    | infinity => exact .infinity
    | finite m e h => exact .infinity
  · cases hu with
    | zero => exact absurd rfl (hzero _)
    | infinity => exact .infinity
    | finite m e h => exact mul_signed h hn

/-- A number that is not below zero times one that is not at or below zero is not
below zero. -/
theorem mul_not_lt_zero {a b : Float} (ha : ¬ a < 0) (hb : ¬ b ≤ 0) : ¬ a * b < 0 := by
  rw [not_lt_zero_iff, form_mul]
  rw [not_lt_zero_iff] at ha
  rw [not_le_zero_iff] at hb
  generalize form a = u at ha
  generalize form b = v at hb
  -- a zero keeps no sign: its products are zeros or no numbers
  by_cases hzero : ∃ s, u = .zero s
  · obtain ⟨s, rfl⟩ := hzero
    rcases hb with rfl | rfl | ⟨n, f, hn, rfl⟩
    · rw [mul_nan_right, unpack_pack_nan]
      exact .inl rfl
    · rw [mul_zero_infinity, unpack_pack_nan]
      exact .inl rfl
    · rw [mul_zero_finite, unpack_pack_zero]
      exact .inr (.inl ⟨_, rfl⟩)
  rcases hb with rfl | hb
  · rw [mul_nan_right, unpack_pack_nan]
    exact .inl rfl
  rcases ha with rfl | ha | ha
  · rw [mul_nan_left, unpack_pack_nan]
    exact .inl rfl
  · exact absurd ha hzero
  · exact .inr (.inr (ha.mul (fun s h => hzero ⟨s, h⟩) hb).unpack_pack)

/-! ## Quotients -/

theorem form_div (a b : Float) :
    form (a / b) = (Float.Model.pack (div Format.binary64 (form a) (form b))).unpack := rfl

/-- The quotient of two positive forms has a plus sign. -/
theorem div_signed {m n : Nat} {e f : Int} (hm : 0 < m) (hn : 0 < n) :
    Signed .positive (div Format.binary64 (.finite .positive m e hm) (.finite .positive n f hn)) :=
  roundWithAccuracy_signed ..

/-! ## Whole numbers -/

theorem ofScientific_signed (m : Nat) (e : Int) :
    Signed .positive (ofScientific Format.binary64 m e) := by
  unfold ofScientific
  split
  · exact .zero
  split
  · exact .infinity
  split
  · exact .zero
  split
  · exact mul_signed ..
  · exact roundWithAccuracy_signed ..

theorem form_toFloat (n : UInt64) :
    form n.toFloat =
      (Float.Model.pack (normalize Format.binary64 (n.toNat : Int) 0 .positive)).unpack := rfl

theorem toFloat_signed (n : UInt64) : Signed .positive (form n.toFloat) := by
  rw [form_toFloat]
  refine Signed.unpack_pack ?_
  have h : ¬ compare (n.toNat : Int) 0 = .lt := by
    rw [compare_lt_iff_lt]
    omega
  unfold Float.Model.UnpackedFloat.normalize
  split
  · rename_i hlt
    exact absurd hlt h
  · exact .zero
  · exact round_signed ..

theorem toFloat_not_lt_zero (n : UInt64) : ¬ n.toFloat < 0 := (toFloat_signed n).not_lt_zero

/-- The double nearest to a natural number is not below zero. -/
theorem ofNat_not_lt_zero (n : Nat) : ¬ Float.ofNat n < 0 := by
  show ¬ Float.ofScientific n false 0 < 0
  unfold Float.ofScientific
  split
  · have hone : ¬ (1.0 : Float) ≤ 0 := by decide
    exact mul_not_lt_zero (toFloat_not_lt_zero _) hone
  · exact Signed.not_lt_zero (ofScientific_signed _ _).unpack_pack

theorem ofInt_not_lt_zero {n : Int} (h : 0 ≤ n) : ¬ Float.ofInt n < 0 := by
  obtain ⟨k, rfl⟩ := Int.eq_ofNat_of_zero_le h
  exact ofNat_not_lt_zero k

end RoadSpeed.Double
