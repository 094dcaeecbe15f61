import Mathlib
import RoadSpeed.Number

/-!
# Doubles and their bit patterns

A double is computed with in an unpacked form: a sign, a mantissa and an exponent.
Packing such a form into bits and unpacking bits into a form are inverse to each
other on the forms that a double can have.

- `Canonical m e`: the mantissas and exponents that rounding yields. The exponents
  of finite doubles lie between -1074 and 971; rounding can go beyond 971.
- `unpack_pack_finite`: the form that comes out of the bits.
- `canonical_of_unpack`: the forms of finite doubles.
- `eq_of_form_eq`: a double is determined by its form, so that a fact about forms
  becomes a fact about doubles.
-/

namespace RoadSpeed.Double

open Float.Model (Format)
open Float.Model.UnpackedFloat

/-- The form of a double. -/
abbrev form (x : Float) : Float.Model.UnpackedFloat := x.toModel.unpack

/-- A mantissa and an exponent as rounding leaves them: the mantissa takes all of
its 53 bits, unless the exponent is the least one. -/
structure Canonical (m : Nat) (e : Int) : Prop where
  pos : 0 < m
  lt : m < 2 ^ 53
  le : -1074 ≤ e
  normal : 2 ^ 52 ≤ m ∨ e = -1074

/-! ## What bit patterns stand for -/

theorem toNat_implicit (m : BitVec 52) : (1#1 ++ m).toNat = 2 ^ 52 + m.toNat := by
  rw [BitVec.toNat_append, ← Nat.shiftLeft_add_eq_or_of_lt m.isLt]
  rfl

/-- What the parts of a bit pattern stand for. -/
theorem unpack_packComponents (s : Sign) (e : BitVec 11) (m : BitVec 52) :
    unpack Format.binary64 (packComponents Format.binary64 s e m) =
      if e = -1#11 then
        if m = 0#52 then .infinity s else .notANumber
      else if e = 0#11 then
        if h : m = 0#52 then .zero s
        else .finite s m.toNat (-1074) (by simpa [BitVec.toNat_pos, BitVec.pos_iff_ne_zero])
      else .finite s (2 ^ 52 + m.toNat) (e.toNat - 1075) (by omega) := by
  unfold Float.Model.UnpackedFloat.unpack
  simp only [unpackMantissa_packComponents, unpackExponent_packComponents,
    unpackSign_packComponents, Sign.ofBitVec_toBitVec, toNat_implicit]
  split
  · rfl
  · split
    · rename_i h
      subst h
      rfl
    · rfl

/-! ## Packing finite forms -/

theorem log2_of_normal {m : Nat} (h : 2 ^ 52 ≤ m) (hlt : m < 2 ^ 53) : m.log2 = 52 :=
  (Nat.log2_eq_iff (by omega)).mpr ⟨h, hlt⟩

theorem log2_lt_of_subnormal {m : Nat} (hpos : 0 < m) (hlt : m < 2 ^ 52) : m.log2 < 52 :=
  (Nat.log2_lt (by omega)).mpr hlt

/-- A mantissa of 53 bits is packed without its first one. -/
theorem pack_normal (s : Sign) {m : Nat} {e : Int} (hpos : 0 < m) (hm : 2 ^ 52 ≤ m)
    (hlt : m < 2 ^ 53) (hle : -1074 ≤ e) (hfit : e ≤ 971) :
    pack Format.binary64 (.finite s m e hpos) =
      packComponents Format.binary64 s (BitVec.ofNat 11 (e + 1075).toNat) (BitVec.ofNat 52 m) := by
  have hbias : e + (Format.binary64.exponentBias : Int) + (52 : Nat) = e + 1075 := by
    show e + 1023 + 52 = e + 1075
    omega
  have hroom : ¬ 2 ^ 11 ≤ (e + 1075).toNat + 1 := by
    show ¬ 2048 ≤ (e + 1075).toNat + 1
    omega
  unfold Float.Model.UnpackedFloat.pack
  simp only [hbias, hroom, if_false, log2_of_normal hm hlt]
  rfl

/-- A mantissa of less than 53 bits is packed as it is. -/
theorem pack_subnormal (s : Sign) {m : Nat} (hpos : 0 < m) (hlt : m < 2 ^ 52) :
    pack Format.binary64 (.finite s m (-1074) hpos) =
      packComponents Format.binary64 s 0#11 (BitVec.ofNat 52 m) := by
  have hlog : ¬ m.log2 + 1 = Format.binary64.mantissaBits := by
    show ¬ m.log2 + 1 = 53
    have := log2_lt_of_subnormal hpos hlt
    omega
  unfold Float.Model.UnpackedFloat.pack
  simp only [hlog, if_false]
  rfl

/-! ## Forms out of bits -/

theorem toNat_ofNat_of_lt {w n : Nat} (h : n < 2 ^ w) : (BitVec.ofNat w n).toNat = n := by
  rw [BitVec.toNat_ofNat]
  exact Nat.mod_eq_of_lt h

theorem ofNat_ne {w n : Nat} (h : n < 2 ^ w) {b : BitVec w} (hne : n ≠ b.toNat) :
    BitVec.ofNat w n ≠ b := by
  rintro rfl
  exact hne (toNat_ofNat_of_lt h).symm

theorem unpack_pack_normal (s : Sign) {m : Nat} {e : Int} (hpos : 0 < m) (hm : 2 ^ 52 ≤ m)
    (hlt : m < 2 ^ 53) (hle : -1074 ≤ e) (hfit : e ≤ 971) :
    (Float.Model.pack (.finite s m e hpos)).unpack = .finite s m e hpos := by
  have hexponent : (e + 1075).toNat < 2 ^ 11 := by omega
  -- neither the exponent of zero nor the one of infinity comes up
  have htop : BitVec.ofNat 11 (e + 1075).toNat ≠ -1#11 := by
    refine ofNat_ne hexponent ?_
    show (e + 1075).toNat ≠ 2047
    omega
  have hzero : BitVec.ofNat 11 (e + 1075).toNat ≠ 0#11 := by
    refine ofNat_ne hexponent ?_
    show (e + 1075).toNat ≠ 0
    omega
  show unpack Format.binary64 (pack Format.binary64 (.finite s m e hpos)) = _
  rw [pack_normal s hpos hm hlt hle hfit, unpack_packComponents, if_neg htop, if_neg hzero]
  congr 1
  · rw [BitVec.toNat_ofNat]
    omega
  · rw [toNat_ofNat_of_lt hexponent]
    omega

theorem unpack_pack_subnormal (s : Sign) {m : Nat} (hpos : 0 < m) (hlt : m < 2 ^ 52) :
    (Float.Model.pack (.finite s m (-1074) hpos)).unpack = .finite s m (-1074) hpos := by
  have hzero : BitVec.ofNat 52 m ≠ 0#52 := by
    refine ofNat_ne hlt ?_
    show m ≠ 0
    omega
  show unpack Format.binary64 (pack Format.binary64 (.finite s m (-1074) hpos)) = _
  rw [pack_subnormal s hpos hlt, unpack_packComponents, if_neg (by decide), if_pos rfl,
    dif_neg hzero]
  congr 1
  exact toNat_ofNat_of_lt hlt

/-- A form whose exponent fits comes back out of its bits. -/
theorem unpack_pack_finite (s : Sign) {m : Nat} {e : Int} (h : Canonical m e) (hfit : e ≤ 971) :
    (Float.Model.pack (.finite s m e h.pos)).unpack = .finite s m e h.pos := by
  by_cases hm : 2 ^ 52 ≤ m
  · exact unpack_pack_normal s h.pos hm h.lt h.le hfit
  · obtain rfl : e = -1074 := h.normal.resolve_left hm
    exact unpack_pack_subnormal s h.pos (Nat.not_le.mp hm)

@[simp] theorem unpack_pack_zero (s : Sign) : (Float.Model.pack (.zero s)).unpack = .zero s := by
  cases s <;> rfl

@[simp] theorem unpack_pack_infinity (s : Sign) :
    (Float.Model.pack (.infinity s)).unpack = .infinity s := by
  cases s <;> rfl

@[simp] theorem unpack_pack_nan : (Float.Model.pack .notANumber).unpack = .notANumber := rfl

/-- A form whose exponent does not fit is packed as infinity. -/
theorem unpack_pack_too_large (s : Sign) {m : Nat} {e : Int} (h : Canonical m e)
    (hlarge : 971 < e) :
    (Float.Model.pack (.finite s m e h.pos)).unpack = .infinity s := by
  have hm : 2 ^ 52 ≤ m := h.normal.resolve_right (by omega)
  have hbias : e + (Format.binary64.exponentBias : Int) + (52 : Nat) = e + 1075 := by
    show e + 1023 + 52 = e + 1075
    omega
  have hroom : 2 ^ 11 ≤ (e + 1075).toNat + 1 := by
    show 2048 ≤ (e + 1075).toNat + 1
    omega
  have hpack : pack Format.binary64 (.finite s m e h.pos) =
      pack Format.binary64 (.infinity s) := by
    unfold Float.Model.UnpackedFloat.pack
    simp only [hbias, hroom, if_true, log2_of_normal hm h.lt]
  show unpack Format.binary64 (pack Format.binary64 (.finite s m e h.pos)) = _
  rw [hpack]
  exact unpack_pack_infinity s

/-! ## Forms of doubles -/

/-- The form of a finite double is canonical and its exponent fits. -/
theorem canonical_of_unpack {b : Float.Model} {s : Sign} {m : Nat} {e : Int} {hpos : 0 < m}
    (h : b.unpack = .finite s m e hpos) : Canonical m e ∧ e ≤ 971 := by
  have hparts := @packComponents_unpackSign_unpackExponent_unpackMantissa Format.binary64
    b.toBits.toBitVec
  rw [Float.Model.unpack, ← hparts, unpack_packComponents] at h
  -- only the bounds of the two fields count from here on
  generalize @unpackExponent Format.binary64 b.toBits.toBitVec = ev at h
  generalize @unpackMantissa Format.binary64 b.toBits.toBitVec = mv at h
  have hev : ev.toNat < 2 ^ 11 := ev.isLt
  have hmv : mv.toNat < 2 ^ 52 := mv.isLt
  -- the exponent field of all ones is no finite number, that of zeros a subnormal one
  split at h
  · split at h <;> cases h
  · rename_i htop
    split at h
    · split at h
      · cases h
      · cases h
        exact ⟨⟨hpos, by omega, by omega, .inr rfl⟩, by omega⟩
    · rename_i hzero
      have htop' : ev.toNat ≠ 2047 := by
        intro hc
        exact htop (BitVec.eq_of_toNat_eq hc)
      have hzero' : ev.toNat ≠ 0 := by
        intro hc
        exact hzero (BitVec.eq_of_toNat_eq hc)
      cases h
      exact ⟨⟨hpos, by omega, by omega, .inl (by omega)⟩, by omega⟩

/-- Doubles with the same form are the same. -/
theorem eq_of_form_eq {x y : Float} (h : form x = form y) : x = y := by
  have hbits : x.toModel.toBits.toBitVec = y.toModel.toBits.toBitVec :=
    (unpack_inj_of_valid x.toModel.valid y.toModel.valid).mp h
  exact Float.toBits_inj.mp (UInt64.toBitVec_inj.mp hbits)

end RoadSpeed.Double
