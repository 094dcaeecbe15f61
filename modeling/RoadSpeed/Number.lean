/-!
# Doubles as exact numbers and in order

Every finite double is a whole number times a power of two. Reading it that way makes
rounding to whole numbers and printing in decimals plain arithmetic on natural numbers.
Doubles are compared as IEEE 754 lays down: a double that is no number is neither below,
nor above, nor equal to any double.

- `Exact.ofFloat`: a double as sign, mantissa and exponent.
- `roundDiv`: a quotient rounded to the nearest whole number, ties to even.
- `toWhole`: a double rounded to the nearest whole number.
- `ofWhole?`: the double nearest to a whole number, if that is finite.
- `lesser`, `greater`: of two doubles the smaller and the larger one; the first is kept
  unless the second one is strictly beyond it.
- `not_lt_of_le`, `not_le_of_lt`: what one comparison rules out.
-/

namespace RoadSpeed

/-! ## Exact numbers -/

/-- What a double stands for. -/
inductive Exact where
  /-- No number. -/
  | nan
  /-- Infinity of either sign. -/
  | infinite (negative : Bool)
  /-- `mantissa * 2 ^ exponent`, with its sign; zero has a sign too. -/
  | finite (negative : Bool) (mantissa : Nat) (exponent : Int)
deriving DecidableEq, Repr

namespace Exact

open Float.Model

/-- Whether a sign bit is set. -/
def isNegative : UnpackedFloat.Sign → Bool
  | .negative => true
  | .positive => false

/-- The number that a double stands for. -/
def ofFloat (x : Float) : Exact :=
  match x.toModel.unpack with
  | .notANumber => .nan
  | .infinity s => .infinite (isNegative s)
  | .zero s => .finite (isNegative s) 0 0
  | .finite s m e _ => .finite (isNegative s) m e

end Exact

/-- `num / den` rounded to the nearest whole number; a tie goes to the even neighbour. -/
def roundDiv (num den : Nat) : Nat :=
  let q := num / den
  let r := num % den
  -- on a tie an odd quotient has its even neighbour above it
  if 2 * r < den then q else if den < 2 * r then q + 1 else q + q % 2

/-- Why a double has no nearest whole number. -/
inductive WholeError where
  | infinite
  | notANumber
deriving DecidableEq, Repr

namespace WholeError

/-- The message that names the offending value. -/
def message : WholeError → String
  | .infinite => "cannot convert float infinity to integer"
  | .notANumber => "cannot convert float NaN to integer"

end WholeError

/-- `mantissa * 2 ^ exponent` rounded to the nearest whole number, ties to even. -/
def wholeMagnitude (mantissa : Nat) : (exponent : Int) → Nat
  | .ofNat k => mantissa * Nat.pow 2 k
  | .negSucc k => roundDiv mantissa (Nat.pow 2 (k + 1))

/-- A double rounded to the nearest whole number, ties to even. -/
def toWhole (x : Float) : Except WholeError Int :=
  match Exact.ofFloat x with
  | .nan => .error .notANumber
  | .infinite _ => .error .infinite
  | .finite negative m e =>
    let n : Int := wholeMagnitude m e
    .ok (if negative then -n else n)

/-- The double nearest to a whole number, unless that is too large for any. -/
def ofWhole? (n : Int) : Option Float :=
  -- a number that is out of range becomes infinite here
  let x := Float.ofInt n
  if x.isFinite then some x else none

/-! ## Order -/

/-- The smaller of two doubles; the first one unless the second is strictly below it. -/
def lesser (a b : Float) : Float := if b < a then b else a

/-- The larger of two doubles; the first one unless the second is strictly above it. -/
def greater (a b : Float) : Float := if a < b then b else a

namespace Order

open Float.Model

/-- Comparing the other way round turns the answer round. -/
theorem compare_swap (a b : UnpackedFloat) : b.compare a = (a.compare b).map Ordering.swap := by
  have hint (e₁ e₂ : Int) : compare e₂ e₁ = (compare e₁ e₂).swap := (Int.compare_swap e₁ e₂).symm
  have hnat (m₁ m₂ : Nat) : compare m₂ m₁ = (compare m₁ m₂).swap := (Nat.compare_swap m₁ m₂).symm
  -- only two finite numbers of one sign need more than the constructors: exponents come before
  -- mantissas, and below zero the outcome is turned round
  cases a with
  | notANumber => cases b <;> rfl
  | zero s => cases s <;> cases b with
    | finite s' => cases s' <;> rfl
    | infinity s' => cases s' <;> rfl
    | _ => rfl
  | infinity s => cases s <;> cases b with
    | finite s' => cases s' <;> rfl
    | infinity s' => cases s' <;> rfl
    | _ => rfl
  | finite s m e _ => cases b with
    | finite s' m' e' _ =>
      have hthen : (compare e' e).then (compare m' m) =
          ((compare e e').then (compare m m')).swap := by
        rw [hint e e', hnat m m', Ordering.swap_then]
      cases s with
      | positive => cases s' with
        | positive => exact congrArg some hthen
        | negative => rfl
      | negative => cases s' with
        | positive => rfl
        | negative => exact congrArg (fun o => some o.swap) hthen
    | infinity s' => cases s <;> cases s' <;> rfl
    | _ => cases s <;> rfl

/-- The outcome of comparing two doubles; none when one of them is no number. -/
def compare? (a b : Float) : Option Ordering := a.toModel.unpack.compare b.toModel.unpack

theorem compare?_swap (a b : Float) : compare? b a = (compare? a b).map Ordering.swap :=
  compare_swap _ _

theorem lt_iff (a b : Float) : a < b ↔ compare? a b = some .lt := by
  show decide (a.toModel < b.toModel) = true ↔ _
  rw [decide_eq_true_iff]
  show UnpackedFloat.lt _ _ = true ↔ _
  simp [UnpackedFloat.lt, compare?]

theorem le_iff (a b : Float) : a ≤ b ↔ compare? a b = some .lt ∨ compare? a b = some .eq := by
  show decide (a.toModel ≤ b.toModel) = true ↔ _
  rw [decide_eq_true_iff]
  show UnpackedFloat.le _ _ = true ↔ _
  rw [UnpackedFloat.le]
  show (compare? a b).any Ordering.isLE = true ↔ _
  cases compare? a b with
  | none => simp
  | some o => cases o <;> simp

end Order

/-- A double at or below another is not above it. -/
theorem not_lt_of_le {a b : Float} (h : a ≤ b) : ¬ b < a := by
  rw [Order.lt_iff, Order.compare?_swap a b]
  rcases (Order.le_iff a b).mp h with h | h <;> simp [h]

/-- A double below another is not at or above it. -/
theorem not_le_of_lt {a b : Float} (h : a < b) : ¬ b ≤ a := by
  rw [Order.le_iff, Order.compare?_swap a b, (Order.lt_iff a b).mp h]
  simp

end RoadSpeed
