import RoadSpeed.Number
import RoadSpeed.Text

/-!
# Decimals

A decimal is a whole number of digits and a power of ten. One number has many decimals, as
zeros at the end of the digits may move into the exponent; the normal form has none. The
value of a decimal is read off its normal form, so that two spellings of one number have
one value. A finite double is written with the fewest digits that read back as the same
double, and of the decimals with that many digits with the one nearest to it.

- `Decimal.normal`, `Decimal.toFloat`: the normal form and the nearest double.
- `digitsValue`, `digitsOf`, `takeDigits`: runs of digits.
- `Numeral`, `Numeral.ofParts`: a sign and a decimal, and how they are put together from
  what is written.
- `shortest`: the first candidate that reads back, over ever finer grids.
- `Layout`, `Layout.write`: digits laid out positionally or with a power of ten. Where one
  ends and the other begins, and what stands for infinity, is data.
- `lenient?`: numbers as people write them into text fields, with blanks around them, signs
  of either kind, a point without digits on one side, `inf`, `infinity` and `nan` in any
  case, and single underscores between other characters; `plain?` has neither blanks nor
  underscores.
-/

namespace RoadSpeed

/-! ## Normal forms and values -/

/-- The number `digits * 10 ^ exponent`. -/
structure Decimal where
  digits : Nat
  exponent : Int
deriving DecidableEq, Repr

namespace Decimal

/-- The decimal without zeros at the end of its digits. -/
def normal (d : Decimal) : Decimal :=
  if d.digits = 0 then ⟨0, 0⟩
  else if d.digits % 10 = 0 then normal ⟨d.digits / 10, d.exponent + 1⟩
  else d
termination_by d.digits
decreasing_by exact Nat.div_lt_self (by omega) (by omega)

/-- The double nearest to a decimal. -/
def toFloat (d : Decimal) : Float :=
  Float.ofScientific d.normal.digits (d.normal.exponent < 0) d.normal.exponent.natAbs

/-- A zero at the end of the digits moves into the exponent. -/
theorem normal_mul_ten (n : Nat) (e : Int) : normal ⟨n * 10, e⟩ = normal ⟨n, e + 1⟩ := by
  by_cases h : n = 0
  · simp [normal, h]
  · rw [normal, if_neg (Nat.mul_ne_zero h (by decide)), if_pos (Nat.mul_mod_left n 10)]
    simp

/-- A zero at the end of the digits does not change the value. -/
theorem toFloat_mul_ten (n : Nat) (e : Int) : toFloat ⟨n * 10, e⟩ = toFloat ⟨n, e + 1⟩ := by
  rw [toFloat, toFloat, normal_mul_ten]

/-! ## Runs of digits -/

/-- The number that a run of digits stands for, `start` being what was read before it. -/
def digitsValueFrom (start : Nat) (cs : List Char) : Nat :=
  cs.foldl (fun n c => 10 * n + (c.toNat - '0'.toNat)) start

/-- The number that a run of digits stands for. -/
def digitsValue (cs : List Char) : Nat := digitsValueFrom 0 cs

/-- The digit of a number below ten. -/
def digitChar (n : Nat) : Char := Char.ofNat ('0'.toNat + n)

/-- The digits of a number, the most significant first. -/
def digitsOf (n : Nat) : List Char :=
  if n < 10 then [digitChar n] else digitsOf (n / 10) ++ [digitChar (n % 10)]
decreasing_by exact Nat.div_lt_self (by omega) (by omega)

/-- How many decimal digits a number has; zero has none. -/
def digitCount (n : Nat) : Nat :=
  if n = 0 then 0 else digitCount (n / 10) + 1
decreasing_by exact Nat.div_lt_self (by omega) (by omega)

/-- The digits at the start of a text, and what follows them. -/
def takeDigits (cs : List Char) : List Char × List Char :=
  (cs.takeWhile Char.isDigit, cs.dropWhile Char.isDigit)

theorem digitsValue_append (cs ds : List Char) :
    digitsValue (cs ++ ds) = digitsValueFrom (digitsValue cs) ds := by
  simp [digitsValue, digitsValueFrom, List.foldl_append]

theorem digitChar_toNat {n : Nat} (h : n < 10) : (digitChar n).toNat - '0'.toNat = n := by
  have all : ∀ m : Fin 10, (digitChar m.val).toNat - '0'.toNat = m.val := by decide
  exact all ⟨n, h⟩

theorem digitChar_isDigit {n : Nat} (h : n < 10) : (digitChar n).isDigit = true := by
  have all : ∀ m : Fin 10, (digitChar m.val).isDigit = true := by decide
  exact all ⟨n, h⟩

/-- The digits of a number stand for it. -/
@[simp] theorem digitsValue_digitsOf (n : Nat) : digitsValue (digitsOf n) = n := by
  induction n using digitsOf.induct with
  | case1 n h =>
    rw [digitsOf, if_pos h]
    simpa [digitsValue, digitsValueFrom] using digitChar_toNat h
  | case2 n h ih =>
    rw [digitsOf, if_neg h, digitsValue_append, ih]
    simp only [digitsValueFrom, List.foldl_cons, List.foldl_nil]
    rw [digitChar_toNat (Nat.mod_lt _ (by omega))]
    omega

/-- The digits of a number are digits. -/
theorem isDigit_of_mem_digitsOf {n : Nat} {c : Char} (hc : c ∈ digitsOf n) : c.isDigit = true := by
  induction n using digitsOf.induct with
  | case1 n h =>
    rw [digitsOf, if_pos h, List.mem_singleton] at hc
    exact hc ▸ digitChar_isDigit h
  | case2 n h ih =>
    rw [digitsOf, if_neg h, List.mem_append, List.mem_singleton] at hc
    rcases hc with hc | rfl
    · exact ih hc
    · exact digitChar_isDigit (Nat.mod_lt _ (by omega))

/-! ## Numerals -/

/-- A decimal with a sign, which zero has too. -/
structure Numeral where
  negative : Bool
  magnitude : Decimal
deriving DecidableEq, Repr

namespace Numeral

/-- The double nearest to the numeral. -/
def toFloat (n : Numeral) : Float :=
  if n.negative then -n.magnitude.toFloat else n.magnitude.toFloat

/-- The numeral of a whole part, the digits after the point and an exponent. -/
def ofParts (negative : Bool) (whole fraction : List Char) (exponent : Int) : Numeral where
  negative
  magnitude := ⟨digitsValue (whole ++ fraction), exponent - fraction.length⟩

end Numeral

/-- A sign at the start of a text, and what follows it. -/
def takeSign : List Char → Bool × List Char
  | '-' :: cs => (true, cs)
  | '+' :: cs => (false, cs)
  | cs => (false, cs)

/-- The exponent part at the start of a text, if there is one; a mark without
digits is refused. -/
def takeExponent : List Char → Option (Option Int × List Char)
  | [] => some (none, [])
  | c :: cs =>
    if c = 'e' ∨ c = 'E' then
      let (negative, rest) := takeSign cs
      match takeDigits rest with
      | ([], _) => none
      | (ds, rest) =>
        let n : Int := digitsValue ds
        some (some (if negative then -n else n), rest)
    else some (none, c :: cs)

/-! ## The shortest decimal that reads back -/

/-- The power of ten at or below `num / den`, for positive numbers. -/
def decimalExponent (num den : Nat) : Int :=
  if den ≤ num then (digitCount (num / den) : Int) - 1 else -(digitCount ((den - 1) / num) : Int)

/-- `num / den / 10 ^ e` as a quotient of natural numbers. -/
def scaled (num den : Nat) : (e : Int) → Nat × Nat
  | .ofNat k => (num, den * Nat.pow 10 k)
  | .negSucc k => (num * Nat.pow 10 (k + 1), den)

/-- The neighbours of `num / den` among the multiples of `10 ^ e`, the nearer
one first; of two at the same distance the even one comes first. -/
def candidates (num den : Nat) (e : Int) : List Decimal :=
  let (n, d) := scaled num den e
  let below := n / d
  let rest := n % d
  -- on the grid there is one candidate, between two of its lines there are both
  if rest = 0 then [⟨below, e⟩]
  else if 2 * rest < d ∨ 2 * rest = d ∧ below % 2 = 0 then [⟨below, e⟩, ⟨below + 1, e⟩]
  else [⟨below + 1, e⟩, ⟨below, e⟩]

/-- `mantissa * 2 ^ exponent` as a quotient of natural numbers. -/
def quotient (mantissa : Nat) : (exponent : Int) → Nat × Nat
  | .ofNat k => (mantissa * Nat.pow 2 k, 1)
  | .negSucc k => (mantissa, Nat.pow 2 (k + 1))

/-- `mantissa * 2 ^ exponent` with all its digits. -/
def expansion (mantissa : Nat) : (exponent : Int) → Decimal
  | .ofNat k => ⟨mantissa * Nat.pow 2 k, 0⟩
  | .negSucc k => ⟨mantissa * Nat.pow 5 (k + 1), -(k + 1 : Nat)⟩

/-- The candidates for a positive number on the grids of one to seventeen
digits, in normal form. -/
def grids (num den : Nat) : List Decimal :=
  let top := decimalExponent num den
  (List.range 17).flatMap fun i => (candidates num den (top - (i : Nat))).map normal

/-- The shortest decimal that reads back as a positive finite double: the first
candidate that does, or else the number in full. -/
def shortest (x : Float) : Decimal :=
  match Exact.ofFloat x with
  | .finite _ m e =>
    let (num, den) := quotient m e
    -- the number in full reads back by itself, whatever the grids hold
    ((grids num den).find? fun d => d.toFloat = x).getD (expansion m e).normal
  | _ => ⟨0, 0⟩

/-- What is found on a grid reads back. -/
theorem toFloat_of_find? {x : Float} {num den : Nat} {d : Decimal}
    (h : (grids num den).find? (fun d => d.toFloat = x) = some d) : d.toFloat = x := by
  simpa using List.find?_some h

/-! ## Layout -/

/-- The choices of an output format for numbers. -/
structure Layout where
  /-- The least power of ten of a first digit that is written positionally. -/
  lowest : Int
  /-- The greatest power of ten of a first digit that is written positionally. -/
  highest : Int
  /-- The least number of digits in a written exponent. -/
  exponentDigits : Nat
  /-- What stands for infinity, after the sign. -/
  infinity : String
  /-- Whether infinity has a sign. -/
  signedInfinity : Bool
  /-- What stands for a double that is no number. -/
  nan : String

/-- A sign where one is due. -/
def sign (negative : Bool) : List Char := if negative then ['-'] else []

/-- Digits with a point: `top` is the power of ten of the first digit. -/
def positional (digits : List Char) : (top : Int) → List Char
  | .ofNat k =>
    let whole := digits.take (k + 1)
    let fraction := digits.drop (k + 1)
    whole ++ List.replicate (k + 1 - whole.length) '0' ++ '.' ::
      (if fraction.isEmpty then ['0'] else fraction)
  | .negSucc k => '0' :: '.' :: (List.replicate k '0' ++ digits)

/-- Digits with a power of ten: `top` is the power of ten of the first digit. -/
def scientific (exponentDigits : Nat) (digits : List Char) (top : Int) : List Char :=
  let power := digitsOf top.natAbs
  let mantissa := match digits with
    | [] => []
    | [d] => [d]
    | d :: ds => d :: '.' :: ds
  mantissa ++ 'e' :: (if top < 0 then '-' else '+') ::
    (List.replicate (exponentDigits - power.length) '0' ++ power)

namespace Layout

/-- A decimal without its sign. -/
def layOut (layout : Layout) (d : Decimal) : List Char :=
  let digits := digitsOf d.digits
  let top := d.exponent + digits.length - 1
  if layout.lowest ≤ top ∧ top ≤ layout.highest then positional digits top
  else scientific layout.exponentDigits digits top

/-- A double laid out. -/
def write (layout : Layout) (x : Float) : List Char :=
  match Exact.ofFloat x with
  | .nan => layout.nan.toList
  | .infinite negative => sign (negative && layout.signedInfinity) ++ layout.infinity.toList
  -- zero has no first digit to lay out, but it has a sign
  | .finite negative 0 _ => sign negative ++ ['0', '.', '0']
  | .finite negative _ _ => sign negative ++ layout.layOut (shortest x.abs)

end Layout

/-! ## Numbers in text fields -/

/-- Infinity of either sign. -/
def infinity (negative : Bool) : Float :=
  Float.ofBits (if negative then 0xfff0000000000000 else 0x7ff0000000000000)

/-- The double that is no number. -/
def notANumber : Float := Float.ofBits 0x7ff8000000000000

/-- An unsigned number: digits with an optional point among or beside them, and
an optional exponent. -/
def unsigned? (negative : Bool) (cs : List Char) : Option Float := do
  let (whole, cs) := takeDigits cs
  let (fraction, cs) := match cs with
    | '.' :: rest => takeDigits rest
    | _ => ([], cs)
  -- one side of the point may be empty, but not both
  guard (whole ≠ [] ∨ fraction ≠ [])
  let (exponent, rest) ← takeExponent cs
  guard (rest = [])
  some (Numeral.ofParts negative whole fraction (exponent.getD 0)).toFloat

/-- A number with an optional sign, or one of the words for what is not finite. -/
def plain? (cs : List Char) : Option Float :=
  let (negative, cs) := takeSign cs
  let word := cs.map Char.toLower
  if word = ['i', 'n', 'f'] ∨ word = ['i', 'n', 'f', 'i', 'n', 'i', 't', 'y'] then
    some (infinity negative)
  else if word = ['n', 'a', 'n'] then some notANumber
  else unsigned? negative cs

/-- Whether two underscores stand side by side. -/
def hasDoubleUnderscore : List Char → Bool
  | '_' :: '_' :: _ => true
  | _ :: cs => hasDoubleUnderscore cs
  | [] => false

/-- Whether underscores only separate other characters. -/
def underscoresSeparate (cs : List Char) : Bool :=
  cs.head? ≠ some '_' && cs.getLast? ≠ some '_' && !hasDoubleUnderscore cs

/-- A number with blanks around it or with underscores inside it. -/
def lenient? (text : String) : Option Float :=
  let cs := text.toList
  match plain? (Text.trim cs) with
  | some x => some x
  -- underscores count only in a text without blanks around it
  | none => if underscoresSeparate cs then plain? (cs.filter (· ≠ '_')) else none

end Decimal

end RoadSpeed
