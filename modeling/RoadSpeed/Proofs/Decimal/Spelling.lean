import Mathlib.Tactic.Ring
import RoadSpeed.Decimal
import RoadSpeed.Json

/-!
# Spellings of numbers

A spelling is a number as its parts are written: a whole part, digits after a point
and a power of ten. The layouts write numbers in spellings, and a reader that comes
upon a spelling takes exactly its characters and gives its numeral.

- `Spelling`, `Spelling.text`, `Spelling.numeral`: the parts, their text and what
  they stand for.
- `Json.readNumber_spelling`: the reader on a spelling.
- `Layout.exists_spelling`: a layout writes a decimal in a spelling of it.
-/

namespace RoadSpeed.Decimal

/-! ## Runs of digits -/

theorem digitsValueFrom_zeros (start k : Nat) :
    digitsValueFrom start (List.replicate k '0') = start * 10 ^ k := by
  induction k generalizing start with
  | zero => simp [digitsValueFrom]
  | succ k ih =>
    rw [List.replicate_succ]
    show digitsValueFrom (10 * start + 0) (List.replicate k '0') = _
    rw [ih, Nat.pow_succ]
    ring

/-- Zeros behind the digits multiply their value. -/
theorem digitsValue_append_zeros (cs : List Char) (k : Nat) :
    digitsValue (cs ++ List.replicate k '0') = digitsValue cs * 10 ^ k := by
  rw [digitsValue_append, digitsValueFrom_zeros]

/-- Zeros in front of the digits do not count. -/
theorem digitsValue_zeros_append (k : Nat) (cs : List Char) :
    digitsValue (List.replicate k '0' ++ cs) = digitsValue cs := by
  rw [digitsValue_append, digitsValue, digitsValueFrom_zeros, Nat.zero_mul]
  rfl

theorem digitsOf_ne_nil (n : Nat) : digitsOf n ≠ [] := by
  rw [digitsOf]
  split <;> simp

/-- A number other than zero has no zero in front. -/
theorem head?_digitsOf {n : Nat} (h : n ≠ 0) : (digitsOf n).head? ≠ some '0' := by
  induction n using digitsOf.induct with
  | case1 n hlt =>
    have hall : ∀ m : Fin 10, m.val ≠ 0 → digitChar m.val ≠ '0' := by decide
    rw [digitsOf, if_pos hlt]
    simpa using hall ⟨n, hlt⟩ h
  | case2 n hlt ih =>
    rw [digitsOf, if_neg hlt, List.head?_append]
    have hhead := ih (by omega)
    cases hd : digitsOf (n / 10) with
    | nil => exact absurd hd (digitsOf_ne_nil _)
    | cons c cs =>
      rw [hd] at hhead
      simpa using hhead

/-- Digits are taken up to the first character that is none. -/
theorem takeDigits_append_of_digits {ds rest : List Char} (hds : ∀ c ∈ ds, c.isDigit = true)
    (hrest : ∀ c ∈ rest.head?, c.isDigit = false) : takeDigits (ds ++ rest) = (ds, rest) := by
  unfold takeDigits
  rw [List.takeWhile_append_of_pos hds, List.dropWhile_append_of_pos hds]
  cases rest with
  | nil => simp
  | cons c cs => simp [hrest c rfl]

/-- Zeros at the end of the digits move into the exponent. -/
theorem toFloat_mul_pow_ten (n k : Nat) (e : Int) :
    toFloat ⟨n * 10 ^ k, e⟩ = toFloat ⟨n, e + k⟩ := by
  induction k generalizing e with
  | zero => simp
  | succ k ih =>
    rw [Nat.pow_succ, ← Nat.mul_assoc, toFloat_mul_ten, ih]
    congr 2
    push_cast
    ring

/-! ## Spellings -/

/-- Digits, and at least one of them. -/
structure IsRun (ds : List Char) : Prop where
  ne_nil : ds ≠ []
  digits : ∀ c ∈ ds, c.isDigit = true

/-- A number as its parts are written, with a point or a power of ten. -/
structure Spelling where
  whole : List Char
  /-- The digits after the point, if there is one. -/
  fraction : Option (List Char)
  /-- The power of ten, if there is one: whether it is negative, and its digits. -/
  power : Option (Bool × List Char)
  whole_run : IsRun whole
  /-- A zero in front stands alone. -/
  whole_head : whole.head? = some '0' → whole.length = 1
  fraction_run : ∀ ds ∈ fraction, IsRun ds
  power_run : ∀ p ∈ power, IsRun p.2
  /-- The number is not written as a whole number. -/
  inexact : fraction.isSome = true ∨ power.isSome = true

namespace Spelling

/-- The text of a point and the digits after it. -/
def fractionText : Option (List Char) → List Char
  | none => []
  | some ds => '.' :: ds

/-- The text of a power of ten. -/
def powerText : Option (Bool × List Char) → List Char
  | none => []
  | some (negative, ds) => 'e' :: (if negative then '-' else '+') :: ds

/-- The power of ten. -/
def exponent : Option (Bool × List Char) → Int
  | none => 0
  | some (negative, ds) => if negative then -(digitsValue ds : Int) else digitsValue ds

/-- The text of a spelling. -/
def text (s : Spelling) : List Char := s.whole ++ (fractionText s.fraction ++ powerText s.power)

/-- The text of a spelling starts with a digit. -/
theorem exists_head (s : Spelling) : ∃ c cs, s.text = c :: cs ∧ c.isDigit = true := by
  obtain ⟨c, cs, hwhole⟩ := List.exists_cons_of_ne_nil s.whole_run.ne_nil
  refine ⟨c, cs ++ (fractionText s.fraction ++ powerText s.power), ?_, ?_⟩
  · rw [text, hwhole, List.cons_append]
  · exact s.whole_run.digits c (by rw [hwhole]; exact List.mem_cons_self)

/-- What a spelling stands for. -/
def numeral (s : Spelling) (negative : Bool) : Numeral :=
  .ofParts negative s.whole (s.fraction.getD []) (exponent s.power)

end Spelling

end RoadSpeed.Decimal

namespace RoadSpeed.Json

open Decimal

/-! ## Reading spellings -/

/-- A number ends in front of this text. -/
def Ends (rest : List Char) : Prop :=
  ∀ c ∈ rest.head?, c.isDigit = false ∧ c ≠ '.' ∧ c ≠ 'e' ∧ c ≠ 'E'

theorem takeFraction_text {fraction : Option (List Char)} {rest : List Char}
    (h : ∀ ds ∈ fraction, IsRun ds)
    (hrest : ∀ c ∈ rest.head?, c.isDigit = false ∧ c ≠ '.') :
    takeFraction (Spelling.fractionText fraction ++ rest) = some (fraction, rest) := by
  -- without a fraction the reader must not find a point in what follows
  cases fraction with
  | none =>
    cases rest with
    | nil => rfl
    | cons c cs =>
      unfold takeFraction
      split
      · rename_i heq
        cases heq
        exact absurd rfl (hrest '.' rfl).2
      · rfl
  | some ds =>
    obtain ⟨hne, hdigits⟩ := h ds rfl
    rw [Spelling.fractionText, List.cons_append, takeFraction,
      takeDigits_append_of_digits hdigits fun c hc => (hrest c hc).1]
    cases ds with
    | nil => exact absurd rfl hne
    | cons d ds => rfl

theorem takeExponent_text {power : Option (Bool × List Char)} {rest : List Char}
    (h : ∀ p ∈ power, IsRun p.2) (hrest : Ends rest) :
    ∃ e, takeExponent (Spelling.powerText power ++ rest) = some (e, rest) ∧
      e.isSome = power.isSome ∧ e.getD 0 = Spelling.exponent power := by
  -- without a power it must not find the letter
  cases power with
  | none =>
    refine ⟨none, ?_, rfl, rfl⟩
    cases rest with
    | nil => rfl
    | cons c cs =>
      obtain ⟨-, -, hlow, hup⟩ := hrest c rfl
      show (if c = 'e' ∨ c = 'E' then _ else some (none, c :: cs)) = _
      rw [if_neg (not_or.mpr ⟨hlow, hup⟩)]
  | some p =>
    obtain ⟨negative, ds⟩ := p
    obtain ⟨hne, hdigits⟩ := h _ rfl
    refine ⟨some (Spelling.exponent (some (negative, ds))), ?_, rfl, rfl⟩
    have hsign : takeSign ((if negative then '-' else '+') :: (ds ++ rest)) =
        (negative, ds ++ rest) := by
      cases negative <;> rfl
    rw [Spelling.powerText, List.cons_append, List.cons_append, takeExponent, if_pos (.inl rfl),
      hsign]
    dsimp only
    rw [takeDigits_append_of_digits hdigits fun c hc => (hrest c hc).1]
    cases ds with
    | nil => exact absurd rfl hne
    | cons d ds => rfl

/-- Neither a digit nor a point stands at the end of the digits after the point. -/
theorem head?_powerText (power : Option (Bool × List Char)) {rest : List Char}
    (hrest : Ends rest) :
    ∀ c ∈ (Spelling.powerText power ++ rest).head?, c.isDigit = false ∧ c ≠ '.' := by
  cases power with
  | none => exact fun c hc => ⟨(hrest c hc).1, (hrest c hc).2.1⟩
  | some p =>
    rintro c ⟨⟩
    decide

/-- No digit stands at the end of the whole part. -/
theorem head?_fractionText (fraction : Option (List Char)) {rest : List Char}
    (hrest : ∀ c ∈ rest.head?, c.isDigit = false ∧ c ≠ '.') :
    ∀ c ∈ (Spelling.fractionText fraction ++ rest).head?, c.isDigit = false := by
  cases fraction with
  | none => exact fun c hc => (hrest c hc).1
  | some ds =>
    rintro c ⟨⟩
    decide

/-- A minus in front of a digit is its sign. -/
theorem takeMinus_sign (negative : Bool) {c : Char} (hc : c.isDigit = true) (cs : List Char) :
    takeMinus (sign negative ++ c :: cs) = (negative, c :: cs) := by
  cases negative with
  | true => rfl
  | false =>
    show takeMinus (c :: cs) = _
    unfold takeMinus
    split
    · rename_i heq
      cases heq
      exact absurd hc (by decide)
    · rfl

/-- A reader that comes upon a spelling gives the value of its numeral, if that is
finite, and goes on behind it. -/
theorem readNumber_spelling (rules : Rules) (s : Spelling) (negative : Bool) {rest : List Char}
    (hrest : Ends rest) :
    readNumber rules (sign negative ++ (s.text ++ rest)) =
      if (s.numeral negative).toFloat.isFinite then
        some (.float (s.numeral negative).toFloat, rest)
      else none := by
  have hpower := head?_powerText s.power hrest
  have hwhole : takeDigits (s.text ++ rest) =
      (s.whole, Spelling.fractionText s.fraction ++ (Spelling.powerText s.power ++ rest)) := by
    unfold Spelling.text
    rw [List.append_assoc, List.append_assoc]
    exact takeDigits_append_of_digits s.whole_run.digits (head?_fractionText s.fraction hpower)
  -- a zero in front is one of the things that a spelling rules out
  have hguard : guard (s.whole ≠ [] ∧ (s.whole.head? = some '0' → s.whole.length = 1)) =
      some () := if_pos ⟨s.whole_run.ne_nil, s.whole_head⟩
  have hfraction := takeFraction_text s.fraction_run hpower
  obtain ⟨e, hexponent, hsome, hvalue⟩ := takeExponent_text s.power_run hrest
  -- a spelling with a point or a power is not read as a whole number
  have hinexact : ¬ (s.fraction.isNone = true ∧ e.isNone = true) := by
    rintro ⟨hf, he⟩
    rcases s.inexact with h | h
    · rw [Option.isNone_iff_eq_none.mp hf] at h
      cases h
    · rw [← hsome, Option.isNone_iff_eq_none.mp he] at h
      cases h
  have hminus : takeMinus (sign negative ++ (s.text ++ rest)) = (negative, s.text ++ rest) := by
    obtain ⟨c, cs, htext, hc⟩ := s.exists_head
    rw [htext]
    exact takeMinus_sign negative hc _
  unfold readNumber
  rw [hminus]
  dsimp only
  rw [hwhole]
  dsimp only
  rw [hguard, hfraction]
  simp only [Option.bind_eq_bind, Option.bind_some, hexponent, hvalue]
  rw [if_neg fun h => hinexact ⟨h.1, h.2.1⟩]
  rfl

end RoadSpeed.Json
