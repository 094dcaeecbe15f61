import RoadSpeed.Json
import RoadSpeed.Proofs.Decimal.Exactness
import RoadSpeed.Proofs.Decimal.Spelling

/-!
# Written numbers read back

A layout writes a decimal in a spelling, either with the point among the digits or
with a power of ten. The spelling has the value of the decimal, and the decimal of a
finite double reads back as that double.

- `exists_spelling_positional`, `exists_spelling_scientific`: the two ways to write.
- `Layout.exists_spelling`: a decimal as a layout writes it.
- `Json.readNumber_write`: a finite double, of either sign, is read as it was written.
-/

namespace RoadSpeed.Decimal

/-! ## Ways to write a decimal -/

theorem isRun_digitsOf (n : Nat) : IsRun (digitsOf n) :=
  ⟨digitsOf_ne_nil n, fun _ => isDigit_of_mem_digitsOf⟩

theorem isRun_zero : IsRun ['0'] :=
  ⟨by simp, List.forall_mem_singleton.mpr (by decide)⟩

theorem isDigit_of_mem_zeros {k : Nat} {c : Char} (h : c ∈ List.replicate k '0') :
    c.isDigit = true := by
  rw [List.eq_of_mem_replicate h]
  decide

/-- Digits below one: a zero, the point and more zeros in front of them. -/
theorem exists_spelling_below_one {ds : List Char} (hrun : IsRun ds) (k : Nat) :
    ∃ s : Spelling, positional ds (.negSucc k) = s.text ∧ ∀ negative,
      (s.numeral negative).magnitude.toFloat =
        toFloat ⟨digitsValue ds, .negSucc k + 1 - ds.length⟩ := by
  have hfraction : IsRun (List.replicate k '0' ++ ds) := by
    refine ⟨by simp [hrun.ne_nil], ?_⟩
    intro c hc
    exact (List.mem_append.mp hc).elim isDigit_of_mem_zeros (hrun.digits c)
  refine ⟨⟨['0'], some (List.replicate k '0' ++ ds), none, isRun_zero, fun _ => rfl,
    ?_, by simp, .inl rfl⟩, ?_, fun negative => ?_⟩
  · rintro _ ⟨⟩
    exact hfraction
  · simp [positional, Spelling.text, Spelling.fractionText, Spelling.powerText]
  · show toFloat ⟨digitsValue (List.replicate (k + 1) '0' ++ ds),
      0 - ((List.replicate k '0' ++ ds).length : Int)⟩ = _
    rw [digitsValue_zeros_append, List.length_append, List.length_replicate]
    congr 2
    omega

/-- The digits in front of the point, filled up with zeros. -/
def paddedWhole (ds : List Char) (k : Nat) : List Char :=
  ds.take (k + 1) ++ List.replicate (k + 1 - (ds.take (k + 1)).length) '0'

theorem isRun_paddedWhole {ds : List Char} (hrun : IsRun ds) (k : Nat) :
    IsRun (paddedWhole ds k) := by
  refine ⟨by simp [paddedWhole, hrun.ne_nil], ?_⟩
  intro c hc
  rcases List.mem_append.mp hc with h | h
  · exact hrun.digits c (List.mem_of_mem_take h)
  · exact isDigit_of_mem_zeros h

theorem head?_paddedWhole {ds : List Char} (hrun : IsRun ds) (hhead : ds.head? ≠ some '0')
    (k : Nat) : (paddedWhole ds k).head? ≠ some '0' := by
  obtain ⟨c, cs, rfl⟩ := List.exists_cons_of_ne_nil hrun.ne_nil
  simpa [paddedWhole] using hhead

/-- Digits on both sides of the point. -/
theorem exists_spelling_across {ds : List Char} (hrun : IsRun ds) (hhead : ds.head? ≠ some '0')
    {k : Nat} (hlong : k + 1 < ds.length) :
    ∃ s : Spelling, positional ds (.ofNat k) = s.text ∧ ∀ negative,
      (s.numeral negative).magnitude.toFloat =
        toFloat ⟨digitsValue ds, .ofNat k + 1 - ds.length⟩ := by
  have hdrop : (ds.drop (k + 1)).isEmpty = false := by simpa using hlong
  have hfraction : IsRun (ds.drop (k + 1)) := by
    refine ⟨by simpa using hlong, ?_⟩
    intro c hc
    exact hrun.digits c (List.mem_of_mem_drop hc)
  refine ⟨⟨paddedWhole ds k, some (ds.drop (k + 1)), none, isRun_paddedWhole hrun k,
    fun h => absurd h (head?_paddedWhole hrun hhead k), ?_, by simp, .inl rfl⟩, ?_,
    fun negative => ?_⟩
  · rintro _ ⟨⟩
    exact hfraction
  · simp [positional, paddedWhole, Spelling.text, Spelling.fractionText, Spelling.powerText, hdrop]
  · -- nothing has to be filled up
    have hwhole : paddedWhole ds k = ds.take (k + 1) := by
      have hzeros : k + 1 - (ds.take (k + 1)).length = 0 := by
        rw [List.length_take]
        omega
      rw [paddedWhole, hzeros, List.replicate_zero, List.append_nil]
    show toFloat ⟨digitsValue (paddedWhole ds k ++ ds.drop (k + 1)),
      0 - ((ds.drop (k + 1)).length : Int)⟩ = _
    rw [hwhole, List.take_append_drop, List.length_drop]
    congr 2
    simp only [Int.ofNat_eq_natCast]
    omega

/-- All digits in front of the point, and a zero behind it. -/
theorem exists_spelling_whole {ds : List Char} (hrun : IsRun ds) (hhead : ds.head? ≠ some '0')
    {k : Nat} (hshort : ds.length ≤ k + 1) :
    ∃ s : Spelling, positional ds (.ofNat k) = s.text ∧ ∀ negative,
      (s.numeral negative).magnitude.toFloat =
        toFloat ⟨digitsValue ds, .ofNat k + 1 - ds.length⟩ := by
  have hdrop : (ds.drop (k + 1)).isEmpty = true := by simpa using hshort
  refine ⟨⟨paddedWhole ds k, some ['0'], none, isRun_paddedWhole hrun k,
    fun h => absurd h (head?_paddedWhole hrun hhead k), ?_, by simp, .inl rfl⟩, ?_,
    fun negative => ?_⟩
  · rintro _ ⟨⟩
    exact isRun_zero
  · simp [positional, paddedWhole, Spelling.text, Spelling.fractionText, Spelling.powerText, hdrop]
  · show toFloat ⟨digitsValue (paddedWhole ds k ++ List.replicate 1 '0'), -1⟩ = _
    -- the zeros that fill up and the one behind the point go into the exponent together
    rw [paddedWhole, List.take_of_length_le hshort, List.append_assoc,
      List.replicate_append_replicate, digitsValue_append_zeros, toFloat_mul_pow_ten]
    congr 2
    simp only [Int.ofNat_eq_natCast]
    omega

/-- Digits with a point among them, zeros filling what is missing on either side. -/
theorem exists_spelling_positional {ds : List Char} (hrun : IsRun ds)
    (hhead : ds.head? ≠ some '0') (top : Int) :
    ∃ s : Spelling, positional ds top = s.text ∧ ∀ negative,
      (s.numeral negative).magnitude.toFloat = toFloat ⟨digitsValue ds, top + 1 - ds.length⟩ := by
  cases top with
  | negSucc k => exact exists_spelling_below_one hrun k
  | ofNat k =>
    by_cases hlong : k + 1 < ds.length
    · exact exists_spelling_across hrun hhead hlong
    · exact exists_spelling_whole hrun hhead (Nat.not_lt.mp hlong)

/-- The digits of a power of ten, filled up with zeros. -/
def paddedPower (width : Nat) (top : Int) : List Char :=
  List.replicate (width - (digitsOf top.natAbs).length) '0' ++ digitsOf top.natAbs

theorem isRun_paddedPower (width : Nat) (top : Int) : IsRun (paddedPower width top) := by
  refine ⟨by simp [paddedPower, digitsOf_ne_nil], ?_⟩
  intro c hc
  rcases List.mem_append.mp hc with h | h
  · exact isDigit_of_mem_zeros h
  · exact isDigit_of_mem_digitsOf h

theorem exponent_paddedPower (width : Nat) (top : Int) :
    Spelling.exponent (some (decide (top < 0), paddedPower width top)) = top := by
  simp only [Spelling.exponent, paddedPower, digitsValue_zeros_append, digitsValue_digitsOf,
    decide_eq_true_eq]
  split <;> omega

/-- Digits with a power of ten, the point behind the first one. -/
theorem exists_spelling_scientific (width : Nat) {ds : List Char} (hrun : IsRun ds)
    (hhead : ds.head? ≠ some '0') (top : Int) :
    ∃ s : Spelling, scientific width ds top = s.text ∧ ∀ negative,
      (s.numeral negative).magnitude.toFloat = toFloat ⟨digitsValue ds, top + 1 - ds.length⟩ := by
  have hpower := isRun_paddedPower width top
  obtain ⟨c, cs, rfl⟩ := List.exists_cons_of_ne_nil hrun.ne_nil
  have hfirst : IsRun [c] := ⟨by simp, fun d hd => hrun.digits d (by simp_all)⟩
  -- a single digit has no point behind it
  cases cs with
  | nil =>
    refine ⟨⟨[c], none, some (decide (top < 0), paddedPower width top), hfirst, fun _ => rfl,
      by simp, ?_, .inr rfl⟩, ?_, fun negative => ?_⟩
    · rintro _ ⟨⟩
      exact hpower
    · simp [scientific, paddedPower, Spelling.text, Spelling.fractionText, Spelling.powerText]
    · show toFloat ⟨digitsValue [c],
        Spelling.exponent (some (decide (top < 0), paddedPower width top)) - (0 : Nat)⟩ = _
      rw [exponent_paddedPower]
      congr 2
      simp
  | cons d ds =>
    refine ⟨⟨[c], some (d :: ds), some (decide (top < 0), paddedPower width top), hfirst,
      fun _ => rfl, ?_, ?_, .inr rfl⟩, ?_, fun negative => ?_⟩
    · rintro _ ⟨⟩
      exact ⟨by simp, fun x hx => hrun.digits x (List.mem_cons_of_mem _ hx)⟩
    · rintro _ ⟨⟩
      exact hpower
    · simp [scientific, paddedPower, Spelling.text, Spelling.fractionText, Spelling.powerText]
    · show toFloat ⟨digitsValue (c :: d :: ds),
        Spelling.exponent (some (decide (top < 0), paddedPower width top)) -
          ((d :: ds).length : Int)⟩ = _
      rw [exponent_paddedPower]
      congr 2
      simp only [List.length_cons]
      omega

/-- A layout writes a decimal other than zero in a spelling with its value. -/
theorem Layout.exists_spelling (layout : Layout) {d : Decimal} (h : d.digits ≠ 0) :
    ∃ s : Spelling, layout.layOut d = s.text ∧ ∀ negative,
      (s.numeral negative).magnitude.toFloat = d.toFloat := by
  -- the power of the leading digit, counted back over all digits, is the exponent
  have hvalue : (⟨digitsValue (digitsOf d.digits), d.exponent + (digitsOf d.digits).length - 1 + 1 -
      (digitsOf d.digits).length⟩ : Decimal) = d := by
    obtain ⟨n, e⟩ := d
    rw [digitsValue_digitsOf]
    congr 1
    dsimp only
    omega
  unfold layOut
  dsimp only
  split
  · obtain ⟨s, htext, hs⟩ := exists_spelling_positional (isRun_digitsOf d.digits)
      (head?_digitsOf h) (d.exponent + (digitsOf d.digits).length - 1)
    rw [hvalue] at hs
    exact ⟨s, htext, hs⟩
  · obtain ⟨s, htext, hs⟩ := exists_spelling_scientific layout.exponentDigits
      (isRun_digitsOf d.digits) (head?_digitsOf h) (d.exponent + (digitsOf d.digits).length - 1)
    rw [hvalue] at hs
    exact ⟨s, htext, hs⟩

end RoadSpeed.Decimal

namespace RoadSpeed.Json

open Decimal Double

/-! ## Written doubles -/

theorem form_abs (x : Float) : form x.abs = (Float.Model.pack (form x).abs).unpack := rfl

/-- The absolute value of a double drops its sign. -/
theorem form_abs_of_finite {x : Float} {s : Float.Model.UnpackedFloat.Sign} {m : Nat} {e : Int}
    {hpos : 0 < m} (hx : form x = .finite s m e hpos) :
    form x.abs = .finite .positive m e hpos := by
  obtain ⟨h, hfit⟩ := canonical_of_unpack hx
  rw [form_abs, hx]
  exact unpack_pack_finite .positive h hfit

/-- The absolute value of a double with its sign is the double. -/
theorem signed_abs {x : Float} {s : Float.Model.UnpackedFloat.Sign} {m : Nat} {e : Int}
    {hpos : 0 < m} (hx : form x = .finite s m e hpos) :
    (if Exact.isNegative s then -x.abs else x.abs) = x := by
  have habs := form_abs_of_finite hx
  cases s with
  | positive => exact eq_of_form_eq (habs.trans hx.symm)
  | negative =>
    refine eq_of_form_eq (Eq.trans ?_ hx.symm)
    obtain ⟨h, hfit⟩ := canonical_of_unpack hx
    show form (-x.abs) = _
    rw [form_neg, habs]
    exact unpack_pack_finite .negative h hfit

/-- Either zero is read as it is written. -/
theorem readNumber_zero (rules : Rules) (negative : Bool) {rest : List Char} (hrest : Ends rest) :
    readNumber rules (sign negative ++ (['0', '.', '0'] ++ rest)) =
      some (.float (if negative then -0.0 else 0.0), rest) := by
  have hvalue : toFloat ⟨0, -1⟩ = 0.0 := by
    rw [toFloat, normal, if_pos rfl]
    rfl
  have hread := readNumber_spelling rules ⟨['0'], some ['0'], none, isRun_zero, fun _ => rfl,
    by rintro _ ⟨⟩; exact isRun_zero, by simp, .inl rfl⟩ negative hrest
  have hnumeral : Numeral.toFloat ⟨negative, ⟨0, -1⟩⟩ = if negative then -0.0 else 0.0 := by
    rw [Numeral.toFloat, hvalue]
  refine hread.trans ?_
  show (if (Numeral.toFloat ⟨negative, ⟨0, -1⟩⟩).isFinite then
    some (Json.float (Numeral.toFloat ⟨negative, ⟨0, -1⟩⟩), rest) else none) = _
  rw [hnumeral]
  cases negative <;> rfl

theorem write_zero (layout : Layout) {x : Float} {s : Float.Model.UnpackedFloat.Sign}
    (hx : form x = .zero s) :
    layout.write x = sign (Exact.isNegative s) ++ ['0', '.', '0'] := by
  unfold Layout.write
  rw [ofFloat_eq_exact, hx]
  rfl

theorem write_finite (layout : Layout) {x : Float} {s : Float.Model.UnpackedFloat.Sign} {m : Nat}
    {e : Int} {hpos : 0 < m} (hx : form x = .finite s m e hpos) :
    layout.write x = sign (Exact.isNegative s) ++ layout.layOut (shortest x.abs) := by
  unfold Layout.write
  rw [ofFloat_eq_exact, hx]
  obtain ⟨k, rfl⟩ := Nat.exists_eq_succ_of_ne_zero hpos.ne'
  rfl

/-- The shortest decimal of a double other than zero has digits. -/
theorem digits_shortest_ne_zero {x : Float} {m : Nat} {e : Int} {hpos : 0 < m}
    (hx : form x = .finite .positive m e hpos) : (shortest x).digits ≠ 0 := by
  intro hzero
  have hnormal : (shortest x).normal = ⟨0, 0⟩ := by rw [normal, if_pos hzero]
  have hshort := toFloat_shortest hx
  rw [toFloat, hnormal] at hshort
  have hform := congrArg form hshort
  rw [hx] at hform
  cases hform

/-- A finite double is read as it is written, whatever the layout. -/
theorem readNumber_write (rules : Rules) (layout : Layout) {x : Float} (hfin : x.isFinite = true)
    {rest : List Char} (hrest : Ends rest) :
    readNumber rules (layout.write x ++ rest) = some (.float x, rest) := by
  rcases form_of_isFinite hfin with ⟨s, hx⟩ | ⟨s, m, e, hpos, hx⟩
  · rw [write_zero layout hx, List.append_assoc, readNumber_zero rules _ hrest]
    congr 3
    refine eq_of_form_eq (Eq.trans ?_ hx.symm)
    cases s <;> rfl
  · have habs := form_abs_of_finite hx
    obtain ⟨spelling, htext, hvalue⟩ := layout.exists_spelling (digits_shortest_ne_zero habs)
    have hnumeral : (spelling.numeral (Exact.isNegative s)).toFloat = x := by
      show (if Exact.isNegative s then -(spelling.numeral _).magnitude.toFloat
        else (spelling.numeral _).magnitude.toFloat) = x
      rw [hvalue, toFloat_shortest habs, signed_abs hx]
    rw [write_finite layout hx, htext, List.append_assoc,
      readNumber_spelling rules spelling _ hrest, hnumeral, if_pos hfin]

/-- What a sign makes of a text that starts with a digit. -/
theorem exists_head_sign (negative : Bool) {text : List Char}
    (h : ∃ c cs, text = c :: cs ∧ c.isDigit = true) :
    ∃ c cs, sign negative ++ text = c :: cs ∧ (c = '-' ∨ c.isDigit = true) := by
  obtain ⟨c, cs, rfl, hc⟩ := h
  cases negative with
  | false => exact ⟨c, cs, rfl, .inr hc⟩
  | true => exact ⟨'-', c :: cs, rfl, .inl rfl⟩

/-- A written number starts with a digit or with a minus. -/
theorem exists_head_write (layout : Layout) {x : Float} (hfin : x.isFinite = true) :
    ∃ c cs, layout.write x = c :: cs ∧ (c = '-' ∨ c.isDigit = true) := by
  rcases form_of_isFinite hfin with ⟨s, hx⟩ | ⟨s, m, e, hpos, hx⟩
  · rw [write_zero layout hx]
    exact exists_head_sign _ ⟨'0', _, rfl, by decide⟩
  · obtain ⟨spelling, htext, -⟩ :=
      layout.exists_spelling (digits_shortest_ne_zero (form_abs_of_finite hx))
    rw [write_finite layout hx, htext]
    exact exists_head_sign _ spelling.exists_head

/-! ## Written whole numbers -/

theorem exists_head_digitsOf (n : Nat) : ∃ c cs, digitsOf n = c :: cs ∧ c.isDigit = true := by
  obtain ⟨c, cs, h⟩ := List.exists_cons_of_ne_nil (digitsOf_ne_nil n)
  exact ⟨c, cs, h, isDigit_of_mem_digitsOf (n := n) (by rw [h]; exact List.mem_cons_self)⟩

theorem exists_head_writeInt (n : Int) :
    ∃ c cs, writeInt n = c :: cs ∧ (c = '-' ∨ c.isDigit = true) :=
  exists_head_sign _ (exists_head_digitsOf _)

/-- A whole number that the rules keep is read as it is written. -/
theorem readNumber_writeInt {rules : Rules} {n : Int} (hkeeps : rules.keeps n = true)
    {rest : List Char} (hrest : Ends rest) :
    readNumber rules (writeInt n ++ rest) = some (.int n, rest) := by
  obtain ⟨hne, hdigits⟩ := isRun_digitsOf n.natAbs
  have hminus : takeMinus (writeInt n ++ rest) = (decide (n < 0), digitsOf n.natAbs ++ rest) := by
    obtain ⟨c, cs, hds, hc⟩ := exists_head_digitsOf n.natAbs
    rw [writeInt, List.append_assoc, hds]
    exact takeMinus_sign _ hc _
  have hguard : guard (digitsOf n.natAbs ≠ [] ∧
      ((digitsOf n.natAbs).head? = some '0' → (digitsOf n.natAbs).length = 1)) = some () := by
    refine if_pos ⟨hne, fun hhead => ?_⟩
    by_cases hzero : n.natAbs = 0
    · rw [hzero, digitsOf, if_pos (by decide)]
      rfl
    · exact absurd hhead (head?_digitsOf hzero)
  -- a whole number has neither a fraction nor a power, so that both readers stop at once
  have hfraction : takeFraction (Spelling.fractionText none ++ rest) = some (none, rest) :=
    takeFraction_text (by simp) fun c hc => ⟨(hrest c hc).1, (hrest c hc).2.1⟩
  have hexponent : takeExponent (Spelling.powerText none ++ rest) = some (none, rest) := by
    obtain ⟨e, he, hsome, -⟩ := @takeExponent_text none rest (by simp) hrest
    obtain rfl : e = none := by simpa using hsome
    exact he
  rw [Spelling.fractionText, List.nil_append] at hfraction
  rw [Spelling.powerText, List.nil_append] at hexponent
  have hvalue : (if decide (n < 0) = true then -(n.natAbs : Int) else n.natAbs) = n := by
    simp only [decide_eq_true_eq]
    split <;> omega
  -- the reader goes through the pieces in the order in which they were told above
  unfold readNumber
  rw [hminus]
  dsimp only
  rw [takeDigits_append_of_digits hdigits fun c hc => (hrest c hc).1]
  dsimp only
  rw [hguard, hfraction]
  simp only [Option.bind_eq_bind, Option.bind_some, hexponent, digitsValue_digitsOf, hvalue]
  rw [if_pos ⟨rfl, rfl, hkeeps⟩]

end RoadSpeed.Json
