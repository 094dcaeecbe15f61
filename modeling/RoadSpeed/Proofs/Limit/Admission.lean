import RoadSpeed.Limit
import RoadSpeed.Proofs.Limit.Conversion
import RoadSpeed.Proofs.Number.Whole
import RoadSpeed.Proofs.Schema

/-!
# What documents say of posted limits

A record of posted limits with known units is read whatever stands for its values: a finite
number above zero is a limit, and all else counts as none (specification, §4.4). Only one thing
is refused, a whole number that is too large for any double, be it above zero or below.

- `Json.IsLimit`, `Json.IsTooLarge`: the numbers that are limits, and those that are refused.
- `PostedValue.Says`: what stands for a limit and what for none.
- `PostedLimit.ofJson_outcome`: how reading a record ends.
-/

namespace RoadSpeed

/-! ## Single values -/

/-- A finite number above zero that has a finite double near it. -/
inductive Json.IsLimit : Json → Prop where
  | whole {n : Int} (hpos : 0 < n) (hfits : n.natAbs < Double.overflow) : IsLimit (.int n)
  | double {x : Float} (hfinite : x.isFinite = true) (hpos : 0 < x) : IsLimit (.float x)

/-- A whole number that is too large for any double. -/
inductive Json.IsTooLarge : Json → Prop where
  | whole {n : Int} (h : Double.overflow ≤ n.natAbs) : IsTooLarge (.int n)

namespace PostedValue

/-- What a part of a document says of a limit: the number itself or the double nearest to it,
and none unless it is a limit. -/
inductive Says : Json → Option PostedValue → Prop where
  | whole {n : Int} {v : PostedValue} (h : Json.IsLimit (.int n)) (hv : v.value = Float.ofInt n) :
      Says (.int n) (some v)
  | double {x : Float} {v : PostedValue} (h : Json.IsLimit (.float x)) (hv : v.value = x) :
      Says (.float x) (some v)
  | unknown {j : Json} (h : ¬ j.IsLimit) : Says j none

theorem ofWhole?_of_fits {n : Int} (h : n.natAbs < Double.overflow) :
    ofWhole? n = some (Float.ofInt n) := if_pos (Double.isFinite_ofInt_iff.mpr h)

theorem ofWhole?_of_tooLarge {n : Int} (h : Double.overflow ≤ n.natAbs) : ofWhole? n = none :=
  if_neg (Double.isFinite_ofInt_iff.not.mpr (not_lt.mpr h))

/-- A whole number is a limit where its double is finite and above zero. -/
theorem says_of?_ofInt {n : Int} (hfits : n.natAbs < Double.overflow) :
    Says (.int n) (of? (Float.ofInt n)) := by
  unfold of?
  split
  · rename_i h
    exact .whole (.whole (Double.zero_lt_ofInt_iff.mp h.2) hfits) rfl
  · rename_i h
    refine .unknown ?_
    rintro ⟨hpos, -⟩
    exact h ⟨Double.isFinite_ofInt_iff.mpr hfits, Double.zero_lt_ofInt_iff.mpr hpos⟩

theorem says_of? (x : Float) : Says (.float x) (of? x) := by
  unfold of?
  split
  · rename_i h
    exact .double (.double h.1 h.2) rfl
  · rename_i h
    refine .unknown ?_
    rintro (- | ⟨hfinite, hpos⟩)
    exact h ⟨hfinite, hpos⟩

/-- What is too large is refused. -/
theorem ofJson_eq_error {j : Json} (h : j.IsTooLarge) : ofJson j = .error .tooLarge := by
  cases h with
  | whole h =>
    unfold ofJson
    dsimp only
    rw [ofWhole?_of_tooLarge h]

/-- All else is a limit or none. -/
theorem exists_ofJson {j : Json} (h : ¬ j.IsTooLarge) : ∃ o, ofJson j = .ok o ∧ Says j o := by
  cases j with
  | int n =>
    have hfits : n.natAbs < Double.overflow := not_le.mp fun hlarge => h (.whole hlarge)
    refine ⟨_, ?_, says_of?_ofInt hfits⟩
    unfold ofJson
    dsimp only
    rw [ofWhole?_of_fits hfits]
  | float x => exact ⟨_, rfl, says_of? x⟩
  | null => exact ⟨none, rfl, .unknown nofun⟩
  | bool b => exact ⟨none, rfl, .unknown nofun⟩
  | str s => exact ⟨none, rfl, .unknown nofun⟩
  | arr items => exact ⟨none, rfl, .unknown nofun⟩
  | obj members => exact ⟨none, rfl, .unknown nofun⟩

end PostedValue

/-! ## Records -/

namespace PostedLimit

variable {members : List (String × Json)} {name : String}

/-- A member of a record is a number that is too large. -/
def TooLargeAt (name : String) (members : List (String × Json)) : Prop :=
  ∃ j, members.lookup name = some j ∧ j.IsTooLarge

theorem member_eq_error (h : TooLargeAt name members) :
    Schema.optional name none PostedValue.ofJson members = .error .tooLarge := by
  obtain ⟨j, hj, hlarge⟩ := h
  unfold Schema.optional
  rw [hj]
  dsimp only
  rw [PostedValue.ofJson_eq_error hlarge]
  rfl

theorem exists_member (h : ¬ TooLargeAt name members) :
    ∃ o, Schema.optional name none PostedValue.ofJson members = .ok o ∧
      Schema.MemberOr name none PostedValue.Says members o := by
  unfold Schema.optional
  cases hj : members.lookup name with
  | none => exact ⟨none, rfl, .inl ⟨hj, rfl⟩⟩
  | some j =>
    obtain ⟨o, ho, hsays⟩ := PostedValue.exists_ofJson fun hlarge => h ⟨j, hj, hlarge⟩
    exact ⟨o, Checked.within_eq_ok_iff.mpr ho, .inr ⟨j, hj, hsays⟩⟩

/-- The units of a record are known: metric ones where the record does not name them. -/
def HasUnits (units : Units) (members : List (String × Json)) : Prop :=
  Schema.MemberOr "units" Units.metric (fun j u => j = .str (Vocabulary.name u)) members units

variable {units : Units}

/-- In a record with known units the two values decide. -/
theorem ofJson_obj (h : HasUnits units members) :
    ofJson (.obj members) =
      ((Schema.optional "forward" none PostedValue.ofJson members).both
        (Schema.optional "backward" none PostedValue.ofJson members)).map
          fun p => ⟨units, p.1, p.2⟩ := by
  have hunits : Schema.optional "units" Units.metric Schema.word members = .ok units :=
    ((Schema.decides_optional Schema.decides_word "units" Units.metric).ok_iff _ _).mpr h
  show ((Schema.optional "units" Units.metric Schema.word members).both _).map _ = _
  rw [hunits]
  cases (Schema.optional "forward" none PostedValue.ofJson members).both
    (Schema.optional "backward" none PostedValue.ofJson members) <;> rfl

/-- A value that is too large makes the whole record be refused. -/
theorem ofJson_eq_tooLarge (hunits : HasUnits units members)
    (h : TooLargeAt "forward" members ∨ TooLargeAt "backward" members) :
    ofJson (.obj members) = .error .tooLarge := by
  rw [ofJson_obj hunits]
  by_cases hforward : TooLargeAt "forward" members
  · -- the record fails so whatever becomes of the other value
    rw [member_eq_error hforward]
    cases Schema.optional "backward" none PostedValue.ofJson members with
    | ok b => rfl
    | error e => cases e <;> rfl
  · obtain ⟨f, hf, -⟩ := exists_member hforward
    rw [hf, member_eq_error (h.resolve_left hforward)]
    rfl

/-- Otherwise the record is read. -/
theorem exists_ofJson (hunits : HasUnits units members)
    (hforward : ¬ TooLargeAt "forward" members) (hbackward : ¬ TooLargeAt "backward" members) :
    ∃ p, ofJson (.obj members) = .ok p ∧ p.units = units ∧
      Schema.MemberOr "forward" none PostedValue.Says members p.forward ∧
      Schema.MemberOr "backward" none PostedValue.Says members p.backward := by
  obtain ⟨f, hf, hsays⟩ := exists_member hforward
  obtain ⟨b, hb, hsays'⟩ := exists_member hbackward
  rw [ofJson_obj hunits, hf, hb]
  exact ⟨⟨units, f, b⟩, rfl, rfl, hsays, hsays'⟩

/-- A record with known units is refused where one of its values is a whole number that is too
large for any double. Otherwise it is read: each value that is a finite number above zero is a
limit, and each other one, whatever it is, counts as none. -/
theorem ofJson_outcome (hunits : HasUnits units members) :
    (TooLargeAt "forward" members ∨ TooLargeAt "backward" members →
      ofJson (.obj members) = .error .tooLarge) ∧
    (¬ (TooLargeAt "forward" members ∨ TooLargeAt "backward" members) →
      ∃ p, ofJson (.obj members) = .ok p ∧ p.units = units ∧
        Schema.MemberOr "forward" none PostedValue.Says members p.forward ∧
        Schema.MemberOr "backward" none PostedValue.Says members p.backward) :=
  ⟨ofJson_eq_tooLarge hunits, fun h =>
    exists_ofJson hunits (fun hforward => h (.inl hforward)) fun hbackward => h (.inr hbackward)⟩

/-- A record with an imperial limit along the segment, and a text for the one against it. -/
def thirtyMiles : List (String × Json) :=
  [("units", .str "imperial"), ("forward", .int 30), ("backward", .str "fast")]

/-- Thirty is a limit, and the text counts as none. -/
theorem ofJson_outcome_thirty : ∃ p, ofJson (.obj thirtyMiles) = .ok p ∧ p.units = .imperial ∧
    (∃ v, p.forward = some v ∧ v.value = Float.ofInt 30) ∧ p.backward = none := by
  have hthirty : (30 : Int).natAbs < Double.overflow := by decide +kernel
  -- thirty is no whole number that doubles cannot come near, and there is nothing else
  have hsmall : ¬ (TooLargeAt "forward" thirtyMiles ∨ TooLargeAt "backward" thirtyMiles) := by
    rintro (⟨j, hj, hlarge⟩ | ⟨j, hj, hlarge⟩)
    · cases hj
      cases hlarge with
      | whole h => exact absurd hthirty (not_lt.mpr h)
    · cases hj
      cases hlarge
  have hunits : HasUnits .imperial thirtyMiles := .inr ⟨.str "imperial", rfl, rfl⟩
  obtain ⟨-, hread⟩ := ofJson_outcome hunits
  obtain ⟨⟨units, forward, backward⟩, hp, hunits, hforward, hbackward⟩ := hread hsmall
  refine ⟨_, hp, hunits, ?_, ?_⟩
  · rcases hforward with ⟨hnone, -⟩ | ⟨j, hj, hsays⟩
    · cases hnone
    · cases hj
      cases hsays with
      | whole _ hv => exact ⟨_, rfl, hv⟩
      | unknown h => exact absurd (.whole (by decide) hthirty) h
  · rcases hbackward with ⟨-, hnone⟩ | ⟨j, hj, hsays⟩
    · exact hnone
    · cases hj
      cases hsays
      rfl

/-- A record of the default units, with a limit of ten to the power of 400. -/
def endless : List (String × Json) := [("forward", .int (10 ^ 400))]

/-- The record is refused, though its units are known. -/
theorem endless_is_refused : HasUnits .metric endless ∧
    ofJson (.obj endless) = .error .tooLarge ∧ ¬ ∃ p, ofJson (.obj endless) = .ok p := by
  have hunits : HasUnits .metric endless := .inl ⟨rfl, rfl⟩
  have hlarge : Double.overflow ≤ ((10 : Int) ^ 400).natAbs := by decide +kernel
  have hrefused := ofJson_eq_tooLarge hunits (.inl ⟨.int (10 ^ 400), rfl, .whole hlarge⟩)
  refine ⟨hunits, hrefused, ?_⟩
  rintro ⟨p, hp⟩
  cases hp.symm.trans hrefused

end PostedLimit

end RoadSpeed
