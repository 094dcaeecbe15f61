import RoadSpeed.Proofs.Number.Sign

/-!
# Doubles in order

Each double that is a number has a rank, and doubles compare as their ranks do. So they
are in a linear order, but for what is no number, which stands nowhere in it.

- `Double.rank`, `Double.compare_eq_map₂`: the rank of a form, and comparing by it.
- `Order.le_iff_rank`, `Order.lt_iff_rank`: comparisons of doubles.
- `Order.le_trans`, `Order.le_of_not_lt` and the like: the laws of a linear order. That `a` is
  a number is said by `a ≤ a`.
- `Order.eq_of_beq`, `Order.le_antisymm`: what a number above zero equals.
- `Order.lesser_le`, `Order.le_greater_left`: the smaller and the larger one of two doubles.
- `Order.foldl_greater_mem`, `Order.le_foldl_greater`: the greatest double of a list.
-/

namespace RoadSpeed

namespace Double

open Float.Model (UnpackedFloat)

/-- Where a form stands in the order: by sign and size class first, then by exponent and
mantissa. What is no number stands nowhere. -/
def rank : UnpackedFloat → Option (ℤ ×ₗ ℤ ×ₗ ℤ)
  | .notANumber => none
  | .infinity .negative => some (toLex (-2, toLex (0, 0)))
  | .finite .negative m e _ => some (toLex (-1, toLex (-e, -m)))
  | .zero _ => some (toLex (0, toLex (0, 0)))
  | .finite .positive m e _ => some (toLex (1, toLex (e, m)))
  | .infinity .positive => some (toLex (2, toLex (0, 0)))

theorem compare_natCast (m n : ℕ) : compare (m : ℤ) n = compare m n := by
  rcases Nat.lt_trichotomy m n with h | h | h
  · rw [compare_lt_iff_lt.mpr h, compare_lt_iff_lt.mpr (Int.ofNat_lt.mpr h)]
  · rw [h, compare_eq_iff_eq.mpr rfl, compare_eq_iff_eq.mpr rfl]
  · rw [compare_gt_iff_gt.mpr h, compare_gt_iff_gt.mpr (Int.ofNat_lt.mpr h)]

theorem compare_neg_neg (a b : ℤ) : compare (-a) (-b) = (compare a b).swap := by
  rcases Int.lt_trichotomy a b with h | h | h
  · rw [compare_lt_iff_lt.mpr h, compare_gt_iff_gt.mpr (Int.neg_lt_neg h)]
    rfl
  · rw [h, compare_eq_iff_eq.mpr rfl, compare_eq_iff_eq.mpr rfl]
    rfl
  · rw [compare_gt_iff_gt.mpr h, compare_lt_iff_lt.mpr (Int.neg_lt_neg h)]
    rfl

/-- Forms compare as their ranks do. -/
theorem compare_eq_map₂ (u v : UnpackedFloat) :
    u.compare v = Option.map₂ compare (rank u) (rank v) := by
  cases u with
  | notANumber => rfl
  | zero s => cases v with
    | notANumber => rfl
    | zero s' => rfl
    | infinity s' => cases s' <;> rfl
    | finite s' => cases s' <;> rfl
  | infinity s => cases v with
    | infinity s' => cases s <;> cases s' <;> rfl
    | finite s' => cases s <;> cases s' <;> rfl
    | _ => cases s <;> rfl
  | finite s m e h => cases v with
    | notANumber => cases s <;> rfl
    | zero s' => cases s <;> rfl
    | infinity s' => cases s <;> cases s' <;> rfl
    | finite s' n f h' =>
      -- only two forms of the same sign and class come down to exponents and mantissas
      cases s with
      | positive => cases s' with
        | positive =>
          show some ((compare e f).then (compare m n)) =
            some ((compare e f).then (compare (m : ℤ) n))
          rw [compare_natCast]
        | negative => rfl
      | negative => cases s' with
        | positive => rfl
        | negative =>
          show some ((compare e f).then (compare m n)).swap =
            some ((compare (-e) (-f)).then (compare (-(m : ℤ)) (-n)))
          rw [compare_neg_neg, compare_neg_neg, compare_natCast, Ordering.swap_then]

/-- The rank of zero is at or below the ones of numbers with a plus sign. -/
theorem Signed.zero_le_rank {u : UnpackedFloat} (h : Signed .positive u) :
    ∃ r, rank u = some r ∧ toLex (0, toLex (0, 0)) ≤ r := by
  cases h with
  | zero => exact ⟨_, rfl, le_refl _⟩
  | infinity => exact ⟨_, rfl, by simp [Prod.Lex.toLex_le_toLex]⟩
  | finite m e h => exact ⟨_, rfl, by simp [Prod.Lex.toLex_le_toLex]⟩

/-- A form of what is above zero is determined by its rank. -/
theorem eq_of_rank_eq {u v : UnpackedFloat}
    (hu : u = .infinity .positive ∨ ∃ m e h, u = .finite .positive m e h)
    (h : rank u = rank v) : u = v := by
  rcases hu with rfl | ⟨m, e, hm, rfl⟩
  · cases v with
    | notANumber => cases h
    | zero s => simp [rank] at h
    | infinity s => cases s <;> simp [rank] at h ⊢
    | finite s => cases s <;> simp [rank] at h
  · cases v with
    | notANumber => cases h
    | zero s => simp [rank] at h
    | infinity s => cases s <;> simp [rank] at h
    | finite s n f hn => cases s with
      | negative => simp [rank] at h
      | positive =>
        obtain ⟨rfl, rfl⟩ : e = f ∧ m = n := by simpa [rank] using h
        rfl

end Double

namespace Order

open Double

variable {a b c : Float}

/-! ## Comparisons as facts about ranks -/

theorem compare?_eq_some_iff {o : Ordering} :
    compare? a b = some o ↔
      ∃ r s, rank (form a) = some r ∧ rank (form b) = some s ∧ compare r s = o := by
  rw [compare?, compare_eq_map₂, Option.map₂_eq_some_iff]
  simp only [Option.mem_def]

theorem lt_iff_rank :
    a < b ↔ ∃ r s, rank (form a) = some r ∧ rank (form b) = some s ∧ r < s := by
  simp only [lt_iff, compare?_eq_some_iff, compare_lt_iff_lt]

theorem le_iff_rank :
    a ≤ b ↔ ∃ r s, rank (form a) = some r ∧ rank (form b) = some s ∧ r ≤ s := by
  simp only [le_iff, compare?_eq_some_iff, compare_lt_iff_lt, compare_eq_iff_eq]
  constructor
  · rintro (⟨r, s, hr, hs, h⟩ | ⟨r, s, hr, hs, h⟩)
    · exact ⟨r, s, hr, hs, h.le⟩
    · exact ⟨r, s, hr, hs, h.le⟩
  · rintro ⟨r, s, hr, hs, h⟩
    rcases h.lt_or_eq with h | h
    · exact .inl ⟨r, s, hr, hs, h⟩
    · exact .inr ⟨r, s, hr, hs, h⟩

/-- What is at or above zero: a number with a plus sign, or either zero. -/
theorem zero_le_iff : 0 ≤ a ↔ (∃ s, form a = .zero s) ∨ Signed .positive (form a) := by
  constructor
  · intro h
    rcases (not_lt_zero_iff a).mp (not_lt_of_le h) with hnan | ha
    · obtain ⟨-, s, -, hs, -⟩ := le_iff_rank.mp h
      rw [hnan] at hs
      cases hs
    · exact ha
  · rintro (⟨s, ha⟩ | ha)
    · exact le_iff_rank.mpr ⟨_, _, rfl, congrArg rank ha, le_refl _⟩
    · obtain ⟨r, hr, hle⟩ := ha.zero_le_rank
      exact le_iff_rank.mpr ⟨_, r, rfl, hr, hle⟩

/-- What is finite and not below zero is at or above it. -/
theorem zero_le_of_isFinite (hfinite : a.isFinite = true) (h : ¬ a < 0) : 0 ≤ a := by
  rcases (not_lt_zero_iff a).mp h with hnan | ha
  · rw [isFinite_eq, hnan] at hfinite
    cases hfinite
  · exact zero_le_iff.mpr ha

/-- What is at or above zero is a number. -/
theorem isNaN_of_zero_le (h : 0 ≤ a) : a.isNaN = false := by
  change (form a).isNaN = false
  rcases zero_le_iff.mp h with ⟨s, ha⟩ | ha
  · rw [ha]
    rfl
  · generalize form a = u at ha
    cases ha <;> rfl

/-- What is at or above zero is either zero or above it. -/
theorem zero_or_pos (h : 0 ≤ a) : (∃ s, form a = .zero s) ∨ 0 < a := by
  rw [zero_lt_iff]
  rcases zero_le_iff.mp h with ha | ha
  · exact .inl ha
  · generalize form a = u at ha
    cases ha with
    | zero => exact .inl ⟨_, rfl⟩
    | infinity => exact .inr (.inl rfl)
    | finite m e hm => exact .inr (.inr ⟨m, e, hm, rfl⟩)

/-- Either zero is at or below zero. -/
theorem le_zero_of_zero {s : Float.Model.UnpackedFloat.Sign} (ha : form a = .zero s) : a ≤ 0 :=
  le_iff_rank.mpr ⟨_, _, congrArg rank ha, rfl, le_refl _⟩

/-- No number that is at or above zero is below either zero. -/
theorem le_of_zero {s : Float.Model.UnpackedFloat.Sign} (ha : form a = .zero s) (hb : 0 ≤ b) :
    a ≤ b := by
  obtain ⟨r, t, hr, ht, hle⟩ := le_iff_rank.mp hb
  exact le_iff_rank.mpr ⟨r, t, (congrArg rank ha).trans hr, ht, hle⟩

/-- No number is above infinity. -/
theorem le_of_infinity (ha : a ≤ a) (hb : form b = .infinity .positive) : a ≤ b := by
  obtain ⟨r, -, hr, -⟩ := le_iff_rank.mp ha
  refine le_iff_rank.mpr ⟨r, _, hr, congrArg rank hb, ?_⟩
  generalize form a = u at hr
  cases u with
  | notANumber => cases hr
  | zero s =>
    cases hr
    simp [Prod.Lex.toLex_le_toLex]
  | infinity s => cases s <;> cases hr <;> simp [Prod.Lex.toLex_le_toLex]
  | finite s m e h => cases s <;> cases hr <;> simp [Prod.Lex.toLex_le_toLex]

/-- What packing makes of a form with a plus sign or of a zero is at or above zero. -/
theorem zero_le_of_form {u : Float.Model.UnpackedFloat}
    (ha : form a = (Float.Model.pack u).unpack)
    (h : (∃ s, u = .zero s) ∨ Signed .positive u) : 0 ≤ a := by
  rw [zero_le_iff, ha]
  rcases h with ⟨s, rfl⟩ | h
  · exact .inl ⟨s, unpack_pack_zero s⟩
  · exact .inr h.unpack_pack

/-- Two finite numbers above zero compare by their exponents first. -/
theorem le_iff_of_finite {m n : ℕ} {e f : ℤ} {hm : 0 < m} {hn : 0 < n}
    (ha : form a = .finite .positive m e hm) (hb : form b = .finite .positive n f hn) :
    a ≤ b ↔ e < f ∨ e = f ∧ m ≤ n := by
  have hlex : toLex ((1 : ℤ), toLex (e, (m : ℤ))) ≤ toLex ((1 : ℤ), toLex (f, (n : ℤ))) ↔
      e < f ∨ e = f ∧ m ≤ n := by
    simp [Prod.Lex.toLex_le_toLex]
  rw [← hlex, le_iff_rank, ha, hb]
  simp [rank]

/-! ## A linear order on the numbers -/

protected theorem le_trans (hab : a ≤ b) (hbc : b ≤ c) : a ≤ c := by
  obtain ⟨r, s, hr, hs, hrs⟩ := le_iff_rank.mp hab
  obtain ⟨s', t, hs', ht, hst⟩ := le_iff_rank.mp hbc
  obtain rfl : s = s' := Option.some.inj (hs.symm.trans hs')
  exact le_iff_rank.mpr ⟨r, t, hr, ht, hrs.trans hst⟩

protected theorem lt_of_lt_of_le (hab : a < b) (hbc : b ≤ c) : a < c := by
  obtain ⟨r, s, hr, hs, hrs⟩ := lt_iff_rank.mp hab
  obtain ⟨s', t, hs', ht, hst⟩ := le_iff_rank.mp hbc
  obtain rfl : s = s' := Option.some.inj (hs.symm.trans hs')
  exact lt_iff_rank.mpr ⟨r, t, hr, ht, hrs.trans_le hst⟩

protected theorem le_of_lt (h : a < b) : a ≤ b := by
  obtain ⟨r, s, hr, hs, hrs⟩ := lt_iff_rank.mp h
  exact le_iff_rank.mpr ⟨r, s, hr, hs, hrs.le⟩

/-- What is compared is a number. -/
theorem le_left (h : a ≤ b) : a ≤ a := by
  obtain ⟨r, -, hr, -⟩ := le_iff_rank.mp h
  exact le_iff_rank.mpr ⟨r, r, hr, hr, le_refl r⟩

theorem le_right (h : a ≤ b) : b ≤ b := by
  obtain ⟨-, s, -, hs, -⟩ := le_iff_rank.mp h
  exact le_iff_rank.mpr ⟨s, s, hs, hs, le_refl s⟩

/-- Of two numbers one is at or below the other. -/
theorem le_of_not_lt (ha : a ≤ a) (hb : b ≤ b) (h : ¬ a < b) : b ≤ a := by
  obtain ⟨r, -, hr, -⟩ := le_iff_rank.mp ha
  obtain ⟨s, -, hs, -⟩ := le_iff_rank.mp hb
  refine le_iff_rank.mpr ⟨s, r, hs, hr, not_lt.mp ?_⟩
  intro hrs
  exact h (lt_iff_rank.mpr ⟨r, s, hr, hs, hrs⟩)

/-- A number above zero equals no double but itself. -/
theorem eq_of_beq (ha : 0 < a) (h : (a == b) = true) : a = b := by
  change (form a).beq (form b) = true at h
  rw [Float.Model.UnpackedFloat.beq, beq_iff_eq, compare_eq_map₂, Option.map₂_eq_some_iff] at h
  obtain ⟨r, s, hr, hs, hrs⟩ := h
  obtain rfl : r = s := compare_eq_iff_eq.mp hrs
  have hrank : rank (form a) = rank (form b) := Eq.trans hr (Eq.symm hs)
  exact eq_of_form_eq (eq_of_rank_eq ((zero_lt_iff a).mp ha) hrank)

/-- Numbers at or below each other are the same where one is above zero; the two zeros are not. -/
protected theorem le_antisymm (ha : 0 < a) (hab : a ≤ b) (hba : b ≤ a) : a = b := by
  obtain ⟨r, s, hr, hs, hrs⟩ := le_iff_rank.mp hab
  obtain ⟨s', r', hs', hr', hsr⟩ := le_iff_rank.mp hba
  obtain rfl : r = r' := Option.some.inj (hr.symm.trans hr')
  obtain rfl : s = s' := Option.some.inj (hs.symm.trans hs')
  obtain rfl : r = s := hrs.antisymm hsr
  have hrank : rank (form a) = rank (form b) := Eq.trans hr (Eq.symm hs)
  exact eq_of_form_eq (eq_of_rank_eq ((zero_lt_iff a).mp ha) hrank)

/-! ## The smaller and the larger one -/

theorem lesser_le (ha : a ≤ a) : lesser a b ≤ a := by
  unfold lesser
  split
  · rename_i h
    exact Order.le_of_lt h
  · exact ha

theorem lesser_le_right (ha : a ≤ a) (hb : b ≤ b) : lesser a b ≤ b := by
  unfold lesser
  split
  · exact hb
  · rename_i h
    exact le_of_not_lt hb ha h

/-- The smaller one does not get smaller where one of the two gets larger. -/
theorem lesser_le_lesser (ha : a ≤ a) (h : b ≤ c) : lesser a b ≤ lesser a c := by
  have hright := lesser_le_right ha (le_left h)
  have hleft := lesser_le (b := b) ha
  rw [lesser.eq_def a c]
  split
  · exact Order.le_trans hright h
  · exact hleft

theorem le_greater_left (ha : a ≤ a) : a ≤ greater a b := by
  unfold greater
  split
  · rename_i h
    exact Order.le_of_lt h
  · exact ha

theorem le_greater_right (ha : a ≤ a) (hb : b ≤ b) : b ≤ greater a b := by
  unfold greater
  split
  · exact hb
  · rename_i h
    exact le_of_not_lt ha hb h

theorem greater_eq_or (a b : Float) : greater a b = a ∨ greater a b = b := by
  unfold greater
  split
  · exact .inr rfl
  · exact .inl rfl

/-- The greatest of a list of doubles is one of them. -/
theorem foldl_greater_mem (a : Float) (xs : List Float) : xs.foldl greater a ∈ a :: xs := by
  induction xs generalizing a with
  | nil => exact List.mem_cons_self
  | cons x xs ih =>
    rw [List.foldl_cons]
    rcases List.mem_cons.mp (ih (greater a x)) with h | h
    · rw [h]
      rcases greater_eq_or a x with h | h <;> simp [h]
    · exact List.mem_cons_of_mem _ (List.mem_cons_of_mem _ h)

/-- The greatest of a list of numbers is at or above each of them. -/
theorem le_foldl_greater {xs : List Float} (hnum : ∀ x ∈ a :: xs, x ≤ x) :
    ∀ x ∈ a :: xs, x ≤ xs.foldl greater a := by
  induction xs generalizing a with
  | nil =>
    intro x hx
    obtain rfl : x = a := List.mem_singleton.mp hx
    exact hnum x hx
  | cons y xs ih =>
    rw [List.forall_mem_cons, List.forall_mem_cons] at hnum
    obtain ⟨ha, hy, hxs⟩ := hnum
    have hleft : a ≤ greater a y := le_greater_left ha
    have hbound := ih (List.forall_mem_cons.mpr ⟨le_right hleft, hxs⟩)
    rw [List.forall_mem_cons] at hbound
    rw [List.forall_mem_cons, List.forall_mem_cons, List.foldl_cons]
    exact ⟨Order.le_trans hleft hbound.1, Order.le_trans (le_greater_right ha hy) hbound.1,
      hbound.2⟩

end Order

end RoadSpeed
