import RoadSpeed.Proofs.Model.Search

/-!
# What tags say about a road

The tags of a segment close it to a vehicle class or open it, make it one-way, and give
it a category (specification, §4.1 and §4.3). Each answer of a model is told here by the tags
that bring it about.

- `Tagged`: one of the tags stands at a path.
- `Vehicle.OneWay`, `Model.isOneWay_iff`: where a road is one-way for a class.
- `Model.Barred`, `Model.isRoad_eq_false_iff`: where a class may not go.
- `Model.Classes`, `Model.classes_iff`: the category of tags and whether routes may
  merely cross it.
-/

namespace RoadSpeed

/-- One of the tags stands at the path. -/
def Tagged (t : Classification) (tags : List TagId) (path : TagPath) : Prop :=
  ∃ tag ∈ tags, t.path? tag = some path

/-- Where a road is one-way for a class: for cars by the one-way tag, for pedestrians
nowhere, and for bicycles by a direction of their own or, unless they are exempt, by
the one-way tag. -/
inductive Vehicle.OneWay (has : TagPath → Prop) : Vehicle → Prop where
  | car (h : has oneWayPath) : OneWay has .car
  | ownDirection (h : has oneDirectionBicyclePath) : OneWay has .bicycle
  | notExempt (hexempt : ¬ has bidirectionalBicyclePath) (h : has oneWayPath) :
      OneWay has .bicycle

theorem Vehicle.oneWay_iff (v : Vehicle) (has : TagPath → Bool) :
    v.oneWay has = true ↔ v.OneWay fun path => has path = true := by
  constructor
  · intro h
    -- each class has a rule of its own, and of the bicycle tags the own direction counts first
    cases v with
    | car => exact .car h
    | pedestrian => cases h
    | bicycle =>
      simp only [oneWay] at h
      split at h
      · rename_i hown
        exact .ownDirection hown
      · split at h
        · cases h
        · rename_i hexempt
          exact .notExempt hexempt h
  · intro h
    cases h with
    | car h => exact h
    | ownDirection h => simp [oneWay, h]
    | notExempt hexempt h => simp [oneWay, hexempt, h]

namespace Model

variable {m : Model} {t : Classification} {tags : List TagId}

/-! ## Single tags -/

theorem hasType_iff {path : TagPath} : hasType t tags path = true ↔ Tagged t tags path := by
  simp [hasType, Tagged]

theorem isOneWay_iff : m.isOneWay t tags = true ↔ m.vehicle.OneWay (Tagged t tags) := by
  rw [isOneWay, Vehicle.oneWay_iff]
  simp only [hasType_iff]

/-! ## Access -/

/-- A class may not use a segment where its closing tag stands, or where its opening tag
is missing and no tag belongs to a rule or the rule that counts is for roads that are not
routable. -/
def Barred (m : Model) (t : Classification) (tags : List TagId) : Prop :=
  Tagged t tags m.traits.noPath ∨
    ¬ Tagged t tags m.traits.yesPath ∧
      ((∀ tag ∈ tags, ∀ rule, ¬ m.Belongs t tag rule) ∨
        ∃ rule, Rightmost (m.Belongs t) tags rule ∧ rule.routable = false)

theorem isRoad_eq_false_iff : m.isRoad t tags = false ↔ m.Barred t tags := by
  unfold Barred isRoad
  simp only [← hasType_iff, ← resolveRule_eq_none_iff, ← resolveRule_eq_some_iff]
  cases hasType t tags m.traits.noPath <;> cases hasType t tags m.traits.yesPath <;>
    cases m.resolveRule t tags <;> simp

theorem isRoad_eq_true_iff : m.isRoad t tags = true ↔ ¬ m.Barred t tags := by
  rw [← isRoad_eq_false_iff, Bool.not_eq_false]

/-- Where no tag belongs to a rule, a class may go only by its opening tag. -/
theorem tagged_yesPath (hopen : ¬ m.Barred t tags)
    (hnone : ∀ tag ∈ tags, ∀ rule, ¬ m.Belongs t tag rule) :
    Tagged t tags m.traits.yesPath := by
  by_contra hyes
  exact hopen (.inr ⟨hyes, .inl hnone⟩)

/-! ## Categories -/

/-- The category of tags and whether routes may merely cross it, both by the rule of the
rightmost tag that belongs to one. -/
inductive Classes (m : Model) (t : Classification) (tags : List TagId) :
    Option Category → Bool → Prop where
  | offroad (h : ∀ tag ∈ tags, ∀ rule, ¬ m.Belongs t tag rule) : Classes m t tags none false
  | road {rule : AccessRule} (h : Rightmost (m.Belongs t) tags rule) :
      Classes m t tags (some rule.category) rule.passThrough

theorem classes_iff {category : Option Category} {passThrough : Bool} :
    m.Classes t tags category passThrough ↔
      m.resolveCategory t tags = category ∧ m.allowsPassThrough t tags = passThrough := by
  unfold resolveCategory allowsPassThrough
  constructor
  · rintro (h | h)
    · rw [resolveRule_eq_none_iff.mpr h]
      exact ⟨rfl, rfl⟩
    · rw [resolveRule_eq_some_iff.mpr h]
      exact ⟨rfl, rfl⟩
  · rintro ⟨rfl, rfl⟩
    cases h : m.resolveRule t tags with
    | none => exact .offroad (resolveRule_eq_none_iff.mp h)
    | some rule => exact .road (resolveRule_eq_some_iff.mp h)

end Model

end RoadSpeed
