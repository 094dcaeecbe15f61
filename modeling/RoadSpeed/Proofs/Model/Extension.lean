import RoadSpeed.Proofs.Model.Agreement
import RoadSpeed.Proofs.Model.Creation

/-!
# Models with more rules

A rule that is added to a model may take a tag over from another rule: it counts before the rule
at the first segments of a path, and the last tag with a rule counts before those in front of it
(specification, §4.1). Where all added rules are routable, each road stays a road all the same.

- `lastMatch_any_of_cases`: a scan that finds the same, or else only what passes a test.
- `Model.Extends`: a model has the parts of another one and rules besides.
- `Model.Extends.tagRule?_cases`: the rule of a tag is the old one or an added one.
- `Model.Extends.isRoad`, `Model.Extends.sameAnswers`: what added rules open and leave alone.
- `Defaults.Opens`, `Model.routable_rules_add_roads`: models of larger lists of rules.
-/

namespace RoadSpeed

/-- Where each element gives the same to two scans, or gives the second one something that passes
a test, what passes the test in the first scan does so in the second one. -/
theorem lastMatch_any_of_cases {α β : Type} {f g : α → Option β} {p : β → Bool} {xs : List α}
    (h : ∀ x ∈ xs, g x = f x ∨ ∃ b, g x = some b ∧ p b = true)
    (hpass : (lastMatch f xs).any p = true) : (lastMatch g xs).any p = true := by
  -- the scans are followed from the right, where the element that counts stands
  induction xs using List.reverseRecOn with
  | nil => exact hpass
  | append_singleton xs x ih =>
    rw [List.forall_mem_append, List.forall_mem_singleton] at h
    obtain ⟨hinit, hlast⟩ := h
    rw [lastMatch_append] at hpass ⊢
    rcases hlast with hsame | ⟨b, hb, hpass'⟩
    · rw [hsame]
      cases hx : f x with
      | none =>
        rw [hx, Option.none_or] at hpass
        rw [Option.none_or]
        exact ih hinit hpass
      | some b =>
        rw [hx, Option.some_or] at hpass
        rw [Option.some_or]
        exact hpass
    · rw [hb, Option.some_or]
      exact hpass'

namespace Model

/-- A model has the parts of another one and the rules of that with others besides. -/
structure Extends (n m : Model) (extra : List AccessRule) : Prop where
  rules : ∀ r, r ∈ n.rules ↔ r ∈ m.rules ∨ r ∈ extra
  parts : m.SameParts n

namespace Extends

variable {m n : Model} {extra : List AccessRule} {t : Classification} {tags : List TagId}

/-! ## The rule of a tag -/

/-- At a place both models find the same rule, or the larger one finds an added rule. -/
theorem ruleAt?_cases (h : n.Extends m extra) (path : TagPath) :
    n.ruleAt? path = m.ruleAt? path ∨ ∃ r ∈ extra, n.ruleAt? path = some r := by
  cases hfound : n.ruleAt? path with
  | none =>
    refine .inl (ruleAt?_eq_none_iff.mpr fun r hr => ?_).symm
    exact ruleAt?_eq_none_iff.mp hfound r ((h.rules r).mpr (.inl hr))
  | some r =>
    obtain ⟨hr, hplace⟩ := ruleAt?_eq_some_iff.mp hfound
    rcases (h.rules r).mp hr with hold | hnew
    · exact .inl (ruleAt?_eq_some_iff.mpr ⟨hold, hplace⟩).symm
    · exact .inr ⟨r, hnew, rfl⟩

/-- So it is with the rule of a path: one that is added at the path itself takes it away from the
rule at the first segments. -/
theorem ruleOf?_cases (h : n.Extends m extra) (path : TagPath) :
    n.ruleOf? path = m.ruleOf? path ∨ ∃ r ∈ extra, n.ruleOf? path = some r := by
  unfold ruleOf?
  rcases h.ruleAt?_cases path with hsame | ⟨r, hnew, hr⟩
  · rw [hsame]
    cases m.ruleAt? path with
    | some r => exact .inl rfl
    | none =>
      dsimp only
      by_cases hlong : categoryLevel < path.length
      · rw [if_pos hlong, if_pos hlong]
        exact h.ruleAt?_cases (path.take categoryLevel)
      · rw [if_neg hlong, if_neg hlong]
        exact .inl rfl
  · rw [hr]
    exact .inr ⟨r, hnew, rfl⟩

theorem tagRule?_cases (h : n.Extends m extra) (t : Classification) (tag : TagId) :
    n.tagRule? t tag = m.tagRule? t tag ∨ ∃ r ∈ extra, n.tagRule? t tag = some r := by
  unfold tagRule?
  cases t.path? tag with
  | none => exact .inl rfl
  | some path => exact h.ruleOf?_cases path

/-- A tag that belongs to no added rule keeps the rule that it had. -/
theorem tagRule?_eq (h : n.Extends m extra) {tag : TagId}
    (hfree : ∀ r ∈ extra, ¬ n.Belongs t tag r) : m.tagRule? t tag = n.tagRule? t tag := by
  rcases h.tagRule?_cases t tag with hsame | ⟨r, hnew, hr⟩
  · exact hsame.symm
  · exact absurd (tagRule?_eq_some_iff.mp hr) (hfree r hnew)

/-! ## The answers -/

/-- Added rules that are all routable close no road. -/
theorem isRoad (h : n.Extends m extra) (hroutable : ∀ r ∈ extra, r.routable = true)
    (hroad : m.isRoad t tags = true) : n.isRoad t tags = true := by
  unfold Model.isRoad at hroad ⊢
  rw [← h.parts.traits]
  by_cases hno : hasType t tags m.traits.noPath = true
  · rw [if_pos hno] at hroad
    cases hroad
  · rw [if_neg hno] at hroad ⊢
    by_cases hyes : hasType t tags m.traits.yesPath = true
    · exact if_pos hyes
    · rw [if_neg hyes] at hroad ⊢
      refine lastMatch_any_of_cases (fun tag _ => ?_) hroad
      refine (h.tagRule?_cases t tag).imp_right fun ⟨r, hnew, hr⟩ => ?_
      exact ⟨r, hr, hroutable r hnew⟩

/-- Where no tag belongs to an added rule, both models say the same. -/
theorem sameAnswers (h : n.Extends m extra)
    (hfree : ∀ tag ∈ tags, ∀ r ∈ extra, ¬ n.Belongs t tag r) : m.SameAnswers n t tags :=
  h.parts.sameAnswers fun tag htag => h.tagRule?_eq (hfree tag htag)

end Extends

/-! ## Larger lists of rules -/

section Build

variable {rules rules' extra : List AccessRule} {tables : SpeedTables}
variable {surfaces : List SurfaceRule} {traits : Traits} {mode : LimitMode} {m n : Model}

theorem extends_of_build (hm : build rules tables surfaces traits mode = .ok m)
    (hn : build rules' tables surfaces traits mode = .ok n) (hperm : rules'.Perm (rules ++ extra)) :
    n.Extends m extra := by
  obtain ⟨rfl, rfl, rfl, rfl, rfl⟩ := build_eq_ok_iff.mp hm
  obtain ⟨rfl, htables, hsurfaces, htraits, hmode⟩ := build_eq_ok_iff.mp hn
  constructor
  · intro r
    rw [hperm.mem_iff, List.mem_append]
  · exact
      { speeds := fun c => by rw [htables]
        factors := fun c => by rw [htables]
        surfaces := fun path => by rw [surfaceAt?, surfaceAt?, hsurfaces]
        traits := htraits.symm
        mode := hmode.symm }

end Build

end Model

/-- With the other defaults of a class each of two lists of rules gives a model, and each road of
the first model is one of the second. -/
def Defaults.Opens (d : Defaults) (rules rules' : List AccessRule) : Prop :=
  ∀ mode, ∃ m n, Model.build rules d.tables d.surfaces d.traits mode = .ok m ∧
    Model.build rules' d.tables d.surfaces d.traits mode = .ok n ∧
    ∀ t tags, m.isRoad t tags = true → n.isRoad t tags = true

/-- Rules without defects that are the old ones with others that are all routable open all that
the old ones do. -/
theorem Defaults.opens_of_routable {d : Defaults} {rules extra : List AccessRule}
    (hrules : allDefects rules d.tables = []) (hall : allDefects (rules ++ extra) d.tables = [])
    (hroutable : ∀ r ∈ extra, r.routable = true) : d.Opens rules (rules ++ extra) := by
  intro mode
  obtain ⟨m, hm⟩ := Model.exists_build_iff.mpr hrules
  obtain ⟨n, hn⟩ := Model.exists_build_iff.mpr hall
  refine ⟨m, n, hm, hn, fun t tags hroad => ?_⟩
  exact (Model.extends_of_build hm hn (.refl _)).isRoad hroutable hroad

/-- The rules of pedestrians without trunk roads are those where a country has none of its own. -/
theorem Pedestrian.allDefects_rulesWithoutTrunk :
    allDefects Pedestrian.rulesWithoutTrunk Pedestrian.defaults.tables = [] :=
  Vehicle.pedestrian.allDefects_defaults ""

namespace Model

/-- Rules that are added to a model, all of them routable and anywhere in the list, only add
roads, and where no tag belongs to an added rule all answers stay. So the rules with trunk roads
open to pedestrians and to bicycles all that those without do. -/
theorem routable_rules_add_roads :
    (∀ (rules rules' extra : List AccessRule) (tables : SpeedTables) (surfaces : List SurfaceRule)
      (traits : Traits) (mode : LimitMode) (m n : Model),
      build rules tables surfaces traits mode = .ok m →
      build rules' tables surfaces traits mode = .ok n → rules'.Perm (rules ++ extra) →
      (∀ r ∈ extra, r.routable = true) → ∀ (t : Classification) (tags : List TagId),
        (m.isRoad t tags = true → n.isRoad t tags = true) ∧
        ((∀ tag ∈ tags, ∀ r ∈ extra, ¬ n.Belongs t tag r) → m.SameAnswers n t tags)) ∧
    Pedestrian.defaults.Opens Pedestrian.rulesWithoutTrunk Pedestrian.rulesWithTrunk ∧
    Bicycle.defaults.Opens Bicycle.rulesWithoutTrunk Bicycle.rulesWithTrunk := by
  refine ⟨?_, ?_, ?_⟩
  · intro rules rules' extra tables surfaces traits mode m n hm hn hperm hroutable t tags
    have h : n.Extends m extra := extends_of_build hm hn hperm
    exact ⟨h.isRoad hroutable, h.sameAnswers⟩
  · exact Defaults.opens_of_routable Pedestrian.allDefects_rulesWithoutTrunk
      (Vehicle.pedestrian.allDefects_defaults "Ukraine") (by decide)
  · exact Defaults.opens_of_routable (Vehicle.bicycle.allDefects_defaults "Germany")
      (Vehicle.bicycle.allDefects_defaults "") (by decide)

/-- A taxonomy of footways and of trunk roads. -/
def trunkTaxonomy : Taxonomy :=
  (Taxonomy.empty.see Category.footway.place).see Category.trunk.place

/-- The rules of pedestrians with one for trunk roads in front. -/
def trunkFirst : List AccessRule := ⟨.trunk, true, true⟩ :: Pedestrian.rulesWithoutTrunk

theorem allDefects_trunkFirst : allDefects trunkFirst Pedestrian.defaults.tables = [] := by
  decide +kernel

/-- A rule for trunk roads takes over a footway along one, which stays a road, and leaves all other
footways alone. -/
theorem footway_along_trunk : ∃ m n,
    build Pedestrian.rulesWithoutTrunk Pedestrian.defaults.tables Pedestrian.defaults.surfaces
      Pedestrian.defaults.traits .clamp = .ok m ∧
    build trunkFirst Pedestrian.defaults.tables Pedestrian.defaults.surfaces
      Pedestrian.defaults.traits .clamp = .ok n ∧
    m.resolveCategory trunkTaxonomy [1, 2] = some .footway ∧
    n.resolveCategory trunkTaxonomy [1, 2] = some .trunk ∧
    n.isRoad trunkTaxonomy [1, 2] = true ∧ m.SameAnswers n trunkTaxonomy [1] := by
  have hperm : trunkFirst.Perm (Pedestrian.rulesWithoutTrunk ++ [⟨.trunk, true, true⟩]) :=
    (List.perm_append_singleton _ _).symm
  -- a rule for trunk roads is added in front, which the order of rules does not show
  have happlied := routable_rules_add_roads.1 _ _ _ _ Pedestrian.defaults.surfaces
    Pedestrian.defaults.traits .clamp _ _ (build_eq_ok Pedestrian.allDefects_rulesWithoutTrunk)
    (build_eq_ok allDefects_trunkFirst) hperm (by decide) trunkTaxonomy
  refine ⟨_, _, build_eq_ok Pedestrian.allDefects_rulesWithoutTrunk,
    build_eq_ok allDefects_trunkFirst, by decide +kernel, by decide +kernel,
    (happlied [1, 2]).1 (by decide +kernel), (happlied [1]).2 ?_⟩
  intro tag htag r hr hbelongs
  obtain rfl := List.mem_singleton.mp htag
  obtain rfl := List.mem_singleton.mp hr
  obtain ⟨path, hpath, -, hplace⟩ := hbelongs
  obtain rfl : path = Category.footway.place := by
    have hfootway : trunkTaxonomy.path? 1 = some Category.footway.place := by decide +kernel
    exact Option.some.inj (hpath.symm.trans hfootway)
  rcases hplace with hplace | ⟨-, hlong, -⟩
  · exact absurd hplace (by decide)
  · exact absurd hlong (by decide)

end Model

end RoadSpeed
