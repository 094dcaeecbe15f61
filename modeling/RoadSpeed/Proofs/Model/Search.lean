import Mathlib.Data.List.Induction
import Mathlib.Data.List.Nodup
import RoadSpeed.Proofs.Tables.Consistency

/-!
# Searching from the right

A model scans tags from left to right and overwrites what it has found. What is left
at the end is what a search from the right comes upon first (specification, §4.1).

- `Rightmost R xs b`: some element of `xs` gives `b`, and none to its right gives
  anything.
- `lastMatch_eq_findSome?_reverse`, `lastMatch_eq_some_iff`: the scan as a search from
  the right and as the relation.
- `Model.Belongs`, `Model.tagRule?_eq_some_iff`: the rules that a tag belongs to.
- `Model.SurfaceOf`, `Model.Surfaced`: the factors of surfaces.
-/

namespace RoadSpeed

/-- `Rightmost R xs b`: an element of `xs` gives `b`, and none to its right gives
anything. -/
def Rightmost {α β : Type} (R : α → β → Prop) (xs : List α) (b : β) : Prop :=
  ∃ before x after, xs = before ++ x :: after ∧ R x b ∧ ∀ y ∈ after, ∀ b', ¬ R y b'

section Scan

variable {α β : Type} {f : α → Option β} {xs : List α}

theorem lastMatch_eq_findSome?_reverse (f : α → Option β) (xs : List α) :
    lastMatch f xs = xs.reverse.findSome? f := by
  induction xs using List.reverseRecOn with
  | nil => rfl
  | append_singleton xs x ih =>
    rw [lastMatch_append, ih, List.reverse_append, List.reverse_singleton,
      List.singleton_append, List.findSome?_cons]
    cases f x <;> rfl

/-- The scan gives `b` exactly when the rightmost element that gives something does. -/
theorem lastMatch_eq_some_iff {b : β} :
    lastMatch f xs = some b ↔ Rightmost (fun x b => f x = some b) xs b := by
  rw [lastMatch_eq_findSome?_reverse, List.findSome?_eq_some_iff]
  constructor
  · rintro ⟨after, x, before, hxs, hx, hafter⟩
    refine ⟨before.reverse, x, after.reverse, ?_, hx, ?_⟩
    · rw [← List.reverse_reverse xs, hxs]
      simp
    · intro y hy b' hb'
      change f y = some b' at hb'
      rw [hafter y (List.mem_reverse.mp hy)] at hb'
      cases hb'
  · rintro ⟨before, x, after, rfl, hx, hafter⟩
    refine ⟨after.reverse, x, before.reverse, by simp, hx, ?_⟩
    intro y hy
    exact Option.eq_none_iff_forall_ne_some.mpr (hafter y (List.mem_reverse.mp hy))

/-- The scan comes out empty exactly when no element gives anything. -/
theorem lastMatch_eq_none_iff : lastMatch f xs = none ↔ ∀ x ∈ xs, f x = none := by
  rw [lastMatch_eq_findSome?_reverse, List.findSome?_eq_none_iff]
  simp only [List.mem_reverse]

end Scan

namespace Model

variable {m : Model} {t : Classification}

/-! ## Rules -/

/-- A tag belongs to the rule of the category at its path. Where no category with a
rule stands there and the path has more than two segments, it belongs to the rule
of the category at the first two. -/
def Belongs (m : Model) (t : Classification) (tag : TagId) (rule : AccessRule) : Prop :=
  ∃ path, t.path? tag = some path ∧ rule ∈ m.rules ∧
    (rule.category.place = path ∨
      (∀ r ∈ m.rules, r.category.place ≠ path) ∧ 2 < path.length ∧
        rule.category.place = path.take 2)

/-- Rules of one model for one place are the same. -/
theorem rule_unique {r s : AccessRule} (hr : r ∈ m.rules) (hs : s ∈ m.rules)
    (h : r.category.place = s.category.place) : r = s :=
  List.inj_on_of_nodup_map m.consistent.nodup hr hs (Category.place_injective h)

theorem ruleAt?_eq_some_iff {path : TagPath} {rule : AccessRule} :
    m.ruleAt? path = some rule ↔ rule ∈ m.rules ∧ rule.category.place = path := by
  constructor
  · intro h
    exact ⟨List.mem_of_find?_eq_some h, by simpa using List.find?_some h⟩
  · rintro ⟨hmem, rfl⟩
    cases hfound : m.ruleAt? rule.category.place with
    | none => simpa using List.find?_eq_none.mp hfound rule hmem
    | some r =>
      have hplace : r.category.place = rule.category.place := by simpa using List.find?_some hfound
      rw [rule_unique (List.mem_of_find?_eq_some hfound) hmem hplace]

theorem ruleAt?_eq_none_iff {path : TagPath} :
    m.ruleAt? path = none ↔ ∀ r ∈ m.rules, r.category.place ≠ path := by
  rw [ruleAt?, List.find?_eq_none]
  simp

/-- The rule of a path is the one at the path or, only where there is none, the one at
its first two segments. -/
theorem ruleOf?_eq_some_iff {path : TagPath} {rule : AccessRule} :
    m.ruleOf? path = some rule ↔ rule ∈ m.rules ∧
      (rule.category.place = path ∨
        (∀ r ∈ m.rules, r.category.place ≠ path) ∧ 2 < path.length ∧
          rule.category.place = path.take 2) := by
  unfold ruleOf?
  cases hfull : m.ruleAt? path with
  | some r =>
    obtain ⟨hr, hplace⟩ := ruleAt?_eq_some_iff.mp hfull
    constructor
    · rintro ⟨⟩
      exact ⟨hr, .inl hplace⟩
    · rintro ⟨hrule, hpath | ⟨hnone, -⟩⟩
      · rw [rule_unique hr hrule (hplace.trans hpath.symm)]
      · exact absurd hplace (hnone r hr)
  | none =>
    -- the first two segments count only here
    have hnone := ruleAt?_eq_none_iff.mp hfull
    dsimp only
    split
    · rename_i hlong
      rw [ruleAt?_eq_some_iff]
      constructor
      · rintro ⟨hrule, hshort⟩
        exact ⟨hrule, .inr ⟨hnone, hlong, hshort⟩⟩
      · rintro ⟨hrule, hpath | ⟨-, -, hshort⟩⟩
        · exact absurd hpath (hnone rule hrule)
        · exact ⟨hrule, hshort⟩
    · rename_i hshort
      constructor
      · intro h
        cases h
      · rintro ⟨hrule, hpath | ⟨-, hlong, -⟩⟩
        · exact absurd hpath (hnone rule hrule)
        · exact absurd hlong hshort

/-- The rule found for a tag is the one that it belongs to. -/
theorem tagRule?_eq_some_iff {tag : TagId} {rule : AccessRule} :
    m.tagRule? t tag = some rule ↔ m.Belongs t tag rule := by
  rw [tagRule?, Option.bind_eq_some_iff]
  exact exists_congr fun path => and_congr_right fun _ => ruleOf?_eq_some_iff

/-- The rule of a list of tags is that of the rightmost tag that belongs to one. -/
theorem resolveRule_eq_some_iff {tags : List TagId} {rule : AccessRule} :
    m.resolveRule t tags = some rule ↔ Rightmost (m.Belongs t) tags rule := by
  rw [resolveRule, lastMatch_eq_some_iff]
  simp only [tagRule?_eq_some_iff]

theorem resolveRule_eq_none_iff {tags : List TagId} :
    m.resolveRule t tags = none ↔ ∀ tag ∈ tags, ∀ rule, ¬ m.Belongs t tag rule := by
  rw [resolveRule, lastMatch_eq_none_iff]
  refine forall₂_congr fun tag _ => ?_
  rw [Option.eq_none_iff_forall_ne_some]
  exact forall_congr' fun rule => not_congr tagRule?_eq_some_iff

/-- The rule of a list of tags is a rule of the model. -/
theorem mem_rules_of_resolveRule {tags : List TagId} {rule : AccessRule}
    (h : m.resolveRule t tags = some rule) : rule ∈ m.rules := by
  obtain ⟨-, -, -, -, ⟨-, -, hrule, -⟩, -⟩ := resolveRule_eq_some_iff.mp h
  exact hrule

/-! ## Surfaces -/

/-- The factor of the last surface rule for exactly the path of a tag. -/
def SurfaceOf (m : Model) (t : Classification) (tag : TagId) (factor : Factor) : Prop :=
  ∃ path, t.path? tag = some path ∧
    Rightmost (fun rule factor => rule.path = path ∧ rule.factor = factor) m.surfaces factor

/-- The factor of a list of tags: that of the rightmost tag that is a surface, and
without one the factor that changes nothing. -/
inductive Surfaced (m : Model) (t : Classification) (tags : List TagId) : Factor → Prop where
  | surface {factor : Factor} (h : Rightmost (m.SurfaceOf t) tags factor) :
      Surfaced m t tags factor
  | plain (h : ∀ tag ∈ tags, ∀ factor, ¬ m.SurfaceOf t tag factor) : Surfaced m t tags .identity

theorem surfaceAt?_eq_some_iff {path : TagPath} {factor : Factor} :
    m.surfaceAt? path = some factor ↔
      Rightmost (fun rule factor => rule.path = path ∧ rule.factor = factor) m.surfaces factor := by
  rw [surfaceAt?, lastMatch_eq_some_iff]
  simp only [Option.ite_none_right_eq_some, Option.some.injEq]

theorem surfaceOf_iff {tag : TagId} {factor : Factor} :
    (t.path? tag).bind m.surfaceAt? = some factor ↔ m.SurfaceOf t tag factor := by
  rw [Option.bind_eq_some_iff]
  exact exists_congr fun path => and_congr_right fun _ => surfaceAt?_eq_some_iff

/-- The factor of the last surface is that of the rightmost one. -/
theorem lastSurface_eq_some_iff {tags : List TagId} {factor : Factor} :
    lastMatch (fun tag => (t.path? tag).bind m.surfaceAt?) tags = some factor ↔
      Rightmost (m.SurfaceOf t) tags factor := by
  rw [lastMatch_eq_some_iff]
  simp only [surfaceOf_iff]

/-- The factor that is found for a list of tags is the one that the relation gives. -/
theorem surfaceFactor_eq_iff {tags : List TagId} {factor : Factor} :
    m.surfaceFactor t tags = factor ↔ m.Surfaced t tags factor := by
  unfold surfaceFactor
  -- either no tag is a surface or the rightmost of those that are counts
  cases hfound : lastMatch (fun tag => (t.path? tag).bind m.surfaceAt?) tags with
  | none =>
    have hnone : ∀ tag ∈ tags, ∀ factor, ¬ m.SurfaceOf t tag factor := by
      intro tag htag factor h
      rw [← surfaceOf_iff, lastMatch_eq_none_iff.mp hfound tag htag] at h
      cases h
    constructor
    · rintro rfl
      exact .plain hnone
    · rintro (⟨before, tag, after, rfl, h, -⟩ | -)
      · exact absurd h (hnone tag (by simp) _)
      · rfl
  | some g =>
    have hsome := lastSurface_eq_some_iff.mp hfound
    constructor
    · rintro rfl
      exact .surface hsome
    · rintro (h | h)
      · have h' := lastSurface_eq_some_iff.mpr h
        rw [hfound] at h'
        exact Option.some.inj h'
      · obtain ⟨before, tag, after, rfl, hg, -⟩ := hsome
        exact absurd hg (h tag (by simp) g)

/-- The factor of a path is that of one of the surface rules. -/
theorem mem_surfaces_of_surfaceAt? {path : TagPath} {factor : Factor}
    (h : m.surfaceAt? path = some factor) : ∃ rule ∈ m.surfaces, rule.factor = factor := by
  obtain ⟨before, rule, after, hsurfaces, ⟨-, hfactor⟩, -⟩ := surfaceAt?_eq_some_iff.mp h
  exact ⟨rule, by simp [hsurfaces], hfactor⟩

/-- The factor of tags is that of a path, or the one that changes nothing. -/
theorem surfaceFactor_cases (m : Model) (t : Classification) (tags : List TagId) :
    m.surfaceFactor t tags = .identity ∨
      ∃ path, m.surfaceAt? path = some (m.surfaceFactor t tags) := by
  cases hfound : lastMatch (fun tag => (t.path? tag).bind m.surfaceAt?) tags with
  | none =>
    rw [surfaceFactor, hfound]
    exact .inl rfl
  | some factor =>
    obtain ⟨-, tag, -, -, ⟨path, -, hpath⟩, -⟩ := lastSurface_eq_some_iff.mp hfound
    rw [surfaceFactor, hfound]
    exact .inr ⟨path, surfaceAt?_eq_some_iff.mpr hpath⟩

end Model

end RoadSpeed
