import Mathlib.Data.List.Duplicate
import RoadSpeed.Proofs.Model.Creation
import RoadSpeed.Proofs.Model.Totality
import RoadSpeed.Proofs.Profile.Application

/-!
# Surface rules under a profile

A model goes by the last rule for a path (specification, §4.2, step 3), a profile replaces the
first one. On a path that has one rule or none these are the same, so that what the profile sets
takes effect there. On a path with several rules it does not: the last one stays, whatever the
profile sets.

- `surfaceIn?`: the factor of a path in a list of rules.
- `surfaceIn?_overlay`: rules that are laid over others.
- `Profile.surfaceIn?_surfaceRules`: the rules of a profile.
- `Profile.surfaceIn?_applySurfaces`: the rules of a profile laid over others.
- `Profile.surfaces_take_effect`: the factors in force in a model.
-/

namespace RoadSpeed

/-! ## The last rule for a path -/

/-- The factor of a path in a list of rules: that of the last rule for it. -/
def surfaceIn? (rules : List SurfaceRule) (path : TagPath) : Option Factor :=
  lastMatch (fun r => if r.path = path then some r.factor else none) rules

theorem Model.surfaceAt?_eq (m : Model) (path : TagPath) :
    m.surfaceAt? path = surfaceIn? m.surfaces path := rfl

section Overlay

variable {r : SurfaceRule} {rules pending base : List SurfaceRule} {path : TagPath}

theorem surfaceIn?_cons (r : SurfaceRule) (rules : List SurfaceRule) (path : TagPath) :
    surfaceIn? (r :: rules) path =
      (surfaceIn? rules path).or (if r.path = path then some r.factor else none) := by
  rw [surfaceIn?, surfaceIn?, lastMatch_eq_findSome?_reverse, lastMatch_eq_findSome?_reverse,
    List.reverse_cons, List.findSome?_append, List.findSome?_singleton]

theorem surfaceIn?_cons_of_ne (h : r.path ≠ path) (rules : List SurfaceRule) :
    surfaceIn? (r :: rules) path = surfaceIn? rules path := by
  rw [surfaceIn?_cons, if_neg h, Option.or_none]

theorem surfaceIn?_eq_none_iff : surfaceIn? rules path = none ↔ ∀ r ∈ rules, r.path ≠ path := by
  rw [surfaceIn?, lastMatch_eq_none_iff]
  simp

theorem exists_surfaceIn?_of_mem (h : path ∈ rules.map SurfaceRule.path) :
    ∃ f, surfaceIn? rules path = some f := by
  obtain ⟨r, hr, hpath⟩ := List.mem_map.mp h
  refine Option.ne_none_iff_exists'.mp ?_
  intro hnone
  exact surfaceIn?_eq_none_iff.mp hnone r hr hpath

/-- Where each path has one rule at most, a rule makes the factor of its path. -/
theorem surfaceIn?_of_mem (hnodup : (rules.map SurfaceRule.path).Nodup) (hr : r ∈ rules) :
    surfaceIn? rules r.path = some r.factor := by
  induction rules with
  | nil => cases hr
  | cons s rules ih =>
    rw [List.map_cons, List.nodup_cons] at hnodup
    rcases List.mem_cons.mp hr with rfl | hr
    · have hrest : surfaceIn? rules r.path = none := by
        rw [surfaceIn?_eq_none_iff]
        intro s hs hpath
        exact hnodup.1 (List.mem_map.mpr ⟨s, hs, hpath⟩)
      rw [surfaceIn?_cons, hrest, if_pos rfl, Option.none_or]
    · rw [surfaceIn?_cons, ih hnodup.2 hr, Option.some_or]

/-! ## Rules laid over others -/

theorem overlay_cons_of_found {p : SurfaceRule}
    (h : pending.find? (fun q => q.path = r.path) = some p) (base : List SurfaceRule) :
    overlay pending (r :: base) = p :: overlay (pending.filter fun q => q.path ≠ r.path) base := by
  rw [overlay, h]

theorem overlay_cons_of_none (h : pending.find? (fun q => q.path = r.path) = none)
    (base : List SurfaceRule) : overlay pending (r :: base) = r :: overlay pending base := by
  rw [overlay, h]

/-- On a path without a rule of their own, rules that are laid over others leave the factor. -/
theorem surfaceIn?_overlay_of_forall_ne (h : ∀ p ∈ pending, p.path ≠ path)
    (base : List SurfaceRule) : surfaceIn? (overlay pending base) path = surfaceIn? base path := by
  induction base generalizing pending with
  | nil => exact surfaceIn?_eq_none_iff.mpr h
  | cons r base ih =>
    cases hfound : pending.find? fun q => q.path = r.path with
    | none => rw [overlay_cons_of_none hfound, surfaceIn?_cons, surfaceIn?_cons, ih h]
    | some p =>
      have hp : p.path = r.path := by simpa using List.find?_some hfound
      have hpath : p.path ≠ path := h p (List.mem_of_find?_eq_some hfound)
      have hrest : ∀ q ∈ pending.filter fun q => q.path ≠ r.path, q.path ≠ path :=
        fun q hq => h q (List.mem_of_mem_filter hq)
      rw [overlay_cons_of_found hfound, surfaceIn?_cons_of_ne hpath,
        surfaceIn?_cons_of_ne (hp ▸ hpath), ih hrest]

/-- The rule for a path is found among rules that are for different paths. -/
theorem find?_path_of_mem {p : SurfaceRule} (hnodup : (pending.map SurfaceRule.path).Nodup)
    (hp : p ∈ pending) : pending.find? (fun q => q.path = p.path) = some p := by
  cases hfound : pending.find? fun q => q.path = p.path with
  | none => exact absurd (List.find?_eq_none.mp hfound p hp) (by simp)
  | some q =>
    have hq : q.path = p.path := by simpa using List.find?_some hfound
    rw [List.inj_on_of_nodup_map hnodup (List.mem_of_find?_eq_some hfound) hp hq]

/-- A rule that takes the place of another one counts if that was the only one for its path. -/
theorem surfaceIn?_overlay_cons_of_found {p : SurfaceRule}
    (hfound : pending.find? (fun q => q.path = r.path) = some p) (base : List SurfaceRule) :
    surfaceIn? (overlay pending (r :: base)) r.path =
      (surfaceIn? base r.path).or (some p.factor) := by
  have hp : p.path = r.path := by simpa using List.find?_some hfound
  have hrest : ∀ q ∈ pending.filter fun q => q.path ≠ r.path, q.path ≠ r.path := by
    intro q hq
    simpa using (List.mem_filter.mp hq).2
  rw [overlay_cons_of_found hfound, surfaceIn?_cons, surfaceIn?_overlay_of_forall_ne hrest,
    if_pos hp]

/-- A rule that is laid over others makes the factor of its path where these have one rule at
most for it. Where they have several, the first one is replaced and the last one counts. -/
theorem surfaceIn?_overlay_of_mem {p : SurfaceRule} (hnodup : (pending.map SurfaceRule.path).Nodup)
    (hp : p ∈ pending) (base : List SurfaceRule) :
    surfaceIn? (overlay pending base) p.path =
      if (base.map SurfaceRule.path).Duplicate p.path then surfaceIn? base p.path
      else some p.factor := by
  -- on the base, for all pending rules; the first rule for the path takes the pending one
  induction base generalizing pending with
  | nil => exact surfaceIn?_of_mem hnodup hp
  | cons r base ih =>
    by_cases hpath : r.path = p.path
    · have hfound : pending.find? (fun q => q.path = r.path) = some p := by
        rw [hpath]
        exact find?_path_of_mem hnodup hp
      have hdup : ((r :: base).map SurfaceRule.path).Duplicate p.path ↔
          p.path ∈ base.map SurfaceRule.path := by
        rw [List.map_cons, hpath, List.duplicate_cons_self_iff]
      rw [← hpath, surfaceIn?_overlay_cons_of_found hfound, hpath, if_congr hdup rfl rfl]
      split
      · rename_i hmem
        obtain ⟨f, hf⟩ := exists_surfaceIn?_of_mem hmem
        rw [surfaceIn?_cons, hf, Option.some_or, Option.some_or]
      · rename_i hmem
        -- no other rule for the path comes later, so that the new one is the last
        have hnone : surfaceIn? base p.path = none :=
          surfaceIn?_eq_none_iff.mpr fun q hq hpath => hmem (List.mem_map.mpr ⟨q, hq, hpath⟩)
        rw [hnone, Option.none_or]
    · have hdup : ((r :: base).map SurfaceRule.path).Duplicate p.path ↔
          (base.map SurfaceRule.path).Duplicate p.path :=
        List.duplicate_cons_iff_of_ne (Ne.symm hpath)
      rw [surfaceIn?_cons_of_ne hpath, if_congr hdup rfl rfl]
      cases hfound : pending.find? fun q => q.path = r.path with
      | none => rw [overlay_cons_of_none hfound, surfaceIn?_cons_of_ne hpath, ih hnodup hp]
      | some q =>
        have hq : q.path = r.path := by simpa using List.find?_some hfound
        have hnodup' : ((pending.filter fun q => q.path ≠ r.path).map SurfaceRule.path).Nodup :=
          hnodup.sublist (List.filter_sublist.map _)
        have hp' : p ∈ pending.filter fun q => q.path ≠ r.path :=
          List.mem_filter.mpr ⟨hp, by simpa using Ne.symm hpath⟩
        rw [overlay_cons_of_found hfound, surfaceIn?_cons_of_ne (hq ▸ hpath), ih hnodup' hp']

end Overlay

namespace Profile

variable {p : Profile} {path : TagPath} {base : List SurfaceRule}

/-- A profile has a surface at a path or none. -/
theorem surface_cases (p : Profile) (path : TagPath) :
    (∃ name s, (name, s) ∈ p.surfaces.toList ∧ TagPath.ofName name = path) ∨
      ∀ name ∈ p.surfaces.keys, TagPath.ofName name ≠ path := by
  by_cases h : ∃ name ∈ p.surfaces.keys, TagPath.ofName name = path
  · obtain ⟨name, hname, hpath⟩ := h
    obtain ⟨s, hs⟩ := Table.mem_keys_iff.mp hname
    exact .inl ⟨name, s, hs, hpath⟩
  · exact .inr fun name hname hpath => h ⟨name, hname, hpath⟩

/-- A path that no surface of a profile is at keeps its factor. -/
theorem surfaceIn?_applySurfaces_of_forall_ne
    (h : ∀ name ∈ p.surfaces.keys, TagPath.ofName name ≠ path) (base : List SurfaceRule) :
    surfaceIn? (p.applySurfaces base) path = surfaceIn? base path := by
  refine surfaceIn?_overlay_of_forall_ne ?_ base
  intro r hr
  obtain ⟨e, he, rfl⟩ := List.mem_map.mp hr
  exact h e.1 (List.mem_map.mpr ⟨e, he, rfl⟩)

/-- The path of a surface of a profile has the factor that the profile sets, unless it has
several rules already. -/
theorem surfaceIn?_applySurfaces_of_mem {name : String} {s : Setting Positive}
    (h : (name, s) ∈ p.surfaces.toList) (base : List SurfaceRule) :
    surfaceIn? (p.applySurfaces base) (TagPath.ofName name) =
      if (base.map SurfaceRule.path).Duplicate (TagPath.ofName name) then
        surfaceIn? base (TagPath.ofName name)
      else some s.toFactor :=
  surfaceIn?_overlay_of_mem (p := .named name s.toFactor) p.nodup_surfaceRules
    (List.mem_map.mpr ⟨_, h, rfl⟩) base

/-- What becomes of the factor of a path when a profile is laid over the rules `base` of a
model: it is set by the profile where there is one rule at most, and stays where there are
several or where the profile has no surface. -/
structure TakesEffect (p : Profile) (base : List SurfaceRule) (m₀ m : Model) (path : TagPath) :
    Prop where
  set : ∀ name s, (name, s) ∈ p.surfaces.toList → TagPath.ofName name = path →
    ¬ (base.map SurfaceRule.path).Duplicate path → m.surfaceAt? path = some s.toFactor
  several : (base.map SurfaceRule.path).Duplicate path → m.surfaceAt? path = m₀.surfaceAt? path
  kept : (∀ name ∈ p.surfaces.keys, TagPath.ofName name ≠ path) →
    m.surfaceAt? path = m₀.surfaceAt? path
  absent : (∀ name ∈ p.surfaces.keys, TagPath.ofName name ≠ path) →
    (∀ r ∈ base, r.path ≠ path) → m.surfaceAt? path = none

theorem takesEffect {m₀ m : Model} (h₀ : m₀.surfaces = base)
    (h : m.surfaces = p.applySurfaces base) (path : TagPath) : p.TakesEffect base m₀ m path := by
  have hkept (hnone : ∀ name ∈ p.surfaces.keys, TagPath.ofName name ≠ path) :
      m.surfaceAt? path = m₀.surfaceAt? path := by
    rw [Model.surfaceAt?_eq, Model.surfaceAt?_eq, h₀, h,
      surfaceIn?_applySurfaces_of_forall_ne hnone]
  constructor
  · rintro name s hs rfl hdup
    rw [Model.surfaceAt?_eq, h, surfaceIn?_applySurfaces_of_mem hs, if_neg hdup]
  · intro hdup
    rcases p.surface_cases path with ⟨name, s, hs, rfl⟩ | hnone
    · rw [Model.surfaceAt?_eq, Model.surfaceAt?_eq, h₀, h, surfaceIn?_applySurfaces_of_mem hs,
        if_pos hdup]
    · exact hkept hnone
  · exact hkept
  · intro hnone hbase
    rw [hkept hnone, Model.surfaceAt?_eq, h₀, surfaceIn?_eq_none_iff]
    exact hbase

/-- Where there is a model with some surface rules there is one with a profile laid over these.
In each such model what the profile sets takes effect on the paths that have one rule at most, and
all other factors are what they were. -/
theorem surfaces_take_effect (p : Profile) {rules : List AccessRule} {tables : SpeedTables}
    {base : List SurfaceRule} {traits : Traits} {mode : LimitMode} {m₀ : Model}
    (h₀ : Model.build rules tables base traits mode = .ok m₀) :
    (∃ m, Model.build rules tables (p.applySurfaces base) traits mode = .ok m) ∧
      ∀ rules' tables' traits' mode' m,
        Model.build rules' tables' (p.applySurfaces base) traits' mode' = .ok m →
          ∀ path, p.TakesEffect base m₀ m path := by
  constructor
  · exact Model.exists_build_iff.mpr (Model.exists_build_iff.mp ⟨m₀, h₀⟩)
  · intro rules' tables' traits' mode' m h path
    obtain ⟨-, -, hbase, -⟩ := Model.build_eq_ok_iff.mp h₀
    obtain ⟨-, -, hlaid, -⟩ := Model.build_eq_ok_iff.mp h
    exact takesEffect hbase hlaid path

/-- A profile of two surfaces. -/
def stoneProfile : Profile where
  vehicle := .bicycle
  surfaces := .ofList [("psurface-slabs", ⟨⟨0.35, by decide⟩, none⟩),
    ("psurface-cobbles", ⟨⟨0.15, by decide⟩, none⟩)]

/-- Rules with two factors for slabs and one for cobbles. -/
def stoneRules : List SurfaceRule :=
  [.named "psurface-slabs" (.literal 0.85 0.85), .named "psurface-cobbles" (.literal 0.45 0.45),
    .named "psurface-slabs" (.literal 0.65 0.65)]

/-- The model of bicycles with other surface rules. -/
def bicycleOn (surfaces : List SurfaceRule) : Except (List Defect) Model :=
  Model.build (Vehicle.bicycle.defaults.rulesIn "") Vehicle.bicycle.defaults.tables surfaces
    Vehicle.bicycle.defaults.traits .clamp

/-- The profile sets the factor of cobbles, leaves that of slabs and knows nothing of sand. -/
theorem surfaces_take_effect_stone : ∃ m₀ m, bicycleOn stoneRules = .ok m₀ ∧
    bicycleOn (stoneProfile.applySurfaces stoneRules) = .ok m ∧
    (m.surfaceAt? (.ofName "psurface-cobbles")).map Factor.weight = some 0.15 ∧
    m.surfaceAt? (.ofName "psurface-slabs") = m₀.surfaceAt? (.ofName "psurface-slabs") ∧
    m.surfaceAt? (.ofName "psurface-sand") = none := by
  have hbuilt : ∃ m₀, bicycleOn stoneRules = .ok m₀ :=
    ⟨_, Model.build_eq_ok (Vehicle.bicycle.allDefects_defaults "")⟩
  obtain ⟨m₀, h₀⟩ := hbuilt
  obtain ⟨⟨m, hm⟩, heffect⟩ := surfaces_take_effect stoneProfile h₀
  have h := heffect _ _ _ _ m hm
  refine ⟨m₀, m, h₀, hm, ?_, (h (.ofName "psurface-slabs")).several (by decide),
    (h (.ofName "psurface-sand")).absent (by decide) (by decide)⟩
  rw [(h (.ofName "psurface-cobbles")).set "psurface-cobbles" ⟨⟨0.15, by decide⟩, none⟩
    (.tail _ (.head _)) rfl (by decide)]
  rfl

/-- On slabs, which have two rules, the factor that the profile sets does not take effect: it
replaces the first one, and the second one counts. -/
theorem repeated_surface_keeps_factor : ∃ m s,
    bicycleOn (stoneProfile.applySurfaces stoneRules) = .ok m ∧
    ("psurface-slabs", s) ∈ stoneProfile.surfaces.toList ∧ s.toFactor.weight = 0.35 ∧
    (m.surfaceAt? (.ofName "psurface-slabs")).map Factor.weight = some 0.65 ∧
    m.surfaceAt? (.ofName "psurface-slabs") ≠ some s.toFactor := by
  refine ⟨_, ⟨⟨0.35, by decide⟩, none⟩,
    Model.build_eq_ok (Vehicle.bicycle.allDefects_defaults ""), .head _, rfl, rfl, ?_⟩
  intro h
  have hweight : (0.65 : Float) = 0.35 := Option.some.inj (congrArg (Option.map Factor.weight) h)
  exact absurd hweight (by decide)

end Profile

end RoadSpeed
