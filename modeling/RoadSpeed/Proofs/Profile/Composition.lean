import RoadSpeed.Proofs.Profile.Surfaces

/-!
# Profiles one after another

To lay two profiles over tables, surface rules and an offroad speed in turn is to lay one profile
over them at once: the first one with the settings of the second one written over its own. A
profile that is laid over what it has been laid over changes nothing any more. Both hold entry by
entry and in order, also over lists with several rules for a path, of which only the first one is
ever replaced.

- `find?_overlay`, `filter_overlay`: the rule for a path, and all rules but those for a path.
- `overlay_overlay`, `overlay_self`: rules laid over others one after another.
- `Profile.override`: a profile with the settings of another one written over its own.
- `Profile.applySurfaces_override`: its surface rules.
- `Profile.applications_compose`: profiles one after another.
-/

namespace RoadSpeed

/-! ## Rules one after another -/

@[simp] theorem SurfaceRule.path_named (name : String) (factor : Factor) :
    (SurfaceRule.named name factor).path = TagPath.ofName name := rfl

section Overlay

variable {pending : List SurfaceRule} {r : SurfaceRule} {path other : TagPath}

theorem overlay_nil (base : List SurfaceRule) : overlay [] base = base := by
  induction base with
  | nil => rfl
  | cons r base ih => exact congrArg (r :: ·) ih

/-- Striking the rules for a path leaves the one for another path. -/
theorem find?_strike_of_ne (h : path ≠ other) (rules : List SurfaceRule) :
    (rules.filter fun r => r.path ≠ other).find? (fun r => r.path = path) =
      rules.find? fun r => r.path = path := by
  rw [List.find?_filter]
  refine congrArg (fun p => rules.find? p) (funext fun r => ?_)
  by_cases hr : r.path = path
  · simp [hr, h]
  · simp [hr]

theorem strike_of_find?_eq_none (h : pending.find? (fun r => r.path = path) = none) :
    (pending.filter fun r => r.path ≠ path) = pending := by
  refine List.filter_eq_self.mpr fun r hr => ?_
  simpa using List.find?_eq_none.mp h r hr

/-- It makes no difference which of two paths is struck first. -/
theorem strike_comm (path other : TagPath) (rules : List SurfaceRule) :
    ((rules.filter fun r => r.path ≠ path).filter fun r => r.path ≠ other) =
      (rules.filter fun r => r.path ≠ other).filter fun r => r.path ≠ path := by
  rw [List.filter_filter, List.filter_filter]
  refine List.filter_congr fun r _ => Bool.and_comm _ _

/-- The rules that are laid over others come first where the rule for a path is looked for. -/
theorem find?_overlay (path : TagPath) (pending base : List SurfaceRule) :
    (overlay pending base).find? (fun r => r.path = path) =
      (pending.find? fun r => r.path = path).or (base.find? fun r => r.path = path) := by
  -- on the base, for all pending rules, as each rule of the base may take one of them
  induction base generalizing pending with
  | nil => exact Option.or_none.symm
  | cons r base ih =>
    cases hfound : pending.find? fun p => p.path = r.path with
    | none =>
      rw [overlay_cons_of_none hfound]
      by_cases hpath : r.path = path
      · subst hpath
        rw [hfound, List.find?_cons_of_pos (by simp), List.find?_cons_of_pos (by simp),
          Option.none_or]
      · rw [List.find?_cons_of_neg (by simpa using hpath),
          List.find?_cons_of_neg (by simpa using hpath), ih]
    | some p =>
      have hp : p.path = r.path := by simpa using List.find?_some hfound
      rw [overlay_cons_of_found hfound]
      by_cases hpath : r.path = path
      · subst hpath
        rw [hfound, List.find?_cons_of_pos (by simpa using hp), Option.some_or]
      · rw [List.find?_cons_of_neg (by simpa [hp] using hpath),
          List.find?_cons_of_neg (by simpa using hpath), ih,
          find?_strike_of_ne (Ne.symm hpath)]

/-- To strike the rules for a path is to strike them above and below. -/
theorem filter_overlay (path : TagPath) (pending base : List SurfaceRule) :
    ((overlay pending base).filter fun r => r.path ≠ path) =
      overlay (pending.filter fun r => r.path ≠ path) (base.filter fun r => r.path ≠ path) := by
  -- on the base; a rule for the path goes from both sides together
  induction base generalizing pending with
  | nil => rfl
  | cons r base ih =>
    cases hfound : pending.find? fun p => p.path = r.path with
    | none =>
      rw [overlay_cons_of_none hfound]
      by_cases hpath : r.path = path
      · rw [List.filter_cons_of_neg (by simpa using hpath),
          List.filter_cons_of_neg (by simpa using hpath), ih]
      · have hfound' := (find?_strike_of_ne hpath pending).trans hfound
        rw [List.filter_cons_of_pos (by simpa using hpath),
          List.filter_cons_of_pos (by simpa using hpath), overlay_cons_of_none hfound', ih]
    | some p =>
      have hp : p.path = r.path := by simpa using List.find?_some hfound
      rw [overlay_cons_of_found hfound]
      by_cases hpath : r.path = path
      · -- what is pending for the path is struck with the rule that it would replace
        subst hpath
        rw [List.filter_cons_of_neg (by simpa using hp), List.filter_cons_of_neg (by simp), ih,
          List.filter_filter]
        simp only [Bool.and_self]
      · have hfound' := (find?_strike_of_ne hpath pending).trans hfound
        rw [List.filter_cons_of_pos (by simpa [hp] using hpath),
          List.filter_cons_of_pos (by simpa using hpath), overlay_cons_of_found hfound', ih,
          strike_comm]

/-- To lay rules over others in turn is to lay them over these at once. -/
theorem overlay_overlay (qs ps base : List SurfaceRule) :
    overlay qs (overlay ps base) = overlay (overlay qs ps) base := by
  -- on the base: whether a rule is replaced twice, once or not at all, what is pending is the same
  induction base generalizing qs ps with
  | nil => rfl
  | cons r base ih =>
    have hboth := find?_overlay r.path qs ps
    cases hp : ps.find? fun p => p.path = r.path with
    | none =>
      rw [overlay_cons_of_none hp]
      rw [hp, Option.or_none] at hboth
      cases hq : qs.find? fun q => q.path = r.path with
      | none => rw [overlay_cons_of_none hq, overlay_cons_of_none (hboth.trans hq), ih]
      | some q =>
        rw [overlay_cons_of_found hq, overlay_cons_of_found (hboth.trans hq), filter_overlay,
          strike_of_find?_eq_none hp, ih]
    | some p =>
      have hpath : p.path = r.path := by simpa using List.find?_some hp
      rw [overlay_cons_of_found hp]
      cases hq : qs.find? fun q => q.path = r.path with
      | none =>
        rw [hq, hp, Option.none_or] at hboth
        rw [← hpath] at hq
        rw [overlay_cons_of_none hq, overlay_cons_of_found hboth, filter_overlay, ← hpath,
          strike_of_find?_eq_none hq, ih]
      | some q =>
        rw [hq, Option.some_or] at hboth
        rw [← hpath] at hq
        rw [overlay_cons_of_found hq, overlay_cons_of_found hboth, filter_overlay, hpath, ih]

/-- Rules laid over themselves: the invariant is that the rules which are still pending are those
for paths that have not come yet. -/
theorem overlay_filter_self (keep : TagPath → Bool) (rules : List SurfaceRule) :
    overlay (rules.filter fun r => keep r.path) rules = rules := by
  -- on the rules; the pending ones are those that are still to come, by the paths that are kept
  induction rules generalizing keep with
  | nil => rfl
  | cons r rules ih =>
    by_cases hkeep : keep r.path = true
    · have hfirst : ((r :: rules).filter fun r => keep r.path) =
          r :: rules.filter fun r => keep r.path := List.filter_cons_of_pos hkeep
      rw [hfirst, overlay_cons_of_found (List.find?_cons_of_pos (by simp)),
        List.filter_cons_of_neg (by simp), List.filter_filter]
      exact congrArg (r :: ·) (ih fun path => decide (path ≠ r.path) && keep path)
    · have hrest : ((r :: rules).filter fun r => keep r.path) =
          rules.filter fun r => keep r.path := List.filter_cons_of_neg hkeep
      have hnone : (rules.filter fun r => keep r.path).find? (fun p => p.path = r.path) = none := by
        rw [List.find?_eq_none]
        intro p hp hpath
        have hp' := (List.mem_filter.mp hp).2
        rw [of_decide_eq_true hpath] at hp'
        exact hkeep hp'
      rw [hrest, overlay_cons_of_none hnone, ih]

theorem overlay_self (rules : List SurfaceRule) : overlay rules rules = rules := by
  have h := overlay_filter_self (fun _ => true) rules
  rwa [List.filter_true] at h

end Overlay

theorem SpeedTables.override_assoc (s t u : SpeedTables) :
    (s.override t).override u = s.override (t.override u) := by
  unfold override
  rw [Table.override_assoc, Table.override_assoc]

theorem SpeedTables.override_self (t : SpeedTables) : t.override t = t := by
  unfold override
  rw [Table.override_self, Table.override_self]

theorem Table.map_override {κ α β : Type} [DecidableEq κ] (f : κ → α → β) (t u : Table κ α) :
    (t.override u).map f = (t.map f).override (u.map f) := by
  refine eq_of_keys_of_get? ?_ ?_
  · rw [keys_map, keys_override, keys_override, keys_map, keys_map]
  · intro k
    rw [get?_map, get?_override, get?_override_map, get?_map, Option.map_or]

/-! ## A profile over another one -/

namespace Profile

/-- The profile with the settings of another one written over its own. What the other one leaves
out stays. -/
def override (p q : Profile) : Profile where
  vehicle := p.vehicle
  speeds := p.speeds.override q.speeds
  factors := p.factors.override q.factors
  surfaces := p.surfaces.override q.surfaces
  offroad := q.offroad.or p.offroad
  surface_names name h :=
    (Table.mem_keys_override_iff.mp h).elim (p.surface_names name) (q.surface_names name)

variable (p q : Profile)

theorem tables_override : (p.override q).tables = p.tables.override q.tables := by
  unfold tables SpeedTables.override override
  rw [Table.map_override, Table.map_override]

/-- The rules of surfaces with settings. -/
def surfaceRulesOf (entries : List (String × Setting Positive)) : List SurfaceRule :=
  entries.map fun e => .named e.1 e.2.toFactor

/-- To write a setting is to lay its rule over the others. -/
theorem surfaceRulesOf_put (name : String) (s : Setting Positive)
    (entries : List (String × Setting Positive)) :
    surfaceRulesOf (Entries.put name s entries) =
      overlay [.named name s.toFactor] (surfaceRulesOf entries) := by
  induction entries with
  | nil => rfl
  | cons e entries ih =>
    obtain ⟨name', s'⟩ := e
    have hcons : surfaceRulesOf ((name', s') :: entries) =
        .named name' s'.toFactor :: surfaceRulesOf entries := rfl
    rw [Entries.put, hcons]
    -- a name that is written again keeps its place in both lists
    by_cases hname : name' = name
    · subst hname
      rw [if_pos rfl, overlay_cons_of_found (List.find?_cons_of_pos (by simp)),
        List.filter_cons_of_neg (by simp), List.filter_nil, overlay_nil]
      rfl
    · have hother : [SurfaceRule.named name s.toFactor].find?
          (fun r => r.path = (SurfaceRule.named name' s'.toFactor).path) = none := by
        refine List.find?_cons_of_neg fun h => hname ?_
        exact (TagPath.ofName_injective (of_decide_eq_true h)).symm
      rw [if_neg hname, overlay_cons_of_none hother, ← ih]
      rfl

/-- To write settings for different surfaces is to lay their rules over the others. -/
theorem surfaceRulesOf_foldl_put (new : List (String × Setting Positive))
    (hnodup : (new.map Prod.fst).Nodup) (entries : List (String × Setting Positive)) :
    surfaceRulesOf (new.foldl (fun es e => Entries.put e.1 e.2 es) entries) =
      overlay (surfaceRulesOf new) (surfaceRulesOf entries) := by
  induction new generalizing entries with
  | nil => exact (overlay_nil _).symm
  | cons e new ih =>
    rw [List.map_cons, List.nodup_cons] at hnodup
    have hnone : (surfaceRulesOf new).find?
        (fun r => r.path = (SurfaceRule.named e.1 e.2.toFactor).path) = none := by
      rw [List.find?_eq_none]
      intro r hr hpath
      obtain ⟨e', he', rfl⟩ := List.mem_map.mp hr
      have hname : e'.1 = e.1 := TagPath.ofName_injective (of_decide_eq_true hpath)
      exact hnodup.1 (List.mem_map.mpr ⟨e', he', hname⟩)
    have hall : overlay (surfaceRulesOf new) [.named e.1 e.2.toFactor] =
        surfaceRulesOf (e :: new) := overlay_cons_of_none hnone []
    rw [List.foldl_cons, ih hnodup.2, surfaceRulesOf_put, overlay_overlay, hall]

theorem surfaceRules_override :
    (p.override q).surfaceRules = overlay q.surfaceRules p.surfaceRules := by
  have hentries : (p.override q).surfaces.toList = _ :=
    Table.toList_putAll p.surfaces q.surfaces.toList
  show surfaceRulesOf (p.override q).surfaces.toList = _
  rw [hentries]
  exact surfaceRulesOf_foldl_put _ q.surfaces.nodup_keys _

/-! ## Profiles one after another -/

theorem applyTables_override (base : SpeedTables) :
    (p.override q).applyTables base = q.applyTables (p.applyTables base) := by
  unfold applyTables
  rw [tables_override, SpeedTables.override_assoc]

theorem applySurfaces_override (base : List SurfaceRule) :
    (p.override q).applySurfaces base = q.applySurfaces (p.applySurfaces base) := by
  unfold applySurfaces
  rw [surfaceRules_override, overlay_overlay]

theorem applyOffroad_override (base : Speed) :
    (p.override q).applyOffroad base = q.applyOffroad (p.applyOffroad base) := by
  unfold applyOffroad override
  cases q.offroad with
  | none => rfl
  | some s => rfl

theorem applyTables_self (base : SpeedTables) :
    p.applyTables (p.applyTables base) = p.applyTables base := by
  unfold applyTables
  rw [SpeedTables.override_assoc, SpeedTables.override_self]

theorem applySurfaces_self (base : List SurfaceRule) :
    p.applySurfaces (p.applySurfaces base) = p.applySurfaces base := by
  unfold applySurfaces
  rw [overlay_overlay, overlay_self]

theorem applyOffroad_self (base : Speed) :
    p.applyOffroad (p.applyOffroad base) = p.applyOffroad base := by
  unfold applyOffroad
  cases p.offroad with
  | none => rfl
  | some s => rfl

/-- A profile that is laid over what it has been laid over changes nothing there: keys, rules and
their order stay. To lay two profiles over tables in turn is to write over these what the first one
sets, with what the second one sets written over it, and one profile does this at once, also to
surface rules and to the speed off the roads. -/
theorem applications_compose (p q : Profile) (tables : SpeedTables) (surfaces : List SurfaceRule)
    (offroad : Speed) :
    (p.applyTables (p.applyTables tables) = p.applyTables tables ∧
      p.applySurfaces (p.applySurfaces surfaces) = p.applySurfaces surfaces ∧
      p.applyOffroad (p.applyOffroad offroad) = p.applyOffroad offroad) ∧
    q.applyTables (p.applyTables tables) = tables.override (p.tables.override q.tables) ∧
    q.applyTables (p.applyTables tables) = (p.override q).applyTables tables ∧
    q.applySurfaces (p.applySurfaces surfaces) = (p.override q).applySurfaces surfaces ∧
    q.applyOffroad (p.applyOffroad offroad) = (p.override q).applyOffroad offroad := by
  refine ⟨⟨p.applyTables_self tables, p.applySurfaces_self surfaces, p.applyOffroad_self offroad⟩,
    ?_, (p.applyTables_override q tables).symm, (p.applySurfaces_override q surfaces).symm,
    (p.applyOffroad_override q offroad).symm⟩
  exact SpeedTables.override_assoc tables p.tables q.tables

end Profile

end RoadSpeed
