import RoadSpeed.Proofs.Edge.Ways
import RoadSpeed.Proofs.Model.Agreement
import RoadSpeed.Proofs.Profile.Applicability
import RoadSpeed.Proofs.Profile.Surfaces

/-!
# What a profile leaves alone

A profile changes the entries that it has settings for and no others (specification, §4.6). Tags
whose category and surfaces it does not set have the speed that they have without it, and where
it sets the speed of a category it is this speed that the factors adjust.

- `Profile.Paves`: the factor of a path under a profile.
- `Profile.Spares`: a profile sets nothing that is read for a list of tags.
- `Model.profile_is_local`: the speeds of a class with a profile and without one.
-/

namespace RoadSpeed

/-! ## What a profile sets -/

/-- A surface that a class comes with has one factor. -/
theorem Vehicle.nodup_surfaces (v : Vehicle) :
    (v.defaults.surfaces.map SurfaceRule.path).Nodup := by
  cases v <;> decide +kernel

namespace Profile

/-- The factor of a path: the one that the profile sets or, if it sets none, that of the rules
below. -/
inductive Paves (p : Profile) (base : List SurfaceRule) (path : TagPath) : Factor → Prop where
  | set {name : String} {s : Setting Positive} (h : (name, s) ∈ p.surfaces.toList)
      (hpath : TagPath.ofName name = path) : Paves p base path s.toFactor
  | kept {factor : Factor} (h : ∀ name ∈ p.surfaces.keys, TagPath.ofName name ≠ path)
      (hbase : surfaceIn? base path = some factor) : Paves p base path factor

/-- A profile sets nothing that a model reads for the tags: no entry for their category, no
factor for one of their paths, and, off the roads, no speed there. -/
structure Spares (p : Profile) (m : Model) (t : Classification) (tags : List TagId) : Prop where
  category : ∀ c, m.resolveCategory t tags = some c → c ∉ p.speeds.keys ∧ c ∉ p.factors.keys
  surface : ∀ tag ∈ tags, ∀ path, t.path? tag = some path →
    ∀ name ∈ p.surfaces.keys, TagPath.ofName name ≠ path
  offroad : p.offroad = none ∨ (m.resolveCategory t tags).isSome = true

variable {p : Profile}

/-- Over rules for different paths, all factors are the ones that the profile or these say. -/
theorem paves_iff {base : List SurfaceRule} (hnodup : (base.map SurfaceRule.path).Nodup)
    {path : TagPath} {factor : Factor} :
    surfaceIn? (p.applySurfaces base) path = some factor ↔ p.Paves base path factor := by
  have hset {name : String} {s : Setting Positive} (hs : (name, s) ∈ p.surfaces.toList) :
      surfaceIn? (p.applySurfaces base) (TagPath.ofName name) = some s.toFactor := by
    rw [surfaceIn?_applySurfaces_of_mem hs, if_neg]
    exact List.nodup_iff_forall_not_duplicate.mp hnodup _
  constructor
  · intro h
    rcases p.surface_cases path with ⟨name, s, hs, rfl⟩ | hnone
    · rw [hset hs] at h
      cases h
      exact .set hs rfl
    · rw [surfaceIn?_applySurfaces_of_forall_ne hnone] at h
      exact .kept hnone h
  · rintro (⟨hs, rfl⟩ | ⟨hnone, hbase⟩)
    · exact hset hs
    · rw [surfaceIn?_applySurfaces_of_forall_ne hnone, hbase]

end Profile

/-! ## Models with a profile -/

namespace Model

variable {v : Vehicle} {country : String} {p : Profile} {mode : LimitMode} {m n : Model}
variable {t : Classification} {tags : List TagId}

/-- A model that a profile tunes has the parts of the class with the profile laid over them. -/
theorem parts_of_tuned (h : create v country (some p) mode = .ok m) :
    m.tables = p.applyTables v.defaults.tables ∧
      m.surfaces = p.applySurfaces v.defaults.surfaces ∧
        m.offroad = p.applyOffroad v.defaults.traits.offroad ∧ m.mode = mode := by
  obtain ⟨-, htuned⟩ := create_tuned_iff.mp h
  obtain ⟨-, htables, hsurfaces, htraits, hmode⟩ := of_defaults_iff.mp htuned
  exact ⟨htables, hsurfaces, congrArg Traits.offroad htraits, hmode⟩

/-- Where a profile sets nothing that is read, the speeds are those without it. -/
theorem resolveSpeed_of_spares (hm : create v country (some p) mode = .ok m)
    (hn : create v country none mode = .ok n) (h : p.Spares n t tags) (trip : Trip) :
    m.resolveSpeed t tags trip = n.resolveSpeed t tags trip := by
  obtain ⟨htables, hsurfaces, hoffroad, hmode⟩ := parts_of_tuned hm
  obtain ⟨-, hplainTables, hplainSurfaces, hplainTraits, hplainMode⟩ := of_defaults_iff.mp hn
  have hrules := sameRules_create hm hn
  -- all that a speed hangs on is the same: rule, surface, limit, entries and offroad speed
  refine resolveSpeed_congr ⟨by rw [hrules.resolveRule_eq], ?_, ?_,
    .inr (hmode.trans hplainMode.symm), ?_, ?_⟩
  · refine surfaceFactor_congr_paths fun tag htag path hpath => ?_
    rw [surfaceAt?_eq, surfaceAt?_eq, hsurfaces, hplainSurfaces,
      Profile.surfaceIn?_applySurfaces_of_forall_ne (h.surface tag htag path hpath)]
  · rw [limitInForce, limitInForce, hrules.traits]
  · intro c hc
    obtain ⟨hspeed, hfactor⟩ := h.category c hc
    rw [htables, hplainTables, p.get?_speeds_applyTables, p.get?_factors_applyTables,
      Table.get?_eq_none_iff.mpr hspeed, Table.get?_eq_none_iff.mpr hfactor]
    exact ⟨rfl, rfl⟩
  · intro hnone
    have hunset : p.offroad = none := by
      rcases h.offroad with hunset | hroad
      · exact hunset
      · rw [hnone] at hroad
        cases hroad
    rw [hoffroad, offroad, hplainTraits, Profile.applyOffroad, hunset]

/-- Where no limit is in force, the speed of a category that a profile sets is what it sets,
adjusted by the factors of the category and of the surface. -/
theorem resolveSpeed_of_set (hm : create v country (some p) mode = .ok m) {c : Category}
    {s : AreaSetting NonNegative} {trip : Trip} (hc : m.resolveCategory t tags = some c)
    (hs : p.speeds.get? c = some s) (hlimit : m.InForce trip none) :
    ∃ speed factor, m.resolveSpeed t tags trip = .ok speed ∧
      ((p.factors.get? c).map AreaSetting.toFactors).or (v.defaults.tables.factors.get? c) =
        some factor ∧
      speed.weight = (s.toSpeeds.get trip.inCity).weight * (factor.get trip.inCity).weight *
        (m.surfaceFactor t tags).weight ∧
      speed.eta = (s.toSpeeds.get trip.inCity).eta * (factor.get trip.inCity).eta *
        (m.surfaceFactor t tags).eta := by
  obtain ⟨htables, -⟩ := parts_of_tuned hm
  obtain ⟨rule, hrule, rfl⟩ := Option.map_eq_some_iff.mp hc
  obtain ⟨base, factor, hbase, hfactor⟩ := m.exists_entries (mem_rules_of_resolveRule hrule)
  obtain ⟨speed, hspeed, hweight, heta⟩ := resolveSpeed_eq_ok hrule hlimit hbase hfactor
  rw [htables, p.get?_speeds_applyTables, hs] at hbase
  rw [htables, p.get?_factors_applyTables] at hfactor
  cases hbase
  exact ⟨speed, factor, hspeed, hfactor, hweight, heta⟩

/-- A profile does not change the category of tags. It changes their speed only where it sets
something that is read for them. Where it sets the speed of their category and no limit is in
force, this is adjusted by the factor of the category, set or not, and by that of the rightmost
surface, whose factor is the one that is set or else the one that the class comes with. -/
theorem profile_is_local (hm : create v country (some p) mode = .ok m)
    (hn : create v country none mode = .ok n) (t : Classification) (tags : List TagId) :
    m.resolveCategory t tags = n.resolveCategory t tags ∧
    (p.Spares n t tags → ∀ trip, m.resolveSpeed t tags trip = n.resolveSpeed t tags trip) ∧
    ∀ c s trip, m.resolveCategory t tags = some c → p.speeds.get? c = some s →
      m.InForce trip none → ∃ speed factor surface, m.resolveSpeed t tags trip = .ok speed ∧
        ((p.factors.get? c).map AreaSetting.toFactors).or (v.defaults.tables.factors.get? c) =
          some factor ∧
        m.Surfaced t tags surface ∧
        (∀ path f, m.surfaceAt? path = some f ↔ p.Paves v.defaults.surfaces path f) ∧
        speed.weight = (s.toSpeeds.get trip.inCity).weight * (factor.get trip.inCity).weight *
          surface.weight ∧
        speed.eta = (s.toSpeeds.get trip.inCity).eta * (factor.get trip.inCity).eta *
          surface.eta := by
  refine ⟨(sameRules_create hm hn).sameAccess.category t tags, resolveSpeed_of_spares hm hn, ?_⟩
  intro c s trip hc hs hlimit
  obtain ⟨-, hsurfaces, -⟩ := parts_of_tuned hm
  obtain ⟨speed, factor, hspeed, hfactor, hweight, heta⟩ := resolveSpeed_of_set hm hc hs hlimit
  refine ⟨speed, factor, _, hspeed, hfactor, surfaceFactor_eq_iff.mp rfl, ?_, hweight, heta⟩
  -- the surfaces of the model are those of the class with the ones of the profile laid over
  intro path f
  rw [surfaceAt?_eq, hsurfaces, Profile.paves_iff v.nodup_surfaces]

/-- A profile for bicycles on cycleways, in mud and off the roads. -/
def mudProfile : Profile where
  vehicle := .bicycle
  speeds := .ofList [(.cycleway, ⟨⟨⟨21.5, by decide⟩, none⟩, none⟩)]
  factors := .ofList [(.cycleway, ⟨⟨⟨0.55, by decide⟩, none⟩, none⟩)]
  surfaces := .ofList [("psurface-mud", ⟨⟨0.275, by decide⟩, none⟩)]
  offroad := some ⟨⟨2.25, by decide⟩, none⟩

/-- A taxonomy of primary roads, a surface that bicycles know, cycleways and mud. -/
def mudTaxonomy : Taxonomy :=
  (((Taxonomy.empty.see Category.primary.place).see (.ofName "psurface-paved_bad")).see
    Category.cycleway.place).see (.ofName "psurface-mud")

/-- The profile leaves paved primary roads alone and sets the speed of a muddy cycleway. -/
theorem profile_is_local_mud : ∃ m n, create .bicycle "" (some mudProfile) .clamp = .ok m ∧
    create .bicycle "" none .clamp = .ok n ∧
    (∀ trip, m.resolveSpeed mudTaxonomy [1, 2] trip = n.resolveSpeed mudTaxonomy [1, 2] trip) ∧
    ∃ speed, m.resolveSpeed mudTaxonomy [3, 4] default = .ok speed ∧
      speed.weight = 21.5 * 0.55 * 0.275 := by
  let t := mudTaxonomy.classification
  obtain ⟨m, hm⟩ : ∃ m, create .bicycle "" (some mudProfile) .clamp = .ok m :=
    exists_create_iff.mpr ⟨rfl, by decide +kernel⟩
  have hn := create_eq_ok .bicycle "" .clamp
  refine ⟨m, _, hm, hn, ?_, ?_⟩
  · obtain ⟨-, hspared, -⟩ := profile_is_local hm hn t [1, 2]
    have hpaths : ∀ tag ∈ [1, 2], ∀ name ∈ mudProfile.surfaces.keys,
        t.path? tag ≠ some (.ofName name) := by decide +kernel
    refine hspared ⟨?_, ?_, .inr (by decide +kernel)⟩
    · decide +kernel
    · intro tag htag path hpath name hname hsame
      exact hpaths tag htag name hname (hpath.trans (congrArg some hsame.symm))
  · -- the tags of a muddy cycleway, for both of which the profile has settings
    obtain ⟨hcategory, -, hset⟩ := profile_is_local hm hn t [3, 4]
    have hunbound : m.traits.respectsLimits = false := by
      rw [traits_create hm]
      rfl
    obtain ⟨speed, factor, surface, hspeed, hfactor, hsurface, hpaves, hweight, -⟩ :=
      hset .cycleway _ default (hcategory.trans (by decide +kernel)) rfl (.unbound hunbound)
    have hmud := (hpaves (.ofName "psurface-mud") _).mpr (.set (.head _) rfl)
    have hrightmost := surfaceOf_iff.mp (Option.bind_eq_some_iff.mpr ⟨_, rfl, hmud⟩ :
      (t.path? 4).bind m.surfaceAt? = some _)
    have hfound : m.Surfaced t [3, 4] _ := .surface ⟨[3], 4, [], rfl, hrightmost, by simp⟩
    obtain rfl := (surfaceFactor_eq_iff.mpr hsurface).symm.trans (surfaceFactor_eq_iff.mpr hfound)
    cases hfactor
    exact ⟨speed, hspeed, hweight⟩

end Model

end RoadSpeed
