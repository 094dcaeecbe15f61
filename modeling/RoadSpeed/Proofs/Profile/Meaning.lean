import RoadSpeed.Defaults
import RoadSpeed.Profile.Basic
import RoadSpeed.Proofs.Profile.RoundTrip

/-!
# What a profile read back means

A profile that is read back from its text may have lost etas (specification, §4.6). An eta that
is left out is the weight, and a weight that is read back is finite, so that a lost eta shows in
whatever tables, surface rules and offroad speed the profile is laid over.

- `Setting.etaInForce_written_iff`: the eta in force of one setting.
- `Table.override_map_eq_iff`, `overlay_map_eq_iff`: what is laid over tables and
  lists of rules shows there.
- `Profile.AgreesOn`: two profiles laid over the same.
- `Profile.agreesOn_of_parse_dump_iff`: a profile and what its text is read as mean the
  same exactly when all etas are finite.
-/

namespace RoadSpeed

variable {Bounds : Float → Prop}

/-! ## Settings -/

namespace Setting

/-- Without an eta that has no text, the eta in force is another one. -/
theorem etaInForce_written_iff {s : Setting Bounds} (h : s.HasFiniteWeight) :
    s.etaInForce = s.written.etaInForce ↔ s.HasFiniteEta := by
  obtain ⟨w, eta⟩ := s
  cases eta with
  | none =>
    refine iff_of_true rfl ?_
    rintro e ⟨⟩
  | some e =>
    by_cases hfin : e.val.isFinite = true
    · have heta : (Setting.mk w (some e)).HasFiniteEta := by
        rintro _ ⟨⟩
        exact hfin
      rw [written_eq_self_iff.mpr heta]
      exact iff_of_true rfl heta
    · -- the weight takes the place of the eta that is lost, and it is finite
      have hlost : (Setting.mk w (some e)).written = ⟨w, none⟩ := by
        simp [written, Option.filter, hfin]
      have hne : e ≠ w := by
        rintro rfl
        exact hfin h
      rw [hlost]
      exact iff_of_false hne fun heta => hfin (heta e rfl)

theorem toSpeed_written_iff {s : Setting NonNegative} (h : s.HasFiniteWeight) :
    s.toSpeed = s.written.toSpeed ↔ s.HasFiniteEta := by
  rw [← etaInForce_written_iff h, Speed.ext_iff]
  exact ⟨fun heq => Subtype.ext heq.2, fun heq => ⟨rfl, congrArg Subtype.val heq⟩⟩

theorem toFactor_written_iff {s : Setting Positive} (h : s.HasFiniteWeight) :
    s.toFactor = s.written.toFactor ↔ s.HasFiniteEta := by
  rw [← etaInForce_written_iff h, Factor.ext_iff]
  exact ⟨fun heq => Subtype.ext heq.2, fun heq => ⟨rfl, congrArg Subtype.val heq⟩⟩

end Setting

namespace AreaSetting

/-- Whatever settings mean, area settings mean the same when their settings do. -/
theorem inForce_written_iff {α : Type} {meaning : Setting Bounds → α}
    (hmeaning : ∀ s : Setting Bounds, s.HasFiniteWeight →
      (meaning s = meaning s.written ↔ s.HasFiniteEta))
    {s : AreaSetting Bounds} (h : s.Each Setting.HasFiniteWeight) :
    s.inForce.map meaning = s.written.inForce.map meaning ↔ s.Each Setting.HasFiniteEta := by
  obtain ⟨i, o⟩ := s
  have hin := hmeaning i h.1
  cases o with
  | none => simp [written, inForce, ByArea.map, Each, hin]
  | some t => simp [written, inForce, ByArea.map, Each, hin, hmeaning t (h.2 t rfl)]

end AreaSetting

/-! ## Laying over -/

/-- Tables with the same keys show in an override where their values differ. -/
theorem Table.override_map_eq_iff {κ α β : Type} [DecidableEq κ] (base : Table κ β)
    (t : Table κ α) (f g : κ → α → β) :
    base.override (t.map f) = base.override (t.map g) ↔ ∀ e ∈ t.toList, f e.1 e.2 = g e.1 e.2 := by
  constructor
  · rintro h ⟨k, a⟩ he
    have hget := congrArg (fun u : Table κ β => u.get? k) h
    simpa [get?_override, get?_map, mem_toList_iff.mp he] using hget
  · intro h
    have hmap : t.map f = t.map g := by
      refine eq_of_toList_eq (List.map_congr_left ?_)
      intro e he
      rw [h e he]
    rw [hmap]

/-- Rules for the same paths show in an overlay where their factors differ: each rule
of either list stands at the same place, whether it replaces another or is appended. -/
theorem overlay_map_eq_iff {ι : Type} (path : ι → TagPath) (f g : ι → Factor)
    (base : List SurfaceRule) :
    ∀ pending : List ι, (∀ i ∈ pending, ∀ j ∈ pending, path i = path j → i = j) →
      (overlay (pending.map fun i => ⟨path i, f i⟩) base =
        overlay (pending.map fun i => ⟨path i, g i⟩) base ↔ ∀ i ∈ pending, f i = g i) := by
  induction base with
  | nil =>
    intro pending _
    simp [overlay]
  | cons r base ih =>
    intro pending hinj
    have hfind : ∀ h : ι → Factor, (pending.map fun i => SurfaceRule.mk (path i) (h i)).find?
        (fun p => p.path = r.path) =
          (pending.find? fun i => path i = r.path).map fun i => ⟨path i, h i⟩ :=
      fun h => List.find?_map
    have hfilter : ∀ h : ι → Factor, (pending.map fun i => SurfaceRule.mk (path i) (h i)).filter
        (fun p => p.path ≠ r.path) =
          (pending.filter fun i => path i ≠ r.path).map fun i => ⟨path i, h i⟩ :=
      fun h => List.filter_map
    rw [overlay, overlay, hfind, hfind]
    cases hfound : pending.find? fun i => path i = r.path with
    | none =>
      simp only [Option.map_none, List.cons.injEq, true_and]
      exact ih pending hinj
    | some i =>
      have hi := List.mem_of_find?_eq_some hfound
      have hpath : path i = r.path := by simpa using List.find?_some hfound
      simp only [Option.map_some, hfilter, List.cons.injEq, SurfaceRule.mk.injEq, true_and]
      rw [ih _ fun j hj k hk => hinj j (List.mem_of_mem_filter hj) k (List.mem_of_mem_filter hk)]
      constructor
      · rintro ⟨hhead, hrest⟩ j hj
        -- the rule that replaces `r` is the only one for its path
        by_cases heq : path j = r.path
        · rw [hinj j hj i hi (heq.trans hpath.symm), hhead]
        · exact hrest j (List.mem_filter.mpr ⟨hj, by simpa using heq⟩)
      · intro h
        refine ⟨h i hi, ?_⟩
        intro j hj
        exact h j (List.mem_of_mem_filter hj)

/-! ## Profiles -/

namespace Profile

/-- Two profiles have the same effect on these tables, surface rules and offroad speed. -/
def AgreesOn (p q : Profile) (tables : SpeedTables) (surfaces : List SurfaceRule)
    (offroad : Speed) : Prop :=
  p.applyTables tables = q.applyTables tables ∧
    p.applySurfaces surfaces = q.applySurfaces surfaces ∧
      p.applyOffroad offroad = q.applyOffroad offroad

theorem tables_written (p : Profile) : p.written.tables =
    ⟨p.speeds.map fun _ s => s.written.toSpeeds, p.factors.map fun _ s => s.written.toFactors⟩ := by
  unfold tables written
  rw [Table.map_map, Table.map_map]

theorem surfaceRules_written (p : Profile) : p.written.surfaceRules =
    p.surfaces.toList.map fun e => .named e.1 e.2.written.toFactor := by
  show List.map _ (List.map _ _) = _
  rw [List.map_map]
  rfl

theorem applyTables_written_iff {p : Profile} (h : p.Each Setting.HasFiniteWeight)
    (tables : SpeedTables) :
    p.applyTables tables = p.written.applyTables tables ↔
      (∀ e ∈ p.speeds.toList, e.2.Each Setting.HasFiniteEta) ∧
        ∀ e ∈ p.factors.toList, e.2.Each Setting.HasFiniteEta := by
  have hspeeds : ∀ s : AreaSetting NonNegative, s.Each Setting.HasFiniteWeight →
      (s.toSpeeds = s.written.toSpeeds ↔ s.Each Setting.HasFiniteEta) := fun s hs =>
    AreaSetting.inForce_written_iff (fun _ => Setting.toSpeed_written_iff) hs
  have hfactors : ∀ s : AreaSetting Positive, s.Each Setting.HasFiniteWeight →
      (s.toFactors = s.written.toFactors ↔ s.Each Setting.HasFiniteEta) := fun s hs =>
    AreaSetting.inForce_written_iff (fun _ => Setting.toFactor_written_iff) hs
  -- the two tables of settings are compared apart
  have htables : p.applyTables tables = p.written.applyTables tables ↔
      tables.speeds.override (p.speeds.map fun _ s => s.toSpeeds) =
          tables.speeds.override (p.speeds.map fun _ s => s.written.toSpeeds) ∧
        tables.factors.override (p.factors.map fun _ s => s.toFactors) =
          tables.factors.override (p.factors.map fun _ s => s.written.toFactors) := by
    rw [applyTables, applyTables, tables_written]
    exact SpeedTables.mk.injEq .. ▸ Iff.rfl
  rw [htables, Table.override_map_eq_iff, Table.override_map_eq_iff]
  exact and_congr (forall₂_congr fun e he => hspeeds e.2 (h.speeds e he))
    (forall₂_congr fun e he => hfactors e.2 (h.factors e he))

theorem applySurfaces_written_iff {p : Profile} (h : p.Each Setting.HasFiniteWeight)
    (surfaces : List SurfaceRule) :
    p.applySurfaces surfaces = p.written.applySurfaces surfaces ↔
      ∀ e ∈ p.surfaces.toList, e.2.HasFiniteEta := by
  have hpath : ∀ e ∈ p.surfaces.toList, ∀ e' ∈ p.surfaces.toList,
      TagPath.ofName e.1 = TagPath.ofName e'.1 → e = e' := by
    rintro ⟨name, s⟩ he ⟨name', s'⟩ he' heq
    have hname : name = name' := by
      rw [← TagPath.toName_ofName name, heq, TagPath.toName_ofName]
    subst hname
    have hget := Table.mem_toList_iff.mp he
    rw [Table.mem_toList_iff.mp he'] at hget
    rw [Option.some.inj hget]
  rw [applySurfaces, applySurfaces, surfaceRules_written, surfaceRules]
  refine (overlay_map_eq_iff (fun e : String × Setting Positive => TagPath.ofName e.1)
    (fun e => e.2.toFactor) (fun e => e.2.written.toFactor) surfaces _ hpath).trans ?_
  exact forall₂_congr fun e he => Setting.toFactor_written_iff (h.surfaces e he)

theorem applyOffroad_written_iff {p : Profile} (h : p.Each Setting.HasFiniteWeight)
    (offroad : Speed) :
    p.applyOffroad offroad = p.written.applyOffroad offroad ↔
      ∀ s ∈ p.offroad, s.HasFiniteEta := by
  rw [applyOffroad, applyOffroad, written]
  cases hoff : p.offroad with
  | none => simp
  | some s => simpa using Setting.toSpeed_written_iff (h.offroad s hoff)

/-- A profile and what its text is read as have the same effect exactly when all etas
are finite, whatever they are laid over. -/
theorem agreesOn_of_parse_dump_iff {p q : Profile} (h : parse p.dump = .ok q)
    (tables : SpeedTables) (surfaces : List SurfaceRule) (offroad : Speed) :
    p.AgreesOn q tables surfaces offroad ↔ p.Each Setting.HasFiniteEta := by
  obtain ⟨hweight, rfl⟩ := (parse_dump_eq_ok_iff p q).mp h
  rw [AgreesOn, applyTables_written_iff hweight, applySurfaces_written_iff hweight,
    applyOffroad_written_iff hweight]
  constructor
  · rintro ⟨⟨hspeeds, hfactors⟩, hsurfaces, hoffroad⟩
    exact ⟨hspeeds, hfactors, hsurfaces, hoffroad⟩
  · intro heta
    exact ⟨⟨heta.speeds, heta.factors⟩, heta.surfaces, heta.offroad⟩

theorem agreesOn_sample : parse sample.dump = .ok sample ∧
    sample.AgreesOn sample Bicycle.defaults.tables Bicycle.defaults.surfaces
      Bicycle.defaults.traits.offroad := by
  have hself : sample.written = sample := written_eq_self (by decide)
  have hparse : parse sample.dump = .ok sample :=
    (parse_dump_eq_ok_iff sample sample).mpr ⟨by decide, hself.symm⟩
  exact ⟨hparse, (agreesOn_of_parse_dump_iff hparse _ _ _).mpr (by decide)⟩

/-- A record whose eta is a number without end. -/
def endlessRecord : Json :=
  .obj [("vehicle", .str "car"), ("speeds", .obj [("highway-primary",
    .obj [("in_city", .obj [("weight", .int 50), ("eta", .str "inf")])])])]

/-- The profile of the record. -/
def endless : Profile where
  vehicle := .car
  speeds := .ofList [
    (.primary, ⟨⟨⟨50, by decide⟩, some ⟨Decimal.infinity false, by decide⟩⟩, none⟩)]

theorem parse_endlessRecord : parse endlessRecord.toText = .ok endless := by
  have hwritable : Json.Writable .document (1020 + 4) endlessRecord := by
    refine .obj (by decide) (List.forall_mem_cons.mpr ⟨.str _, List.forall_mem_singleton.mpr ?_⟩)
    refine .obj (by decide) (List.forall_mem_singleton.mpr ?_)
    refine .obj (by decide) (List.forall_mem_singleton.mpr ?_)
    exact .obj (by decide) (List.forall_mem_cons.mpr ⟨.int (by decide),
      List.forall_mem_singleton.mpr (.str _)⟩)
  have hread : Json.parse? .document endlessRecord.toText = some endlessRecord :=
    Json.parse?_toText hwritable
  rw [parse, hread]
  rfl

/-- The eta is lost on the way, and the weight takes its place in the defaults of a car. -/
theorem endless_not_agreesOn : ∃ q, parse endlessRecord.toText = .ok endless ∧
    parse endless.dump = .ok q ∧
      ¬ endless.AgreesOn q Car.defaults.tables Car.defaults.surfaces
        Car.defaults.traits.offroad := by
  have hweight : endless.Each Setting.HasFiniteWeight := by decide
  refine ⟨endless.written, parse_endlessRecord, (parse_dump_eq_ok_iff _ _).mpr ⟨hweight, rfl⟩, ?_⟩
  rintro ⟨htables, -⟩
  have hspeeds := ((applyTables_written_iff hweight _).mp htables).1
  exact absurd hspeeds (by decide)

end Profile

end RoadSpeed
