import RoadSpeed.Proofs.Profile.Record
import RoadSpeed.Proofs.Schema

/-!
# The documents that are profiles

- `Setting.Said`, `AreaSetting.Said`, `Profile.Said`: what a document says about a profile and
  its parts, without the order in which a reader looks at them.
- `Profile.decides_ofJson`: the reader gives exactly the profile that a document tells of, and
  lists faults where it tells of none.
-/

namespace RoadSpeed

variable {Bounds : Float → Prop} {number : Json → Checked { x : Float // Bounds x }}

/-! ## Settings -/

/-- A record says a weight, and an eta unless it leaves it out. -/
inductive Setting.Said : Json → Setting Bounds → Prop where
  | record {members : List (String × Json)} {s : Setting Bounds}
      (weight : Schema.Member "weight" Schema.Says members s.weight)
      (eta : Schema.MemberOr "eta" none (Schema.Nullable Schema.Says) members s.eta) :
      Said (.obj members) s

theorem Setting.decides_ofJson (h : Schema.Decides number Schema.Says) :
    Schema.Decides (Setting.ofJson number) Setting.Said := by
  have hdecides : Schema.Decides (Setting.ofJson number) _ :=
    Schema.decides_record.bind (((Schema.decides_required h "weight").both
      (Schema.decides_optional (Schema.decides_nullable h) "eta" none)).map _)
  refine hdecides.congr fun j s => ?_
  constructor
  · rintro ⟨members, rfl, ⟨w, eta⟩, ⟨hweight, heta⟩, rfl⟩
    exact .record hweight heta
  · rintro ⟨hweight, heta⟩
    exact ⟨_, rfl, (s.weight, s.eta), ⟨hweight, heta⟩, rfl⟩

/-- A record says a setting inside a city, and one outside unless it leaves it out. -/
inductive AreaSetting.Said : Json → AreaSetting Bounds → Prop where
  | record {members : List (String × Json)} {s : AreaSetting Bounds}
      (inCity : Schema.Member "in_city" Setting.Said members s.inCity)
      (outCity : Schema.MemberOr "out_city" none (Schema.Nullable Setting.Said) members s.outCity) :
      Said (.obj members) s

theorem AreaSetting.decides_ofJson (h : Schema.Decides number Schema.Says) :
    Schema.Decides (AreaSetting.ofJson number) AreaSetting.Said := by
  have hsetting := Setting.decides_ofJson h
  have hdecides : Schema.Decides (AreaSetting.ofJson number) _ :=
    Schema.decides_record.bind (((Schema.decides_required hsetting "in_city").both
      (Schema.decides_optional (Schema.decides_nullable hsetting) "out_city" none)).map _)
  refine hdecides.congr fun j s => ?_
  constructor
  · rintro ⟨members, rfl, ⟨i, o⟩, ⟨hin, hout⟩, rfl⟩
    exact .record hin hout
  · rintro ⟨hin, hout⟩
    exact ⟨_, rfl, (s.inCity, s.outCity), ⟨hin, hout⟩, rfl⟩

/-! ## Profiles -/

namespace Profile

/-- The members of an object say the entries of a table. -/
def SaysTable {κ α : Type} [DecidableEq κ] (K : String → κ → Prop) (P : Json → α → Prop) (j : Json)
    (t : Table κ α) : Prop :=
  ∃ entries, Schema.Entries K P j entries ∧ Table.ofList entries = t

/-- A record says a vehicle class by its name, settings of categories by theirs and of
surfaces, and a setting off the roads; all but the class may be left out. -/
inductive Said : Json → Profile → Prop where
  | record {members : List (String × Json)} {p : Profile}
      (vehicle : Schema.Member "vehicle" (fun j v => j = .str (Vocabulary.name v)) members
        p.vehicle)
      (speeds : Schema.MemberOr "speeds" .empty
        (SaysTable (fun name c => name = Vocabulary.name c) AreaSetting.Said) members p.speeds)
      (factors : Schema.MemberOr "factors" .empty
        (SaysTable (fun name c => name = Vocabulary.name c) AreaSetting.Said) members p.factors)
      (surfaces : Schema.MemberOr "surfaces" .empty (SaysTable Eq Setting.Said) members p.surfaces)
      (offroad : Schema.MemberOr "offroad" none (Schema.Nullable Setting.Said) members p.offroad) :
      Said (.obj members) p

theorem decides_categorySettings (h : Schema.Decides number Schema.Says) :
    Schema.Decides (categorySettings number)
      (SaysTable (fun name c => name = Vocabulary.name c) AreaSetting.Said) :=
  (Schema.decides_dictionary Schema.decides_named (AreaSetting.decides_ofJson h)).map Table.ofList

theorem decides_checkSurfaceNames :
    Schema.Decides checkSurfaceNames fun t u => u.val = t where
  ok_iff t u := by
    constructor
    · intro h
      unfold checkSurfaceNames at h
      split at h
      · cases h
      · cases h
        rfl
    · rintro rfl
      exact checkSurfaceNames_eq_ok u.property
  listed t := by
    unfold checkSurfaceNames
    split
    · exact .fault _
    · exact .ok _

theorem decides_surfaceSettings : Schema.Decides surfaceSettings
    fun j u => SaysTable Eq Setting.Said j u.val := by
  have hkey : Schema.Decides (.ok : String → Checked String) Eq :=
    ⟨fun name x => by simp, .ok⟩
  have hdecides : Schema.Decides surfaceSettings _ :=
    (Schema.decides_dictionary hkey (Setting.decides_ofJson Schema.decides_positive)).bind
      (decides_checkSurfaceNames.comap Table.ofList)
  refine hdecides.congr fun j u => ?_
  simp only [SaysTable, eq_comm]

theorem memberOr_noSurfaces_iff {members : List (String × Json)} {u : SurfaceSettings} :
    Schema.MemberOr "surfaces" noSurfaces (fun j u => SaysTable Eq Setting.Said j u.val) members u ↔
      Schema.MemberOr "surfaces" .empty (SaysTable Eq Setting.Said) members u.val :=
  or_congr_left (and_congr_right fun _ => Subtype.ext_iff)

theorem decides_ofJson : Schema.Decides ofJson Said := by
  have hdecides : Schema.Decides ofJson _ := Schema.decides_record.bind
    (((Schema.decides_required Schema.decides_word "vehicle").both
      ((Schema.decides_optional (decides_categorySettings Schema.decides_nonNegative) "speeds"
        .empty).both
      ((Schema.decides_optional (decides_categorySettings Schema.decides_positive) "factors"
        .empty).both
      ((Schema.decides_optional decides_surfaceSettings "surfaces" noSurfaces).both
      (Schema.decides_optional (Schema.decides_nullable
        (Setting.decides_ofJson Schema.decides_nonNegative)) "offroad" none))))).map _)
  refine hdecides.congr fun j p => ?_
  constructor
  · rintro ⟨members, rfl, ⟨v, speeds, factors, surfaces, offroad⟩,
      ⟨hv, hspeeds, hfactors, hsurfaces, hoffroad⟩, rfl⟩
    exact .record hv hspeeds hfactors (memberOr_noSurfaces_iff.mp hsurfaces) hoffroad
  · rintro ⟨hv, hspeeds, hfactors, hsurfaces, hoffroad⟩
    exact ⟨_, rfl, (p.vehicle, p.speeds, p.factors, ⟨p.surfaces, p.surface_names⟩, p.offroad),
      ⟨hv, hspeeds, hfactors, memberOr_noSurfaces_iff.mpr hsurfaces, hoffroad⟩, rfl⟩

end Profile

end RoadSpeed
