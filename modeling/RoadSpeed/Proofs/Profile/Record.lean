import RoadSpeed.Profile.Dump
import RoadSpeed.Proofs.Json.ReadBack
import RoadSpeed.Proofs.Schema

/-!
# What the record of a profile says

The record of a profile says all that the profile sets, except that a number that is
not finite has no text. Such a weight leaves nothing to be read, and such an eta reads
as one that is left out.

- `Setting.written`, `Profile.written`: settings without the etas that have no text.
- `Setting.HasFiniteWeight`, `Setting.HasFiniteEta`: what has a text.
- `AreaSetting.Each`, `Profile.Each`: a property of each setting.
- `Setting.ofJson_asWritten`, `Profile.ofJson_asWritten`: what the records read as.
-/

namespace RoadSpeed

variable {Bounds : Float → Prop}

/-! ## Settings -/

namespace Setting

/-- The weight has a text. -/
def HasFiniteWeight (s : Setting Bounds) : Prop := s.weight.val.isFinite = true

/-- The eta, if it is set, has a text. -/
def HasFiniteEta (s : Setting Bounds) : Prop := ∀ e ∈ s.eta, e.val.isFinite = true

/-- All numbers that are set are finite. -/
def IsFinite (s : Setting Bounds) : Prop := s.HasFiniteWeight ∧ s.HasFiniteEta

instance (s : Setting Bounds) : Decidable s.HasFiniteWeight :=
  inferInstanceAs (Decidable (s.weight.val.isFinite = true))

instance (s : Setting Bounds) : Decidable s.HasFiniteEta :=
  inferInstanceAs (Decidable (∀ e ∈ s.eta, e.val.isFinite = true))

instance (s : Setting Bounds) : Decidable s.IsFinite :=
  inferInstanceAs (Decidable (s.HasFiniteWeight ∧ s.HasFiniteEta))

/-- The setting without an eta that has no text. -/
def written (s : Setting Bounds) : Setting Bounds :=
  { s with eta := s.eta.filter fun e => e.val.isFinite }

theorem written_eq_self_iff {s : Setting Bounds} : s.written = s ↔ s.HasFiniteEta := by
  obtain ⟨w, eta⟩ := s
  cases eta with
  | none => simp [written, HasFiniteEta]
  | some e => simp [written, HasFiniteEta]

end Setting

namespace Json

/-- The text of a double within bounds reads as the double, if it is finite, and as
nothing otherwise. -/
theorem number_asWritten {number : Json → Checked { x : Float // Bounds x }}
    (hnumber : Schema.IsNumberCheck number) (x y : { x : Float // Bounds x }) :
    number (asWritten (.float x.val)) = .ok y ↔ x.val.isFinite = true ∧ y = x := by
  rw [asWritten]
  split
  · rename_i h
    rw [hnumber.float]
    simp [h, eq_comm]
  · rename_i h
    simp [h, hnumber.null]

/-- The text of an optional double reads as what has a text. -/
theorem nullable_asWritten {number : Json → Checked { x : Float // Bounds x }}
    (hnumber : Schema.IsNumberCheck number) (x : { x : Float // Bounds x }) :
    Schema.nullable number (asWritten (.float x.val)) =
      .ok (if x.val.isFinite then some x else none) := by
  rw [asWritten]
  split
  · rw [Schema.nullable_float, hnumber.float]
    rfl
  · rfl

end Json

/-- A member that may be left out is read from what was written of it. -/
theorem optional_memberOf_eq_ok_iff {α β : Type} {name : String} {check : Json → Checked (Option β)}
    {text : α → Json} {P : α → Prop} {g : α → Option β}
    (h : ∀ a x, check (text a) = .ok x ↔ P a ∧ x = g a) {o : Option α} {x : Option β} :
    Schema.optional name none check (memberOf name text o) = .ok x ↔
      (∀ a ∈ o, P a) ∧ x = o.bind g := by
  cases o with
  | none => simp [memberOf, Schema.optional_nil, eq_comm]
  | some a =>
    rw [memberOf, Schema.optional_cons_self, Checked.within_eq_ok_iff, h]
    simp

/-- What the texts of the members say. -/
theorem map_asWritten_memberOf {α : Type} (name : String) (toJson : α → Json) (o : Option α) :
    (memberOf name toJson o).map (fun m => (m.1, m.2.asWritten)) =
      memberOf name (fun a => (toJson a).asWritten) o := by
  cases o <;> rfl

/-- The record of a setting reads as the setting without an eta that has no text. -/
theorem Setting.ofJson_asWritten {number : Json → Checked { x : Float // Bounds x }}
    (hnumber : Schema.IsNumberCheck number) (s t : Setting Bounds) :
    Setting.ofJson number s.toJson.asWritten = .ok t ↔ s.HasFiniteWeight ∧ t = s.written := by
  have heta : ∀ (e : { x : Float // Bounds x }) x,
      Schema.nullable number (Json.asWritten (.float e.val)) = .ok x ↔
        True ∧ x = if e.val.isFinite then some e else none := by
    intro e x
    rw [Json.nullable_asWritten hnumber]
    exact ⟨fun h => ⟨trivial, (Except.ok.inj h).symm⟩, fun h => congrArg Except.ok h.2.symm⟩
  rw [toJson, Json.asWritten_obj, List.map_cons, map_asWritten_memberOf]
  unfold Setting.ofJson
  -- both members are looked up in what is left of the record
  show (Checked.both _ _).map _ = _ ↔ _
  rw [Checked.map_eq_ok_iff]
  simp only [Checked.both_eq_ok_iff, Schema.required_cons_self, Checked.within_eq_ok_iff,
    Schema.optional_cons_of_ne (show "eta" ≠ "weight" by decide),
    optional_memberOf_eq_ok_iff heta, Json.number_asWritten hnumber]
  have hwritten : s.written =
      ⟨s.weight, s.eta.bind fun e => if e.val.isFinite then some e else none⟩ := by
    obtain ⟨w, _ | e⟩ := s <;> rfl
  rw [hwritten]
  constructor
  · rintro ⟨⟨w, eta⟩, ⟨⟨hfin, rfl⟩, -, rfl⟩, rfl⟩
    exact ⟨hfin, rfl⟩
  · rintro ⟨hfin, rfl⟩
    exact ⟨⟨_, _⟩, ⟨⟨hfin, rfl⟩, fun _ _ => trivial, rfl⟩, rfl⟩

/-- A setting that may be null reads as itself in the same way. -/
theorem Setting.nullable_asWritten {number : Json → Checked { x : Float // Bounds x }}
    (hnumber : Schema.IsNumberCheck number) (s : Setting Bounds) (t : Option (Setting Bounds)) :
    Schema.nullable (Setting.ofJson number) s.toJson.asWritten = .ok t ↔
      s.HasFiniteWeight ∧ t = some s.written := by
  have hobj : Schema.nullable (Setting.ofJson number) s.toJson.asWritten =
      (Setting.ofJson number s.toJson.asWritten).map some := by
    rw [Setting.toJson, Json.asWritten_obj, Schema.nullable_obj]
  rw [hobj, Checked.map_eq_ok_iff]
  simp only [Setting.ofJson_asWritten hnumber]
  constructor
  · rintro ⟨_, ⟨h, rfl⟩, rfl⟩
    exact ⟨h, rfl⟩
  · rintro ⟨h, rfl⟩
    exact ⟨_, ⟨h, rfl⟩, rfl⟩

/-! ## Settings inside and outside a city -/

namespace AreaSetting

/-- A property of each of the settings. -/
def Each (P : Setting Bounds → Prop) (s : AreaSetting Bounds) : Prop :=
  P s.inCity ∧ ∀ t ∈ s.outCity, P t

instance {P : Setting Bounds → Prop} [DecidablePred P] (s : AreaSetting Bounds) :
    Decidable (s.Each P) :=
  inferInstanceAs (Decidable (P s.inCity ∧ ∀ t ∈ s.outCity, P t))

/-- The settings without etas that have no text. -/
def written (s : AreaSetting Bounds) : AreaSetting Bounds :=
  ⟨s.inCity.written, s.outCity.map Setting.written⟩

theorem written_eq_self {s : AreaSetting Bounds} (h : s.Each Setting.HasFiniteEta) :
    s.written = s := by
  obtain ⟨i, o⟩ := s
  have hin : i.written = i := Setting.written_eq_self_iff.mpr h.1
  cases o with
  | none => rw [written, hin, Option.map_none]
  | some t => rw [written, hin, Option.map_some, Setting.written_eq_self_iff.mpr (h.2 t rfl)]

theorem Each.imp {P Q : Setting Bounds → Prop} (hPQ : ∀ s, P s → Q s) {s : AreaSetting Bounds}
    (h : s.Each P) : s.Each Q :=
  ⟨hPQ _ h.1, fun t ht => hPQ t (h.2 t ht)⟩

/-- The record of an area setting reads as the setting without etas that have no text. -/
theorem ofJson_asWritten {number : Json → Checked { x : Float // Bounds x }}
    (hnumber : Schema.IsNumberCheck number) (s t : AreaSetting Bounds) :
    AreaSetting.ofJson number s.toJson.asWritten = .ok t ↔
      s.Each Setting.HasFiniteWeight ∧ t = s.written := by
  rw [toJson, Json.asWritten_obj, List.map_cons, map_asWritten_memberOf]
  unfold AreaSetting.ofJson
  show (Checked.both _ _).map _ = _ ↔ _
  rw [Checked.map_eq_ok_iff]
  simp only [Checked.both_eq_ok_iff, Schema.required_cons_self, Checked.within_eq_ok_iff,
    Schema.optional_cons_of_ne (show "out_city" ≠ "in_city" by decide),
    optional_memberOf_eq_ok_iff (Setting.nullable_asWritten hnumber),
    Setting.ofJson_asWritten hnumber]
  have hwritten : s.written = ⟨s.inCity.written, s.outCity.bind fun t => some t.written⟩ := by
    obtain ⟨i, _ | o⟩ := s <;> rfl
  rw [hwritten]
  constructor
  · rintro ⟨⟨inCity, outCity⟩, ⟨⟨hin, rfl⟩, hout, rfl⟩, rfl⟩
    exact ⟨⟨hin, hout⟩, rfl⟩
  · rintro ⟨⟨hin, hout⟩, rfl⟩
    exact ⟨⟨_, _⟩, ⟨⟨hin, rfl⟩, hout, rfl⟩, rfl⟩

end AreaSetting

/-! ## Profiles -/

namespace Profile

/-- A property of each of the settings. -/
structure Each (P : ∀ {Bounds : Float → Prop}, Setting Bounds → Prop) (p : Profile) : Prop where
  speeds : ∀ e ∈ p.speeds.toList, e.2.Each P
  factors : ∀ e ∈ p.factors.toList, e.2.Each P
  surfaces : ∀ e ∈ p.surfaces.toList, P e.2
  offroad : ∀ s ∈ p.offroad, P s

theorem each_iff {P : ∀ {Bounds : Float → Prop}, Setting Bounds → Prop} {p : Profile} :
    p.Each P ↔ (∀ e ∈ p.speeds.toList, e.2.Each P) ∧ (∀ e ∈ p.factors.toList, e.2.Each P) ∧
      (∀ e ∈ p.surfaces.toList, P e.2) ∧ ∀ s ∈ p.offroad, P s :=
  ⟨fun h => ⟨h.speeds, h.factors, h.surfaces, h.offroad⟩,
    fun h => ⟨h.1, h.2.1, h.2.2.1, h.2.2.2⟩⟩

instance {P : ∀ {Bounds : Float → Prop}, Setting Bounds → Prop}
    [∀ {Bounds : Float → Prop} (s : Setting Bounds), Decidable (P s)] (p : Profile) :
    Decidable (p.Each P) :=
  decidable_of_iff _ each_iff.symm

theorem Each.imp {P Q : ∀ {Bounds : Float → Prop}, Setting Bounds → Prop}
    (hPQ : ∀ {Bounds : Float → Prop} (s : Setting Bounds), P s → Q s) {p : Profile}
    (h : p.Each P) : p.Each Q where
  speeds e he := (h.speeds e he).imp hPQ
  factors e he := (h.factors e he).imp hPQ
  surfaces e he := hPQ _ (h.surfaces e he)
  offroad s hs := hPQ s (h.offroad s hs)

/-- The profile without etas that have no text. -/
def written (p : Profile) : Profile where
  vehicle := p.vehicle
  speeds := p.speeds.map fun _ s => s.written
  factors := p.factors.map fun _ s => s.written
  surfaces := p.surfaces.map fun _ s => s.written
  offroad := p.offroad.map Setting.written
  surface_names := by
    rw [Table.keys_map]
    exact p.surface_names

/-- A profile with finite etas has a text for each of them. -/
theorem written_eq_self {p : Profile} (h : p.Each Setting.HasFiniteEta) : p.written = p := by
  have hspeeds : p.speeds.map (fun _ s => s.written) = p.speeds :=
    Table.map_eq_self fun e he => AreaSetting.written_eq_self (h.speeds e he)
  have hfactors : p.factors.map (fun _ s => s.written) = p.factors :=
    Table.map_eq_self fun e he => AreaSetting.written_eq_self (h.factors e he)
  have hsurfaces : p.surfaces.map (fun _ s => s.written) = p.surfaces :=
    Table.map_eq_self fun e he => Setting.written_eq_self_iff.mpr (h.surfaces e he)
  have hoffroad : p.offroad.map Setting.written = p.offroad := by
    cases hoff : p.offroad with
    | none => rfl
    | some s => rw [Option.map_some, Setting.written_eq_self_iff.mpr (h.offroad s hoff)]
  unfold written
  simp only [hspeeds, hfactors, hsurfaces, hoffroad]

/-- The text of a dictionary of settings. -/
theorem asWritten_dictionaryOf {κ α : Type} (name : κ → String) (toJson : α → Json)
    (t : Table κ α) : (dictionaryOf name toJson t).asWritten =
      .obj (t.toList.map fun e => (name e.1, (toJson e.2).asWritten)) := by
  rw [dictionaryOf, Json.asWritten_obj, List.map_map]
  rfl

/-- A table whose values are changed is the table of the changed entries. -/
theorem ofList_map {κ α β : Type} [DecidableEq κ] (t : Table κ α) (f : α → β) :
    Table.ofList (t.toList.map fun e => (e.1, f e.2)) = t.map fun _ a => f a :=
  Table.ofList_toList (t.map fun _ a => f a)

theorem categorySettings_asWritten {number : Json → Checked { x : Float // Bounds x }}
    (hnumber : Schema.IsNumberCheck number) (t u : Table Category (AreaSetting Bounds)) :
    categorySettings number (dictionaryOf Category.name AreaSetting.toJson t).asWritten = .ok u ↔
      (∀ e ∈ t.toList, e.2.Each Setting.HasFiniteWeight) ∧ u = t.map fun _ s => s.written := by
  have hentries : ∀ entries, Schema.dictionary Schema.named (AreaSetting.ofJson number)
      (dictionaryOf Category.name AreaSetting.toJson t).asWritten = .ok entries ↔
        (∀ e ∈ t.toList, e.2.Each Setting.HasFiniteWeight) ∧
          entries = t.toList.map fun e => (e.1, e.2.written) := by
    intro entries
    rw [asWritten_dictionaryOf]
    exact Schema.dictionary_eq_ok_iff (fun e : Category × AreaSetting Bounds =>
      Schema.named_name e.1) fun e s => AreaSetting.ofJson_asWritten hnumber e.2 s
  rw [categorySettings, Checked.map_eq_ok_iff]
  simp only [hentries]
  constructor
  · rintro ⟨_, ⟨hfin, rfl⟩, rfl⟩
    exact ⟨hfin, ofList_map t _⟩
  · rintro ⟨hfin, rfl⟩
    exact ⟨_, ⟨hfin, rfl⟩, ofList_map t _⟩

theorem checkSurfaceNames_eq_ok {t : Table String (Setting Positive)}
    (h : ∀ name ∈ t.keys, isSurfaceName name = true) : checkSurfaceNames t = .ok ⟨t, h⟩ := by
  unfold checkSurfaceNames
  split
  · rename_i name hfound
    have hname := List.find?_some hfound
    rw [h name (List.mem_of_find?_eq_some hfound)] at hname
    cases hname
  · rfl

theorem surfaceSettings_asWritten (p : Profile) (u : SurfaceSettings) :
    surfaceSettings (dictionaryOf id Setting.toJson p.surfaces).asWritten = .ok u ↔
      (∀ e ∈ p.surfaces.toList, e.2.HasFiniteWeight) ∧
        u = ⟨p.written.surfaces, p.written.surface_names⟩ := by
  have hentries : ∀ entries, Schema.dictionary .ok (Setting.ofJson Schema.positive)
      (dictionaryOf id Setting.toJson p.surfaces).asWritten = .ok entries ↔
        (∀ e ∈ p.surfaces.toList, e.2.HasFiniteWeight) ∧
          entries = p.surfaces.toList.map fun e => (e.1, e.2.written) := by
    intro entries
    rw [asWritten_dictionaryOf]
    exact Schema.dictionary_eq_ok_iff (fun e => rfl)
      fun e s => Setting.ofJson_asWritten Schema.isNumberCheck_positive e.2 s
  unfold surfaceSettings
  -- the names are checked only once the entries have been read
  cases hread : Schema.dictionary .ok (Setting.ofJson Schema.positive)
      (dictionaryOf id Setting.toJson p.surfaces).asWritten with
  | error e =>
    constructor
    · intro h
      cases h
    · rintro ⟨hfin, -⟩
      rw [(hentries _).mpr ⟨hfin, rfl⟩] at hread
      cases hread
  | ok entries =>
    obtain ⟨hfin, rfl⟩ := (hentries entries).mp hread
    have hcheck := checkSurfaceNames_eq_ok p.written.surface_names
    show checkSurfaceNames (Table.ofList _) = .ok u ↔ _
    rw [ofList_map, show p.surfaces.map (fun _ s => s.written) = p.written.surfaces from rfl,
      hcheck]
    exact ⟨fun h => ⟨hfin, (Except.ok.inj h).symm⟩, fun h => congrArg Except.ok h.2.symm⟩

/-- What the members of the record of a profile say. -/
theorem asWritten_toJson (p : Profile) : p.toJson.asWritten = .obj
    (("vehicle", .str p.vehicle.name) ::
      ("speeds", (dictionaryOf Category.name AreaSetting.toJson p.speeds).asWritten) ::
      ("factors", (dictionaryOf Category.name AreaSetting.toJson p.factors).asWritten) ::
      ("surfaces", (dictionaryOf id Setting.toJson p.surfaces).asWritten) ::
      memberOf "offroad" (fun s => s.toJson.asWritten) p.offroad) := by
  rw [toJson, Json.asWritten_obj, List.map_append, map_asWritten_memberOf]
  rfl

/-- The record of a profile reads as the profile without etas that have no text. -/
theorem ofJson_asWritten (p q : Profile) :
    ofJson p.toJson.asWritten = .ok q ↔ p.Each Setting.HasFiniteWeight ∧ q = p.written := by
  have hvehicle : Schema.word (.str p.vehicle.name) = .ok p.vehicle := Schema.named_name p.vehicle
  have hoffroad : p.offroad.map Setting.written = p.offroad.bind fun s => some s.written := by
    cases p.offroad <;> rfl
  rw [asWritten_toJson]
  unfold ofJson
  show (Checked.both _ _).map _ = _ ↔ _
  rw [Checked.map_eq_ok_iff]
  simp (disch := decide) only [Checked.both_eq_ok_iff, Checked.within_eq_ok_iff,
    Schema.required_cons_self, Schema.optional_cons_self, Schema.optional_cons_of_ne, hvehicle,
    categorySettings_asWritten Schema.isNumberCheck_nonNegative,
    categorySettings_asWritten Schema.isNumberCheck_positive, surfaceSettings_asWritten,
    optional_memberOf_eq_ok_iff (Setting.nullable_asWritten Schema.isNumberCheck_nonNegative)]
  constructor
  · rintro ⟨⟨_, _, _, _, _⟩,
      ⟨hv, ⟨hspeeds, rfl⟩, ⟨hfactors, rfl⟩, ⟨hsurfaces, rfl⟩, hoff, rfl⟩, rfl⟩
    cases hv
    exact ⟨⟨hspeeds, hfactors, hsurfaces, hoff⟩, by rw [written, hoffroad]⟩
  · rintro ⟨h, rfl⟩
    exact ⟨⟨p.vehicle, p.written.speeds, p.written.factors,
      ⟨p.written.surfaces, p.written.surface_names⟩, p.written.offroad⟩, ⟨rfl, ⟨h.speeds, rfl⟩,
      ⟨h.factors, rfl⟩, ⟨h.surfaces, rfl⟩, h.offroad, hoffroad⟩, rfl⟩

end Profile

end RoadSpeed
