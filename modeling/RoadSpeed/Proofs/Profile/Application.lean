import RoadSpeed.Profile.Basic
import RoadSpeed.Proofs.Number.Comparison
import RoadSpeed.Proofs.Profile.Acceptance

/-!
# What an accepted profile sets

The bounds of a document are all that the constructors of speeds and factors check, so that no
constructor refuses what an accepted profile sets (specification, §4.6). A document that is not
accepted is no JSON, or faults are listed.

- `Setting.checked`, `AreaSetting.checked`, `Profile.checkedTables`: settings by way of the
  constructors that check.
- `Setting.Means`, `AreaSetting.Means`: what settings mean, also where they leave something out.
- `Profile.Sound`, `Profile.Applies`: the numbers and names of a profile, and what it sets.
- `Profile.parse_outcome`: how reading a text or bytes ends.
-/

namespace RoadSpeed

variable {Bounds : Float → Prop} {α : Type}

/-! ## Constructors that check -/

/-- What a constructor that checks its components makes of a setting. -/
def Setting.checked (make : Float → Float → Except ComponentError α) (s : Setting Bounds) :
    Except ComponentError α :=
  match s.eta with
  | some e => make s.weight e
  | none => make s.weight s.weight

/-- What such a constructor makes of the settings inside and outside a city. -/
def AreaSetting.checked (make : Float → Float → Except ComponentError α)
    (s : AreaSetting Bounds) : Except ComponentError (ByArea α) := do
  let inCity ← s.inCity.checked make
  match s.outCity with
  | some o => return ⟨inCity, ← o.checked make⟩
  | none => return ⟨inCity, inCity⟩

namespace Profile

variable (p : Profile)

/-- The tables with the entries that the constructors make written over them. -/
def checkedTables (base : SpeedTables) : Except ComponentError SpeedTables := do
  let speeds ← p.speeds.toList.mapM fun e => (e.2.checked Speed.of).map fun s => (e.1, s)
  let factors ← p.factors.toList.mapM fun e => (e.2.checked Factor.of).map fun f => (e.1, f)
  return base.override ⟨.ofList speeds, .ofList factors⟩

/-- The surface rules with those that the constructors make laid over them. -/
def checkedSurfaces (base : List SurfaceRule) : Except ComponentError (List SurfaceRule) := do
  let rules ← p.surfaces.toList.mapM fun e => (e.2.checked Factor.of).map (SurfaceRule.named e.1)
  return overlay rules base

/-- The offroad speed that the constructor makes, if the profile has one. -/
def checkedOffroad (base : Speed) : Except ComponentError Speed :=
  match p.offroad with
  | some s => s.checked Speed.of
  | none => .ok base

end Profile

theorem Setting.checked_speed (s : Setting NonNegative) : s.checked Speed.of = .ok s.toSpeed := by
  obtain ⟨w, _ | e⟩ := s <;> exact Speed.of_eq_ok_iff.mpr ⟨rfl, rfl⟩

theorem Setting.checked_factor (s : Setting Positive) : s.checked Factor.of = .ok s.toFactor := by
  obtain ⟨w, _ | e⟩ := s <;> exact Factor.of_eq_ok_iff.mpr ⟨rfl, rfl⟩

/-- Where a constructor refuses no setting, it refuses no area setting. -/
theorem AreaSetting.checked_eq_ok {make : Float → Float → Except ComponentError α}
    {meaning : Setting Bounds → α} (h : ∀ s : Setting Bounds, s.checked make = .ok (meaning s))
    (s : AreaSetting Bounds) : s.checked make = .ok (s.inForce.map meaning) := by
  obtain ⟨i, o⟩ := s
  unfold checked
  rw [h]
  cases o with
  | none => rfl
  | some o =>
    dsimp only
    rw [h]
    rfl

namespace Profile

variable (p : Profile)

theorem checkedTables_eq_ok (base : SpeedTables) :
    p.checkedTables base = .ok (p.applyTables base) := by
  have hspeeds (e : Category × AreaSetting NonNegative) :
      (e.2.checked Speed.of).map (fun s => (e.1, s)) = .ok (e.1, e.2.toSpeeds) :=
    map_eq_ok_iff.mpr ⟨_, AreaSetting.checked_eq_ok Setting.checked_speed e.2, rfl⟩
  have hfactors (e : Category × AreaSetting Positive) :
      (e.2.checked Factor.of).map (fun f => (e.1, f)) = .ok (e.1, e.2.toFactors) :=
    map_eq_ok_iff.mpr ⟨_, AreaSetting.checked_eq_ok Setting.checked_factor e.2, rfl⟩
  unfold checkedTables
  rw [mapM_eq_ok hspeeds, mapM_eq_ok hfactors]
  show Except.ok (base.override ⟨.ofList _, .ofList _⟩) = _
  rw [ofList_map, ofList_map]
  rfl

theorem checkedSurfaces_eq_ok (base : List SurfaceRule) :
    p.checkedSurfaces base = .ok (p.applySurfaces base) := by
  have hrules (e : String × Setting Positive) :
      (e.2.checked Factor.of).map (SurfaceRule.named e.1) = .ok (.named e.1 e.2.toFactor) :=
    map_eq_ok_iff.mpr ⟨_, e.2.checked_factor, rfl⟩
  unfold checkedSurfaces
  rw [mapM_eq_ok hrules]
  rfl

theorem checkedOffroad_eq_ok (base : Speed) :
    p.checkedOffroad base = .ok (p.applyOffroad base) := by
  unfold checkedOffroad applyOffroad
  cases p.offroad with
  | none => rfl
  | some s => exact s.checked_speed

end Profile

/-! ## What settings mean -/

/-- A value means what a setting says, and an eta that is left out is the weight. -/
structure Setting.Means (weight eta : α → Float) (s : Setting Bounds) (a : α) : Prop where
  weight_eq : weight a = s.weight
  eta_eq : ∀ e, s.eta = some e → eta a = e
  omitted : s.eta = none → eta a = weight a

/-- A pair means what an area setting says, and a setting outside a city that is left out is
the one inside. -/
structure AreaSetting.Means (weight eta : α → Float) (s : AreaSetting Bounds)
    (pair : ByArea α) : Prop where
  inCity : s.inCity.Means weight eta pair.inCity
  outCity : ∀ o, s.outCity = some o → o.Means weight eta pair.outCity
  omitted : s.outCity = none → pair.outCity = pair.inCity

theorem Setting.means_toSpeed (s : Setting NonNegative) :
    s.Means Speed.weight Speed.eta s.toSpeed := by
  obtain ⟨w, _ | e⟩ := s
  · exact ⟨rfl, nofun, fun _ => rfl⟩
  · exact ⟨rfl, fun _ h => by cases h; rfl, nofun⟩

theorem Setting.means_toFactor (s : Setting Positive) :
    s.Means Factor.weight Factor.eta s.toFactor := by
  obtain ⟨w, _ | e⟩ := s
  · exact ⟨rfl, nofun, fun _ => rfl⟩
  · exact ⟨rfl, fun _ h => by cases h; rfl, nofun⟩

theorem AreaSetting.means_inForce {weight eta : α → Float} {meaning : Setting Bounds → α}
    (h : ∀ s : Setting Bounds, s.Means weight eta (meaning s)) (s : AreaSetting Bounds) :
    s.Means weight eta (s.inForce.map meaning) := by
  obtain ⟨i, _ | o⟩ := s
  · exact ⟨h i, nofun, fun _ => rfl⟩
  · exact ⟨h i, fun _ ho => by cases ho; exact h o, nofun⟩

/-- Rules that are laid over others, one for each path, all stand in the result. -/
theorem mem_overlay {pending : List SurfaceRule} (hnodup : (pending.map SurfaceRule.path).Nodup)
    {r : SurfaceRule} (hr : r ∈ pending) (base : List SurfaceRule) : r ∈ overlay pending base := by
  induction base generalizing pending with
  | nil => exact hr
  | cons b base ih =>
    rw [overlay]
    cases hfound : pending.find? fun p => p.path = b.path with
    | none => exact List.mem_cons_of_mem _ (ih hnodup hr)
    | some p =>
      -- the rule replaces the first one of the base, or is left for the others
      by_cases hpath : r.path = b.path
      · have hp : p.path = r.path := by
          rw [hpath]
          simpa using List.find?_some hfound
        rw [List.inj_on_of_nodup_map hnodup (List.mem_of_find?_eq_some hfound) hr hp]
        exact List.mem_cons_self
      · refine List.mem_cons_of_mem _ (ih ?_ (List.mem_filter.mpr ⟨hr, by simpa using hpath⟩))
        exact hnodup.sublist (List.filter_sublist.map _)

/-! ## Profiles -/

/-- A property of all numbers that a setting sets. -/
def Setting.Keeps (P : Float → Prop) (s : Setting Bounds) : Prop :=
  P s.weight ∧ ∀ e ∈ s.eta, P e.val

theorem Setting.keeps {P : Float → Prop} (h : ∀ x, Bounds x → P x) (s : Setting Bounds) :
    s.Keeps P :=
  ⟨h _ s.weight.property, fun e _ => h _ e.property⟩

theorem Setting.keeps_nonNegative (s : Setting NonNegative) :
    s.Keeps fun x => 0 ≤ x ∧ x.isNaN = false :=
  s.keeps fun _ h => ⟨h, Order.isNaN_of_zero_le h⟩

theorem Setting.keeps_positive (s : Setting Positive) :
    s.Keeps fun x => 0 < x ∧ x.isNaN = false :=
  s.keeps fun _ h => ⟨h, Double.isNaN_of_zero_lt h⟩

namespace Profile

/-- The numbers of a profile are numbers within their bounds, its surfaces have names below
the root, and none of its tables has a key twice. -/
structure Sound (p : Profile) : Prop where
  speeds : ∀ e ∈ p.speeds.toList, e.2.Each fun s => s.Keeps fun x => 0 ≤ x ∧ x.isNaN = false
  factors : ∀ e ∈ p.factors.toList, e.2.Each fun s => s.Keeps fun x => 0 < x ∧ x.isNaN = false
  surfaces : ∀ e ∈ p.surfaces.toList, e.2.Keeps fun x => 0 < x ∧ x.isNaN = false
  offroad : ∀ s ∈ p.offroad, s.Keeps fun x => 0 ≤ x ∧ x.isNaN = false
  names : ∀ name ∈ p.surfaces.keys, TagPath.separator ∈ name.toList
  keys : p.speeds.keys.Nodup ∧ p.factors.keys.Nodup ∧ p.surfaces.keys.Nodup

/-- No constructor refuses what a profile lays over tables, surface rules and an offroad speed,
and what it sets there means what the profile says. -/
structure Applies (p : Profile) (tables : SpeedTables) (surfaces : List SurfaceRule)
    (offroad : Speed) : Prop where
  tables_ok : p.checkedTables tables = .ok (p.applyTables tables)
  surfaces_ok : p.checkedSurfaces surfaces = .ok (p.applySurfaces surfaces)
  offroad_ok : p.checkedOffroad offroad = .ok (p.applyOffroad offroad)
  speed : ∀ c s, (c, s) ∈ p.speeds.toList → ∃ pair,
    (p.applyTables tables).speeds.get? c = some pair ∧ s.Means Speed.weight Speed.eta pair
  factor : ∀ c s, (c, s) ∈ p.factors.toList → ∃ pair,
    (p.applyTables tables).factors.get? c = some pair ∧ s.Means Factor.weight Factor.eta pair
  surface : ∀ name s, (name, s) ∈ p.surfaces.toList → ∃ r ∈ p.applySurfaces surfaces,
    r.path = TagPath.ofName name ∧ s.Means Factor.weight Factor.eta r.factor
  offroad_means : ∀ s ∈ p.offroad, s.Means Speed.weight Speed.eta (p.applyOffroad offroad)

theorem sound (p : Profile) : p.Sound where
  speeds e _ := ⟨e.2.inCity.keeps_nonNegative, fun s _ => s.keeps_nonNegative⟩
  factors e _ := ⟨e.2.inCity.keeps_positive, fun s _ => s.keeps_positive⟩
  surfaces e _ := e.2.keeps_positive
  offroad s _ := s.keeps_nonNegative
  names name hname := List.contains_iff_mem.mp (p.surface_names name hname)
  keys := ⟨p.speeds.nodup_keys, p.factors.nodup_keys, p.surfaces.nodup_keys⟩

/-- The rules of a profile are for different paths. -/
theorem nodup_surfaceRules (p : Profile) : (p.surfaceRules.map SurfaceRule.path).Nodup := by
  have hpaths : p.surfaceRules.map SurfaceRule.path = p.surfaces.keys.map TagPath.ofName := by
    unfold surfaceRules Table.keys
    rw [List.map_map, List.map_map]
    rfl
  rw [hpaths]
  exact p.surfaces.nodup_keys.map fun _ _ h => TagPath.ofName_injective h

theorem get?_override_map {κ β : Type} [DecidableEq κ] (base : Table κ β) {t : Table κ α} {k : κ}
    {a : α} (f : κ → α → β) (h : (k, a) ∈ t.toList) :
    (base.override (t.map f)).get? k = some (f k a) := by
  rw [Table.get?_override_map, Table.mem_toList_iff.mp h]
  rfl

theorem applies (p : Profile) (tables : SpeedTables) (surfaces : List SurfaceRule)
    (offroad : Speed) : p.Applies tables surfaces offroad where
  tables_ok := p.checkedTables_eq_ok tables
  surfaces_ok := p.checkedSurfaces_eq_ok surfaces
  offroad_ok := p.checkedOffroad_eq_ok offroad
  speed c s h := ⟨s.toSpeeds, get?_override_map tables.speeds (fun _ => AreaSetting.toSpeeds) h,
    AreaSetting.means_inForce Setting.means_toSpeed s⟩
  factor c s h := ⟨s.toFactors, get?_override_map tables.factors (fun _ => AreaSetting.toFactors) h,
    AreaSetting.means_inForce Setting.means_toFactor s⟩
  surface name s h := by
    have hrule : SurfaceRule.named name s.toFactor ∈ p.surfaceRules :=
      List.mem_map.mpr ⟨_, h, rfl⟩
    exact ⟨_, mem_overlay p.nodup_surfaceRules hrule surfaces, rfl, s.means_toFactor⟩
  offroad_means s h := by
    rw [applyOffroad, h]
    exact s.means_toSpeed

/-- How reading a document ends: it is no JSON, or it tells of no profile and faults are listed,
or the profile that it tells of is given, which is sound and can be applied to anything. -/
inductive Outcome (document : Option Json) : Except ProfileError Profile → Prop where
  | malformed (h : document = none) : Outcome document (.error .malformed)
  | rejected {j : Json} (fault : Fault) (rest : List Fault) (hread : document = some j)
      (h : ∀ p, ¬ Said j p) : Outcome document (.error (.rejected (.faults (fault :: rest))))
  | accepted {j : Json} {p : Profile} (hread : document = some j) (h : Said j p) (hsound : p.Sound)
      (happlies : ∀ tables surfaces offroad, p.Applies tables surfaces offroad) :
      Outcome document (.ok p)

theorem ofDocument_outcome (document : Option Json) : Outcome document (ofDocument document) := by
  cases document with
  | none => exact .malformed rfl
  | some j =>
    have hlisted := decides_ofJson.listed j
    have hsaid := decides_ofJson.ok_iff j
    show Outcome (some j) ((ofJson j).mapError .rejected)
    generalize ofJson j = outcome at hlisted hsaid
    cases hlisted with
    | ok p => exact .accepted rfl ((hsaid p).mp rfl) p.sound p.applies
    | error fault rest =>
      refine .rejected fault rest rfl ?_
      intro p hp
      cases (hsaid p).mpr hp

/-- Reading a text or bytes ends in one of these ways. -/
theorem parse_outcome :
    (∀ text, Outcome (Json.parse? .document text) (parse text)) ∧
      ∀ bytes, Outcome (Json.parseBytes? .document bytes) (parseBytes bytes) :=
  ⟨fun _ => ofDocument_outcome _, fun _ => ofDocument_outcome _⟩

end Profile

end RoadSpeed
