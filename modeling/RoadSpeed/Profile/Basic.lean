import RoadSpeed.Tables
import RoadSpeed.Vocabulary

/-!
# Speed profiles

A profile tunes the tables of one vehicle class (specification, §4.6). What a profile leaves out
has a meaning of its own: without an eta the weight stands for both components, and without a
value outside the city the one inside holds on both sides. Settings of categories are written
over the entries of the tables. Settings of surfaces replace the first rule for their path, and
those without one are appended in order.

- `Setting`: a weight and, if it differs, an eta, all within the same bounds.
- `AreaSetting`: a setting inside a city and, if it differs, one outside.
- `Profile`: the settings of a profile. Each surface name leads below the root of the
  classification.
- `Setting.toSpeed`, `Setting.toFactor`: settings as speeds and factors; the bounds of a setting
  are all that this takes.
- `overlay`: rules laid over a list of rules.
- `Profile.applyTables`, `Profile.applySurfaces`, `Profile.applyOffroad`: a profile laid over
  tables, surface rules and an offroad speed.
-/

namespace RoadSpeed

/-- The bounds of a speed's components: at or above zero. -/
abbrev NonNegative (x : Float) : Prop := 0 ≤ x

/-- The bounds of a factor's components: above zero. -/
abbrev Positive (x : Float) : Prop := 0 < x

/-- A weight and, if it differs, an eta, within bounds. -/
@[ext] structure Setting (Bounds : Float → Prop) where
  weight : { x : Float // Bounds x }
  /-- None when the weight stands for both. -/
  eta : Option { x : Float // Bounds x } := none

namespace Setting

variable {Bounds : Float → Prop}

/-- The eta in force. -/
def etaInForce (s : Setting Bounds) : { x : Float // Bounds x } := s.eta.getD s.weight

/-- Settings agree when they leave out the same and their numbers are equal. -/
instance : BEq (Setting Bounds) where
  beq s t := s.weight.val == t.weight.val && s.eta.map Subtype.val == t.eta.map Subtype.val

/-- The speed that is set. -/
def toSpeed (s : Setting NonNegative) : Speed where
  weight := s.weight
  eta := s.etaInForce
  nonneg := ⟨not_lt_of_le s.weight.property, not_lt_of_le s.etaInForce.property⟩

/-- The factor that is set. -/
def toFactor (s : Setting Positive) : Factor where
  weight := s.weight
  eta := s.etaInForce
  pos := ⟨not_le_of_lt s.weight.property, not_le_of_lt s.etaInForce.property⟩

end Setting

/-- A setting inside a city and, if it differs, one outside. -/
@[ext] structure AreaSetting (Bounds : Float → Prop) where
  inCity : Setting Bounds
  /-- None when the setting inside holds on both sides. -/
  outCity : Option (Setting Bounds) := none

namespace AreaSetting

variable {Bounds : Float → Prop}

/-- Area settings agree when they leave out the same and their settings agree. -/
instance : BEq (AreaSetting Bounds) where
  beq s t := s.inCity == t.inCity && s.outCity == t.outCity

/-- The settings in force on either side. -/
def inForce (s : AreaSetting Bounds) : ByArea (Setting Bounds) :=
  ⟨s.inCity, s.outCity.getD s.inCity⟩

/-- The speeds that are set. -/
def toSpeeds (s : AreaSetting NonNegative) : ByArea Speed := s.inForce.map Setting.toSpeed

/-- The factors that are set. -/
def toFactors (s : AreaSetting Positive) : ByArea Factor := s.inForce.map Setting.toFactor

end AreaSetting

/-- Whether a surface name leads below the root of the classification. -/
def isSurfaceName (name : String) : Bool := name.toList.contains TagPath.separator

/-- The settings that tune the tables of one vehicle class (specification, §4.6,
`SpeedProfile`). -/
structure Profile where
  vehicle : Vehicle
  speeds : Table Category (AreaSetting NonNegative) := .empty
  factors : Table Category (AreaSetting Positive) := .empty
  /-- Settings by the readable names of surface tags. -/
  surfaces : Table String (Setting Positive) := .empty
  offroad : Option (Setting NonNegative) := none
  /-- Each surface name leads below the root. -/
  surface_names : ∀ name ∈ surfaces.keys, isSurfaceName name = true := by decide

namespace Profile

/-- Profiles agree when they set the same, in the same order. -/
instance : BEq Profile where
  beq p q :=
    p.vehicle == q.vehicle && p.speeds == q.speeds && p.factors == q.factors &&
      p.surfaces == q.surfaces && p.offroad == q.offroad

end Profile

/-! ## Applying profiles -/

/-- The rules of `pending` laid over a list of rules: each replaces the first rule
for its path, and what finds none is appended in order (specification, §4.6). -/
def overlay (pending : List SurfaceRule) : List SurfaceRule → List SurfaceRule
  | [] => pending
  | r :: rs =>
    match pending.find? fun p => p.path = r.path with
    -- a rule is laid over one place only; later rules for the path stay as they are
    | some p => p :: overlay (pending.filter fun q => q.path ≠ r.path) rs
    | none => r :: overlay pending rs

namespace Profile

/-- The settings of categories as tables. -/
def tables (p : Profile) : SpeedTables where
  speeds := p.speeds.map fun _ s => s.toSpeeds
  factors := p.factors.map fun _ s => s.toFactors

/-- The settings of surfaces as rules. -/
def surfaceRules (p : Profile) : List SurfaceRule :=
  p.surfaces.toList.map fun e => .named e.1 e.2.toFactor

/-- The tables with the profile's entries written over them. -/
def applyTables (p : Profile) (base : SpeedTables) : SpeedTables := base.override p.tables

/-- The surface rules with the profile's rules laid over them. -/
def applySurfaces (p : Profile) (base : List SurfaceRule) : List SurfaceRule :=
  overlay p.surfaceRules base

/-- The profile's offroad speed, if it has one. -/
def applyOffroad (p : Profile) (base : Speed) : Speed :=
  match p.offroad with
  | some s => s.toSpeed
  | none => base

end Profile

end RoadSpeed
