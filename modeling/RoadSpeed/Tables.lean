import RoadSpeed.Decimal
import RoadSpeed.Speed
import RoadSpeed.Table
import RoadSpeed.Tag.Path
import RoadSpeed.Vocabulary

/-!
# Tables of a vehicle class

A vehicle class has a table of speeds and a table of factors, both by road category, a list of
access rules, which says what categories it knows, and a list of surface rules
(specification, §3). Tables have to fit the access rules (§7): each category with a rule needs
a positive speed and a factor, each factor needs a speed, and no category has two rules.

- `Category.place`: where a category stands in the classification.
- `AccessRule`, `SurfaceRule`, `SpeedTables`: the tables.
- `SpeedTables.override`: entries written over others.
- `Defect`: one thing that does not fit, with its text.
- `findDefects`: what does not fit between rules and tables.
- `allDefects`: the same with repeated rules in front.
- `Consistent`: nothing is amiss.
-/

namespace RoadSpeed

namespace Category

/-- The place of a category in the classification. -/
def place (c : Category) : TagPath := TagPath.ofName c.name

/-- Categories at the same place are the same. -/
theorem place_injective {c d : Category} (h : c.place = d.place) : c = d :=
  Vocabulary.name_injective (TagPath.ofName_injective h)

end Category

/-- What a vehicle class may do on roads of a category (specification, §3, `LimitEntry`). -/
structure AccessRule where
  category : Category
  /-- Routes may merely cross such roads. -/
  passThrough : Bool := true
  /-- Such roads may be used at all. -/
  routable : Bool := true
deriving DecidableEq, Repr

/-- The factor of roads that carry a surface tag (specification, §3, `SurfaceEntry`). -/
@[ext] structure SurfaceRule where
  path : TagPath
  factor : Factor

namespace SurfaceRule

/-- The rule for the surface tag with a readable name. -/
def named (name : String) (factor : Factor) : SurfaceRule := ⟨TagPath.ofName name, factor⟩

end SurfaceRule

/-- Base speeds and factors by road category. -/
structure SpeedTables where
  speeds : Table Category (ByArea Speed)
  factors : Table Category (ByArea Factor) := .empty

namespace SpeedTables

/-- The tables with entries of others written over them. -/
def override (t u : SpeedTables) : SpeedTables where
  speeds := t.speeds.override u.speeds
  factors := t.factors.override u.factors

end SpeedTables

/-! ## Defects -/

/-- What does not fit between access rules and tables. -/
inductive Defect where
  | duplicateRule (category : Category)
  | noSpeed (category : Category)
  | speedNotPositive (category : Category) (speed : ByArea Speed)
  | noFactor (category : Category)
  | factorWithoutSpeed (category : Category)

/-- Numbers in messages: positional from 0.0001 up to below 10^16, exponents of
at least two digits. -/
def messageLayout : Decimal.Layout where
  lowest := -4
  highest := 15
  exponentDigits := 2
  infinity := "inf"
  signedInfinity := true
  nan := "nan"

/-- A number in a message. -/
def messageNumber (x : Float) : String := String.ofList (messageLayout.write x)

/-- A speed in a message. -/
def Speed.describe (s : Speed) : String :=
  "SpeedKMpH(weight=" ++ messageNumber s.weight ++ ", eta=" ++ messageNumber s.eta ++ ")"

/-- A pair of speeds in a message. -/
def describeSpeeds (p : ByArea Speed) : String :=
  "InOutCitySpeedKMpH(in_city=" ++ p.inCity.describe ++ ", out_city=" ++ p.outCity.describe ++ ")"

namespace Defect

/-- The text of a defect. -/
def text : Defect → String
  | duplicateRule c => c.name ++ ": duplicate limits entry"
  | noSpeed c => c.name ++ ": no speed entry"
  | speedNotPositive c s => c.name ++ ": speed must be positive, got " ++ describeSpeeds s
  | noFactor c => c.name ++ ": no factor entry"
  | factorWithoutSpeed c => c.name ++ ": factor entry without speed entry"

end Defect

/-- What is wrong with the tables for one access rule. -/
def ruleDefects (tables : SpeedTables) (rule : AccessRule) : List Defect :=
  -- the two tables are looked at apart, so that one category may have two defects
  let speed := match tables.speeds.get? rule.category with
    | none => [.noSpeed rule.category]
    | some s => if s.isPositive then [] else [.speedNotPositive rule.category s]
  let factor := match tables.factors.get? rule.category with
    | none => [.noFactor rule.category]
    | some _ => []
  speed ++ factor

/-- The factors that have no speed beside them. -/
def orphanFactors (tables : SpeedTables) : List Defect :=
  tables.factors.keys.filterMap fun c =>
    if tables.speeds.contains c then none else some (.factorWithoutSpeed c)

/-- What does not fit between access rules and tables (specification, §7). -/
def findDefects (rules : List AccessRule) (tables : SpeedTables) : List Defect :=
  rules.flatMap (ruleDefects tables) ++ orphanFactors tables

/-- A defect for each rule whose category has a rule before it. -/
def duplicateRules (seen : List Category) : List AccessRule → List Defect
  | [] => []
  | rule :: rules =>
    (if rule.category ∈ seen then [.duplicateRule rule.category] else []) ++
      duplicateRules (rule.category :: seen) rules

/-- All defects: repeated rules first (specification, §7, `validate_tables`). -/
def allDefects (rules : List AccessRule) (tables : SpeedTables) : List Defect :=
  duplicateRules [] rules ++ findDefects rules tables

/-- The tables fit the access rules: no category has two rules, each one with a
rule has a positive speed and a factor, and each one with a factor has a speed. -/
structure Consistent (rules : List AccessRule) (tables : SpeedTables) : Prop where
  nodup : (rules.map AccessRule.category).Nodup
  speed : ∀ r ∈ rules, ∃ s, tables.speeds.get? r.category = some s ∧ s.isPositive = true
  factor : ∀ r ∈ rules, ∃ f, tables.factors.get? r.category = some f
  factor_speed : ∀ c ∈ tables.factors.keys, c ∈ tables.speeds.keys

end RoadSpeed
