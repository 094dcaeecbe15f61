import RoadSpeed.Proofs.Model.Answers

/-!
# When two models give the same answers

What a model says about a list of tags hangs on the rule and the surface factor that it finds for
it, on its traits, on the mode of posted limits, and on the two entries for the category of the
rule. Models that have these in common say the same, whatever else there is in their tables.

- `Model.SameReading`, `Model.resolveSpeed_congr`: what the speed of tags on a trip hangs on.
- `Model.SameAnswers`: two models say the same about a list of tags.
- `Model.SameParts`: two models have the same parts, rules apart, in whatever order.
- `Model.SameParts.sameAnswers`: such models say the same where they find the same rules.
-/

namespace RoadSpeed

/-- Where two searches find the same in each element, they find the same in a list. -/
theorem lastMatch_congr {α β : Type} {f g : α → Option β} {xs : List α}
    (h : ∀ x ∈ xs, f x = g x) : lastMatch f xs = lastMatch g xs :=
  List.foldl_ext _ _ none fun found x hx => congrArg (Option.or · found) (h x hx)

namespace Model

variable {m n : Model} {t : Classification} {tags : List TagId}

theorem surfaceFactor_congr_paths (h : ∀ tag ∈ tags, ∀ path, t.path? tag = some path →
    m.surfaceAt? path = n.surfaceAt? path) : m.surfaceFactor t tags = n.surfaceFactor t tags := by
  unfold surfaceFactor
  rw [lastMatch_congr]
  intro tag htag
  cases hpath : t.path? tag with
  | none => rfl
  | some path => exact h tag htag path hpath

/-! ## Speeds -/

/-- Two models read the same where they resolve the speed of tags on a trip. The mode counts only
where a limit is in force. -/
structure SameReading (m n : Model) (t : Classification) (tags : List TagId) (trip : Trip) :
    Prop where
  rule : m.resolveRule t tags = n.resolveRule t tags
  surface : m.surfaceFactor t tags = n.surfaceFactor t tags
  limit : m.limitInForce trip = n.limitInForce trip
  mode : n.limitInForce trip = .ok none ∨ m.mode = n.mode
  entries : ∀ c, n.resolveCategory t tags = some c →
    m.tables.speeds.get? c = n.tables.speeds.get? c ∧
      m.tables.factors.get? c = n.tables.factors.get? c
  offroad : n.resolveCategory t tags = none → m.offroad = n.offroad

theorem speedUnder_congr {c : Category} {limit : Option Float}
    (hmode : limit = none ∨ m.mode = n.mode)
    (hspeed : m.tables.speeds.get? c = n.tables.speeds.get? c)
    (hfactor : m.tables.factors.get? c = n.tables.factors.get? c) (surface : Factor)
    (inCity : Bool) :
    m.speedUnder c surface inCity limit = n.speedUnder c surface inCity limit := by
  unfold speedUnder baseSpeed categoryFactor
  rw [hspeed, hfactor]
  rcases hmode with rfl | hmode
  · rfl
  · rw [hmode]

theorem resolveSpeed_congr {trip : Trip} (h : m.SameReading n t tags trip) :
    m.resolveSpeed t tags trip = n.resolveSpeed t tags trip := by
  cases hrule : n.resolveRule t tags with
  | none =>
    have hnone : n.resolveCategory t tags = none := congrArg (Option.map _) hrule
    rw [resolveSpeed_offroad hrule, resolveSpeed_offroad (h.rule.trans hrule), h.offroad hnone]
  | some rule =>
    have hcategory : n.resolveCategory t tags = some rule.category :=
      congrArg (Option.map _) hrule
    obtain ⟨hspeed, hfactor⟩ := h.entries _ hcategory
    rw [resolveSpeed_road hrule, resolveSpeed_road (h.rule.trans hrule), h.limit, h.surface]
    cases hlimit : n.limitInForce trip with
    | error e => rfl
    | ok limit =>
      have hmode : limit = none ∨ m.mode = n.mode := by
        refine h.mode.imp_left fun hfree => ?_
        rw [hlimit] at hfree
        exact Except.ok.inj hfree
      exact speedUnder_congr hmode hspeed hfactor _ _

/-! ## All answers -/

/-- Two models say the same about a list of tags. -/
structure SameAnswers (m n : Model) (t : Classification) (tags : List TagId) : Prop where
  speed : ∀ trip, m.resolveSpeed t tags trip = n.resolveSpeed t tags trip
  category : m.resolveCategory t tags = n.resolveCategory t tags
  passThrough : m.allowsPassThrough t tags = n.allowsPassThrough t tags
  road : m.isRoad t tags = n.isRoad t tags
  roadTag : ∀ tag ∈ tags, m.isRoadTag t tag = n.isRoadTag t tag
  oneWay : m.isOneWay t tags = n.isOneWay t tags

/-- Two models have the same parts, rules apart; of tables and surfaces only what is found in them
counts. -/
structure SameParts (m n : Model) : Prop where
  speeds : ∀ c, m.tables.speeds.get? c = n.tables.speeds.get? c
  factors : ∀ c, m.tables.factors.get? c = n.tables.factors.get? c
  surfaces : ∀ path, m.surfaceAt? path = n.surfaceAt? path
  traits : m.traits = n.traits
  mode : m.mode = n.mode

/-- Models with the same parts say the same about tags for which they find the same rules. -/
theorem SameParts.sameAnswers (h : m.SameParts n)
    (hrules : ∀ tag ∈ tags, m.tagRule? t tag = n.tagRule? t tag) : m.SameAnswers n t tags := by
  have hrule : m.resolveRule t tags = n.resolveRule t tags := lastMatch_congr hrules
  constructor
  · intro trip
    refine resolveSpeed_congr ⟨hrule, ?_, ?_, .inr h.mode, ?_, ?_⟩
    · exact surfaceFactor_congr_paths fun _ _ path _ => h.surfaces path
    · rw [limitInForce, limitInForce, h.traits]
    · intro c _
      exact ⟨h.speeds c, h.factors c⟩
    · intro _
      rw [offroad, offroad, h.traits]
  · rw [resolveCategory, resolveCategory, hrule]
  · rw [allowsPassThrough, allowsPassThrough, hrule]
  · rw [isRoad, isRoad, hrule, h.traits]
  · intro tag htag
    rw [isRoadTag, isRoadTag, hrules tag htag]
  · rw [isOneWay, isOneWay, vehicle, vehicle, h.traits]

end Model

end RoadSpeed
