import RoadSpeed.Proofs.Model.Answers

/-!
# Variants of categories

A tag that stands below the place of a category, such as the one of bridges, is a variant of it.
It is read like the category (specification, §11) where two segments lead to the place of that.
One category stands deeper, at the end of three segments, and its variants belong to no
category.

- `Varied`: tags that differ at most as a category and a variant of it do.
- `Varied.bind_eq`: what is read from the paths of such tags.
- `Model.ruleOf?_variant`, `Model.ruleOf?_below_motorail`: the rule of a variant.
- `Model.ReadAlike`: what a model says the same about two lists of tags.
- `Model.variants_read_alike`: variants in lists of tags.
-/

namespace RoadSpeed

/-! ## Places -/

/-- Two segments lead to each category but one. -/
theorem Category.length_place_iff (c : Category) :
    c.place.length = categoryLevel ↔ c ≠ .motorail := by
  cases c <;> decide

/-- No category stands on the way to the one at the end of three segments. -/
theorem Category.place_ne_take_motorail (c : Category) :
    c.place ≠ Category.motorail.place.take categoryLevel := by
  cases c <;> decide

/-! ## Lists that are alike -/

section Alike

variable {α β : Type} {f : α → β} {R : α → α → Prop} {xs ys : List α}

/-- Lists that are alike element by element give the same where alike elements do. -/
theorem map_congr_of_forall₂ (h : ∀ a b, R a b → f a = f b) (hlists : List.Forall₂ R xs ys) :
    xs.map f = ys.map f := by
  rw [← List.forall₂_eq_eq_eq, List.forall₂_map_left_iff, List.forall₂_map_right_iff]
  exact hlists.imp h

end Alike

/-- Tags are the same, or one stands at a place and the other one at a variant of it. -/
inductive Varied (t : Classification) (place variant : TagPath) : TagId → TagId → Prop where
  | same (tag : TagId) : Varied t place variant tag tag
  | below {a b : TagId} (ha : t.path? a = some place) (hb : t.path? b = some variant) :
      Varied t place variant a b
  | above {a b : TagId} (ha : t.path? a = some variant) (hb : t.path? b = some place) :
      Varied t place variant a b

section Varied

variable {t : Classification} {place variant : TagPath} {a b : TagId} {ts us : List TagId}

/-- What is read from the paths is the same where it is for the place and for the variant. -/
theorem Varied.bind_eq {α : Type} {f : TagPath → Option α} (h : Varied t place variant a b)
    (hread : f variant = f place) : (t.path? a).bind f = (t.path? b).bind f := by
  cases h with
  | same => rfl
  | below ha hb => rw [ha, hb, Option.bind_some, Option.bind_some, hread]
  | above ha hb => rw [ha, hb, Option.bind_some, Option.bind_some, hread]

/-- So is what a scan of lists finds. -/
theorem lastMatch_bind_eq {α : Type} {f : TagPath → Option α}
    (h : List.Forall₂ (Varied t place variant) ts us) (hread : f variant = f place) :
    lastMatch (fun tag => (t.path? tag).bind f) ts =
      lastMatch (fun tag => (t.path? tag).bind f) us := by
  have hmap := map_congr_of_forall₂ (fun a b hab => Varied.bind_eq hab hread) h
  calc lastMatch (fun tag => (t.path? tag).bind f) ts
      = lastMatch id (ts.map fun tag => (t.path? tag).bind f) := (lastMatch_map id _ ts).symm
    _ = lastMatch id (us.map fun tag => (t.path? tag).bind f) := congrArg _ hmap
    _ = lastMatch (fun tag => (t.path? tag).bind f) us := lastMatch_map id _ us

/-- Neither tag stands at a third path, or they are the same. -/
theorem Varied.path?_eq_iff {path : TagPath} (h : Varied t place variant a b)
    (hplace : path ≠ place) (hvariant : path ≠ variant) :
    t.path? a = some path ↔ t.path? b = some path := by
  cases h with
  | same => rfl
  | below ha hb => simp [ha, hb, hplace.symm, hvariant.symm]
  | above ha hb => simp [ha, hb, hplace.symm, hvariant.symm]

theorem Model.hasType_of_forall₂ {path : TagPath}
    (h : List.Forall₂ (Varied t place variant) ts us) (hplace : path ≠ place)
    (hvariant : path ≠ variant) : hasType t ts path = hasType t us path := by
  have hread (tags : List TagId) :
      hasType t tags path = (tags.map fun tag => decide (t.path? tag = some path)).any id := by
    rw [List.any_map]
    rfl
  rw [hread, hread, map_congr_of_forall₂ ?_ h]
  intro a b hab
  exact decide_eq_decide.mpr (hab.path?_eq_iff hplace hvariant)

end Varied

namespace Model

variable {m : Model} {t : Classification} {rule : AccessRule} {extra : TagPath}

/-! ## The rule of a variant -/

theorem ruleOf?_place (hrule : rule ∈ m.rules) : m.ruleOf? rule.category.place = some rule :=
  ruleOf?_eq_some_iff.mpr ⟨hrule, .inl rfl⟩

/-- A variant of a category at the end of two segments has the rule of the category. -/
theorem ruleOf?_variant (hrule : rule ∈ m.rules) (hdeep : rule.category ≠ .motorail)
    (hextra : extra ≠ []) (hfree : ∀ r ∈ m.rules, r.category.place ≠ rule.category.place ++ extra) :
    m.ruleOf? (rule.category.place ++ extra) = some rule := by
  have hlength : rule.category.place.length = 2 := rule.category.length_place_iff.mpr hdeep
  have hpos : 0 < extra.length := List.length_pos_iff.mpr hextra
  refine ruleOf?_eq_some_iff.mpr ⟨hrule, .inr ⟨hfree, ?_, ?_⟩⟩
  · rw [List.length_append, hlength]
    omega
  · exact (List.take_left' hlength).symm

/-- What lies below the place at the end of three segments has no rule. -/
theorem ruleOf?_below_motorail (hdeep : rule.category = .motorail)
    (hfree : ∀ r ∈ m.rules, r.category.place ≠ rule.category.place ++ extra) :
    m.ruleOf? (rule.category.place ++ extra) = none := by
  rw [Option.eq_none_iff_forall_ne_some]
  intro r hr
  obtain ⟨hmem, hplace | ⟨-, -, hplace⟩⟩ := ruleOf?_eq_some_iff.mp hr
  · exact hfree r hmem hplace
  · have hlength : 2 ≤ Category.motorail.place.length := by decide
    rw [hdeep, List.take_append_of_le_length hlength] at hplace
    exact r.category.place_ne_take_motorail hplace

/-! ## Variants in lists of tags -/

/-- A model says the same about two lists in which tags at a place and at a variant of it stand
for each other: always about the category, about roads if neither path opens or closes roads, and
about speeds if neither is a surface. -/
structure ReadAlike (m : Model) (t : Classification) (place variant : TagPath)
    (ts us : List TagId) : Prop where
  category : m.resolveCategory t ts = m.resolveCategory t us
  passThrough : m.allowsPassThrough t ts = m.allowsPassThrough t us
  road : (∀ path ∈ [place, variant], path ≠ m.traits.noPath ∧ path ≠ m.traits.yesPath) →
    m.isRoad t ts = m.isRoad t us
  speed : (∀ path ∈ [place, variant], m.surfaceAt? path = none) →
    ∀ trip, m.resolveSpeed t ts trip = m.resolveSpeed t us trip

/-- Paths with the same rule can stand for each other. -/
theorem readAlike_of_ruleOf? {place variant : TagPath} (hrule : m.ruleOf? variant = m.ruleOf? place)
    {ts us : List TagId} (h : List.Forall₂ (Varied t place variant) ts us) :
    m.ReadAlike t place variant ts us := by
  have hresolve : m.resolveRule t ts = m.resolveRule t us := lastMatch_bind_eq h hrule
  constructor
  · rw [resolveCategory, resolveCategory, hresolve]
  · rw [allowsPassThrough, allowsPassThrough, hresolve]
  · intro hpaths
    rw [List.forall_mem_cons, List.forall_mem_singleton] at hpaths
    obtain ⟨hplace, hvariant⟩ := hpaths
    rw [isRoad, isRoad, hresolve, hasType_of_forall₂ h hplace.1.symm hvariant.1.symm,
      hasType_of_forall₂ h hplace.2.symm hvariant.2.symm]
  · intro hsurface trip
    rw [List.forall_mem_cons, List.forall_mem_singleton] at hsurface
    have hfactor : m.surfaceFactor t ts = m.surfaceFactor t us := by
      rw [surfaceFactor, surfaceFactor, lastMatch_bind_eq h (hsurface.2.trans hsurface.1.symm)]
    rw [resolveSpeed, resolveSpeed, hresolve, hfactor]

/-- A tag below the place of a category, where no other category stands, is read like one at the
place itself, if two segments lead there: it is a tag of the same roads, and in lists of tags one
can stand for the other. Below the one place at the end of three segments a tag has no rule. -/
theorem variants_read_alike (t : Classification) (hrule : rule ∈ m.rules) (hextra : extra ≠ [])
    (hfree : ∀ r ∈ m.rules, r.category.place ≠ rule.category.place ++ extra) :
    (rule.category ≠ .motorail →
      (∀ a b, Varied t rule.category.place (rule.category.place ++ extra) a b →
        m.isRoadTag t a = m.isRoadTag t b) ∧
      ∀ ts us, List.Forall₂ (Varied t rule.category.place (rule.category.place ++ extra)) ts us →
        m.ReadAlike t rule.category.place (rule.category.place ++ extra) ts us) ∧
    (rule.category = .motorail → ∀ tag, t.path? tag = some (rule.category.place ++ extra) →
      ∀ r, ¬ m.Belongs t tag r) := by
  constructor
  · intro hdeep
    have hsame := (ruleOf?_variant hrule hdeep hextra hfree).trans (ruleOf?_place hrule).symm
    refine ⟨?_, fun ts us h => readAlike_of_ruleOf? hsame h⟩
    intro a b hab
    rw [isRoadTag, isRoadTag, tagRule?, tagRule?, hab.bind_eq hsame]
  · intro hdeep tag htag r hr
    rw [← tagRule?_eq_some_iff, tagRule?, htag, Option.bind_some,
      ruleOf?_below_motorail hdeep hfree] at hr
    cases hr

/-- A taxonomy of primary roads, of bridges of these and of one-way roads. -/
def bridgeTaxonomy : Taxonomy :=
  ((Taxonomy.empty.see Category.primary.place).see
    (Category.primary.place ++ ["bridge"])).see oneWayPath

/-- A car reads a one-way bridge of a primary road like any other one-way primary road. -/
theorem variants_read_alike_bridge : ∃ m, create .car "" none .clamp = .ok m ∧
    m.isRoadTag bridgeTaxonomy 2 = m.isRoadTag bridgeTaxonomy 1 ∧
    m.resolveCategory bridgeTaxonomy [2, 3] = m.resolveCategory bridgeTaxonomy [1, 3] ∧
    m.isRoad bridgeTaxonomy [2, 3] = m.isRoad bridgeTaxonomy [1, 3] ∧
    ∀ trip,
      m.resolveSpeed bridgeTaxonomy [2, 3] trip = m.resolveSpeed bridgeTaxonomy [1, 3] trip := by
  let t := bridgeTaxonomy.classification
  have hvaried : Varied t Category.primary.place (Category.primary.place ++ ["bridge"]) 2 1 :=
    .above (by decide +kernel) (by decide +kernel)
  have hrule : (⟨.primary, true, true⟩ : AccessRule) ∈ Vehicle.car.defaults.rulesIn "" := by
    decide +kernel
  -- no rule of a car stands at the place of the bridge itself
  have hfree : ∀ r ∈ Vehicle.car.defaults.rulesIn "",
      r.category.place ≠ Category.primary.place ++ ["bridge"] := by decide +kernel
  obtain ⟨hprimary, -⟩ := variants_read_alike (m := ⟨_, _, Vehicle.car.defaults.surfaces,
    Vehicle.car.defaults.traits, .clamp, Vehicle.car.allDefects_defaults ""⟩) t hrule
    (List.cons_ne_nil "bridge" []) hfree
  obtain ⟨htags, hlists⟩ := hprimary (by decide)
  have halike := hlists [2, 3] [1, 3] (.cons hvaried (.cons (.same 3) .nil))
  exact ⟨_, create_eq_ok .car "" .clamp, htags 2 1 hvaried, halike.category,
    halike.road (by decide +kernel), halike.speed (by decide +kernel)⟩

/-- A taxonomy of trains that carry cars and of bridges of these. -/
def motorailTaxonomy : Taxonomy :=
  (Taxonomy.empty.see Category.motorail.place).see (Category.motorail.place ++ ["bridge"])

/-- For a car a train that carries it is a category, at the end of three segments, but not on a
bridge: the tag below the category has none. -/
theorem motorail_bridge_has_no_category : ∃ m, create .car "" none .clamp = .ok m ∧
    (∃ rule ∈ m.rules, rule.category = .motorail) ∧
    (∀ r ∈ m.rules, r.category.place ≠ Category.motorail.place ++ ["bridge"]) ∧
    motorailTaxonomy.path? 2 = some (Category.motorail.place ++ ["bridge"]) ∧
    m.resolveCategory motorailTaxonomy [1] = some .motorail ∧
    m.resolveCategory motorailTaxonomy [2] = none := by
  refine ⟨_, create_eq_ok .car "" .clamp, ?_⟩
  decide +kernel

end Model

end RoadSpeed
