import RoadSpeed.Proofs.Model.Access
import RoadSpeed.Proofs.Model.Totality

/-!
# What the answers of a model hang on

Of a list of tags a model reads the rule of the last tag that belongs to one, the factor of the
last surface, and which paths are among the tags (specification, §4.1 to §4.3). Of a tag it
reads the path, not the number.

- `Model.SaysAlike`: a model says the same of two lists of tags.
- `Model.saysAlike_of_readings`: it does when its three readings are the same.
- `Model.SameMatches`, `Model.Reworked`, `Model.saysAlike_of_matches`: how far the order
  of tags and their repetition count.
- `Model.saysAlike_of_paths`: lists with the same paths, whatever the numbers.
-/

namespace RoadSpeed

/-! ## Scans of lists that are put together -/

section Scan

variable {α β γ : Type} {f : α → Option β}

theorem lastMatch_append_list (f : α → Option β) (xs ys : List α) :
    lastMatch f (xs ++ ys) = (lastMatch f ys).or (lastMatch f xs) := by
  rw [lastMatch_eq_findSome?_reverse, lastMatch_eq_findSome?_reverse,
    lastMatch_eq_findSome?_reverse, List.reverse_append, List.findSome?_append]

theorem lastMatch_append_self (f : α → Option β) (xs : List α) :
    lastMatch f (xs ++ xs) = lastMatch f xs := by
  rw [lastMatch_append_list, Option.or_self]

theorem lastMatch_map (f : β → Option γ) (g : α → β) (xs : List α) :
    lastMatch f (xs.map g) = lastMatch (fun x => f (g x)) xs :=
  List.foldl_map

/-- Writing an element once more before all others changes no rightmost match. -/
theorem rightmost_cons_iff {R : α → β → Prop} {x : α} {xs : List α} (h : x ∈ xs) (b : β) :
    Rightmost R (x :: xs) b ↔ Rightmost R xs b := by
  constructor
  · rintro ⟨before, y, after, hxs, hy, hafter⟩
    cases before with
    | nil =>
      -- the element in front is found again further right
      obtain ⟨rfl, rfl⟩ := List.cons.inj hxs
      exact absurd hy (hafter x h b)
    | cons z before =>
      obtain ⟨-, rfl⟩ := List.cons.inj hxs
      exact ⟨before, y, after, rfl, hy, hafter⟩
  · rintro ⟨before, y, after, rfl, hy, hafter⟩
    exact ⟨x :: before, y, after, rfl, hy, hafter⟩

end Scan

/-- One list is made from another in steps: elements change places, one that is there is
written once more, and one that stands elsewhere too is struck. -/
inductive Reworked {α : Type} : List α → List α → Prop where
  | moved {xs ys : List α} (h : xs.Perm ys) : Reworked xs ys
  | repeated {x : α} {xs : List α} (h : x ∈ xs) : Reworked xs (x :: xs)
  | struck {x : α} {xs : List α} (h : x ∈ xs) : Reworked (x :: xs) xs
  | trans {xs ys zs : List α} (h : Reworked xs ys) (h' : Reworked ys zs) : Reworked xs zs

/-- A list that is made from another has the same elements. -/
theorem Reworked.mem_iff {α : Type} {xs ys : List α} (h : Reworked xs ys) (x : α) :
    x ∈ xs ↔ x ∈ ys := by
  induction h with
  | moved h => exact h.mem_iff
  | repeated h =>
    rw [List.mem_cons]
    exact ⟨.inr, fun hx => hx.elim (fun e => e ▸ h) id⟩
  | struck h =>
    rw [List.mem_cons]
    exact ⟨fun hx => hx.elim (fun e => e ▸ h) id, .inr⟩
  | trans _ _ ih ih' => exact ih.trans ih'

namespace Model

/-- A model says the same of two lists of tags, each read by a classification of its
own. -/
structure SaysAlike (m : Model) (t u : Classification) (ts us : List TagId) : Prop where
  speed : ∀ trip, m.resolveSpeed t ts trip = m.resolveSpeed u us trip
  category : m.resolveCategory t ts = m.resolveCategory u us
  passThrough : m.allowsPassThrough t ts = m.allowsPassThrough u us
  road : m.isRoad t ts = m.isRoad u us
  oneWay : m.isOneWay t ts = m.isOneWay u us
  type : ∀ path, hasType t ts path = hasType u us path

variable {m : Model} {t u : Classification} {ts us : List TagId}

/-- The answers of a model follow from three readings of the tags. -/
theorem saysAlike_of_readings (hrule : m.resolveRule t ts = m.resolveRule u us)
    (hsurface : m.surfaceFactor t ts = m.surfaceFactor u us)
    (htype : ∀ path, hasType t ts path = hasType u us path) : m.SaysAlike t u ts us where
  speed trip := by rw [resolveSpeed, resolveSpeed, hrule, hsurface]
  category := by rw [resolveCategory, resolveCategory, hrule]
  passThrough := by rw [allowsPassThrough, allowsPassThrough, hrule]
  road := by rw [isRoad, isRoad, hrule, htype, htype]
  oneWay := by rw [isOneWay, isOneWay, funext htype]
  type := htype

/-! ## Order and repetition -/

/-- Two lists hold the same tags, the same rule counts in both, if any does, and so does the
same surface factor. -/
structure SameMatches (m : Model) (t : Classification) (ts us : List TagId) : Prop where
  tags : ∀ tag, tag ∈ ts ↔ tag ∈ us
  rule : ∀ rule, Rightmost (m.Belongs t) ts rule ↔ Rightmost (m.Belongs t) us rule
  surface : ∀ factor, Rightmost (m.SurfaceOf t) ts factor ↔ Rightmost (m.SurfaceOf t) us factor

theorem hasType_congr (h : ∀ tag, tag ∈ ts ↔ tag ∈ us) (path : TagPath) :
    hasType t ts path = hasType t us path := by
  rw [Bool.eq_iff_iff, hasType_iff, hasType_iff]
  exact exists_congr fun tag => and_congr_left' (h tag)

theorem resolveRule_congr
    (h : ∀ rule, Rightmost (m.Belongs t) ts rule ↔ Rightmost (m.Belongs t) us rule) :
    m.resolveRule t ts = m.resolveRule t us := by
  refine Option.ext fun rule => ?_
  rw [resolveRule_eq_some_iff, resolveRule_eq_some_iff]
  exact h rule

theorem surfaceFactor_congr
    (h : ∀ factor, Rightmost (m.SurfaceOf t) ts factor ↔ Rightmost (m.SurfaceOf t) us factor) :
    m.surfaceFactor t ts = m.surfaceFactor t us := by
  refine congrArg (fun found : Option Factor => found.getD .identity) (Option.ext ?_)
  intro factor
  rw [lastSurface_eq_some_iff, lastSurface_eq_some_iff]
  exact h factor

theorem SameMatches.saysAlike (h : m.SameMatches t ts us) : m.SaysAlike t t ts us :=
  saysAlike_of_readings (resolveRule_congr h.rule) (surfaceFactor_congr h.surface)
    (hasType_congr h.tags)

/-- A tag that is written once more before all others leaves both matches. -/
theorem SameMatches.repeated (m : Model) (t : Classification) {tag : TagId} (h : tag ∈ ts) :
    m.SameMatches t ts (tag :: ts) where
  tags := (Reworked.repeated h).mem_iff
  rule rule := (rightmost_cons_iff h rule).symm
  surface factor := (rightmost_cons_iff h factor).symm

/-- A model says the same of a list and of the list written twice. -/
theorem saysAlike_append_self (m : Model) (t : Classification) (ts : List TagId) :
    m.SaysAlike t t (ts ++ ts) ts := by
  refine saysAlike_of_readings (lastMatch_append_self _ ts) ?_ (hasType_congr ?_)
  · rw [surfaceFactor, lastMatch_append_self]
    rfl
  · intro tag
    rw [List.mem_append, or_self]

/-- Lists of the same tags in which the same rule and the same surface count get the same
answers. So reworking a list is without effect when it keeps both matches, writing the
whole list twice always is, and whether a road is one-way does not hang on the order. -/
theorem saysAlike_of_matches (m : Model) (t : Classification) :
    (∀ ts us, m.SameMatches t ts us → m.SaysAlike t t ts us) ∧
      (∀ ts us, Reworked ts us →
        (∀ rule, Rightmost (m.Belongs t) ts rule ↔ Rightmost (m.Belongs t) us rule) →
        (∀ factor,
          Rightmost (m.SurfaceOf t) ts factor ↔ Rightmost (m.SurfaceOf t) us factor) →
        m.SaysAlike t t ts us) ∧
      (∀ ts, m.SaysAlike t t (ts ++ ts) ts) ∧
      ∀ ts us, ts.Perm us →
        hasOneWayTag t ts = hasOneWayTag t us ∧ m.isOneWay t ts = m.isOneWay t us := by
  refine ⟨fun ts us h => h.saysAlike, ?_, m.saysAlike_append_self t, ?_⟩
  · intro ts us hedit hrule hsurface
    exact SameMatches.saysAlike ⟨hedit.mem_iff, hrule, hsurface⟩
  · intro ts us hperm
    have htype := hasType_congr (t := t) fun tag => hperm.mem_iff
    refine ⟨htype oneWayPath, ?_⟩
    rw [isOneWay, isOneWay, funext htype]

/-- A taxonomy of the tags of a street with a surface. -/
def pavedTaxonomy : Taxonomy :=
  ((Taxonomy.empty.see Category.residential.place).see oneWayPath).see ["psurface", "paved_bad"]

/-- The tags of a paved one-way street. -/
def pavedTags : List TagId := [2, 1, 3]

/-- On the street the category may be written once more, before all other tags. -/
theorem saysAlike_of_matches_paved : ∃ m, create .car "" none .clamp = .ok m ∧
    Reworked pavedTags (1 :: pavedTags) ∧
      m.SameMatches pavedTaxonomy pavedTags (1 :: pavedTags) ∧
        m.SaysAlike pavedTaxonomy pavedTaxonomy pavedTags (1 :: pavedTags) ∧
          m.isOneWay pavedTaxonomy pavedTags = m.isOneWay pavedTaxonomy pavedTags.reverse := by
  have hmem : 1 ∈ pavedTags := by decide
  have hsame (m : Model) := SameMatches.repeated m pavedTaxonomy.classification hmem
  refine ⟨_, create_eq_ok .car "" .clamp, .repeated hmem, hsame _, ?_⟩
  obtain ⟨hmatches, -, -, hperm⟩ := saysAlike_of_matches _ pavedTaxonomy.classification
  exact ⟨hmatches _ _ (hsame _), (hperm _ _ (List.reverse_perm pavedTags).symm).2⟩

/-! ## Paths and numbers -/

theorem resolveRule_eq_of_paths (m : Model) (t : Classification) (ts : List TagId) :
    m.resolveRule t ts = lastMatch (fun path => path.bind m.ruleOf?) (ts.map t.path?) := by
  rw [lastMatch_map]
  rfl

theorem surfaceFactor_eq_of_paths (m : Model) (t : Classification) (ts : List TagId) :
    m.surfaceFactor t ts =
      (lastMatch (fun path => path.bind m.surfaceAt?) (ts.map t.path?)).getD .identity := by
  rw [lastMatch_map]
  rfl

theorem hasType_eq_of_paths (t : Classification) (ts : List TagId) (path : TagPath) :
    hasType t ts path = (ts.map t.path?).any fun p => p = some path := by
  rw [List.any_map]
  rfl

/-- Lists whose tags stand at the same paths get the same answers. -/
theorem saysAlike_of_map_eq (h : ts.map t.path? = us.map u.path?) : m.SaysAlike t u ts us := by
  refine saysAlike_of_readings ?_ ?_ ?_
  · rw [resolveRule_eq_of_paths, resolveRule_eq_of_paths, h]
  · rw [surfaceFactor_eq_of_paths, surfaceFactor_eq_of_paths, h]
  · intro path
    rw [hasType_eq_of_paths, hasType_eq_of_paths, h]

/-- Tags at the same paths are tags of roads alike. -/
theorem map_isRoadTag_congr (h : ts.map t.path? = us.map u.path?) :
    ts.map (m.isRoadTag t) = us.map (m.isRoadTag u) := by
  have hread (t : Classification) (ts : List TagId) : ts.map (m.isRoadTag t) =
      (ts.map t.path?).map fun path => (path.bind m.ruleOf?).any AccessRule.routable := by
    rw [List.map_map]
    rfl
  rw [hread, hread, h]

/-- A model reads the paths of tags only. It says the same of two lists whose tags stand at
the same paths, however two classifications number them, and whatever a taxonomy is shown
later changes no answer about the numbers that it has given. -/
theorem saysAlike_of_paths (m : Model) :
    (∀ (t u : Classification) (ts us : List TagId), ts.map t.path? = us.map u.path? →
        m.SaysAlike t u ts us ∧ ts.map (m.isRoadTag t) = us.map (m.isRoadTag u)) ∧
      ∀ (t : Taxonomy) (refs : List TagRef) (ts : List TagId),
        (∀ tag ∈ ts, ∃ path, t.path? tag = some path) →
          m.SaysAlike t (t.serve refs).2 ts ts ∧
            ts.map (m.isRoadTag t) = ts.map (m.isRoadTag (t.serve refs).2) := by
  refine ⟨fun t u ts us h => ⟨saysAlike_of_map_eq h, map_isRoadTag_congr h⟩, ?_⟩
  intro t refs ts hknown
  have h : ts.map t.classification.path? = ts.map (t.serve refs).2.classification.path? := by
    refine List.map_congr_left fun tag htag => ?_
    obtain ⟨path, hpath⟩ := hknown tag htag
    exact hpath.trans (Taxonomy.path?_serve refs hpath).symm
  exact ⟨saysAlike_of_map_eq h, map_isRoadTag_congr h⟩

/-- A taxonomy that has seen a street and then a one-way street. -/
def earlyTaxonomy : Taxonomy :=
  (Taxonomy.empty.serve [.named "highway-residential", .named "hwtag-oneway"]).2

/-- A taxonomy that has refused a path in between and seen the same tags in reverse. -/
def lateTaxonomy : Taxonomy :=
  (Taxonomy.empty.serve [.located oneWayPath, .located [], .located Category.residential.place]).2

/-- Two taxonomies number a street and its one-way tag in opposite order. -/
theorem saysAlike_of_paths_street : ∃ m, create .car "" none .clamp = .ok m ∧
    m.SaysAlike earlyTaxonomy lateTaxonomy [1, 2, 9] [2, 1, 0] ∧
      m.SaysAlike earlyTaxonomy (earlyTaxonomy.serve [.named "highway-primary"]).2
        [2, 1] [2, 1] := by
  refine ⟨_, create_eq_ok .car "" .clamp, ?_, ?_⟩
  · have h : ([1, 2, 9] : List TagId).map earlyTaxonomy.path? =
        ([2, 1, 0] : List TagId).map lateTaxonomy.path? := by decide +kernel
    exact ((saysAlike_of_paths _).1 _ _ _ _ h).1
  · have h : ∀ tag ∈ ([2, 1] : List TagId), ∃ path, earlyTaxonomy.path? tag = some path := by
      simp only [← Option.isSome_iff_exists]
      decide +kernel
    exact ((saysAlike_of_paths _).2 _ _ _ h).1

end Model

end RoadSpeed
