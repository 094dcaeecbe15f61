import Mathlib.Data.Finset.Card
import Mathlib.Data.List.Dedup
import Mathlib.Logic.Function.Iterate
import RoadSpeed.Proofs.Fleet.Construction

/-!
# Whose rules a country follows

A country without rules of its own follows the first region on the way up that has some
(specification, §4.5). The search strikes each region it passes, so that it ends where parents
run in a circle. The searches from a region and from its parent strike different regions; what
they find is the same all the same, since both find what the relation `Follows` says.

- `Parents.Follows.strike`: striking a region takes nothing from the way up from its parent.
- `Parents.firstAlong_eq_some_iff`, `Parents.firstAlong_parent`: the search finds what the
  relation says, and a region that is passed has what its parent has.
- `Parents.FirstAt`, `Parents.FirstAt.le_length`: the first wanted region by the number of
  steps, and how many steps there can be.
- `Fleet.modelFor_of_firstAt`, `Fleet.modelFor_parent`: the model of a country by its way up,
  and by that of its parent.
- `Fleet.modelFor_fallback`: the model that a fleet gives for a country.
-/

namespace RoadSpeed

namespace Parents

variable {wanted : String → Bool} {parents : Parents} {region top : String}

/-! ## Regions that are struck -/

/-- A region that is struck has no parent, and the others keep theirs. -/
theorem parent_strike (parents : Parents) (struck region : String) :
    (parents.strike struck).parent region =
      if region = struck then "" else parents.parent region := by
  unfold parent strike
  induction parents with
  | nil => split <;> rfl
  | cons e parents ih =>
    obtain ⟨i, next⟩ := e
    by_cases hi : i = struck
    · subst hi
      rw [List.filter_cons_of_neg (by simp), ih, Entries.lookup_cons]
      split <;> rfl
    · rw [List.filter_cons_of_pos (by simpa using hi), Entries.lookup_cons, Entries.lookup_cons]
      by_cases hr : region = i
      · subst hr
        rw [if_pos rfl, if_pos rfl, if_neg hi]
      · rw [if_neg hr, if_neg hr, ih]

/-- The region without a name is on no way up. -/
theorem Follows.named (h : Follows wanted parents region top) : region ≠ "" := by
  cases h with
  | here named _ => exact named
  | up named _ _ => exact named

/-- What is found without a region's entry is found with it. -/
theorem Follows.of_strike {struck : String}
    (h : Follows wanted (parents.strike struck) region top) :
    Follows wanted parents region top := by
  induction h with
  | here named hwanted => exact .here named hwanted
  | @up region top named hwanted next ih =>
    rw [parent_strike] at next ih
    split at next
    · exact absurd rfl next.named
    · rename_i hregion
      rw [if_neg hregion] at ih
      exact .up named hwanted ih

/-- Without a region's entry a way up stays as it is, or it goes through the parent of the
region. -/
theorem Follows.strike_or (h : Follows wanted parents region top) (struck : String) :
    Follows wanted (parents.strike struck) region top ∨
      Follows wanted (parents.strike struck) (parents.parent struck) top := by
  induction h with
  | here named hwanted => exact .inl (.here named hwanted)
  | @up region top named hwanted _ ih =>
    obtain ih | ih := ih
    · by_cases hregion : region = struck
      · exact .inr (hregion ▸ ih)
      · refine .inl (.up named hwanted ?_)
        rwa [parent_strike, if_neg hregion]
    · exact .inr ih

/-- Striking a region takes nothing from the way up from its parent. -/
theorem Follows.strike (h : Follows wanted parents (parents.parent region) top) :
    Follows wanted (parents.strike region) (parents.parent region) top :=
  (h.strike_or region).elim id id

/-! ## The search -/

/-- The search finds what the relation says. -/
theorem firstAlong_eq_some_iff :
    firstAlong wanted parents region = some top ↔ Follows wanted parents region top := by
  -- on the search, which strikes each entry that it passes and so ends in circles too
  fun_induction firstAlong wanted parents region with
  | case1 parents => exact iff_of_false nofun fun h => h.named rfl
  | case2 parents region named hwanted =>
    constructor
    · intro h
      cases h
      exact .here named hwanted
    · intro h
      cases h with
      | here _ _ => rfl
      | up _ hpassed _ => exact absurd (hwanted.symm.trans hpassed) nofun
  | case3 parents region named hpassed hnone =>
    refine iff_of_false nofun fun h => ?_
    cases h with
    | here _ hwanted => exact hpassed hwanted
    | up _ _ next =>
      rw [parent, hnone] at next
      exact next.named rfl
  | case4 parents region named hpassed next hnext _ ih =>
    have hparent : parents.parent region = next := by rw [parent, hnext, Option.getD_some]
    -- a way up needs no entry twice, so that the struck one is not missed
    rw [ih, ← hparent]
    constructor
    · intro h
      exact .up named (eq_false_of_ne_true hpassed) h.of_strike
    · intro h
      cases h with
      | here _ hwanted => exact absurd hwanted hpassed
      | up _ _ h => exact h.strike

/-- A region that is passed has what its parent has, also where parents run in a circle. -/
theorem firstAlong_parent (named : region ≠ "") (hpassed : wanted region = false) :
    firstAlong wanted parents region = firstAlong wanted parents (parents.parent region) := by
  refine Option.ext fun top => ?_
  rw [firstAlong_eq_some_iff, firstAlong_eq_some_iff]
  constructor
  · intro h
    cases h with
    | here _ hwanted => exact absurd (hwanted.symm.trans hpassed) nofun
    | up _ _ h => exact h
  · exact .up named hpassed

/-! ## Steps -/

/-- Going up from a region, `top` is the first one that is wanted, and it is `n` steps up. -/
structure FirstAt (wanted : String → Bool) (parents : Parents) (region : String) (n : Nat)
    (top : String) : Prop where
  reached : parents.parent^[n] region = top
  /-- The way does not pass the region without a name. -/
  named : ∀ i ≤ n, parents.parent^[i] region ≠ ""
  wanted_top : wanted top = true
  /-- What is passed before is not wanted. -/
  passed : ∀ i < n, wanted (parents.parent^[i] region) = false

theorem FirstAt.here (named : region ≠ "") (h : wanted region = true) :
    FirstAt wanted parents region 0 region where
  reached := rfl
  named i hi := by
    obtain rfl := Nat.le_zero.mp hi
    exact named
  wanted_top := h
  passed i hi := absurd hi (Nat.not_lt_zero i)

theorem FirstAt.up {n : Nat} (named : region ≠ "") (h : wanted region = false)
    (next : FirstAt wanted parents (parents.parent region) n top) :
    FirstAt wanted parents region (n + 1) top where
  reached := next.reached
  named
    | 0, _ => named
    | i + 1, hi => next.named i (Nat.le_of_succ_le_succ hi)
  wanted_top := next.wanted_top
  passed
    | 0, _ => h
    | i + 1, hi => next.passed i (Nat.lt_of_succ_lt_succ hi)

/-- The relation, told by steps. -/
theorem follows_iff_exists_firstAt :
    Follows wanted parents region top ↔ ∃ n, FirstAt wanted parents region n top := by
  constructor
  · intro h
    induction h with
    | here named hwanted => exact ⟨0, .here named hwanted⟩
    | up named hpassed _ ih =>
      obtain ⟨n, ih⟩ := ih
      exact ⟨n + 1, .up named hpassed ih⟩
  · rintro ⟨n, h⟩
    induction n generalizing region with
    | zero =>
      obtain rfl : region = top := h.reached
      exact .here (h.named 0 le_rfl) h.wanted_top
    | succ n ih =>
      refine .up (h.named 0 (Nat.zero_le _)) (h.passed 0 n.succ_pos) (ih ⟨h.reached, ?_,
        h.wanted_top, ?_⟩)
      · exact fun i hi => h.named (i + 1) (Nat.succ_le_succ hi)
      · exact fun i hi => h.passed (i + 1) (Nat.succ_lt_succ hi)

/-- A region with a named parent is listed. -/
theorem mem_map_fst_of_parent_ne (h : parents.parent region ≠ "") :
    region ∈ parents.map Prod.fst := by
  unfold parent at h
  cases hfound : parents.lookup region with
  | none => simp [hfound] at h
  | some next =>
    obtain ⟨before, after, rfl, -⟩ := List.lookup_eq_some_iff.mp hfound
    simp

/-- No region is passed twice: a way that runs in a circle comes to the wanted region within
one round or never. -/
theorem FirstAt.injOn {n : Nat} (h : FirstAt wanted parents region n top) :
    Set.InjOn (fun i => parents.parent^[i] region) (Finset.range n) := by
  -- from a region that is passed again, the rest of the way is shorter than it is
  have hlt (i j : Nat) (hij : i < j) (hj : j < n) :
      parents.parent^[i] region ≠ parents.parent^[j] region := by
    intro heq
    have htop : parents.parent^[n - j + i] region = top := by
      rw [Function.iterate_add_apply, heq, ← Function.iterate_add_apply,
        Nat.sub_add_cancel hj.le, h.reached]
    have hpassed := h.passed (n - j + i) (by omega)
    rw [htop, h.wanted_top] at hpassed
    cases hpassed
  intro i hi j hj heq
  rw [Finset.coe_range, Set.mem_Iio] at hi hj
  rcases Nat.lt_trichotomy i j with hij | hij | hij
  · exact absurd heq (hlt i j hij hj)
  · exact hij
  · exact absurd heq.symm (hlt j i hij hi)

/-- The way to the first wanted region is no longer than the list of parents. -/
theorem FirstAt.le_length {n : Nat} (h : FirstAt wanted parents region n top) :
    n ≤ parents.length := by
  have hlisted : ∀ i ∈ Finset.range n,
      parents.parent^[i] region ∈ (parents.map Prod.fst).toFinset := by
    intro i hi
    have hnamed := h.named (i + 1) (Finset.mem_range.mp hi)
    rw [Function.iterate_succ_apply'] at hnamed
    exact List.mem_toFinset.mpr (mem_map_fst_of_parent_ne hnamed)
  calc n = (Finset.range n).card := (Finset.card_range n).symm
    _ ≤ (parents.map Prod.fst).toFinset.card := Finset.card_le_card_of_injOn _ hlisted h.injOn
    _ ≤ (parents.map Prod.fst).length := List.toFinset_card_le _
    _ = parents.length := List.length_map _

end Parents

namespace Fleet

variable {parents : Parents} {profiles : List Profile} {mode : LimitMode} {f : Fleet}

/-- A country with rules of its own has a model of its own. -/
theorem get?_byCountry (h : build parents profiles mode = .ok f) {v : Vehicle} {country : String}
    (hrules : v.defaults.countryRules.contains country = true) :
    (f.roster v).byCountry.get? country = some ((f.roster v).model country) := by
  rw [← contains_byCountry h, Table.contains_iff] at hrules
  obtain ⟨m, hm⟩ := Table.mem_keys_iff.mp hrules
  rw [Roster.model, Table.mem_toList_iff.mp hm, Option.getD_some]

/-- The region without a name has the model for use everywhere. -/
theorem model_unnamed (h : build parents profiles mode = .ok f) (v : Vehicle) :
    (f.roster v).model "" = f.standardModel v := by
  have hunnamed : "" ∉ (f.roster v).byCountry.keys := by
    rw [Roster.keys_byCountry (roster_of_build h v)]
    exact v.unnamed_notMem
  rw [Roster.model, Table.get?_eq_none_iff.mpr hunnamed, Option.getD_none, standardModel]

/-- The first region on the way up with rules of its own is the one whose rules hold. -/
theorem countryFor_of_firstAt (h : build parents profiles mode = .ok f) {v : Vehicle}
    {country top : String} {n : Nat}
    (hfirst : parents.FirstAt v.defaults.countryRules.contains country n top) :
    f.countryFor v country = top := by
  rw [countryFor_of_build h, Parents.firstAlong_eq_some_iff.mpr
    (Parents.follows_iff_exists_firstAt.mpr ⟨n, hfirst⟩), Option.getD_some]

/-- A country has the model of the first region on the way up with rules of its own. -/
theorem modelFor_of_firstAt (h : build parents profiles mode = .ok f) {v : Vehicle}
    {country top : String} {n : Nat}
    (hfirst : parents.FirstAt v.defaults.countryRules.contains country n top) :
    (f.roster v).byCountry.get? top = some (f.modelFor v country) := by
  rw [modelFor, countryFor_of_firstAt h hfirst, get?_byCountry h hfirst.wanted_top]

/-- A country with no such region has the model for use everywhere. -/
theorem modelFor_of_none (h : build parents profiles mode = .ok f) {v : Vehicle} {country : String}
    (hnone : ∀ n top, ¬ parents.FirstAt v.defaults.countryRules.contains country n top) :
    f.modelFor v country = f.standardModel v := by
  have hfound : parents.firstAlong v.defaults.countryRules.contains country = none := by
    refine Option.eq_none_iff_forall_ne_some.mpr fun top htop => ?_
    obtain ⟨n, hfirst⟩ := Parents.follows_iff_exists_firstAt.mp
      (Parents.firstAlong_eq_some_iff.mp htop)
    exact hnone n top hfirst
  rw [modelFor, countryFor_of_build h, hfound, Option.getD_none, model_unnamed h]

/-- A country without rules of its own has the model of its parent. -/
theorem modelFor_parent (h : build parents profiles mode = .ok f) {v : Vehicle} {country : String}
    (hnamed : country ≠ "") (hpassed : v.defaults.countryRules.contains country = false) :
    f.modelFor v country = f.modelFor v (parents.parent country) := by
  rw [modelFor, modelFor, countryFor_of_build h, countryFor_of_build h,
    Parents.firstAlong_parent hnamed hpassed]

/-- For each list of parents, also one that runs in a circle, a fleet gives in a country the
model of the first region on the way up with rules of its own, which is no more steps up than
there are parents, and the model for use everywhere if there is no such region. So a country
with rules of its own has its own model, the region without a name has the one for use
everywhere, and any other country has what its parent has. -/
theorem modelFor_fallback (h : build parents profiles mode = .ok f) (v : Vehicle)
    (country : String) :
    (∀ n top, parents.FirstAt v.defaults.countryRules.contains country n top →
      n ≤ parents.length ∧
        (f.roster v).byCountry.get? top = some (f.modelFor v country) ∧
          Model.create v top (profiles.find? fun p => p.vehicle = v) mode =
            .ok (f.modelFor v country)) ∧
      ((∀ n top, ¬ parents.FirstAt v.defaults.countryRules.contains country n top) →
        f.modelFor v country = f.standardModel v) ∧
      (v.defaults.countryRules.contains country = true →
        (f.roster v).byCountry.get? country = some (f.modelFor v country)) ∧
      f.modelFor v "" = f.standardModel v ∧
      Model.create v "" (profiles.find? fun p => p.vehicle = v) mode =
        .ok (f.standardModel v) ∧
      (country ≠ "" → v.defaults.countryRules.contains country = false →
        f.modelFor v country = f.modelFor v (parents.parent country)) := by
  refine ⟨?first, fun hnone => modelFor_of_none h hnone, ?own, ?unnamed, ?standard,
    fun hnamed hpassed => modelFor_parent h hnamed hpassed⟩
  case first =>
    intro n top hfirst
    exact ⟨hfirst.le_length, modelFor_of_firstAt h hfirst,
      countryFor_of_firstAt h hfirst ▸ create_modelFor h v country⟩
  case own =>
    intro hrules
    have hnamed : country ≠ "" := by
      rintro rfl
      exact v.unnamed_notMem ((Table.contains_iff _ _).mp hrules)
    exact modelFor_of_firstAt h (.here hnamed hrules)
  case unnamed => rw [modelFor, countryFor_unnamed, model_unnamed h]
  case standard => exact model_unnamed h v ▸ Roster.create_model (roster_of_build h v) ""

/-- Regions of Germany, and two that have each other for a parent. -/
def regions : Parents :=
  [("Bavaria", "Germany"), ("Atlantis", "Lemuria"), ("Munich", "Bavaria"),
    ("Lemuria", "Atlantis")]

/-- In Munich, bicycles go by the rules of Germany, two steps up; in the circle they go by
those for use everywhere. -/
theorem modelFor_fallback_regions : ∃ f, build regions [] .clamp = .ok f ∧
    regions.FirstAt Vehicle.bicycle.defaults.countryRules.contains "Munich" 2 "Germany" ∧
      Model.create .bicycle "Germany" none .clamp = .ok (f.modelFor .bicycle "Munich") ∧
        f.modelFor .bicycle "Atlantis" = f.standardModel .bicycle := by
  obtain ⟨f, hf⟩ := exists_build regions .clamp
  have hfirst :
      regions.FirstAt Vehicle.bicycle.defaults.countryRules.contains "Munich" 2 "Germany" :=
    .up (by decide) (by decide) (.up (by decide) (by decide) (.here (by decide) (by decide)))
  -- Atlantis and Lemuria are each the parent of the other
  have hround (n : Nat) :
      regions.parent^[n] "Atlantis" = "Atlantis" ∨ regions.parent^[n] "Atlantis" = "Lemuria" := by
    induction n with
    | zero => exact .inl rfl
    | succ n ih =>
      rw [Function.iterate_succ_apply']
      obtain ih | ih := ih
      · rw [ih]
        exact .inr rfl
      · rw [ih]
        exact .inl rfl
  have hnone (n : Nat) (top : String) :
      ¬ regions.FirstAt Vehicle.bicycle.defaults.countryRules.contains "Atlantis" n top := by
    intro h
    have htop := h.wanted_top
    rw [← h.reached] at htop
    obtain heq | heq := hround n
    · exact absurd (heq ▸ htop) (by decide)
    · exact absurd (heq ▸ htop) (by decide)
  obtain ⟨hmunich, -⟩ := modelFor_fallback hf .bicycle "Munich"
  obtain ⟨-, hcircle, -⟩ := modelFor_fallback hf .bicycle "Atlantis"
  obtain ⟨-, -, hcreate⟩ := hmunich 2 "Germany" hfirst
  exact ⟨f, hf, hfirst, hcreate, hcircle hnone⟩

end Fleet

end RoadSpeed
