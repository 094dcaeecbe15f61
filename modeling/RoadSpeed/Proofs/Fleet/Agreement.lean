import RoadSpeed.Proofs.Fleet.Construction

/-!
# Fleets and models created one at a time

A fleet builds its models in advance and finds them again by way of parents (specification,
§4.5). Where no region has a parent, that gives the models that are created one at a time. What
other classes are tuned by makes no difference to a class, and neither does the order of
profiles.

- `Parents.firstAlong_of_top`: the way up where no region has a parent.
- `Fleet.exists_build_iff_fits`: the profiles that there is a fleet for.
- `Fleet.roster_congr`: only the profile of a class makes a difference to its models.
- `Fleet.exists_build_of_perm`: the order of profiles makes no difference at all.
- `Fleet.build_agrees`: when there is a fleet, and that its models are the ones created.
-/

namespace RoadSpeed

/-! ## The way up -/

/-- Where no region has a parent, the first one on the way is the region itself. -/
theorem Parents.firstAlong_of_top {parents : Parents} (htop : ∀ region, parents.parent region = "")
    (wanted : String → Bool) (region : String) : firstAlong wanted parents region =
      if region ≠ "" ∧ wanted region = true then some region else none := by
  rw [firstAlong]
  by_cases hname : region = ""
  · simp [hname]
  · rw [if_neg hname]
    by_cases hwanted : wanted region = true
    · rw [if_pos hwanted, if_pos ⟨hname, hwanted⟩]
    · rw [if_neg hwanted, if_neg fun h => hwanted h.2]
      split
      · rfl
      · -- a parent that is listed is the region without a name
        rename_i next hnext
        obtain rfl : next = "" := by
          rw [← htop region, parent, hnext, Option.getD_some]
        rw [firstAlong, if_pos rfl]

/-! ## The profile of a class -/

namespace Profile

variable {profiles others : List Profile} {v : Vehicle}

/-- Where no class is named twice, the profile of a class is the one that names it. -/
theorem find?_eq_some_iff (h : (profiles.map Profile.vehicle).Nodup) {p : Profile} :
    (profiles.find? fun p => p.vehicle = v) = some p ↔ p ∈ profiles ∧ p.vehicle = v := by
  constructor
  · intro hfound
    exact ⟨List.mem_of_find?_eq_some hfound, by simpa using List.find?_some hfound⟩
  · rintro ⟨hp, hv⟩
    cases hfound : profiles.find? fun p => p.vehicle = v with
    | none => exact absurd hv (by simpa using List.find?_eq_none.mp hfound p hp)
    | some q =>
      have hq : q.vehicle = v := by simpa using List.find?_some hfound
      rw [List.inj_on_of_nodup_map h (List.mem_of_find?_eq_some hfound) hp (hq.trans hv.symm)]

/-- Lists with the same profiles of a class tune it by the same one. -/
theorem find?_congr (h : (profiles.map Profile.vehicle).Nodup)
    (h' : (others.map Profile.vehicle).Nodup)
    (hsame : ∀ p, p.vehicle = v → (p ∈ others ↔ p ∈ profiles)) :
    (others.find? fun p => p.vehicle = v) = profiles.find? fun p => p.vehicle = v := by
  refine Option.ext fun p => ?_
  rw [find?_eq_some_iff h, find?_eq_some_iff h']
  exact and_congr_left (hsame p)

end Profile

namespace Fleet

variable {parents : Parents} {profiles others : List Profile} {mode : LimitMode} {f g : Fleet}

/-- There is a fleet exactly when no class is named twice and each profile leaves the tables of
its class without defects, in all countries. -/
theorem exists_build_iff_fits : (∃ f, build parents profiles mode = .ok f) ↔
    (profiles.map Profile.vehicle).Nodup ∧ ∀ p ∈ profiles, ∀ country,
      allDefects (p.vehicle.defaults.rulesIn country) (p.applyTables p.vehicle.defaults.tables) =
        [] := by
  rw [exists_build_iff]
  refine and_congr_right fun hnodup => ?_
  constructor
  · intro hmodels p hp country
    have hmodel := hmodels p.vehicle country
    rw [(Profile.find?_eq_some_iff hnodup).mpr ⟨hp, rfl⟩, Model.exists_create_iff] at hmodel
    exact hmodel.2
  · intro hfit v country
    cases hfound : profiles.find? fun p => p.vehicle = v with
    | none => exact ⟨_, Model.create_eq_ok v country mode⟩
    | some p =>
      obtain ⟨hp, rfl⟩ := (Profile.find?_eq_some_iff hnodup).mp hfound
      exact Model.exists_create_iff.mpr ⟨rfl, hfit p hp country⟩

/-- A class has the same roster in fleets whose profiles of the class are the same. -/
theorem roster_congr {v : Vehicle} (h : build parents profiles mode = .ok f)
    (h' : build parents others mode = .ok g)
    (hsame : ∀ p, p.vehicle = v → (p ∈ others ↔ p ∈ profiles)) : g.roster v = f.roster v := by
  obtain ⟨hnodup, -⟩ := exists_build_iff.mp ⟨f, h⟩
  obtain ⟨hnodup', -⟩ := exists_build_iff.mp ⟨g, h'⟩
  have hroster := roster_of_build h' v
  rw [Profile.find?_congr hnodup hnodup' hsame, roster_of_build h v] at hroster
  exact (Except.ok.inj hroster).symm

/-- Profiles that there is a fleet for may come in any order. -/
theorem exists_build_of_perm (h : build parents profiles mode = .ok f)
    (hperm : others.Perm profiles) : ∃ g, build parents others mode = .ok g := by
  obtain ⟨hnodup, hfit⟩ := exists_build_iff_fits.mp ⟨f, h⟩
  exact exists_build_iff_fits.mpr ⟨(hperm.map Profile.vehicle).nodup_iff.mpr hnodup,
    fun p hp => hfit p (hperm.mem_iff.mp hp)⟩

/-- Where no region has a parent, the rules that hold in a country are its own. -/
theorem rulesIn_countryFor (h : build parents profiles mode = .ok f)
    (htop : ∀ region, parents.parent region = "") (v : Vehicle) (country : String) :
    v.defaults.rulesIn (f.countryFor v country) = v.defaults.rulesIn country := by
  rw [countryFor_of_build h, Parents.firstAlong_of_top htop]
  split
  · rfl
  · rename_i hnone
    have hcountry : country ∉ v.defaults.countryRules.keys := by
      intro hmem
      refine hnone ⟨?_, (Table.contains_iff _ _).mpr hmem⟩
      rintro rfl
      exact v.unnamed_notMem hmem
    rw [Option.getD_none, Defaults.rulesIn_of_notMem hcountry,
      Defaults.rulesIn_of_notMem v.unnamed_notMem]

/-- There is no fleet exactly if a class is named twice or there is no model for some class
and country. Where no region has a parent, a fleet has in each country, whether it is known
or not, the models that are created for it. And profiles of other classes make no difference
to a class, nor does the order of the profiles. -/
theorem build_agrees (parents : Parents) (profiles : List Profile) (mode : LimitMode) :
    ((∃ e, build parents profiles mode = .error e) ↔
      ¬ (profiles.map Profile.vehicle).Nodup ∨ ∃ v country e,
        Model.create v country (profiles.find? fun p => p.vehicle = v) mode = .error e) ∧
    ∀ f, build parents profiles mode = .ok f →
      ((∀ region, parents.parent region = "") → ∀ v country,
        Model.create v country (profiles.find? fun p => p.vehicle = v) mode =
          .ok (f.modelFor v country)) ∧
      ∀ others g v, build parents others mode = .ok g →
        (∀ p, p.vehicle = v → (p ∈ others ↔ p ∈ profiles)) →
          ∀ country, g.modelFor v country = f.modelFor v country := by
  refine ⟨?_, ?_⟩
  · simp only [exists_error_iff, exists_build_iff, not_and_or, not_forall]
  · intro f hf
    refine ⟨?_, ?_⟩
    · -- without parents each region follows its own rules or none
      intro htop v country
      rw [← create_modelFor hf v country]
      exact Model.create_congr (rulesIn_countryFor hf htop v country).symm _ _
    · intro others g v hg hsame country
      unfold modelFor countryFor
      rw [roster_congr hf hg hsame, parents_of_build hf, parents_of_build hg]

/-- A profile for walks along trunk roads. -/
def walk : Profile where
  vehicle := .pedestrian
  speeds := .ofList [(.trunk, ⟨⟨⟨2.5, by decide⟩, some ⟨6, by decide⟩⟩, none⟩)]
  surfaces := .ofList [("psurface-gravel", ⟨⟨0.75, by decide⟩, none⟩)]

/-- A profile for rides on sand. -/
def ride : Profile where
  vehicle := .bicycle
  surfaces := .ofList [("psurface-sand", ⟨⟨0.5, by decide⟩, none⟩)]

/-- A fleet for the two profiles has the models that are created for them, also where no
country is known, and the order of the two makes no difference. -/
theorem build_agrees_walk_ride : ∃ f g, build [] [walk, ride] .clamp = .ok f ∧
    build [] [ride, walk] .clamp = .ok g ∧
      Model.create .pedestrian "" (some walk) .clamp = .ok (f.modelFor .pedestrian "") ∧
        ∀ country, g.modelFor .pedestrian country = f.modelFor .pedestrian country := by
  have hswap : [ride, walk].Perm [walk, ride] := .swap walk ride []
  have hfit : ∀ p ∈ [walk, ride], ∀ rules ∈ p.vehicle.defaults.rules ::
      p.vehicle.defaults.countryRules.toList.map Prod.snd,
        allDefects rules (p.applyTables p.vehicle.defaults.tables) = [] := by decide +kernel
  obtain ⟨f, hf⟩ : ∃ f, build [] [walk, ride] .clamp = .ok f :=
    exists_build_iff_fits.mpr ⟨by decide, fun p hp country =>
      hfit p hp _ (p.vehicle.defaults.rulesIn_mem country)⟩
  obtain ⟨g, hg⟩ := exists_build_of_perm hf hswap
  obtain ⟨-, hagrees⟩ := build_agrees [] [walk, ride] .clamp
  obtain ⟨hmodels, hothers⟩ := hagrees f hf
  exact ⟨f, g, hf, hg, hmodels (fun _ => rfl) .pedestrian "",
    hothers [ride, walk] g .pedestrian hg fun _ _ => hswap.mem_iff⟩

end Fleet

end RoadSpeed
