import RoadSpeed.Table
import RoadSpeed.Tag.Path

/-!
# The registry of paths

The registry numbers the paths that it is shown, from one on, in the order in which it first
sees them (specification, §5). It keeps one table from paths to numbers and one from numbers
to paths, and takes the next number from the size of the first. Nothing in its type ties the
two tables to each other: that they stay in step, whatever calls are made, is an invariant.

- `Registry.register`: the answer to a path and the registry after it.
- `TagRef`, `Registry.serve`, `Registry.resolve`: runs of calls, past refusals or up to the
  first one.
- `Registry.ofPaths`: the registry that is shown some paths from the start.
- `Registry.Registered`: all that showing a path may come to.
- `Registry.InStep`: the tables are each other's inverse, and the numbers in use are those
  from one on up to the size. `InStep.registered` is its step and `InStep.serve` its run.
- `InStep.path?_serve`: a number that is in use keeps its path.
-/

namespace RoadSpeed

/-- The number of a tag. -/
abbrev TagId := Int

/-- Why a path cannot be registered. -/
inductive TaxonomyError where
  | emptyPath
deriving DecidableEq, Repr

namespace TaxonomyError

/-- The message that says what is wrong with the path. -/
def message : TaxonomyError → String
  | .emptyPath => "Classification path must not be empty"

end TaxonomyError

/-- How a tag is given. -/
inductive TagRef where
  /-- By its readable name. -/
  | named (name : String)
  /-- By its path. -/
  | located (path : TagPath)
  /-- By a number that may or may not be in use. -/
  | numbered (id : TagId)
deriving DecidableEq, Repr

/-- The numbers of paths and the paths of numbers. -/
structure Registry where
  ids : Table TagPath TagId
  paths : Table TagId TagPath

namespace Registry

/-- The registry that has seen nothing. -/
def empty : Registry := ⟨.empty, .empty⟩

/-- How many paths have a number. -/
def size (r : Registry) : Nat := r.ids.size

/-- The number that a new path takes. -/
def next (r : Registry) : Int := r.size + 1

/-- The number of a path that has been seen. -/
def id? (r : Registry) (path : TagPath) : Option TagId := r.ids.get? path

/-- The path of a number, if one has it. -/
def path? (r : Registry) (id : TagId) : Option TagPath := r.paths.get? id

/-- The readable name of a number, if a path has it. -/
def name? (r : Registry) (id : TagId) : Option String := (r.path? id).map TagPath.toName

/-- The registry with a path under the next number, in both tables. -/
def add (r : Registry) (path : TagPath) : Registry where
  ids := r.ids.put path r.next
  paths := r.paths.put r.next path

/-- The answer to a path and the registry after it. The empty path is refused, a path that
is known keeps its number, and a new one takes the next (specification, §5). -/
def register (r : Registry) (path : TagPath) : Except TaxonomyError TagId × Registry :=
  if path = [] then (.error .emptyPath, r)
  else match r.id? path with
    | some id => (.ok id, r)
    -- the number is read off before the tables grow
    | none => (.ok r.next, r.add path)

/-- The answer to the path that a readable name stands for. -/
def registerName (r : Registry) (name : String) : Except TaxonomyError TagId × Registry :=
  r.register (TagPath.ofName name)

/-- The answer to a tag; names and paths are registered. -/
def call (r : Registry) : TagRef → Except TaxonomyError TagId × Registry
  | .named name => r.registerName name
  | .located path => r.register path
  | .numbered id => (.ok id, r)

/-- The answers to a run of calls and the registry after it. A call that is refused is
answered by its error, and the run goes on. -/
def serve (r : Registry) : List TagRef → List (Except TaxonomyError TagId) × Registry
  | [] => ([], r)
  | ref :: refs =>
    let called := r.call ref
    let rest := called.2.serve refs
    (called.1 :: rest.1, rest.2)

/-- The numbers of tags, from left to right. A tag that is refused ends the work, and what
was registered before it stays. -/
def resolve (r : Registry) : List TagRef → Except TaxonomyError (List TagId) × Registry
  | [] => (.ok [], r)
  | ref :: refs =>
    match r.call ref with
    | (.error e, s) => (.error e, s)
    | (.ok id, s) =>
      let rest := s.resolve refs
      (rest.1.map (id :: ·), rest.2)

/-- The registry that is shown these paths from the start. -/
def ofPaths (paths : List TagPath) : Except TaxonomyError Registry :=
  let shown := empty.resolve (paths.map .located)
  shown.1.map fun _ => shown.2

/-! ## What a call comes to -/

variable {r s : Registry} {path : TagPath} {id : TagId}

/-- All that showing a path may come to. -/
inductive Registered (r : Registry) (path : TagPath) :
    Except TaxonomyError TagId → Registry → Prop where
  | refused (hempty : path = []) : Registered r path (.error .emptyPath) r
  | known {id : TagId} (hne : path ≠ []) (hid : r.id? path = some id) :
      Registered r path (.ok id) r
  | new (hne : path ≠ []) (hnew : r.id? path = none) :
      Registered r path (.ok r.next) (r.add path)

theorem register_of_id? (hne : path ≠ []) (hid : r.id? path = some id) :
    r.register path = (.ok id, r) := by
  rw [register, if_neg hne, hid]

theorem register_of_new (hne : path ≠ []) (hnew : r.id? path = none) :
    r.register path = (.ok r.next, r.add path) := by
  rw [register, if_neg hne, hnew]

theorem register_spec (r : Registry) (path : TagPath) :
    r.Registered path (r.register path).1 (r.register path).2 := by
  by_cases hempty : path = []
  · subst hempty
    exact .refused rfl
  · cases hid : r.id? path with
    | some id =>
      rw [register_of_id? hempty hid]
      exact .known hempty hid
    | none =>
      rw [register_of_new hempty hid]
      exact .new hempty hid

/-- What is preserved whenever a path is shown is preserved by a call. -/
theorem call_preserves {P : Registry → Prop} (hstep : ∀ r path, P r → P (r.register path).2)
    (h : P r) (ref : TagRef) : P (r.call ref).2 := by
  cases ref with
  | named name => exact hstep r _ h
  | located path => exact hstep r path h
  | numbered id => exact h

/-- What is preserved whenever a path is shown is preserved by any run of calls. -/
theorem serve_preserves {P : Registry → Prop} (hstep : ∀ r path, P r → P (r.register path).2)
    (h : P r) (refs : List TagRef) : P (r.serve refs).2 := by
  induction refs generalizing r with
  | nil => exact h
  | cons ref refs ih => exact ih (call_preserves hstep h ref)

/-- Any path but the empty one is answered by a number. -/
theorem exists_register_eq_ok (r : Registry) (hne : path ≠ []) :
    ∃ id, (r.register path).1 = .ok id := by
  cases hid : r.id? path with
  | some id => exact ⟨id, by rw [register_of_id? hne hid]⟩
  | none => exact ⟨r.next, by rw [register_of_new hne hid]⟩

/-- A call is refused only if it shows the empty path. -/
theorem exists_call_eq_ok (r : Registry) {ref : TagRef} (h : ref ≠ .located []) :
    ∃ id, (r.call ref).1 = .ok id := by
  cases ref with
  | named name => exact r.exists_register_eq_ok (TagPath.ofName_ne_nil name)
  | located path => exact r.exists_register_eq_ok fun hempty => h (congrArg TagRef.located hempty)
  | numbered id => exact ⟨id, rfl⟩

theorem resolve_cons_of_ok {ref : TagRef} (h : (r.call ref).1 = .ok id) (refs : List TagRef) :
    r.resolve (ref :: refs) =
      (((r.call ref).2.resolve refs).1.map (id :: ·), ((r.call ref).2.resolve refs).2) := by
  have hcall : r.call ref = (.ok id, (r.call ref).2) := Prod.ext h rfl
  rw [resolve, hcall]

/-- A run that shows the empty path nowhere is resolved, and does what it does when it is
served. -/
theorem resolve_of_notMem (r : Registry) {refs : List TagRef} (h : .located [] ∉ refs) :
    ∃ ids, r.resolve refs = (.ok ids, (r.serve refs).2) := by
  induction refs generalizing r with
  | nil => exact ⟨[], rfl⟩
  | cons ref refs ih =>
    rw [List.mem_cons, not_or] at h
    obtain ⟨id, hid⟩ := r.exists_call_eq_ok (Ne.symm h.1)
    obtain ⟨ids, hids⟩ := ih (r.call ref).2 h.2
    refine ⟨id :: ids, ?_⟩
    rw [resolve_cons_of_ok hid, hids]
    rfl

theorem resolve_of_mem (r : Registry) {refs : List TagRef} (h : .located [] ∈ refs) :
    (r.resolve refs).1 = .error .emptyPath := by
  induction refs generalizing r with
  | nil => cases h
  | cons ref refs ih =>
    by_cases hempty : ref = .located []
    · rw [hempty]
      rfl
    · obtain ⟨id, hid⟩ := r.exists_call_eq_ok hempty
      have hrest := ih (r.call ref).2 ((List.mem_cons.mp h).resolve_left (Ne.symm hempty))
      rw [resolve_cons_of_ok hid, hrest]
      rfl

/-- First paths are taken unless one of them is empty, and then they are served in turn. -/
theorem ofPaths_eq_ok_iff {paths : List TagPath} :
    ofPaths paths = .ok r ↔ [] ∉ paths ∧ (empty.serve (paths.map .located)).2 = r := by
  have hmem : TagRef.located [] ∈ paths.map .located ↔ [] ∈ paths :=
    by simp
  simp only [ofPaths]
  by_cases hempty : [] ∈ paths
  · have hrefused := empty.resolve_of_mem (hmem.mpr hempty)
    rw [hrefused]
    exact iff_of_false nofun fun h => h.1 hempty
  · obtain ⟨ids, hids⟩ := empty.resolve_of_notMem (mt hmem.mp hempty)
    rw [hids, and_iff_right hempty]
    exact ⟨Except.ok.inj, congrArg Except.ok⟩

/-- What is resolved is served, up to the first refusal. -/
theorem exists_resolve_eq_serve (r : Registry) (refs : List TagRef) :
    ∃ n, (r.resolve refs).2 = (r.serve (refs.take n)).2 := by
  induction refs generalizing r with
  | nil => exact ⟨0, rfl⟩
  | cons ref refs ih =>
    by_cases hempty : ref = .located []
    · subst hempty
      exact ⟨1, rfl⟩
    · obtain ⟨id, hid⟩ := r.exists_call_eq_ok hempty
      obtain ⟨n, hn⟩ := ih (r.call ref).2
      refine ⟨n + 1, ?_⟩
      rw [resolve_cons_of_ok hid, hn]
      rfl

/-! ## The two tables stay in step -/

theorem id?_add (r : Registry) (path p : TagPath) :
    (r.add path).id? p = if p = path then some r.next else r.id? p :=
  r.ids.get?_put path p r.next

theorem path?_add (r : Registry) (path : TagPath) (id : TagId) :
    (r.add path).path? id = if id = r.next then some path else r.path? id :=
  r.paths.get?_put r.next id path

theorem size_add (hnew : r.id? path = none) : (r.add path).size = r.size + 1 :=
  Table.size_put_of_get?_eq_none hnew

/-- The tables are each other's inverse, the numbers in use are those from one on up to the
size, and the empty path has none. -/
structure InStep (r : Registry) : Prop where
  inverse : ∀ path id, r.id? path = some id ↔ r.path? id = some path
  unused : ∀ id : Int, r.path? id = none ↔ ¬ (1 ≤ id ∧ id ≤ r.size)
  nonempty : r.id? [] = none

theorem inStep_empty : empty.InStep where
  inverse _ _ := iff_of_false nofun nofun
  unused id := by
    have hsize : empty.size = 0 := rfl
    refine iff_of_true rfl ?_
    omega
  nonempty := rfl

/-- Not all values of the type are in step: here a path has a number that has no path. -/
example : ¬ InStep ⟨.ofList [(["route", "ferry"], 1)], .empty⟩ := by
  intro h
  have hpath := (h.inverse ["route", "ferry"] 1).mp rfl
  cases hpath

namespace InStep

theorem path?_next (h : r.InStep) : r.path? r.next = none := by
  rw [h.unused, next]
  omega

/-- Both tables take a new path together: neither knew the path or the next number before. -/
theorem inverse_add (h : r.InStep) (hnew : r.id? path = none) (p : TagPath) (id : TagId) :
    (r.add path).id? p = some id ↔ (r.add path).path? id = some p := by
  rw [id?_add, path?_add]
  by_cases hp : p = path
  · by_cases hid : id = r.next
    · rw [if_pos hp, if_pos hid, hp, hid]
      exact iff_of_true rfl rfl
    · -- an older number is not that of the new path, which had none
      have hother : r.path? id ≠ some p := by
        intro hpath
        rw [← h.inverse, hp, hnew] at hpath
        cases hpath
      rw [if_pos hp, if_neg hid]
      exact iff_of_false (fun heq => hid (Option.some.inj heq).symm) hother
  · by_cases hid : id = r.next
    · rw [if_neg hp, if_pos hid, h.inverse, hid, h.path?_next]
      exact iff_of_false nofun fun heq => hp (Option.some.inj heq).symm
    · rw [if_neg hp, if_neg hid]
      exact h.inverse p id

/-- The next number of before is the last one in use. -/
theorem unused_add (h : r.InStep) (hnew : r.id? path = none) (id : Int) :
    (r.add path).path? id = none ↔ ¬ (1 ≤ id ∧ id ≤ (r.add path).size) := by
  rw [path?_add, size_add hnew]
  by_cases hid : id = r.next
  · rw [if_pos hid]
    refine iff_of_false nofun fun hout => hout ?_
    rw [hid, next]
    omega
  · rw [if_neg hid, h.unused]
    rw [next] at hid
    omega

theorem add (h : r.InStep) (hne : path ≠ []) (hnew : r.id? path = none) :
    (r.add path).InStep where
  inverse := h.inverse_add hnew
  unused := h.unused_add hnew
  nonempty := by rw [id?_add, if_neg (Ne.symm hne), h.nonempty]

/-- Showing a path keeps the tables in step. -/
theorem registered {answer : Except TaxonomyError TagId} (h : r.InStep)
    (hcall : r.Registered path answer s) : s.InStep := by
  cases hcall with
  | refused hempty => exact h
  | known hne hid => exact h
  | new hne hnew => exact h.add hne hnew

theorem register (h : r.InStep) (path : TagPath) : (r.register path).2.InStep :=
  h.registered (r.register_spec path)

/-- Any run of calls keeps the tables in step. -/
theorem serve (h : r.InStep) (refs : List TagRef) : (r.serve refs).2.InStep :=
  serve_preserves (fun _ path hr => hr.register path) h refs

theorem resolve (h : r.InStep) (refs : List TagRef) : (r.resolve refs).2.InStep := by
  obtain ⟨n, hn⟩ := r.exists_resolve_eq_serve refs
  rw [hn]
  exact h.serve _

/-! ### Numbers and paths -/

/-- Two numbers in use are the same exactly when their paths are. -/
theorem id_eq_iff_path_eq (h : r.InStep) {p q : TagPath} {a b : TagId} (ha : r.path? a = some p)
    (hb : r.path? b = some q) : a = b ↔ p = q := by
  constructor
  · rintro rfl
    exact Option.some.inj (ha.symm.trans hb)
  · rintro rfl
    exact Option.some.inj (((h.inverse p a).mpr ha).symm.trans ((h.inverse p b).mpr hb))

/-- A path with a number is not the empty one. -/
theorem ne_nil_of_path? (h : r.InStep) (hid : r.path? id = some path) : path ≠ [] := by
  rintro rfl
  have hnone := h.nonempty
  rw [(h.inverse [] id).mpr hid] at hnone
  cases hnone

/-- A number that is in use keeps its path when one is shown. -/
theorem path?_registered (h : r.InStep) {p : TagPath} {answer : Except TaxonomyError TagId}
    (hcall : r.Registered p answer s) (hid : r.path? id = some path) : s.path? id = some path := by
  cases hcall with
  | refused hempty => exact hid
  | known hne hknown => exact hid
  | new hne hnew =>
    -- the next number is not the one in use
    have hother : id ≠ r.next := by
      rintro rfl
      rw [h.path?_next] at hid
      cases hid
    rw [path?_add, if_neg hother, hid]

/-- A number that is in use keeps its path through any run of calls. -/
theorem path?_serve (h : r.InStep) (refs : List TagRef) (hid : r.path? id = some path) :
    (r.serve refs).2.path? id = some path := by
  have hboth : (r.serve refs).2.InStep ∧ (r.serve refs).2.path? id = some path :=
    serve_preserves (P := fun s => s.InStep ∧ s.path? id = some path)
      (fun s p hs => ⟨hs.1.register p, hs.1.path?_registered (s.register_spec p) hs.2⟩)
      ⟨h, hid⟩ refs
  exact hboth.2

/-- The number that a path is answered by stands for it, and the path is not empty. -/
theorem path?_of_register (h : r.InStep) (hok : (r.register path).1 = .ok id) :
    path ≠ [] ∧ (r.register path).2.path? id = some path := by
  have hspec := r.register_spec path
  have hafter := h.register path
  rw [hok] at hspec
  generalize (r.register path).2 = s at hspec hafter ⊢
  cases hspec with
  | known hne hid => exact ⟨hne, (hafter.inverse path id).mp hid⟩
  | new hne hnew => exact ⟨hne, by rw [path?_add, if_pos rfl]⟩

end InStep

theorem inStep_ofPaths {paths : List TagPath} (h : ofPaths paths = .ok r) : r.InStep := by
  obtain ⟨-, rfl⟩ := ofPaths_eq_ok_iff.mp h
  exact inStep_empty.serve _

end Registry

end RoadSpeed
