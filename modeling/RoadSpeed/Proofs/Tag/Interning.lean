import RoadSpeed.Tag.Registry
import Mathlib.Data.List.Forall2

/-!
# Interning

Over any run of calls the registry numbers the distinct paths that it is shown, from one on, in
the order in which they first come (specification, §5). The empty path is refused wherever it
comes and leaves no trace. All of this is told of the two tables as they are: that each path is
found under its number and each number under its path is part of what the run preserves.

- `Registry.firstSeen`: the distinct paths of a list in the order of their first places.
- `Registry.Lists`: the invariant, that the tables are in step and hold these paths;
  `Lists.registered` is its step and `Lists.serve` its run.
- `Registry.Interns`, `Registry.Answered`: what the invariant says of numbers and paths, now
  and later, and of the answers of a run.
- `Registry.serve_interns`: all of this for any list of first paths and any run.
-/

namespace RoadSpeed

/-- The path that a call shows; a tag that is given by its number shows none. -/
def TagRef.shown? : TagRef → Option TagPath
  | named name => some (TagPath.ofName name)
  | located path => some path
  | numbered _ => none

namespace Registry

/-! ## Distinct paths -/

/-- The distinct paths of a list, other than the empty one, in the order of their first
places. -/
def firstSeen (shown : List TagPath) : List TagPath := (shown.filter (· ≠ [])).eraseDups

theorem mem_firstSeen {shown : List TagPath} {path : TagPath} :
    path ∈ firstSeen shown ↔ path ∈ shown ∧ path ≠ [] := by
  rw [firstSeen, List.mem_eraseDups, List.mem_filter, decide_eq_true_iff]

/-- The empty path adds nothing. -/
theorem firstSeen_append_nil (shown : List TagPath) :
    firstSeen (shown ++ [[]]) = firstSeen shown := by
  simp [firstSeen]

/-- A path that has come before adds nothing. -/
theorem firstSeen_append_of_mem {shown : List TagPath} {path : TagPath} (h : path ∈ shown) :
    firstSeen (shown ++ [path]) = firstSeen shown := by
  by_cases hne : path = []
  · rw [hne, firstSeen_append_nil]
  · simp only [firstSeen, List.filter_append, List.eraseDups_append]
    simp [List.removeAll, h, hne]

/-- A new path goes to the end. -/
theorem firstSeen_append_of_notMem {shown : List TagPath} {path : TagPath} (h : path ∉ shown)
    (hne : path ≠ []) : firstSeen (shown ++ [path]) = firstSeen shown ++ [path] := by
  simp only [firstSeen, List.filter_append, List.eraseDups_append]
  simp [List.removeAll, h, hne, List.eraseDups_cons]

/-- The element behind a list stands at the place that its length tells. -/
theorem getElem?_append_singleton {α : Type} (xs : List α) (a : α) (k : Nat) :
    (xs ++ [a])[k]? = if k = xs.length then some a else xs[k]? := by
  induction xs generalizing k with
  | nil => cases k <;> rfl
  | cons x xs ih =>
    cases k with
    | zero => rfl
    | succ k => simpa using ih k

/-! ## The invariant of a run -/

variable {r s : Registry} {shown : List TagPath} {path : TagPath}
  {answer : Except TaxonomyError TagId}

/-- The tables are in step, and the numbers from one on stand for the distinct paths that have
been shown, in order. -/
structure Lists (shown : List TagPath) (r : Registry) : Prop extends InStep r where
  path?_succ : ∀ k : Nat, r.path? (k + 1) = (firstSeen shown)[k]?

theorem lists_empty : Lists [] empty := ⟨inStep_empty, fun _ => rfl⟩

namespace Lists

/-- There are as many numbers as distinct paths: the first one that is not in use tells both. -/
theorem size_eq (h : Lists shown r) : r.size = (firstSeen shown).length := by
  have hplace (k : Nat) : (firstSeen shown).length ≤ k ↔ r.size ≤ k := by
    rw [← List.getElem?_eq_none_iff, ← h.path?_succ, h.unused]
    omega
  exact Nat.le_antisymm ((hplace _).mp Nat.le.refl) ((hplace _).mpr Nat.le.refl)

/-- A number in use is that of a place in the list. -/
theorem path?_eq_some_iff (h : Lists shown r) {id : Int} :
    r.path? id = some path ↔ ∃ k : Nat, id = k + 1 ∧ (firstSeen shown)[k]? = some path := by
  constructor
  · intro hid
    have hused : ¬ r.path? id = none := by
      rw [hid]
      exact nofun
    rw [h.unused, not_not] at hused
    have hplace : id = (id - 1).toNat + 1 := by omega
    rw [hplace, h.path?_succ] at hid
    exact ⟨_, hplace, hid⟩
  · rintro ⟨k, rfl, hk⟩
    rw [h.path?_succ, hk]

/-- The paths that have a number are those that have been shown, but for the empty one. -/
theorem id?_eq_none_iff (h : Lists shown r) : r.id? path = none ↔ path ∉ firstSeen shown := by
  rw [Option.eq_none_iff_forall_ne_some]
  constructor
  · intro hnew hmem
    obtain ⟨k, hk⟩ := List.mem_iff_getElem?.mp hmem
    exact hnew _ ((h.inverse _ _).mpr (h.path?_eq_some_iff.mpr ⟨k, rfl, hk⟩))
  · intro hnew id hid
    obtain ⟨k, -, hk⟩ := h.path?_eq_some_iff.mp ((h.inverse _ _).mp hid)
    exact hnew (List.mem_of_getElem? hk)

/-- Showing a path adds it to the end, unless it has come before or is empty. -/
theorem registered (h : Lists shown r) (hcall : r.Registered path answer s) :
    Lists (shown ++ [path]) s where
  toInStep := h.toInStep.registered hcall
  path?_succ k := by
    cases hcall with
    | refused hempty => rw [hempty, firstSeen_append_nil, h.path?_succ]
    | known hne hid =>
      have hmem : path ∈ firstSeen shown := by
        by_contra hnew
        rw [← h.id?_eq_none_iff, hid] at hnew
        cases hnew
      rw [firstSeen_append_of_mem (mem_firstSeen.mp hmem).1, h.path?_succ]
    | new hne hnew =>
      have hnotMem : path ∉ shown := fun hmem =>
        h.id?_eq_none_iff.mp hnew (mem_firstSeen.mpr ⟨hmem, hne⟩)
      -- the next number is that of the place behind the list
      have hplace : (k : Int) + 1 = r.next ↔ k = (firstSeen shown).length := by
        rw [next, h.size_eq]
        omega
      simp only [firstSeen_append_of_notMem hnotMem hne, getElem?_append_singleton, path?_add,
        h.path?_succ, hplace]

theorem call (h : Lists shown r) (ref : TagRef) :
    Lists (shown ++ ref.shown?.toList) (r.call ref).2 := by
  cases ref with
  | named name => exact h.registered (r.register_spec _)
  | located path => exact h.registered (r.register_spec path)
  | numbered id =>
    show Lists (shown ++ []) r
    rwa [List.append_nil]

/-- A run of calls adds the paths that it shows. -/
theorem serve (h : Lists shown r) (refs : List TagRef) :
    Lists (shown ++ refs.filterMap TagRef.shown?) (r.serve refs).2 := by
  induction refs generalizing r shown with
  | nil => rwa [List.filterMap_nil, List.append_nil]
  | cons ref refs ih =>
    have hsplit : (ref :: refs).filterMap TagRef.shown? =
        ref.shown?.toList ++ refs.filterMap TagRef.shown? := by
      cases hshown : ref.shown? <;> simp [hshown]
    rw [hsplit, ← List.append_assoc]
    exact ih (h.call ref)

end Lists

/-- The registry that is shown some paths from the start holds the distinct ones. -/
theorem lists_ofPaths {paths : List TagPath} (h : ofPaths paths = .ok r) : Lists paths r := by
  obtain ⟨-, rfl⟩ := ofPaths_eq_ok_iff.mp h
  have hshown : (paths.map TagRef.located).filterMap TagRef.shown? = paths := by
    rw [List.filterMap_map]
    exact List.filterMap_some
  have hserved := lists_empty.serve (paths.map .located)
  rwa [hshown] at hserved

/-- First paths are taken exactly when none of them is empty. -/
theorem exists_ofPaths_iff (paths : List TagPath) : (∃ r, ofPaths paths = .ok r) ↔ [] ∉ paths := by
  constructor
  · rintro ⟨r, hr⟩
    exact (ofPaths_eq_ok_iff.mp hr).1
  · intro h
    exact ⟨_, ofPaths_eq_ok_iff.mpr ⟨h, rfl⟩⟩

/-! ## What a run comes to -/

/-- What holds between the two tables once paths have been shown. -/
structure Interns (shown : List TagPath) (r : Registry) : Prop where
  /-- The numbers from one on stand for the distinct paths, in the order of their first
  places. -/
  path?_succ : ∀ k : Nat, r.path? (k + 1) = (firstSeen shown)[k]?
  size_eq : r.size = (firstSeen shown).length
  /-- No other number stands for a path or has a name. -/
  path?_eq_none_iff : ∀ id : Int, r.path? id = none ↔ ¬ (1 ≤ id ∧ id ≤ r.size)
  name?_eq_none_iff : ∀ id : Int, r.name? id = none ↔ ¬ (1 ≤ id ∧ id ≤ r.size)
  /-- Finding the number of a path and finding the path of a number undo each other. -/
  id?_iff : ∀ path id, r.id? path = some id ↔ r.path? id = some path
  /-- Any path but the empty one is registered, and its number leads back to it. -/
  registered : ∀ path, path ≠ [] → ∃ id, (r.register path).1 = .ok id ∧
    (r.register path).2.path? id = some path
  /-- Two paths are registered under the same number, whatever calls come between them, exactly
  when they are the same. -/
  id_eq_iff : ∀ path id refs path' id', (r.register path).1 = .ok id →
    (((r.register path).2.serve refs).2.register path').1 = .ok id' → (id = id' ↔ path = path')
  /-- A known path is registered under its number, and nothing changes. -/
  register_known : ∀ path id, r.id? path = some id → r.register path = (.ok id, r)
  /-- A new path is registered under the next number, in both tables. -/
  register_new : ∀ path, path ≠ [] → path ∉ shown → r.register path =
    (.ok (r.size + 1), ⟨r.ids.put path (r.size + 1), r.paths.put (r.size + 1) path⟩)
  /-- The empty path is refused, and nothing changes. -/
  register_empty : r.register [] = (.error .emptyPath, r)
  /-- Later calls change neither the path of a number nor the number of a path. -/
  path?_later : ∀ refs id path, r.path? id = some path → (r.serve refs).2.path? id = some path
  id?_later : ∀ refs path id, r.id? path = some id → (r.serve refs).2.id? path = some id

theorem InStep.exists_register (h : r.InStep) (hne : path ≠ []) :
    ∃ id, (r.register path).1 = .ok id ∧ (r.register path).2.path? id = some path := by
  obtain ⟨id, hid⟩ := r.exists_register_eq_ok hne
  exact ⟨id, hid, (h.path?_of_register hid).2⟩

/-- A number that was given out and one that is given out after further calls are told apart by
their paths in the end. -/
theorem InStep.id_eq_iff_of_register (h : r.InStep) {path' : TagPath} {id id' : TagId}
    (refs : List TagRef) (hid : (r.register path).1 = .ok id)
    (hid' : (((r.register path).2.serve refs).2.register path').1 = .ok id') :
    id = id' ↔ path = path' := by
  have hlater := (h.register path).serve refs
  have hkept := hlater.path?_registered (register_spec _ path')
    ((h.register path).path?_serve refs (h.path?_of_register hid).2)
  exact (hlater.register path').id_eq_iff_path_eq hkept (hlater.path?_of_register hid').2

theorem Lists.interns (h : Lists shown r) : r.Interns shown where
  path?_succ := h.path?_succ
  size_eq := h.size_eq
  path?_eq_none_iff := h.unused
  name?_eq_none_iff id := by rw [name?, Option.map_eq_none_iff, h.unused]
  id?_iff := h.inverse
  registered path hne := h.exists_register hne
  id_eq_iff path id refs path' id' hid hid' := h.id_eq_iff_of_register refs hid hid'
  register_known path id hid :=
    register_of_id? (h.ne_nil_of_path? ((h.inverse path id).mp hid)) hid
  register_new path hne hnew :=
    register_of_new hne (h.id?_eq_none_iff.mpr fun hmem => hnew (mem_firstSeen.mp hmem).1)
  register_empty := rfl
  path?_later refs id path := h.path?_serve refs
  id?_later refs path id hid :=
    ((h.toInStep.serve refs).inverse path id).mpr (h.path?_serve refs ((h.inverse path id).mp hid))

/-- The answer to a call, told by what is known at the end of the run: a path that is not
empty is answered by the number that stands for it. -/
inductive Answered (r : Registry) : TagRef → Except TaxonomyError TagId → Prop where
  | registered {ref : TagRef} {path : TagPath} {id : TagId} (hshown : ref.shown? = some path)
      (hne : path ≠ []) (hid : r.path? id = some path) : Answered r ref (.ok id)
  | refused : Answered r (.located []) (.error .emptyPath)
  | given (id : TagId) : Answered r (.numbered id) (.ok id)

theorem InStep.answered_register (h : r.InStep) {ref : TagRef} (hshown : ref.shown? = some path)
    (hne : path ≠ []) : (r.register path).2.Answered ref (r.register path).1 := by
  obtain ⟨id, hok, hid⟩ := h.exists_register hne
  rw [hok]
  exact .registered hshown hne hid

theorem InStep.answered_call (h : r.InStep) (ref : TagRef) :
    (r.call ref).2.Answered ref (r.call ref).1 := by
  cases ref with
  | named name => exact h.answered_register rfl (TagPath.ofName_ne_nil name)
  | located path =>
    by_cases hempty : path = []
    · subst hempty
      exact .refused
    · exact h.answered_register rfl hempty
  | numbered id => exact .given id

theorem Answered.serve {ref : TagRef} (ha : r.Answered ref answer) (h : r.InStep)
    (refs : List TagRef) : (r.serve refs).2.Answered ref answer := by
  cases ha with
  | registered hshown hne hid => exact .registered hshown hne (h.path?_serve refs hid)
  | refused => exact .refused
  | given id => exact .given id

theorem InStep.forall₂_answered (h : r.InStep) (refs : List TagRef) :
    List.Forall₂ (r.serve refs).2.Answered refs (r.serve refs).1 := by
  induction refs generalizing r with
  | nil => exact .nil
  | cons ref refs ih =>
    have hcall : (r.call ref).2.InStep :=
      call_preserves (fun _ path hs => hs.register path) h ref
    exact .cons ((h.answered_call ref).serve hcall refs) (ih hcall)

/-- Whatever paths a registry is shown at first and by whatever calls later: it takes the first
ones unless one of them is empty, and at each time its tables are each other's inverse and number
the distinct paths that have come so far in the order of their first places. Each call has been
answered by the number of its path, for good. -/
theorem serve_interns (paths : List TagPath) :
    ((∃ r, ofPaths paths = .ok r) ↔ [] ∉ paths) ∧
      ∀ r, ofPaths paths = .ok r → ∀ refs,
        (r.serve refs).2.Interns (paths ++ refs.filterMap TagRef.shown?) ∧
          List.Forall₂ (r.serve refs).2.Answered refs (r.serve refs).1 := by
  refine ⟨exists_ofPaths_iff paths, ?_⟩
  intro r hr refs
  have h := lists_ofPaths hr
  exact ⟨(h.serve refs).interns, h.forall₂_answered refs⟩

/-- A street is shown at first; then a path is refused between two new ones, one by its
name, and the street comes once more. -/
theorem serve_interns_street :
    ∃ r, ofPaths [["highway", "residential"]] = .ok r ∧
      (r.serve [.named "hwtag-oneway", .located [], .located ["psurface", "paved_bad"],
        .named "highway-residential"]).1 = [.ok 2, .error .emptyPath, .ok 3, .ok 1] ∧
      (r.serve [.named "hwtag-oneway", .located [], .located ["psurface", "paved_bad"],
        .named "highway-residential"]).2.path? 2 = some ["hwtag", "oneway"] ∧
      (r.serve [.named "hwtag-oneway", .located [], .located ["psurface", "paved_bad"],
        .named "highway-residential"]).2.id? ["psurface", "paved_bad"] = some 3 := by
  obtain ⟨-, hruns⟩ := serve_interns [["highway", "residential"]]
  have hr : ofPaths [["highway", "residential"]] = .ok (empty.add ["highway", "residential"]) :=
    rfl
  obtain ⟨hinterns, -⟩ := hruns _ hr [.named "hwtag-oneway", .located [],
    .located ["psurface", "paved_bad"], .named "highway-residential"]
  refine ⟨_, hr, by decide +kernel, ?_, ?_⟩
  · exact (hinterns.path?_succ 1).trans (by decide +kernel)
  · exact (hinterns.id?_iff _ 3).mpr ((hinterns.path?_succ 2).trans (by decide +kernel))

end Registry

end RoadSpeed
