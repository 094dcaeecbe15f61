import RoadSpeed.Tag.Registry

/-!
# The taxonomy

A taxonomy is a registry whose two tables are in step (specification, §4.1 and §5). It starts
without paths, and all that it offers are the calls of the registry, which keep the tables in
step; so its numbers and paths correspond whatever it has been shown.

- `Taxonomy.register`: the number of a path, new if need be.
- `Taxonomy.path?`, `Taxonomy.name?`: what a number stands for.
- `Taxonomy.resolve`: the numbers of tags given by name, by path or by number.
- `Taxonomy.path?_serve`: a number that is in use keeps its path.
- `Classification`: what numbers stand for, wherever that comes from; a taxonomy is
  one source of it.
-/

namespace RoadSpeed

/-- A registry whose tables are in step. -/
@[ext] structure Taxonomy where
  registry : Registry
  inStep : registry.InStep

namespace Taxonomy

/-- The taxonomy that has seen nothing. -/
def empty : Taxonomy := ⟨.empty, Registry.inStep_empty⟩

instance : Inhabited Taxonomy := ⟨empty⟩

/-- How many paths have been seen. -/
def size (t : Taxonomy) : Nat := t.registry.size

/-- The path of a number, if one has it. -/
def path? (t : Taxonomy) (id : TagId) : Option TagPath := t.registry.path? id

/-- The readable name of a number, if a path has it. -/
def name? (t : Taxonomy) (id : TagId) : Option String := t.registry.name? id

/-- The taxonomy after showing it a path. -/
def see (t : Taxonomy) (path : TagPath) : Taxonomy :=
  ⟨(t.registry.register path).2, t.inStep.register path⟩

/-- The number of a path and the taxonomy that knows it. -/
def register (t : Taxonomy) (path : TagPath) : Except TaxonomyError (TagId × Taxonomy) :=
  (t.registry.register path).1.map fun id => (id, t.see path)

/-- The number of the path that a readable name stands for. -/
def registerName (t : Taxonomy) (name : String) : Except TaxonomyError (TagId × Taxonomy) :=
  t.register (TagPath.ofName name)

/-- The answers to a run of calls and the taxonomy after it. A call that is refused is
answered by its error, and the run goes on. -/
def serve (t : Taxonomy) (refs : List TagRef) :
    List (Except TaxonomyError TagId) × Taxonomy :=
  ((t.registry.serve refs).1, ⟨(t.registry.serve refs).2, t.inStep.serve refs⟩)

/-- The numbers of tags, from left to right. A tag that cannot be registered
ends the work, and what was registered before it stays. -/
def resolve (t : Taxonomy) (refs : List TagRef) :
    Except TaxonomyError (List TagId) × Taxonomy :=
  ((t.registry.resolve refs).1, ⟨(t.registry.resolve refs).2, t.inStep.resolve refs⟩)

/-- The taxonomy that is shown these paths in turn. -/
def ofPaths (paths : List TagPath) : Except TaxonomyError Taxonomy :=
  match h : Registry.ofPaths paths with
  | .error e => .error e
  | .ok r => .ok ⟨r, Registry.inStep_ofPaths h⟩

variable {t u : Taxonomy} {path : TagPath} {id : TagId}

theorem eq_of_register (h : t.register path = .ok (id, u)) :
    (t.registry.register path).1 = .ok id ∧ u = t.see path := by
  cases hok : (t.registry.register path).1 with
  | error e =>
    rw [register, hok] at h
    cases h
  | ok id' =>
    rw [register, hok] at h
    cases h
    exact ⟨rfl, rfl⟩

/-- A number that is given out stands for the path, which is not empty. -/
theorem path?_of_register (h : t.register path = .ok (id, u)) :
    path ≠ [] ∧ u.path? id = some path := by
  obtain ⟨hok, rfl⟩ := eq_of_register h
  exact t.inStep.path?_of_register hok

/-- Any path but the empty one is registered. -/
theorem register_of_ne_nil (hne : path ≠ []) :
    ∃ id, t.register path = .ok (id, t.see path) := by
  obtain ⟨id, hid⟩ := t.registry.exists_register_eq_ok hne
  refine ⟨id, ?_⟩
  rw [register, hid]
  rfl

/-- A path that is known is registered under its number, and nothing changes. -/
theorem register_of_path? (h : t.path? id = some path) : t.register path = .ok (id, t) := by
  have hknown := Registry.register_of_id? (t.inStep.ne_nil_of_path? h)
    ((t.inStep.inverse path id).mpr h)
  have hsame : t.see path = t := Taxonomy.ext (congrArg Prod.snd hknown)
  rw [register, hknown, hsame]
  rfl

/-- A number that is in use keeps its path when one is registered. -/
theorem path?_register {p : TagPath} {id' : TagId} (h : t.register p = .ok (id', u))
    (hid : t.path? id = some path) : u.path? id = some path := by
  obtain ⟨-, rfl⟩ := eq_of_register h
  exact t.inStep.path?_registered (t.registry.register_spec p) hid

/-- A number that is in use keeps its path through any run of calls. -/
theorem path?_serve (refs : List TagRef) (h : t.path? id = some path) :
    (t.serve refs).2.path? id = some path :=
  t.inStep.path?_serve refs h

/-- Numbers of one taxonomy are the same exactly when their paths are. -/
theorem id_eq_iff_path_eq {p q : TagPath} {a b : TagId} (ha : t.path? a = some p)
    (hb : t.path? b = some q) : a = b ↔ p = q :=
  t.inStep.id_eq_iff_path_eq ha hb

end Taxonomy

/-- What the numbers of tags stand for (specification, §2, `Classificator`). No law ties one
number to another: two numbers may share a path, and any number may be without one. -/
structure Classification where
  /-- The path of a number, if it has one. -/
  path? : TagId → Option TagPath

namespace Taxonomy

/-- The classification that a taxonomy has come to. -/
def classification (t : Taxonomy) : Classification := ⟨t.path?⟩

instance : Coe Taxonomy Classification := ⟨classification⟩

end Taxonomy

end RoadSpeed
