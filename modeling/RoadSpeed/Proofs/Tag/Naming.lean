import RoadSpeed.Tag.Taxonomy

/-!
# Names and paths

A name stands for the path of its pieces, and different names for different paths, wherever
separators stand in them (specification, §3). Not each path comes from a name: one with a
separator inside of a segment has a name that is split into other segments, and that name leads
to another number.

- `Taxonomy.id_eq_iff_name_eq`: numbers of names.
- `Taxonomy.registerName_toName_iff`: when the name of a number leads back to it.
- `Taxonomy.Corresponds`, `Taxonomy.names_and_paths_correspond`: all of this for any taxonomy and
  any later calls.
-/

namespace RoadSpeed.Taxonomy

variable {t u v : Taxonomy} {path : TagPath} {id id' : TagId} {name name' : String}

/-! ## Numbers of names -/

/-- The number of a name has that name. -/
theorem name?_of_registerName (h : t.registerName name = .ok (id, u)) (refs : List TagRef) :
    (u.serve refs).2.name? id = some name := by
  obtain ⟨-, hid⟩ := path?_of_register h
  have hlater := path?_serve refs hid
  exact (congrArg (Option.map TagPath.toName) hlater).trans
    (congrArg some (TagPath.toName_ofName name))

/-- A name has the number of another one, whatever calls come between them, only if it is the
same name. -/
theorem id_eq_iff_name_eq (h : t.registerName name = .ok (id, u)) (refs : List TagRef)
    (h' : (u.serve refs).2.registerName name' = .ok (id', v)) : id = id' ↔ name = name' := by
  obtain ⟨-, hid⟩ := path?_of_register h
  obtain ⟨-, hid'⟩ := path?_of_register h'
  have hlater := path?_register h' (path?_serve refs hid)
  rw [id_eq_iff_path_eq hlater hid']
  exact ⟨TagPath.ofName_injective, congrArg TagPath.ofName⟩

/-! ## Names of numbers -/

/-- The name of a path leads to the number of the path exactly if no segment holds a separator. -/
theorem id_eq_iff_separator_notMem (hid : t.path? id = some path)
    (h : t.registerName path.toName = .ok (id', u)) :
    id' = id ↔ ∀ s ∈ path, TagPath.separator ∉ s.toList := by
  obtain ⟨-, hid'⟩ := path?_of_register h
  have hlater := path?_register h hid
  rw [id_eq_iff_path_eq hid' hlater, TagPath.ofName_toName_iff]
  exact and_iff_right (t.inStep.ne_nil_of_path? hid)

/-- In that case nothing is added to the taxonomy. -/
theorem registerName_toName_iff (hid : t.path? id = some path) :
    t.registerName path.toName = .ok (id, t) ↔ ∀ s ∈ path, TagPath.separator ∉ s.toList := by
  constructor
  · intro h
    exact (id_eq_iff_separator_notMem hid h).mp rfl
  · intro h
    have hpath : TagPath.ofName path.toName = path :=
      (TagPath.ofName_toName_iff path).mpr ⟨t.inStep.ne_nil_of_path? hid, h⟩
    rw [registerName, hpath]
    exact register_of_path? hid

/-! ## All names and all paths -/

/-- How names and numbers go together that a taxonomy gives out from now on. -/
structure Corresponds (t : Taxonomy) : Prop where
  /-- Each name gets a number, and this has the name for good. -/
  named : ∀ name, ∃ id u, t.registerName name = .ok (id, u) ∧
    ∀ refs, (u.serve refs).2.name? id = some name
  /-- Two names get the same number, at whatever times, only if they are the same. -/
  distinct : ∀ name id u refs name' id' v, t.registerName name = .ok (id, u) →
    (u.serve refs).2.registerName name' = .ok (id', v) → (id = id' ↔ name = name')
  /-- Once a path has a number, the name of the number leads back to it, and adds nothing, exactly
  if no segment of the path holds a separator. Otherwise it leads to another number. -/
  located : ∀ path id u refs, t.register path = .ok (id, u) →
    ∃ name, (u.serve refs).2.name? id = some name ∧
      ((u.serve refs).2.registerName name = .ok (id, (u.serve refs).2) ↔
        ∀ s ∈ path, TagPath.separator ∉ s.toList) ∧
      ∀ id' v, (u.serve refs).2.registerName name = .ok (id', v) →
        (id' = id ↔ ∀ s ∈ path, TagPath.separator ∉ s.toList)

/-- Names stand for different paths, with separators anywhere in them, and in whatever state a
taxonomy is, its names and paths correspond. -/
theorem names_and_paths_correspond :
    Function.Injective TagPath.ofName ∧ ∀ t : Taxonomy, t.Corresponds := by
  refine ⟨fun _ _ => TagPath.ofName_injective, fun t => ⟨?_, ?_, ?_⟩⟩
  · intro name
    obtain ⟨id, hregister⟩ := register_of_ne_nil (t := t) (TagPath.ofName_ne_nil name)
    exact ⟨id, _, hregister, name?_of_registerName hregister⟩
  · intro name id u refs name' id' v h h'
    exact id_eq_iff_name_eq h refs h'
  · intro path id u refs h
    obtain ⟨-, hid⟩ := path?_of_register h
    have hlater := path?_serve refs hid
    refine ⟨path.toName, congrArg (Option.map TagPath.toName) hlater,
      registerName_toName_iff hlater, ?_⟩
    intro id' v h'
    exact id_eq_iff_separator_notMem hlater h'

/-- Empty segments come from names as well, but a segment with a separator does not. -/
example : (empty.serve [.named "-psurface--slabs", .located ["", "psurface", "", "slabs"],
    .located ["psurface-slabs"], .named "psurface-slabs"]).1 = [.ok 1, .ok 1, .ok 2, .ok 3] := by
  cbv

end RoadSpeed.Taxonomy
