import RoadSpeed.Proofs.Profile.Record

/-!
# Profiles read back

The text of a profile is a document that the reader takes, whatever its settings and
its names of surfaces. A profile whose weights are finite is read back from it without
the etas that have no text; a profile whose numbers are all finite is read back as it is
(specification, §4.6).

- `Profile.writable`: the text of a profile is a document.
- `Profile.parse_dump_eq_ok_iff`: what the text of a profile is read as.
- `Profile.parse_dump`: profiles with finite numbers are read back as they are.
-/

namespace RoadSpeed

open Json

variable {Bounds : Float → Prop} {rules : Rules} {depth : Nat}

/-! ## The texts of records -/

theorem Setting.writable (s : Setting Bounds) :
    Writable rules (depth + 1) s.toJson.asWritten := by
  rw [toJson, asWritten_obj, List.map_cons, map_asWritten_memberOf]
  cases s.eta with
  | none =>
    refine .obj (by simp [memberOf]) ?_
    intro m hm
    obtain rfl := List.mem_singleton.mp hm
    exact writable_asWritten_float _
  | some e =>
    refine .obj (by simp [memberOf]) (List.forall_mem_cons.mpr ⟨writable_asWritten_float _, ?_⟩)
    intro m hm
    obtain rfl := List.mem_singleton.mp hm
    exact writable_asWritten_float _

theorem AreaSetting.writable (s : AreaSetting Bounds) :
    Writable rules (depth + 2) s.toJson.asWritten := by
  rw [toJson, asWritten_obj, List.map_cons, map_asWritten_memberOf]
  cases s.outCity with
  | none =>
    refine .obj (by simp [memberOf]) ?_
    intro m hm
    obtain rfl := List.mem_singleton.mp hm
    exact s.inCity.writable
  | some t =>
    refine .obj (by simp [memberOf]) (List.forall_mem_cons.mpr ⟨s.inCity.writable, ?_⟩)
    intro m hm
    obtain rfl := List.mem_singleton.mp hm
    exact t.writable

/-- A dictionary has a text when its values do, as different keys have different names. -/
theorem writable_dictionaryOf {κ α : Type} {name : κ → String} {toJson : α → Json}
    (hname : Function.Injective name) (h : ∀ a, Writable rules depth (toJson a).asWritten)
    (t : Table κ α) : Writable rules (depth + 1) (dictionaryOf name toJson t).asWritten := by
  rw [Profile.asWritten_dictionaryOf]
  refine .obj ?_ (List.forall_mem_map.mpr fun e _ => h e.2)
  have hnames : (t.toList.map fun e => (name e.1, (toJson e.2).asWritten)).map Prod.fst =
      t.keys.map name := by
    simp [Table.keys, Function.comp_def]
  rw [hnames]
  exact t.nodup_keys.map hname

namespace Profile

/-- The text of a profile is a document, nested four deep. -/
theorem writable (p : Profile) : Writable rules (depth + 4) p.toJson.asWritten := by
  have hcategory : Function.Injective Category.name := fun c d h =>
    @Vocabulary.name_injective Category _ c d h
  rw [asWritten_toJson]
  refine .obj (by cases p.offroad <;> simp [memberOf]) ?_
  refine List.forall_mem_cons.mpr ⟨.str _, List.forall_mem_cons.mpr ⟨?_, List.forall_mem_cons.mpr
    ⟨?_, List.forall_mem_cons.mpr ⟨?_, ?_⟩⟩⟩⟩
  · exact writable_dictionaryOf hcategory AreaSetting.writable p.speeds
  · exact writable_dictionaryOf hcategory AreaSetting.writable p.factors
  · exact writable_dictionaryOf Function.injective_id Setting.writable p.surfaces
  · intro m hm
    -- the one member that may be left out
    cases hoff : p.offroad with
    | none =>
      rw [hoff] at hm
      cases hm
    | some s =>
      rw [hoff] at hm
      obtain rfl := List.mem_singleton.mp hm
      exact s.writable

/-- The text of a profile is read as the profile without etas that have no text, if
its weights are finite, and refused otherwise. -/
theorem parse_dump_eq_ok_iff (p q : Profile) :
    parse p.dump = .ok q ↔ p.Each Setting.HasFiniteWeight ∧ q = p.written := by
  -- the reader goes down 1024 levels, which is more than a profile has
  have hwritable : Writable .document (1020 + 4) p.toJson.asWritten := p.writable
  have hread : Json.parse? .document p.dump = some p.toJson.asWritten :=
    parse?_toText_asWritten hwritable
  rw [← ofJson_asWritten, parse, hread, ofDocument]
  cases ofJson p.toJson.asWritten <;> simp [Except.mapError]

/-- A text and its bytes are read alike. -/
theorem parseBytes_toUTF8 (text : String) : parseBytes text.toUTF8 = parse text := by
  have hdecode : String.fromUTF8? text.toUTF8 = some text := dif_pos text.isValidUTF8
  rw [parseBytes, parse, Json.parseBytes?, hdecode]
  rfl

/-- A profile whose numbers are finite is read back from its text as it is, also from
the bytes of the text, and has the same text again. -/
theorem parse_dump (p : Profile) (h : p.Each Setting.IsFinite) :
    parse p.dump = .ok p ∧ parseBytes p.dump.toUTF8 = .ok p ∧
      (parse p.dump).map dump = .ok p.dump := by
  have hweight : p.Each Setting.HasFiniteWeight := h.imp fun _ hs => hs.1
  have heta : p.Each Setting.HasFiniteEta := h.imp fun _ hs => hs.2
  have hparse : parse p.dump = .ok p :=
    (parse_dump_eq_ok_iff p p).mpr ⟨hweight, (written_eq_self heta).symm⟩
  rw [parseBytes_toUTF8, hparse]
  exact ⟨rfl, rfl, rfl⟩

/-- A profile that sets something at each of its places. -/
def sample : Profile where
  vehicle := .bicycle
  speeds := .ofList [
    (.primary, ⟨⟨⟨10, by decide⟩, some ⟨12.5, by decide⟩⟩, some ⟨⟨14, by decide⟩, none⟩⟩),
    (.track, ⟨⟨⟨0, by decide⟩, none⟩, none⟩)]
  factors := .ofList [(.primary, ⟨⟨⟨0.1, by decide⟩, none⟩, none⟩)]
  surfaces := .ofList [("psurface-sand", ⟨⟨0.2, by decide⟩, some ⟨0.3, by decide⟩⟩)]
  offroad := some ⟨⟨2, by decide⟩, none⟩

theorem parse_dump_sample :
    sample.Each Setting.IsFinite ∧ parse sample.dump = .ok sample ∧
      parseBytes sample.dump.toUTF8 = .ok sample ∧
        (parse sample.dump).map dump = .ok sample.dump :=
  have hfinite : sample.Each Setting.IsFinite := by decide
  ⟨hfinite, parse_dump sample hfinite⟩

end Profile

end RoadSpeed
