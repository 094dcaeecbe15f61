import Mathlib.Data.List.Forall2
import RoadSpeed.Proofs.Success
import RoadSpeed.Schema

/-!
# What checks decide

What a successful check says about the parts of a document, and what the parts have to be for
the check to succeed. A check decides a relation between parts of a document and values when it
gives exactly the values that the relation allows, and lists faults where it gives none. Checks
that are put together decide what is put together of the relations.

- `Checked.map_eq_ok_iff`, `Checked.all_map_eq_ok_iff`: checks of parts.
- `Schema.required_cons_self`, `Schema.optional_cons_self`: members of a record.
- `Schema.dictionary_eq_ok_iff`: the entries of a dictionary.
- `Schema.IsNumberCheck`: the checks that take a double as it is and refuse null.
- `Checked.Listed`: an outcome that is a value or a list of faults.
- `Schema.Decides`: a check and the relation that it decides.
- `Decides.both`, `Decides.bind`, `Decides.all`: checks put together.
- `Schema.Member`, `Schema.MemberOr`, `Schema.Nullable`, `Schema.Entries`: what records and
  dictionaries say, each with the check that decides it.
-/

namespace RoadSpeed

/-! ## Checks that succeed -/

variable {σ α β κ : Type}

namespace Checked

theorem map_eq_ok_iff {a : Checked α} {f : α → β} {y : β} :
    a.map f = .ok y ↔ ∃ x, a = .ok x ∧ f x = y := by
  cases a <;> simp [Except.map]

/-- Checks of all elements succeed when each one does. -/
theorem all_map_eq_ok_iff {f : β → Checked α} {g : β → α} {P : β → Prop}
    (h : ∀ b x, f b = .ok x ↔ P b ∧ x = g b) {bs : List β} {xs : List α} :
    all (bs.map f) = .ok xs ↔ (∀ b ∈ bs, P b) ∧ xs = bs.map g := by
  induction bs generalizing xs with
  | nil => simp [all, eq_comm]
  | cons b bs ih =>
    rw [List.map_cons, all, map_eq_ok_iff]
    simp only [both_eq_ok_iff, h, ih, List.forall_mem_cons, List.map_cons]
    constructor
    · rintro ⟨⟨x, ys⟩, ⟨⟨hb, rfl⟩, hbs, rfl⟩, rfl⟩
      exact ⟨⟨hb, hbs⟩, rfl⟩
    · rintro ⟨⟨hb, hbs⟩, rfl⟩
      exact ⟨(g b, bs.map g), ⟨⟨hb, rfl⟩, hbs, rfl⟩, rfl⟩

end Checked

namespace Schema

/-! ### Members of records -/

theorem required_cons_self (name : String) (check : Json → Checked α) (j : Json)
    (members : List (String × Json)) :
    required name check ((name, j) :: members) = (check j).within name := by
  rw [required, List.lookup_cons_self]

theorem optional_nil (name : String) (absent : α) (check : Json → Checked α) :
    optional name absent check [] = .ok absent := rfl

theorem optional_cons_self (name : String) (absent : α) (check : Json → Checked α) (j : Json)
    (members : List (String × Json)) :
    optional name absent check ((name, j) :: members) = (check j).within name := by
  rw [optional, List.lookup_cons_self]

theorem optional_cons_of_ne {name other : String} (h : name ≠ other) (absent : α)
    (check : Json → Checked α) (j : Json) (members : List (String × Json)) :
    optional name absent check ((other, j) :: members) = optional name absent check members := by
  rw [optional, optional, List.lookup_cons, beq_false_of_ne h]

@[simp] theorem nullable_obj (check : Json → Checked α) (members : List (String × Json)) :
    nullable check (.obj members) = (check (.obj members)).map some := rfl

@[simp] theorem nullable_float (check : Json → Checked α) (x : Float) :
    nullable check (.float x) = (check (.float x)).map some := rfl

/-! ### Words -/

/-- A name of a vocabulary is read as its value. -/
@[simp] theorem named_name [Vocabulary α] (a : α) : named (Vocabulary.name a) = .ok a := by
  rw [named, Vocabulary.ofName?_name]

/-! ### Dictionaries -/

/-- A dictionary is read when each entry is. -/
theorem dictionary_eq_ok_iff {key : String → Checked κ} {value : Json → Checked α}
    {name : β → String} {text : β → Json} {k : β → κ} {g : β → α} {P : β → Prop}
    (hkey : ∀ b, key (name b) = .ok (k b)) (hvalue : ∀ b x, value (text b) = .ok x ↔ P b ∧ x = g b)
    {bs : List β} {entries : List (κ × α)} :
    dictionary key value (.obj (bs.map fun b => (name b, text b))) = .ok entries ↔
      (∀ b ∈ bs, P b) ∧ entries = bs.map fun b => (k b, g b) := by
  unfold dictionary
  dsimp only
  rw [List.map_map]
  refine Checked.all_map_eq_ok_iff ?_
  intro b x
  -- the key and the value of one entry, each seen from outside
  rw [Function.comp_apply, Checked.within_eq_ok_iff, Checked.both_eq_ok_iff,
    Checked.within_eq_ok_iff, hkey, hvalue]
  constructor
  · rintro ⟨hk, hb, hx⟩
    exact ⟨hb, Prod.ext (Except.ok.inj hk).symm hx⟩
  · rintro ⟨hb, rfl⟩
    exact ⟨rfl, hb, rfl⟩

/-! ### Numbers -/

/-- A check of numbers within bounds that takes a double as it is and refuses null. -/
structure IsNumberCheck {Bounds : Float → Prop}
    (number : Json → Checked { x : Float // Bounds x }) : Prop where
  float : ∀ x, number (.float x.val) = .ok x
  null : ∀ x, number .null ≠ .ok x

theorem isNumberCheck_nonNegative : IsNumberCheck nonNegative where
  float x := dif_pos x.property
  null x h := by cases h

theorem isNumberCheck_positive : IsNumberCheck positive where
  float x := dif_pos x.property
  null x h := by cases h

end Schema

/-! ## Checks and relations -/

/-! ### Outcomes -/

namespace Checked

/-- An outcome that is a value or a list of faults, at least one. -/
inductive Listed : Checked α → Prop where
  | ok (x : α) : Listed (.ok x)
  | error (fault : Fault) (rest : List Fault) : Listed (.error (.faults (fault :: rest)))

namespace Listed

variable {a : Checked α} {b : Checked β}

theorem fault (kind : FaultKind) : Listed (.fault kind : Checked α) := .error _ []

theorem within (h : Listed a) (key : String) : Listed (a.within key) := by
  cases h with
  | ok x => exact .ok x
  | error fault rest => exact .error _ _

theorem map (h : Listed a) (f : α → β) : Listed (a.map f) := by
  cases h with
  | ok x => exact .ok (f x)
  | error fault rest => exact .error fault rest

theorem both (h : Listed a) (h' : Listed b) : Listed (a.both b) := by
  cases h with
  | ok x => cases h' with
    | ok y => exact .ok (x, y)
    | error fault rest => exact .error fault rest
  | error fault rest => cases h' with
    | ok y => exact .error fault rest
    | error fault' rest' => exact .error fault (rest ++ fault' :: rest')

theorem all {rs : List (Checked α)} (h : ∀ r ∈ rs, Listed r) : Listed (Checked.all rs) := by
  induction rs with
  | nil => exact .ok []
  | cons r rs ih =>
    rw [List.forall_mem_cons] at h
    exact (h.1.both (ih h.2)).map _

end Listed

end Checked

/-! ### Checks that are put together -/

namespace Schema

/-- A check gives exactly the values that a relation allows, and lists faults otherwise. -/
structure Decides (check : σ → Checked α) (P : σ → α → Prop) : Prop where
  ok_iff : ∀ s x, check s = .ok x ↔ P s x
  listed : ∀ s, (check s).Listed

namespace Decides

variable {check : σ → Checked α} {P P' : σ → α → Prop}

theorem congr (h : Decides check P) (hP : ∀ s x, P s x ↔ P' s x) : Decides check P' where
  ok_iff s x := (h.ok_iff s x).trans (hP s x)
  listed := h.listed

/-- A check of a part. -/
theorem comap {τ : Type} (h : Decides check P) (part : τ → σ) :
    Decides (fun t => check (part t)) fun t => P (part t) where
  ok_iff t := h.ok_iff (part t)
  listed t := h.listed (part t)

theorem within (h : Decides check P) (key : σ → String) :
    Decides (fun s => (check s).within (key s)) P where
  ok_iff s x := Checked.within_eq_ok_iff.trans (h.ok_iff s x)
  listed s := (h.listed s).within (key s)

theorem map (h : Decides check P) (f : α → β) :
    Decides (fun s => (check s).map f) fun s y => ∃ x, P s x ∧ f x = y where
  ok_iff s y := by
    rw [Checked.map_eq_ok_iff]
    simp only [h.ok_iff]
  listed s := (h.listed s).map f

theorem both {other : σ → Checked β} {Q : σ → β → Prop} (h : Decides check P)
    (h' : Decides other Q) :
    Decides (fun s => (check s).both (other s)) fun s p => P s p.1 ∧ Q s p.2 where
  ok_iff s p := by
    rw [Checked.both_eq_ok_iff, h.ok_iff, h'.ok_iff]
  listed s := (h.listed s).both (h'.listed s)

/-- A check of what another one gives. -/
theorem bind {next : α → Checked β} {Q : α → β → Prop} (h : Decides check P)
    (h' : Decides next Q) :
    Decides (fun s => check s >>= next) fun s y => ∃ x, P s x ∧ Q x y where
  ok_iff s y := by
    rw [bind_eq_ok_iff]
    simp only [h.ok_iff, h'.ok_iff]
  listed s := by
    have hfirst := h.listed s
    generalize check s = a at hfirst
    cases hfirst with
    | ok x => exact h'.listed x
    | error fault rest => exact .error fault rest

/-- Checks of all elements of a list. -/
theorem all (h : Decides check P) :
    Decides (fun ss : List σ => Checked.all (ss.map check)) (List.Forall₂ P) where
  ok_iff ss xs := by
    induction ss generalizing xs with
    | nil => cases xs <;> simp [Checked.all]
    | cons s ss ih =>
      rw [List.map_cons, Checked.all, Checked.map_eq_ok_iff]
      simp only [Checked.both_eq_ok_iff, h.ok_iff, ih, List.forall₂_cons_left_iff]
      constructor
      · rintro ⟨⟨x, ys⟩, ⟨hx, hys⟩, rfl⟩
        exact ⟨x, ys, hx, hys, rfl⟩
      · rintro ⟨x, ys, hx, hys, rfl⟩
        exact ⟨⟨x, ys⟩, ⟨hx, hys⟩, rfl⟩
  listed ss := Checked.Listed.all (List.forall_mem_map.mpr fun s _ => h.listed s)

end Decides

/-! ### Single values -/

/-- What a number in a document says about a number within bounds. -/
def Says {Bounds : Float → Prop} (j : Json) (x : { x : Float // Bounds x }) : Prop :=
  number j = .ok x.val

theorem listed_number (j : Json) : (number j).Listed := by
  unfold number
  split
  · exact .ok _
  · split
    · exact .ok _
    · exact .fault _
  · exact .ok _
  · split
    · exact .ok _
    · exact .fault _
  · exact .fault _

/-- A check that a number keeps to its bounds. -/
def bounded (Bounds : Float → Prop) [DecidablePred Bounds] (kind : FaultKind) (x : Float) :
    Checked { x : Float // Bounds x } :=
  if h : Bounds x then .ok ⟨x, h⟩ else .fault kind

theorem decides_bounded (Bounds : Float → Prop) [DecidablePred Bounds] (kind : FaultKind) :
    Decides (bounded Bounds kind) fun x y => y.val = x where
  ok_iff x y := by
    unfold bounded
    split
    · simp [Subtype.ext_iff, eq_comm]
    · rename_i hout
      refine iff_of_false nofun ?_
      rintro rfl
      exact hout y.property
  listed x := by
    unfold bounded
    split
    · exact .ok _
    · exact .fault kind

/-- A number that is checked to keep to bounds is what the document says. -/
theorem decides_number {Bounds : Float → Prop} [DecidablePred Bounds] (kind : FaultKind)
    {check : Json → Checked { x : Float // Bounds x }}
    (h : ∀ j, check j = number j >>= bounded Bounds kind) : Decides check Says := by
  obtain rfl : check = fun j => number j >>= bounded Bounds kind := funext h
  have hnumber : Decides number fun j x => number j = .ok x := ⟨fun _ _ => Iff.rfl, listed_number⟩
  refine (hnumber.bind (decides_bounded Bounds kind)).congr fun j x => ?_
  simp [Says]

theorem decides_nonNegative : Decides nonNegative Says := by
  refine decides_number .belowZero fun j => ?_
  unfold nonNegative
  cases number j <;> rfl

theorem decides_positive : Decides positive Says := by
  refine decides_number .notAboveZero fun j => ?_
  unfold positive
  cases number j <;> rfl

section Words

variable [Vocabulary α]

theorem decides_named :
    Decides (named : String → Checked α) fun name a => name = Vocabulary.name a where
  ok_iff name a := by
    constructor
    · intro h
      unfold named at h
      split at h
      · rename_i hfound
        cases h
        exact (Vocabulary.name_of_ofName? hfound).symm
      · cases h
    · rintro rfl
      exact named_name a
  listed name := by
    unfold named
    split
    · exact .ok _
    · exact .fault _

theorem decides_word :
    Decides (word : Json → Checked α) fun j a => j = .str (Vocabulary.name a) where
  ok_iff j a := by
    cases j with
    | str name => exact (decides_named.ok_iff name a).trans (by rw [Json.str.injEq])
    | _ => exact iff_of_false nofun nofun
  listed j := by
    cases j with
    | str name => exact decides_named.listed name
    | _ => exact .fault _

end Words

/-! ### Objects -/

theorem decides_record : Decides record fun j members => j = .obj members where
  ok_iff j members := by
    cases j with
    | obj members' => simp [record]
    | _ => exact iff_of_false nofun nofun
  listed j := by
    cases j with
    | obj members => exact .ok members
    | _ => exact .fault _

/-- A member of a record says a value. -/
def Member (name : String) (P : Json → α → Prop) (members : List (String × Json)) (x : α) : Prop :=
  ∃ j, members.lookup name = some j ∧ P j x

/-- A member of a record says a value, or there is none and the value is the one for that. -/
def MemberOr (name : String) (absent : α) (P : Json → α → Prop)
    (members : List (String × Json)) (x : α) : Prop :=
  members.lookup name = none ∧ x = absent ∨ Member name P members x

/-- Null says none, and all else says a value. -/
def Nullable (P : Json → α → Prop) (j : Json) (x : Option α) : Prop :=
  j = .null ∧ x = none ∨ j ≠ .null ∧ ∃ y, P j y ∧ x = some y

/-- The members of an object say the entries of a dictionary, in order. -/
def Entries (K : String → κ → Prop) (P : Json → α → Prop) (j : Json)
    (entries : List (κ × α)) : Prop :=
  ∃ members, j = .obj members ∧
    List.Forall₂ (fun m e => K m.1 e.1 ∧ P m.2 e.2) members entries

section Objects

variable {check : Json → Checked α} {P : Json → α → Prop}

theorem decides_required (h : Decides check P) (name : String) :
    Decides (required name check) (Member name P) where
  ok_iff members x := by
    unfold required Member
    cases members.lookup name with
    | none => exact iff_of_false nofun nofun
    | some j => simp [Checked.within_eq_ok_iff, h.ok_iff]
  listed members := by
    unfold required
    split
    · exact (h.listed _).within name
    · exact (Checked.Listed.fault .missing).within name

theorem decides_optional (h : Decides check P) (name : String) (absent : α) :
    Decides (optional name absent check) (MemberOr name absent P) where
  ok_iff members x := by
    unfold optional MemberOr Member
    cases members.lookup name with
    | none => simp [eq_comm]
    | some j => simp [Checked.within_eq_ok_iff, h.ok_iff]
  listed members := by
    unfold optional
    split
    · exact (h.listed _).within name
    · exact .ok absent

theorem decides_nullable (h : Decides check P) : Decides (nullable check) (Nullable P) where
  ok_iff j x := by
    have hsome := (h.map some).ok_iff j x
    cases j with
    | null => simp [nullable, Nullable, eq_comm]
    | _ => simpa [nullable, Nullable, eq_comm] using hsome
  listed j := by
    cases j with
    | null => exact .ok none
    | _ => exact (h.listed _).map some

/-- The check of one entry of a dictionary. -/
theorem decides_entry {key : String → Checked κ} {K : String → κ → Prop} (hkey : Decides key K)
    (h : Decides check P) : Decides
      (fun m : String × Json => (((key m.1).within "[key]").both (check m.2)).within m.1)
      fun m e => K m.1 e.1 ∧ P m.2 e.2 :=
  (((hkey.comap Prod.fst).within fun _ => "[key]").both (h.comap Prod.snd)).within Prod.fst

theorem decides_dictionary {key : String → Checked κ} {K : String → κ → Prop}
    (hkey : Decides key K) (h : Decides check P) :
    Decides (dictionary key check) (Entries K P) where
  ok_iff j entries := by
    cases j with
    | obj members =>
      refine ((decides_entry hkey h).all.ok_iff members entries).trans ?_
      simp [Entries]
    | _ => exact iff_of_false nofun nofun
  listed j := by
    cases j with
    | obj members => exact (decides_entry hkey h).all.listed members
    | _ => exact .fault _

end Objects

end Schema

end RoadSpeed
