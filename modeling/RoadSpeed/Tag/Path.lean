/-!
# Tag paths

A tag stands at a place in the map's classification: a path of segments, such as `highway`,
`secondary`, `bridge`. A readable name writes the segments with a dash between them
(specification, §3 and §4.1).

- `TagPath.ofName`, `TagPath.toName`: a name split into segments, and segments
  joined into a name.
- `toName_ofName`: joining what a name splits into gives the name back.
- `ofName_toName_iff`: splitting what segments join to gives the segments back
  exactly when there is at least one and none of them holds a dash.
-/

namespace RoadSpeed

/-- The segments of a place in the classification. -/
abbrev TagPath := List String

namespace TagPath

/-- What stands between the segments of a name. -/
def separator : Char := '-'

/-- A text cut at every separator. -/
def split : List Char → List (List Char)
  | [] => [[]]
  | c :: cs =>
    if c = separator then [] :: split cs
    else match split cs with
      | [] => [[c]]
      | p :: ps => (c :: p) :: ps

/-- Pieces with a separator between them. -/
def join : List (List Char) → List Char
  | [] => []
  | [p] => p
  | p :: q :: ps => p ++ separator :: join (q :: ps)

/-- The path of a readable name. -/
def ofName (name : String) : TagPath := (split name.toList).map String.ofList

/-- The readable name of a path. -/
def toName (path : TagPath) : String := String.ofList (join (path.map String.toList))

theorem split_ne_nil (cs : List Char) : split cs ≠ [] := by
  cases cs with
  | nil => simp [split]
  | cons c cs =>
    rw [split]
    split
    · simp
    · split <;> simp

theorem join_cons_of_ne_nil (p : List Char) {ps : List (List Char)} (h : ps ≠ []) :
    join (p :: ps) = p ++ separator :: join ps := by
  cases ps with
  | nil => exact absurd rfl h
  | cons q ps => rfl

theorem join_split (cs : List Char) : join (split cs) = cs := by
  -- the rest is split into at least one piece, and the character goes in front of it
  induction cs with
  | nil => rfl
  | cons c cs ih =>
    rw [split]
    split
    · rename_i h
      rw [join_cons_of_ne_nil _ (split_ne_nil cs), ih, h]
      rfl
    · cases hs : split cs with
      | nil => exact absurd hs (split_ne_nil cs)
      | cons p ps =>
        rw [hs] at ih
        cases ps with
        | nil => simpa [join] using ih
        | cons q ps => simpa [join] using ih

/-- No piece of a split text holds a separator. -/
theorem separator_notMem_of_mem_split {cs p : List Char} (h : p ∈ split cs) : separator ∉ p := by
  -- by the recursion of the split; a separator opens a new piece, any other character joins the
  -- first one
  induction cs generalizing p with
  | nil =>
    rw [split, List.mem_singleton] at h
    simp [h]
  | cons c cs ih =>
    rw [split] at h
    split at h
    · rcases List.mem_cons.mp h with rfl | h
      · simp
      · exact ih h
    · rename_i hc
      cases hs : split cs with
      | nil => exact absurd hs (split_ne_nil cs)
      | cons q qs =>
        rw [hs] at h ih
        rcases List.mem_cons.mp h with rfl | h
        · rw [List.mem_cons, not_or]
          exact ⟨fun e => hc e.symm, ih List.mem_cons_self⟩
        · exact ih (List.mem_cons_of_mem _ h)

theorem split_append_separator {p : List Char} (h : separator ∉ p) (cs : List Char) :
    split (p ++ separator :: cs) = p :: split cs := by
  induction p with
  | nil => simp [split]
  | cons c p ih =>
    rw [List.mem_cons, not_or] at h
    rw [List.cons_append, split, if_neg (fun e => h.1 e.symm), ih h.2]

theorem split_of_notMem {p : List Char} (h : separator ∉ p) : split p = [p] := by
  induction p with
  | nil => rfl
  | cons c p ih =>
    rw [List.mem_cons, not_or] at h
    rw [split, if_neg (fun e => h.1 e.symm), ih h.2]

theorem split_join {ps : List (List Char)} (hne : ps ≠ []) (h : ∀ p ∈ ps, separator ∉ p) :
    split (join ps) = ps := by
  induction ps with
  | nil => exact absurd rfl hne
  | cons p ps ih =>
    have hp := h p List.mem_cons_self
    cases ps with
    | nil => exact split_of_notMem hp
    | cons q qs =>
      rw [join, split_append_separator hp,
        ih (by simp) fun r hr => h r (List.mem_cons_of_mem _ hr)]

theorem ofName_ne_nil (name : String) : ofName name ≠ [] := by
  simp [ofName, split_ne_nil]

/-- Joining what a name splits into gives the name back. -/
@[simp] theorem toName_ofName (name : String) : toName (ofName name) = name := by
  simp [toName, ofName, List.map_map, join_split]

/-- Names tell paths apart. -/
theorem ofName_injective {a b : String} (h : ofName a = ofName b) : a = b := by
  rw [← toName_ofName a, h, toName_ofName]

/-- Splitting what segments join to gives them back exactly when there is at
least one and none of them holds a separator. -/
theorem ofName_toName_iff (path : TagPath) :
    ofName (toName path) = path ↔ path ≠ [] ∧ ∀ s ∈ path, separator ∉ s.toList := by
  constructor
  · intro h
    refine ⟨fun e => ofName_ne_nil _ (h.trans e), fun s hs => ?_⟩
    rw [← h] at hs
    obtain ⟨p, hp, rfl⟩ := List.mem_map.mp hs
    simpa using separator_notMem_of_mem_split hp
  · rintro ⟨hne, h⟩
    have hs : split (join (path.map String.toList)) = path.map String.toList := by
      refine split_join (by simpa using hne) fun p hp => ?_
      obtain ⟨s, hs, rfl⟩ := List.mem_map.mp hp
      exact h s hs
    simp [ofName, toName, hs, List.map_map]

end TagPath

end RoadSpeed
