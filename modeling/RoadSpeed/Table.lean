/-!
# Tables in order of first entry

A `Table κ α` holds one value per key, in the order in which the keys first came in.
Writing at a known key keeps its place; a new key goes to the end. The tables of a model
are such tables, and so are the members of an object and the two sides of the registry of
paths; all of them are read-only once they are built (specification, §3).

- `Entries.put`: the write, on the bare list of entries.
- `Table`: the list together with the fact that no key occurs twice.
- `Table.get?_put`, `Table.keys_put`: what a write does to the two views of a table, the
  value at a key and the list of keys.
- `Table.ofList_toList`: a table is the table of its own entries.
- `Table.mem_toList_iff`, `Table.get?_eq_none_iff`: the entries of a table, its keys and its
  values at keys.
- `Table.toList_perm_iff`: tables with the same entries in different orders.
- `Table.get?_override`, `Table.keys_override`: an override counts where it has an entry, and
  its new keys go to the end.
- `Table.eq_of_keys_of_get?`: keys in order and values at keys are all there is to a table.
- `Table.override_assoc`, `Table.override_self`: overrides one after another.
-/

namespace RoadSpeed

universe u v w

variable {κ : Type u} {α : Type v} {β : Type w}

namespace Entries

variable [DecidableEq κ]

/-- Writes `a` at `k`: a known key keeps its place, a new key goes to the end. -/
def put (k : κ) (a : α) : List (κ × α) → List (κ × α)
  | [] => [(k, a)]
  | e :: es => if e.1 = k then (k, a) :: es else e :: put k a es

/-- The keys after a write are the old ones, with a new key at the end. -/
theorem keys_put (k : κ) (a : α) (es : List (κ × α)) :
    (put k a es).map Prod.fst =
      if k ∈ es.map Prod.fst then es.map Prod.fst else es.map Prod.fst ++ [k] := by
  induction es with
  | nil => simp [put]
  | cons e es ih =>
    by_cases h : e.1 = k
    · simp [put, h]
    · have h' : ¬ k = e.1 := fun hk => h hk.symm
      simp only [put, h, if_false, List.map_cons, ih, List.mem_cons, h', false_or]
      split <;> simp

theorem nodup_keys_put (k : κ) (a : α) {es : List (κ × α)} (h : (es.map Prod.fst).Nodup) :
    ((put k a es).map Prod.fst).Nodup := by
  rw [keys_put]
  split
  · exact h
  · rename_i hk
    rw [List.nodup_append]
    refine ⟨h, by simp, fun x hx y hy => ?_⟩
    rw [List.mem_singleton] at hy
    rintro rfl
    exact hk (hy ▸ hx)

theorem lookup_cons (i k : κ) (a : α) (es : List (κ × α)) :
    ((i, a) :: es).lookup k = if k = i then some a else es.lookup k := by
  rw [List.lookup_cons]
  by_cases h : k = i
  · simp [h]
  · simp [beq_false_of_ne h, h]

/-- The value at a key after a write is the one written there last. -/
theorem lookup_put (k j : κ) (a : α) (es : List (κ × α)) :
    (put k a es).lookup j = if j = k then some a else es.lookup j := by
  induction es with
  | nil => rw [put, lookup_cons]
  | cons e es ih =>
    obtain ⟨i, b⟩ := e
    by_cases h : i = k
    · subst h
      rw [put, if_pos rfl, lookup_cons, lookup_cons]
      split <;> rfl
    · rw [put, if_neg h, lookup_cons, lookup_cons, ih]
      by_cases hj : j = i
      · subst hj
        simp [h]
      · simp [hj]

end Entries

/-- One value per key, in the order in which the keys first came in. -/
structure Table (κ : Type u) (α : Type v) where
  /-- The entries in order. -/
  toList : List (κ × α)
  /-- No key occurs twice. -/
  nodup_keys : (toList.map Prod.fst).Nodup

namespace Table

/-- The keys in order. -/
def keys (t : Table κ α) : List κ := t.toList.map Prod.fst

/-- The table without entries. -/
def empty : Table κ α := ⟨[], List.nodup_nil⟩

instance : EmptyCollection (Table κ α) := ⟨empty⟩

instance : Inhabited (Table κ α) := ⟨empty⟩

/-- The number of entries. -/
def size (t : Table κ α) : Nat := t.toList.length

/-- Replaces each value by one made from its key and itself; keys and order stay. -/
def map (f : κ → α → β) (t : Table κ α) : Table κ β where
  toList := t.toList.map fun e => (e.1, f e.1 e.2)
  nodup_keys := by
    have h : (t.toList.map fun e => (e.1, f e.1 e.2)).map Prod.fst = t.toList.map Prod.fst := by
      simp [List.map_map, Function.comp_def]
    rw [h]
    exact t.nodup_keys

@[simp] theorem keys_map (f : κ → α → β) (t : Table κ α) : (t.map f).keys = t.keys := by
  simp [map, keys, List.map_map, Function.comp_def]

/-- Two tables agree when their entries agree, in order. -/
instance [BEq κ] [BEq α] : BEq (Table κ α) := ⟨fun s t => s.toList == t.toList⟩

variable [DecidableEq κ]

/-- The value at a key, if there is one. -/
def get? (t : Table κ α) (k : κ) : Option α := t.toList.lookup k

/-- Whether the table has an entry at the key. -/
def contains (t : Table κ α) (k : κ) : Bool := t.keys.contains k

/-- Writes `a` at `k`: a known key keeps its place, a new key goes to the end. -/
def put (t : Table κ α) (k : κ) (a : α) : Table κ α where
  toList := Entries.put k a t.toList
  nodup_keys := Entries.nodup_keys_put k a t.nodup_keys

/-- Writes a list of entries from left to right, so that the last value of a
repeated key counts. -/
def putAll (t : Table κ α) (es : List (κ × α)) : Table κ α :=
  es.foldl (fun t e => t.put e.1 e.2) t

/-- The table of a list of entries: first place and last value of each key. -/
def ofList (es : List (κ × α)) : Table κ α := empty.putAll es

/-- `t` with the entries of `u` written over it. -/
def override (t u : Table κ α) : Table κ α := t.putAll u.toList

@[simp] theorem get?_empty (k : κ) : (empty : Table κ α).get? k = none := rfl

theorem get?_put (t : Table κ α) (k j : κ) (a : α) :
    (t.put k a).get? j = if j = k then some a else t.get? j :=
  Entries.lookup_put k j a t.toList

theorem keys_put (t : Table κ α) (k : κ) (a : α) :
    (t.put k a).keys = if k ∈ t.keys then t.keys else t.keys ++ [k] :=
  Entries.keys_put k a t.toList

@[simp] theorem putAll_cons (t : Table κ α) (e : κ × α) (es : List (κ × α)) :
    t.putAll (e :: es) = (t.put e.1 e.2).putAll es := rfl

end Table

/-! ## Tables as lists of entries -/

namespace Entries

variable [DecidableEq κ]

/-- A new key goes to the end. -/
theorem put_of_notMem {k : κ} {a : α} {es : List (κ × α)} (h : k ∉ es.map Prod.fst) :
    put k a es = es ++ [(k, a)] := by
  induction es with
  | nil => rfl
  | cons e es ih =>
    rw [List.map_cons, List.mem_cons, not_or] at h
    rw [put, if_neg (Ne.symm h.1), ih h.2, List.cons_append]

/-- Entries with distinct new keys are written one behind the other. -/
theorem foldl_put_of_nodup (new : List (κ × α)) :
    ∀ es : List (κ × α), ((es ++ new).map Prod.fst).Nodup →
      new.foldl (fun es e => put e.1 e.2 es) es = es ++ new := by
  induction new with
  | nil =>
    intro es _
    rw [List.foldl_nil, List.append_nil]
  | cons e new ih =>
    intro es h
    have hnew : e.1 ∉ es.map Prod.fst := by
      rw [List.map_append, List.map_cons, List.nodup_append] at h
      exact fun hmem => h.2.2 _ hmem _ List.mem_cons_self rfl
    have hsplit : es ++ e :: new = es ++ [e] ++ new := by simp
    rw [List.foldl_cons, put_of_notMem hnew, ih _ (hsplit ▸ h), ← hsplit]

/-- In entries with distinct keys, what is listed is what is found. -/
theorem mem_iff_lookup {es : List (κ × α)} (h : (es.map Prod.fst).Nodup) {k : κ} {a : α} :
    (k, a) ∈ es ↔ es.lookup k = some a := by
  induction es with
  | nil => simp
  | cons e es ih =>
    obtain ⟨i, b⟩ := e
    rw [List.map_cons, List.nodup_cons] at h
    rw [List.mem_cons, Prod.mk.injEq, ih h.2, lookup_cons]
    by_cases hk : k = i
    · subst hk
      have hnone : es.lookup k ≠ some a := fun hfound =>
        h.1 (List.mem_map.mpr ⟨(k, a), (ih h.2).mpr hfound, rfl⟩)
      simp [hnone, eq_comm]
    · simp [hk]

end Entries

namespace Table

variable [DecidableEq κ]

omit [DecidableEq κ] in
/-- Tables with the same entries are the same. -/
theorem eq_of_toList_eq {s t : Table κ α} (h : s.toList = t.toList) : s = t := by
  cases s
  cases t
  cases h
  rfl

omit [DecidableEq κ] in
theorem map_map {γ : Type w} (g : κ → β → γ) (f : κ → α → β) (t : Table κ α) :
    (t.map f).map g = t.map fun k a => g k (f k a) :=
  eq_of_toList_eq List.map_map

omit [DecidableEq κ] in
/-- A table stays as it is when each of its values does. -/
theorem map_eq_self {f : κ → α → α} {t : Table κ α} (h : ∀ e ∈ t.toList, f e.1 e.2 = e.2) :
    t.map f = t := by
  refine eq_of_toList_eq ?_
  have hid : t.toList.map (fun e => (e.1, f e.1 e.2)) = t.toList.map id :=
    List.map_congr_left fun e he => Prod.ext rfl (h e he)
  exact hid.trans (List.map_id _)

theorem toList_putAll (t : Table κ α) (es : List (κ × α)) :
    (t.putAll es).toList = es.foldl (fun es e => Entries.put e.1 e.2 es) t.toList := by
  induction es generalizing t with
  | nil => rfl
  | cons e es ih => exact ih (t.put e.1 e.2)

/-- A table is the table of its own entries. -/
@[simp] theorem ofList_toList (t : Table κ α) : ofList t.toList = t := by
  refine eq_of_toList_eq ?_
  rw [ofList, toList_putAll]
  exact Entries.foldl_put_of_nodup t.toList [] t.nodup_keys

theorem mem_toList_iff {t : Table κ α} {k : κ} {a : α} : (k, a) ∈ t.toList ↔ t.get? k = some a :=
  Entries.mem_iff_lookup t.nodup_keys

omit [DecidableEq κ] in
theorem mem_keys_iff {t : Table κ α} {k : κ} : k ∈ t.keys ↔ ∃ a, (k, a) ∈ t.toList := by
  simp [keys]

/-- Nothing is found exactly at what is no key. -/
theorem get?_eq_none_iff {t : Table κ α} {k : κ} : t.get? k = none ↔ k ∉ t.keys := by
  simp only [mem_keys_iff, mem_toList_iff, not_exists, Option.eq_none_iff_forall_ne_some, ne_eq]

omit [DecidableEq κ] in
theorem length_keys (t : Table κ α) : t.keys.length = t.size := List.length_map _

/-- A new key makes a table longer by one. -/
theorem size_put_of_get?_eq_none {t : Table κ α} {k : κ} {a : α} (h : t.get? k = none) :
    (t.put k a).size = t.size + 1 := by
  rw [← length_keys, keys_put, if_neg (get?_eq_none_iff.mp h), List.length_append, length_keys]
  rfl

omit [DecidableEq κ] in
theorem nodup_toList (t : Table κ α) : t.toList.Nodup :=
  List.Pairwise.of_map Prod.fst (fun _ _ hne heq => hne (congrArg Prod.fst heq)) t.nodup_keys

/-- Tables have the same entries, in whatever order, if they have the same values at keys. -/
theorem toList_perm_iff {s t : Table κ α} :
    s.toList.Perm t.toList ↔ ∀ k, s.get? k = t.get? k := by
  rw [List.perm_ext_iff_of_nodup s.nodup_toList t.nodup_toList, Prod.forall]
  refine forall_congr' fun k => ?_
  simp only [mem_toList_iff]
  exact ⟨Option.ext, fun h a => by rw [h]⟩

/-- Of entries with distinct keys, the one for a key counts. -/
theorem get?_putAll (t : Table κ α) {es : List (κ × α)} (h : (es.map Prod.fst).Nodup) (k : κ) :
    (t.putAll es).get? k = (es.lookup k).or (t.get? k) := by
  induction es generalizing t with
  | nil => rfl
  | cons e es ih =>
    obtain ⟨i, a⟩ := e
    rw [List.map_cons, List.nodup_cons] at h
    rw [putAll_cons, ih _ h.2, get?_put, Entries.lookup_cons]
    by_cases hk : k = i
    · subst hk
      have hnone : es.lookup k = none := by
        refine Option.eq_none_iff_forall_ne_some.mpr ?_
        intro b hb
        exact h.1 (List.mem_map.mpr ⟨(k, b), (Entries.mem_iff_lookup h.2).mpr hb, rfl⟩)
      simp [hnone]
    · simp [hk]

/-- An override counts where it has an entry. -/
theorem get?_override (t u : Table κ α) (k : κ) :
    (t.override u).get? k = (u.get? k).or (t.get? k) :=
  get?_putAll t u.nodup_keys k

/-- Entries with distinct keys put the new ones among these at the end. -/
theorem keys_putAll (t : Table κ α) {es : List (κ × α)} (h : (es.map Prod.fst).Nodup) :
    (t.putAll es).keys = t.keys ++ (es.map Prod.fst).filter fun k => k ∉ t.keys := by
  induction es generalizing t with
  | nil => exact (List.append_nil t.keys).symm
  | cons e es ih =>
    rw [List.map_cons, List.nodup_cons] at h
    rw [putAll_cons, ih _ h.2, keys_put, List.map_cons]
    by_cases hk : e.1 ∈ t.keys
    · rw [if_pos hk, List.filter_cons_of_neg (by simpa using hk)]
    · rw [if_neg hk, List.filter_cons_of_pos (by simpa using hk), List.append_assoc,
        List.singleton_append]
      -- the key that is new now does not come again
      have hrest : ∀ k ∈ es.map Prod.fst, decide (k ∉ t.keys ++ [e.1]) = decide (k ∉ t.keys) := by
        intro k hmem
        have hne : k ≠ e.1 := fun heq => h.1 (heq ▸ hmem)
        simp [hne]
      rw [List.filter_congr hrest]

theorem keys_override (t u : Table κ α) :
    (t.override u).keys = t.keys ++ u.keys.filter fun k => k ∉ t.keys :=
  keys_putAll t u.nodup_keys

theorem mem_keys_override_iff {t u : Table κ α} {k : κ} :
    k ∈ (t.override u).keys ↔ k ∈ t.keys ∨ k ∈ u.keys := by
  rw [keys_override, List.mem_append, List.mem_filter, decide_eq_true_iff, or_and_left,
    and_iff_left (Decidable.em _)]

theorem get?_map (f : κ → α → β) (t : Table κ α) (k : κ) :
    (t.map f).get? k = (t.get? k).map (f k) := by
  show (t.toList.map fun e => (e.1, f e.1 e.2)).lookup k = (t.toList.lookup k).map (f k)
  induction t.toList with
  | nil => rfl
  | cons e es ih =>
    obtain ⟨i, a⟩ := e
    rw [List.map_cons, Entries.lookup_cons, Entries.lookup_cons, ih]
    by_cases hk : k = i
    · subst hk
      simp
    · simp [hk]

/-- An override whose values are made from others. -/
theorem get?_override_map (t : Table κ β) (u : Table κ α) (f : κ → α → β) (k : κ) :
    (t.override (u.map f)).get? k = ((u.get? k).map (f k)).or (t.get? k) := by
  rw [get?_override, get?_map]

/-! ## Overrides one after another -/

theorem map_some_toList (t : Table κ α) :
    t.toList.map some = t.keys.map fun k => (t.get? k).map fun a => (k, a) := by
  rw [keys, List.map_map]
  refine List.map_congr_left fun e he => ?_
  rw [Function.comp_apply, mem_toList_iff.mp he]
  rfl

/-- Tables with the same keys, in order, and the same values at keys are the same. -/
theorem eq_of_keys_of_get? {s t : Table κ α} (hkeys : s.keys = t.keys)
    (hget : ∀ k, s.get? k = t.get? k) : s = t := by
  have hentries : s.toList.map some = t.toList.map some := by
    rw [map_some_toList, map_some_toList, hkeys]
    simp only [hget]
  exact eq_of_toList_eq ((List.map_inj_right fun _ _ => Option.some.inj).mp hentries)

/-- To write two tables over a third one in turn is to write both over it at once. -/
theorem override_assoc (t u v : Table κ α) :
    (t.override u).override v = t.override (u.override v) := by
  refine eq_of_keys_of_get? ?_ ?_
  · -- a key of the last table is new to the first two together or to each in turn
    have hnew : (v.keys.filter fun k => k ∉ (t.override u).keys) =
        (v.keys.filter fun k => k ∉ u.keys).filter fun k => k ∉ t.keys := by
      rw [List.filter_filter]
      refine List.filter_congr fun k _ => ?_
      simp [mem_keys_override_iff]
    rw [keys_override, hnew, keys_override, keys_override t, keys_override u,
      List.filter_append, List.append_assoc]
  · intro k
    rw [get?_override, get?_override, get?_override, get?_override, Option.or_assoc]

/-- A table written over itself stays as it is. -/
theorem override_self (t : Table κ α) : t.override t = t := by
  refine eq_of_keys_of_get? ?_ ?_
  · have hnone : (t.keys.filter fun k => k ∉ t.keys) = [] :=
      List.filter_eq_nil_iff.mpr fun k hk => by simpa using hk
    rw [keys_override, hnone, List.append_nil]
  · intro k
    rw [get?_override, Option.or_self]

end Table

end RoadSpeed
