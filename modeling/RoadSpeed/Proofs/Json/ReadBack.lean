import RoadSpeed.Proofs.Decimal.ReadBack
import RoadSpeed.Table

/-!
# Written JSON reads back

What the writer lays out over lines, with indentation, escapes and shortest numbers,
the strict reader takes apart again. Each value is read from its first character to
its last, whatever follows it, and what is read is the value that was written.

- `readChars_escape`: strings, whatever their characters.
- `readItems_lines`: the lines of a container, each read on its own.
- `Writable`: the values that the writer has a text for. Numbers are finite, names
  of members are distinct, and containers nest no deeper than the reader allows.
- `Writable.readsBack`, `parse?_toText`: these values read back.
-/

namespace RoadSpeed.Json

open Decimal

/-! ## Strings -/

/-- The code unit of four written digits. -/
theorem codeUnit?_digits {n : Nat} (h : n < 0x20) :
    ∃ a b c d, Text.Hex.digits 4 n = [a, b, c, d] ∧ codeUnit? a b c d = some n := by
  have hall : ∀ m : Fin 0x20, codeUnit? (Text.Hex.digit (m.val / 16 / 16 / 16 % 16))
      (Text.Hex.digit (m.val / 16 / 16 % 16)) (Text.Hex.digit (m.val / 16 % 16))
      (Text.Hex.digit (m.val % 16)) = some m.val := by
    decide
  exact ⟨_, _, _, _, rfl, hall ⟨n, h⟩⟩

/-- A character is read as it is written inside a string. -/
theorem readChars_escapeChar (c : Char) (rest : List Char) :
    readChars (escapeChar c ++ rest) = (readChars rest).map fun (cs, r) => (c :: cs, r) := by
  unfold escapeChar
  split
  · rename_i h
    rcases h with rfl | rfl <;> rfl
  -- the letters of the five short escapes
  iterate 5
    split
    · subst_vars
      rfl
  rename_i hquote _ _ _ _ _
  obtain ⟨hquote, hslash⟩ := not_or.mp hquote
  split
  · -- a control character is half of no pair of surrogates
    rename_i hlow
    obtain ⟨x, y, z, w, hdigits, hunit⟩ := codeUnit?_digits hlow
    rw [hdigits]
    have hhigh : isHighSurrogate c.toNat = false := by
      simp [isHighSurrogate]
      omega
    have hlow' : isLowSurrogate c.toNat = false := by
      simp [isLowSurrogate]
      omega
    show readChars ('\\' :: 'u' :: x :: y :: z :: w :: rest) = _
    rw [readChars]
    simp [hunit, hhigh, hlow']
  · rename_i hhigh
    show readChars (c :: rest) = _
    rw [readChars.eq_def]
    split <;> simp_all

/-- A string is read as it is written, up to its closing quote. -/
theorem readChars_escape (cs rest : List Char) :
    readChars (cs.flatMap escapeChar ++ '"' :: rest) = some (cs, rest) := by
  induction cs with
  | nil => rfl
  | cons c cs ih =>
    rw [List.flatMap_cons, List.append_assoc, readChars_escapeChar, ih]
    rfl

/-! ## Blanks -/

theorem skipBlanks_of_not_blank {c : Char} (h : isBlank c = false) (cs : List Char) :
    skipBlanks (c :: cs) = c :: cs := by
  simp [skipBlanks, h]

/-- The reader passes over the break of a line and its indentation. -/
theorem skipBlanks_lineBreak (level : Nat) (cs : List Char) :
    skipBlanks (lineBreak level ++ cs) = skipBlanks cs := by
  unfold skipBlanks lineBreak
  rw [List.dropWhile_append_of_pos]
  intro c hc
  rcases List.mem_cons.mp hc with rfl | hc
  · decide
  · rw [List.eq_of_mem_replicate hc]
    decide

theorem ends_cons {c : Char} (h : c.isDigit = false ∧ c ≠ '.' ∧ c ≠ 'e' ∧ c ≠ 'E')
    (cs : List Char) : Ends (c :: cs) := by
  rintro _ ⟨⟩
  exact h

theorem ends_lineBreak (level : Nat) (cs : List Char) : Ends (lineBreak level ++ cs) :=
  ends_cons (by decide) _

/-! ## Lines of a container -/

section Lines

variable {α : Type} {item : List Char → Option (α × List Char)} {level : Nat}

/-- A line of a container: the item is read from its text, whatever follows. -/
def ReadsLine (item : List Char → Option (α × List Char)) (level : Nat)
    (line : List Char × α) : Prop :=
  ∀ rest, Ends rest → item (lineBreak level ++ (line.1 ++ rest)) = some (line.2, rest)

/-- The lines after the first one, each behind a comma. -/
def linesText (level : Nat) (lines : List (List Char × α)) : List Char :=
  lines.flatMap fun line => ',' :: lineBreak level ++ line.1

/-- The lines of a container are read one by one. The fuel lasts, as each takes one
unit and there is at least one character to a line. -/
theorem readItems_lines {close : Char} (hclose : isBlank close = false) (hcomma : close ≠ ',')
    (outer : Nat) (rest : List Char) (lines : List (List Char × α)) :
    ∀ (line : List Char × α) (fuel : Nat), lines.length < fuel → ReadsLine item level line →
      (∀ l ∈ lines, ReadsLine item level l) →
      readItems item close fuel (lineBreak level ++ (line.1 ++ (linesText level lines ++
        (lineBreak outer ++ close :: rest)))) = some (line.2 :: lines.map Prod.snd, rest) := by
  -- by induction on the lines still to come; the fuel goes down with them
  induction lines with
  | nil =>
    intro line fuel hfuel hline _
    obtain ⟨fuel, rfl⟩ := Nat.exists_eq_succ_of_ne_zero (Nat.ne_of_gt hfuel)
    have hread := hline (lineBreak outer ++ close :: rest) (ends_lineBreak _ _)
    have hskip : skipBlanks (lineBreak outer ++ close :: rest) = close :: rest := by
      rw [skipBlanks_lineBreak, skipBlanks_of_not_blank hclose]
    unfold readItems
    rw [show linesText level ([] : List (List Char × α)) = [] from rfl, List.nil_append, hread]
    simp [hskip]
  | cons next lines ih =>
    intro line fuel hfuel hline hlines
    obtain ⟨fuel, rfl⟩ := Nat.exists_eq_succ_of_ne_zero (Nat.ne_of_gt (Nat.zero_lt_of_lt hfuel))
    have hrest := ih next fuel (by simpa using hfuel) (hlines next List.mem_cons_self)
      fun l hl => hlines l (List.mem_cons_of_mem _ hl)
    have htext : linesText level (next :: lines) ++ (lineBreak outer ++ close :: rest) =
        ',' :: (lineBreak level ++ (next.1 ++ (linesText level lines ++
          (lineBreak outer ++ close :: rest)))) := by
      simp [linesText, List.append_assoc]
    have hread := hline _ (ends_cons (c := ',') (by decide) (lineBreak level ++ (next.1 ++
      (linesText level lines ++ (lineBreak outer ++ close :: rest)))))
    unfold readItems
    rw [htext, hread]
    simp [skipBlanks_of_not_blank (c := ',') (by decide), hcomma.symm, hrest]

theorem length_le_linesText (level : Nat) (lines : List (List Char × α)) :
    lines.length ≤ (linesText level lines).length := by
  induction lines with
  | nil => exact Nat.le_refl 0
  | cons line lines ih =>
    simp only [linesText, List.flatMap_cons, List.length_append, List.length_cons] at ih ⊢
    omega

/-- The contents of a container with at least one line are the items of its lines. -/
theorem readContents_lines (close : Char) (hclose : isBlank close = false) (hcomma : close ≠ ',')
    (outer : Nat) (rest : List Char) (line : List Char × α) (lines : List (List Char × α))
    (hline : ReadsLine item level line) (hlines : ∀ l ∈ lines, ReadsLine item level l)
    (hhead : ∃ c cs, line.1 = c :: cs ∧ isBlank c = false ∧ c ≠ close) :
    readContents item close (lineBreak level ++ (line.1 ++ (linesText level lines ++
      (lineBreak outer ++ close :: rest)))) = some (line.2 :: lines.map Prod.snd, rest) := by
  have hitems := readItems_lines hclose hcomma outer rest lines line
    (lineBreak level ++ (line.1 ++ (linesText level lines ++
      (lineBreak outer ++ close :: rest)))).length ?_ hline hlines
  · obtain ⟨c, cs, hc, hblank, hopen⟩ := hhead
    unfold readContents
    rw [skipBlanks_lineBreak, hitems, hc, List.cons_append, skipBlanks_of_not_blank hblank]
    exact if_neg hopen
  · have := length_le_linesText level lines
    simp only [lineBreak, List.length_append, List.length_cons]
    omega

end Lines

/-! ## Values -/

/-- The values that the writer has a text for and that the reader takes: numbers are
finite, whole numbers are kept, the names of members are distinct, and containers
nest at most `depth` deep. -/
inductive Writable (rules : Rules) : (depth : Nat) → Json → Prop where
  | null {depth : Nat} : Writable rules depth .null
  | bool {depth : Nat} (b : Bool) : Writable rules depth (.bool b)
  | int {depth : Nat} {n : Int} (h : rules.keeps n = true) : Writable rules depth (.int n)
  | float {depth : Nat} {x : Float} (h : x.isFinite = true) : Writable rules depth (.float x)
  | str {depth : Nat} (s : String) : Writable rules depth (.str s)
  | arr {depth : Nat} {items : List Json} (h : ∀ j ∈ items, Writable rules depth j) :
      Writable rules (depth + 1) (.arr items)
  | obj {depth : Nat} {members : List (String × Json)} (hnodup : (members.map Prod.fst).Nodup)
      (h : ∀ m ∈ members, Writable rules depth m.2) : Writable rules (depth + 1) (.obj members)

/-- How a member of an object is written. -/
def memberText (level : Nat) (m : String × Json) : List Char :=
  writeString m.1 ++ ':' :: ' ' :: write level m.2

theorem writeItems_eq (level : Nat) (items : List Json) :
    writeItems level items = linesText level (items.map fun j => (write level j, j)) := by
  induction items with
  | nil => rfl
  | cons j items ih => simp [writeItems, linesText, ih]

theorem writeMembers_eq (level : Nat) (members : List (String × Json)) :
    writeMembers level members =
      linesText level (members.map fun m => (memberText level m, m)) := by
  induction members with
  | nil => rfl
  | cons m members ih => simp [writeMembers, linesText, memberText, ih]

variable {rules : Rules} {depth : Nat}

/-- Blanks in front of a value do not count. -/
theorem readValue_congr {cs ds : List Char} (h : skipBlanks cs = skipBlanks ds) :
    readValue rules depth cs = readValue rules depth ds := by
  cases depth <;> (unfold readValue readWith; rw [h])

theorem readValue_lineBreak (level : Nat) (cs : List Char) :
    readValue rules depth (lineBreak level ++ cs) = readValue rules depth cs :=
  readValue_congr (skipBlanks_lineBreak level cs)

theorem readValue_space (cs : List Char) :
    readValue rules depth (' ' :: cs) = readValue rules depth cs :=
  readValue_congr rfl

/-- What numbers start with is no blank. -/
theorem isBlank_of_number {c : Char} (h : c = '-' ∨ c.isDigit = true) : isBlank c = false := by
  by_contra hblank
  simp only [isBlank, Bool.or_eq_true, decide_eq_true_eq, Bool.not_eq_false] at hblank
  rcases hblank with ((rfl | rfl) | rfl) | rfl <;> exact absurd h (by decide)

/-- What starts with a digit or with a minus is read as a number. -/
theorem readValue_number {c : Char} (h : c = '-' ∨ c.isDigit = true) (cs : List Char) :
    readValue rules depth (c :: cs) = readNumber rules (c :: cs) := by
  have hwith : ∀ inner, readWith rules inner (c :: cs) = readNumber rules (c :: cs) := by
    intro inner
    unfold readWith
    rw [skipBlanks_of_not_blank (isBlank_of_number h)]
    dsimp only
    -- no other kind of value starts with this character
    split
    all_goals first
      | rfl
      | rename_i heq
        cases heq
        exact absurd h (by decide)
  cases depth <;> exact hwith _

/-- A written value starts with a character that is no blank and closes nothing. -/
theorem Writable.exists_head {j : Json} (h : Writable rules depth j) (level : Nat) :
    ∃ c cs, write level j = c :: cs ∧ isBlank c = false ∧ c ≠ ']' := by
  have hnumber : ∀ {text : List Char}, (∃ c cs, text = c :: cs ∧ (c = '-' ∨ c.isDigit = true)) →
      ∃ c cs, text = c :: cs ∧ isBlank c = false ∧ c ≠ ']' := by
    rintro text ⟨c, cs, rfl, hc⟩
    refine ⟨c, cs, rfl, isBlank_of_number hc, ?_⟩
    rintro rfl
    exact absurd hc (by decide)
  cases h with
  | null => exact ⟨_, _, rfl, by decide, by decide⟩
  | bool b => cases b <;> exact ⟨_, _, rfl, by decide, by decide⟩
  | @int _ n hkeeps => exact hnumber (exists_head_writeInt n)
  | float hfin => exact hnumber (exists_head_write _ hfin)
  | str s => exact ⟨_, _, rfl, by decide, by decide⟩
  | @arr _ items _ => cases items <;> exact ⟨_, _, rfl, by decide, by decide⟩
  | @obj _ members _ _ => cases members <;> exact ⟨_, _, rfl, by decide, by decide⟩

/-! ### What the first character decides -/

theorem readValue_quote (cs : List Char) :
    readValue rules depth ('"' :: cs) =
      (readChars cs).map fun p => (.str (String.ofList p.1), p.2) := by
  cases depth <;> rfl

theorem readValue_bracket (cs : List Char) :
    readValue rules (depth + 1) ('[' :: cs) =
      (readContents (readValue rules depth) ']' cs).map fun p => (.arr p.1, p.2) := by
  show (readContents (readValue rules depth) ']' cs).bind _ = _
  cases readContents (readValue rules depth) ']' cs <;> rfl

theorem readValue_brace (cs : List Char) :
    readValue rules (depth + 1) ('\x7b' :: cs) =
      (readContents (readMember (readValue rules depth)) '\x7d' cs).map fun p =>
        (ofMembers p.1, p.2) := by
  show (readContents (readMember (readValue rules depth)) '\x7d' cs).bind _ = _
  cases readContents (readMember (readValue rules depth)) '\x7d' cs <;> rfl

theorem readMember_quote {value : List Char → Option (Json × List Char)} {cs name rest : List Char}
    (h : readChars cs = some (name, ':' :: rest)) :
    readMember value ('"' :: cs) = (value rest).map fun p => ((String.ofList name, p.1), p.2) := by
  show ((readChars cs).bind _) = _
  rw [h]
  show (value rest).bind _ = _
  cases value rest <;> rfl

/-! ### Each kind of value -/

/-- A value is read as it is written, up to its last character. -/
def ReadsBack (rules : Rules) (depth : Nat) (j : Json) : Prop :=
  ∀ (level : Nat) (rest : List Char), Ends rest →
    readValue rules depth (write level j ++ rest) = some (j, rest)

theorem readsBack_str (s : String) : ReadsBack rules depth (.str s) := by
  intro level rest _
  show readValue rules depth (writeString s ++ rest) = some (.str s, rest)
  have htext : writeString s ++ rest = '"' :: (s.toList.flatMap escapeChar ++ '"' :: rest) := by
    simp [writeString]
  rw [htext, readValue_quote, readChars_escape]
  simp

theorem readsBack_int {n : Int} (h : rules.keeps n = true) : ReadsBack rules depth (.int n) := by
  intro level rest hrest
  obtain ⟨c, cs, htext, hc⟩ := exists_head_writeInt n
  have hread := readNumber_writeInt h hrest
  show readValue rules depth (writeInt n ++ rest) = _
  rw [htext, List.cons_append] at hread ⊢
  rw [readValue_number hc, hread]

theorem readsBack_float {x : Float} (h : x.isFinite = true) : ReadsBack rules depth (.float x) := by
  intro level rest hrest
  obtain ⟨c, cs, htext, hc⟩ := exists_head_write numberLayout h
  have hread := readNumber_write rules numberLayout h hrest
  show readValue rules depth (numberLayout.write x ++ rest) = _
  rw [htext, List.cons_append] at hread ⊢
  rw [readValue_number hc, hread]

/-- A list reads back when its items do. -/
theorem readsBack_arr {items : List Json} (hwritable : ∀ j ∈ items, Writable rules depth j)
    (h : ∀ j ∈ items, ReadsBack rules depth j) : ReadsBack rules (depth + 1) (.arr items) := by
  intro level rest _
  cases items with
  | nil => rfl
  | cons j items =>
    -- each item stands on a line of its own, one level further in
    have hlines : ∀ i ∈ j :: items,
        ReadsLine (readValue rules depth) (level + 1) (write (level + 1) i, i) := by
      intro i hi rest hrest
      rw [readValue_lineBreak]
      exact h i hi (level + 1) rest hrest
    have hcontents := readContents_lines ']' (by decide) (by decide) level rest _
      (items.map fun i => (write (level + 1) i, i)) (hlines j List.mem_cons_self)
      (List.forall_mem_map.mpr fun i hi => hlines i (List.mem_cons_of_mem _ hi))
      ((hwritable j List.mem_cons_self).exists_head (level + 1))
    have htext : write level (.arr (j :: items)) ++ rest =
        '[' :: (lineBreak (level + 1) ++ (write (level + 1) j ++
          (linesText (level + 1) (items.map fun i => (write (level + 1) i, i)) ++
            (lineBreak level ++ ']' :: rest)))) := by
      simp [write, writeItems_eq]
    rw [htext, readValue_bracket, hcontents]
    simp [Function.comp_def]

/-- A member is read from its line when its value reads back. -/
theorem ReadsBack.readsLine_member {m : String × Json} (h : ReadsBack rules depth m.2)
    (level : Nat) :
    ReadsLine (readMember (readValue rules depth)) level (memberText level m, m) := by
  intro rest hrest
  have htext : memberText level m ++ rest =
      '"' :: (m.1.toList.flatMap escapeChar ++ '"' :: ':' :: ' ' :: (write level m.2 ++ rest)) := by
    simp [memberText, writeString]
  have hskip :
      readMember (readValue rules depth) (lineBreak level ++ (memberText level m ++ rest)) =
        readMember (readValue rules depth) (memberText level m ++ rest) := by
    unfold readMember
    rw [skipBlanks_lineBreak]
  rw [hskip, htext, readMember_quote (readChars_escape _ _), readValue_space, h level rest hrest]
  simp

/-- An object keeps members with distinct names as they are. -/
theorem ofMembers_of_nodup {members : List (String × Json)} (h : (members.map Prod.fst).Nodup) :
    ofMembers members = .obj members := by
  rw [ofMembers, Entries.foldl_put_of_nodup members [] h, List.nil_append]

/-- An object with distinct names reads back when its members do. -/
theorem readsBack_obj {members : List (String × Json)} (hnodup : (members.map Prod.fst).Nodup)
    (h : ∀ m ∈ members, ReadsBack rules depth m.2) :
    ReadsBack rules (depth + 1) (.obj members) := by
  intro level rest _
  cases members with
  | nil => rfl
  | cons m members =>
    -- each member stands on a line of its own, one level further in
    have hlines : ∀ i ∈ m :: members, ReadsLine (readMember (readValue rules depth)) (level + 1)
        (memberText (level + 1) i, i) := by
      intro i hi
      exact (h i hi).readsLine_member (level + 1)
    have hcontents := readContents_lines '\x7d' (by decide) (by decide) level rest _
      (members.map fun i => (memberText (level + 1) i, i)) (hlines m List.mem_cons_self)
      (List.forall_mem_map.mpr fun i hi => hlines i (List.mem_cons_of_mem _ hi))
      ⟨'"', _, rfl, by decide, by decide⟩
    have htext : write level (.obj (m :: members)) ++ rest =
        '\x7b' :: (lineBreak (level + 1) ++ (memberText (level + 1) m ++
          (linesText (level + 1) (members.map fun i => (memberText (level + 1) i, i)) ++
            (lineBreak level ++ '\x7d' :: rest)))) := by
      simp [write, writeMembers_eq, memberText]
    rw [htext, readValue_brace, hcontents]
    simp [Function.comp_def, ofMembers_of_nodup hnodup]

/-- What the writer has a text for reads back. -/
theorem Writable.readsBack {j : Json} (h : Writable rules depth j) : ReadsBack rules depth j := by
  induction h with
  | @null depth =>
    intro level rest _
    cases depth <;> rfl
  | @bool depth b =>
    intro level rest _
    cases depth <;> cases b <;> rfl
  | int hkeeps => exact readsBack_int hkeeps
  | float hfin => exact readsBack_float hfin
  | str s => exact readsBack_str s
  | arr h ih => exact readsBack_arr h ih
  | obj hnodup h ih => exact readsBack_obj hnodup ih

/-- A text holds the value that it was written from. -/
theorem parse?_toText {j : Json} (h : Writable rules rules.maxDepth j) :
    parse? rules j.toText = some j := by
  have hread := h.readsBack 0 [] (by rintro _ ⟨⟩)
  rw [List.append_nil] at hread
  unfold parse? toText
  rw [String.toList_ofList, hread]
  rfl

/-! ## Numbers without a text -/

/-- All that is not finite is written as null. -/
theorem write_of_not_finite {x : Float} (h : x.isFinite = false) :
    numberLayout.write x = ['n', 'u', 'l', 'l'] := by
  unfold Layout.write
  rw [Double.ofFloat_eq_exact]
  rw [Double.isFinite_eq] at h
  generalize Double.form x = u at h
  cases u with
  | notANumber => rfl
  | infinity s => cases s <;> rfl
  | zero s => cases h
  | finite s m e hpos => cases h

mutual

/-- What the text of a value says: null in the place of each number that is not finite. -/
def asWritten : Json → Json
  | .float x => if x.isFinite then .float x else .null
  | .arr items => .arr (itemsAsWritten items)
  | .obj members => .obj (membersAsWritten members)
  | j => j

/-- What the texts of items say. -/
def itemsAsWritten : List Json → List Json
  | [] => []
  | j :: items => asWritten j :: itemsAsWritten items

/-- What the texts of members say. -/
def membersAsWritten : List (String × Json) → List (String × Json)
  | [] => []
  | (name, j) :: members => (name, asWritten j) :: membersAsWritten members

end

theorem membersAsWritten_eq_map (members : List (String × Json)) :
    membersAsWritten members = members.map fun m => (m.1, m.2.asWritten) := by
  induction members with
  | nil => rfl
  | cons m members ih => rw [membersAsWritten, ih, List.map_cons]

@[simp] theorem asWritten_obj (members : List (String × Json)) :
    asWritten (.obj members) = .obj (members.map fun m => (m.1, m.2.asWritten)) := by
  rw [asWritten, membersAsWritten_eq_map]

mutual

/-- A value and what its text says have the same text. -/
theorem write_asWritten (level : Nat) : ∀ j : Json, write level j.asWritten = write level j
  | .null | .bool _ | .int _ | .str _ => rfl
  | .float x => by
    rw [asWritten]
    split
    · rfl
    · rename_i h
      exact (write_of_not_finite (by simpa using h)).symm
  | .arr [] => rfl
  | .arr (j :: items) => by
    simp only [asWritten, itemsAsWritten, write, write_asWritten (level + 1) j,
      writeItems_asWritten (level + 1) items]
  | .obj [] => rfl
  | .obj ((name, j) :: members) => by
    simp only [asWritten, membersAsWritten, write, write_asWritten (level + 1) j,
      writeMembers_asWritten (level + 1) members]

theorem writeItems_asWritten (level : Nat) :
    ∀ items : List Json, writeItems level (itemsAsWritten items) = writeItems level items
  | [] => rfl
  | j :: items => by
    simp only [itemsAsWritten, writeItems, write_asWritten level j,
      writeItems_asWritten level items]

theorem writeMembers_asWritten (level : Nat) : ∀ members : List (String × Json),
    writeMembers level (membersAsWritten members) = writeMembers level members
  | [] => rfl
  | (name, j) :: members => by
    simp only [membersAsWritten, writeMembers, write_asWritten level j,
      writeMembers_asWritten level members]

end

theorem writable_asWritten_float {rules : Rules} {depth : Nat} (x : Float) :
    Writable rules depth (asWritten (.float x)) := by
  rw [asWritten]
  split
  · rename_i h
    exact .float h
  · exact .null

/-- A text holds what it says. -/
theorem parse?_toText_asWritten {rules : Rules} {j : Json}
    (h : Writable rules rules.maxDepth j.asWritten) : parse? rules j.toText = some j.asWritten := by
  rw [← parse?_toText h, toText, toText, write_asWritten]

end RoadSpeed.Json
