import RoadSpeed.Decimal
import RoadSpeed.Json
import RoadSpeed.Number
import RoadSpeed.Vocabulary

/-!
# Checking documents

A check turns a part of a document into a value or says what is wrong with it. Profiles,
posted limits and trips are checked in this way (specification, §9). Checks of different parts
are all made, and their faults are listed in order. One cause ends a check at once: a whole
number that no double can come near.

Numbers and truth values are read generously: a number may be a truth value, a whole number, a
double or a text, and a truth value may be a number or one of a few words. Members that a
record does not know are passed over.

- `Fault`, `Rejection`: a place in the document and what is wrong there; the faults, or the
  number that ended the check.
- `Checked`: the outcome of a check; `Checked.both`, `Checked.all` join outcomes.
- `Checked.both_eq_ok_iff`: a joint check succeeds when each part does.
- `Schema.number`, `Schema.nonNegative`, `Schema.positive`, `Schema.boolean`: numbers and
  truth values.
- `Schema.named`, `Schema.word`: words of a vocabulary.
- `Schema.record`, `Schema.dictionary`: objects with known members and with free keys.
- `Schema.required`, `Schema.optional`, `Schema.nullable`: members.
-/

namespace RoadSpeed

/-! ## Outcomes of checks -/

/-- What is wrong at a place in a document. -/
inductive FaultKind where
  /-- A required member is absent. -/
  | missing
  /-- A word that the vocabulary does not have. -/
  | unknownWord
  /-- No object where one with known members is due. -/
  | notRecord
  /-- No object where one with free keys is due. -/
  | notDictionary
  /-- No number and nothing that reads as one. -/
  | notNumber
  /-- A text that does not read as a number. -/
  | unreadableNumber
  /-- A number that has to be above zero and is not. -/
  | notAboveZero
  /-- A number that has to be at or above zero and is not. -/
  | belowZero
  /-- Nothing that reads as true or false. -/
  | notBoolean
  /-- A word or number that stands for neither true nor false. -/
  | unreadableBoolean
  /-- A value that breaks a rule of its own. -/
  | invalid (message : String)
deriving DecidableEq, Repr

namespace FaultKind

/-- The code of a fault in reports. -/
def code : FaultKind → String
  | missing => "missing"
  | unknownWord => "enum"
  | notRecord => "model_type"
  | notDictionary => "dict_type"
  | notNumber => "float_type"
  | unreadableNumber => "float_parsing"
  | notAboveZero => "greater_than"
  | belowZero => "greater_than_equal"
  | notBoolean => "bool_type"
  | unreadableBoolean => "bool_parsing"
  | invalid _ => "value_error"

/-- The message of a fault that has one. -/
def message? : FaultKind → Option String
  | invalid message => some s!"Value error, {message}"
  | _ => none

end FaultKind

/-- A place in a document, given by the keys on the way to it, and what is wrong there. -/
structure Fault where
  place : List String
  kind : FaultKind
deriving DecidableEq, Repr

/-- Why a document is refused. -/
inductive Rejection where
  | faults (list : List Fault)
  /-- A whole number is too large for any double. -/
  | tooLarge
deriving DecidableEq, Repr

namespace Rejection

/-- Two reasons together: a number that is too large covers all else. -/
def and : Rejection → Rejection → Rejection
  | faults fs, faults gs => faults (fs ++ gs)
  | _, _ => tooLarge

/-- The reason as seen from outside the member called `key`. -/
def within (key : String) : Rejection → Rejection
  | faults fs => faults (fs.map fun f => { f with place := key :: f.place })
  | tooLarge => tooLarge

/-- The message for a number that is too large. -/
def tooLargeMessage : String := "int too large to convert to float"

end Rejection

/-- The outcome of a check. -/
abbrev Checked (α : Type) := Except Rejection α

namespace Checked

variable {α β : Type}

/-- One fault at the place that is checked. -/
def fault (kind : FaultKind) : Checked α := .error (.faults [⟨[], kind⟩])

/-- The outcome as seen from outside the member called `key`. -/
def within (key : String) (r : Checked α) : Checked α := r.mapError (Rejection.within key)

/-- Both outcomes: two reasons are put together in order. -/
def both (a : Checked α) (b : Checked β) : Checked (α × β) :=
  match a, b with
  | .ok x, .ok y => .ok (x, y)
  -- the second check is made even if the first one fails, and its faults come after
  | .error e, .ok _ => .error e
  | .ok _, .error e => .error e
  | .error e, .error f => .error (e.and f)

/-- All outcomes in order. -/
def all : List (Checked α) → Checked (List α)
  | [] => .ok []
  | r :: rs => (both r (all rs)).map fun p => p.1 :: p.2

/-- A joint check succeeds when both parts do. -/
theorem both_eq_ok_iff {a : Checked α} {b : Checked β} {p : α × β} :
    both a b = .ok p ↔ a = .ok p.1 ∧ b = .ok p.2 := by
  cases a <;> cases b <;> simp [both, Prod.ext_iff]

theorem within_eq_ok_iff {key : String} {r : Checked α} {x : α} :
    within key r = .ok x ↔ r = .ok x := by
  cases r with
  | error e =>
    show Except.error (e.within key) = Except.ok x ↔ _
    simp
  | ok y => exact Iff.rfl

end Checked

/-! ## Checks of single values -/

namespace Schema

variable {κ α : Type}

/-! ### Numbers -/

/-- A number, given as such, as a truth value or as text. -/
def number : Json → Checked Float
  | .bool b => .ok (if b then 1.0 else 0.0)
  | .int n =>
    match ofWhole? n with
    | some x => .ok x
    | none => .fault .notNumber
  | .float x => .ok x
  | .str s =>
    match Decimal.lenient? s with
    | some x => .ok x
    | none => .fault .unreadableNumber
  | _ => .fault .notNumber

/-- A number at or above zero. -/
def nonNegative (j : Json) : Checked { x : Float // 0 ≤ x } :=
  match number j with
  | .ok x => if h : 0 ≤ x then .ok ⟨x, h⟩ else .fault .belowZero
  | .error e => .error e

/-- A number above zero. -/
def positive (j : Json) : Checked { x : Float // 0 < x } :=
  match number j with
  | .ok x => if h : 0 < x then .ok ⟨x, h⟩ else .fault .notAboveZero
  | .error e => .error e

/-! ### Truth values -/

/-- The words for false, in lower case. -/
def falseWords : List String := ["0", "off", "f", "false", "n", "no"]

/-- The words for true, in lower case. -/
def trueWords : List String := ["1", "on", "t", "true", "y", "yes"]

/-- The truth value of a whole number: one or zero. -/
def wholeBoolean (n : Int) : Checked Bool :=
  if n = 0 then .ok false else if n = 1 then .ok true else .fault .unreadableBoolean

/-- The whole number that a double is, if it is one of 64 bits. -/
def wholeOf? (x : Float) : Option Int :=
  match toWhole x with
  -- a double with a fraction is not the number that it is rounded to
  | .ok n => if Float.ofInt n == x ∧ n.natAbs < 0x8000000000000000 then some n else none
  | .error _ => none

/-- A truth value, given as such, as a whole number or as a word in any case. -/
def boolean : Json → Checked Bool
  | .bool b => .ok b
  | .int n =>
    if -0x8000000000000000 ≤ n ∧ n < 0x8000000000000000 then wholeBoolean n
    else .fault .notBoolean
  | .float x =>
    match wholeOf? x with
    | some n => wholeBoolean n
    | none => .fault .notBoolean
  | .str s =>
    let word := s.toLower
    if word ∈ falseWords then .ok false
    else if word ∈ trueWords then .ok true
    else .fault .unreadableBoolean
  | _ => .fault .notBoolean

/-! ### Words -/

/-- The value of a vocabulary with exactly this name. -/
def named [Vocabulary α] (name : String) : Checked α :=
  match Vocabulary.ofName? name with
  | some a => .ok a
  | none => .fault .unknownWord

/-- A value of a vocabulary, given by its name. -/
def word [Vocabulary α] : Json → Checked α
  | .str s => named s
  | _ => .fault .unknownWord

/-! ### Objects -/

/-- The members of an object with known members. -/
def record : Json → Checked (List (String × Json))
  | .obj members => .ok members
  | _ => .fault .notRecord

/-- A member that has to be there. -/
def required (name : String) (check : Json → Checked α) (members : List (String × Json)) :
    Checked α :=
  match members.lookup name with
  | some j => (check j).within name
  | none => (Checked.fault .missing).within name

/-- A member that may be absent. -/
def optional (name : String) (absent : α) (check : Json → Checked α)
    (members : List (String × Json)) : Checked α :=
  match members.lookup name with
  | some j => (check j).within name
  | none => .ok absent

/-- A value that may be null. -/
def nullable (check : Json → Checked α) : Json → Checked (Option α)
  | .null => .ok none
  | j => (check j).map some

/-- An object with free keys. A fault of the key itself lies at the place
`[key]` inside the entry. -/
def dictionary (key : String → Checked κ) (value : Json → Checked α) :
    Json → Checked (List (κ × α))
  | .obj members =>
    Checked.all <| members.map fun m =>
      (((key m.1).within "[key]").both (value m.2)).within m.1
  | _ => .fault .notDictionary

end Schema

end RoadSpeed
