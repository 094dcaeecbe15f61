import RoadSpeed.Decimal
import RoadSpeed.Table
import RoadSpeed.Text

/-!
# JSON values as text

Profiles are JSON documents (specification, §4.6). Whole numbers and doubles are told apart,
and the members of an object keep their order.

The reader is strict: blanks are space, tab, line feed and carriage return; numbers have no
zeros in front and a digit on both sides of a point; strings hold no raw control characters
and no unpaired surrogates; nothing follows the value.

The writer puts one member or item on a line, indented by two spaces for each level, with a
space after a colon, and an empty container on one line. Strings escape the quote, the
backslash and the control characters below the space, and nothing else. Doubles are written
shortest, positionally from 0.00001 up to below 10^16; what is no finite number is written as
`null`.

- `Json`, `Json.ofMembers`: the values, and an object from its members as written, where the
  last value of a repeated name counts and its first place is kept.
- `Rules`: how deep containers may nest and which whole numbers stay exact.
- `readChars`, `readNumber`, `readValue`: the rest of a string, a number, and a value, by
  recursion on the depth that is left.
- `Json.parse?`, `Json.parseBytes?`: a whole text.
- `numberLayout`, `escapeChar`, `writeString`, `Json.write`: values as text.
-/

namespace RoadSpeed

/-! ## Values -/

/-- A JSON value. -/
inductive Json where
  | null
  | bool (value : Bool)
  /-- A number written without point and exponent. -/
  | int (value : Int)
  /-- Any other number, as the nearest double. -/
  | float (value : Float)
  | str (value : String)
  | arr (items : List Json)
  | obj (members : List (String × Json))
deriving Inhabited

namespace Json

/-- The object with these members: first place and last value of each name. -/
def ofMembers (members : List (String × Json)) : Json :=
  .obj (members.foldl (fun es e => Entries.put e.1 e.2 es) [])

/-! ## Reading -/

open Decimal

/-- What a reader allows. -/
structure Rules where
  /-- How many containers may lie inside each other. -/
  maxDepth : Nat
  /-- The least and the greatest whole number that stay exact; others become doubles. -/
  exactWholes : Option (Int × Int)

namespace Rules

/-- Documents nest at most 1024 deep, and whole numbers are those of 64 bits,
signed or unsigned. -/
def document : Rules := ⟨1024, some (-0x8000000000000000, 0xffffffffffffffff)⟩

/-- Whole numbers of any size. -/
def exact (maxDepth : Nat) : Rules := ⟨maxDepth, none⟩

/-- Whether a whole number stays exact. -/
def keeps (rules : Rules) (n : Int) : Bool :=
  match rules.exactWholes with
  | some (low, high) => low ≤ n && n ≤ high
  | none => true

end Rules

/-- Whether a character may stand between the parts of a value. -/
def isBlank (c : Char) : Bool := c = ' ' || c = '\t' || c = '\n' || c = '\r'

/-- The text without the blanks at its start. -/
def skipBlanks (cs : List Char) : List Char := cs.dropWhile isBlank

/-! ### Strings -/

/-- The character that a one-letter escape stands for. -/
def shortEscape? : Char → Option Char
  | '"' => some '"'
  | '\\' => some '\\'
  | '/' => some '/'
  | 'b' => some '\x08'
  | 'f' => some '\x0c'
  | 'n' => some '\n'
  | 'r' => some '\r'
  | 't' => some '\t'
  | _ => none

/-- The code unit of four hexadecimal digits. -/
def codeUnit? (a b c d : Char) : Option Nat := do
  let a ← Text.Hex.value? a
  let b ← Text.Hex.value? b
  let c ← Text.Hex.value? c
  let d ← Text.Hex.value? d
  some (((a * 16 + b) * 16 + c) * 16 + d)

/-- Whether a code unit is the first of a pair. -/
def isHighSurrogate (n : Nat) : Bool := 0xd800 ≤ n && n < 0xdc00

/-- Whether a code unit is the second of a pair. -/
def isLowSurrogate (n : Nat) : Bool := 0xdc00 ≤ n && n < 0xe000

/-- The character of a pair of code units. -/
def pairChar (high low : Nat) : Char :=
  Char.ofNat (0x10000 + (high - 0xd800) * 0x400 + (low - 0xdc00))

/-- The characters of a string after its opening quote, and what follows the
closing one. -/
def readChars : List Char → Option (List Char × List Char)
  | [] => none
  | '"' :: rest => some ([], rest)
  | '\\' :: 'u' :: a :: b :: c :: d :: rest =>
    match codeUnit? a b c d with
    | none => none
    | some unit =>
      -- the first half of a pair counts only with the second half right behind it
      if isHighSurrogate unit then
        match rest with
        | '\\' :: 'u' :: a' :: b' :: c' :: d' :: rest' =>
          match codeUnit? a' b' c' d' with
          | none => none
          | some low =>
            if isLowSurrogate low then
              (readChars rest').map fun (cs, r) => (pairChar unit low :: cs, r)
            else none
        | _ => none
      else if isLowSurrogate unit then none
      else (readChars rest).map fun (cs, r) => (Char.ofNat unit :: cs, r)
  | '\\' :: e :: rest =>
    match shortEscape? e with
    | none => none
    | some c => (readChars rest).map fun (cs, r) => (c :: cs, r)
  | c :: rest =>
    if c.toNat < 0x20 ∨ c = '\\' then none
    else (readChars rest).map fun (cs, r) => (c :: cs, r)

/-! ### Numbers -/

/-- A minus at the start of a text, and what follows it; a plus is no sign here. -/
def takeMinus : List Char → Bool × List Char
  | '-' :: cs => (true, cs)
  | cs => (false, cs)

/-- The digits after a point, if there is one; a point without digits is refused. -/
def takeFraction : List Char → Option (Option (List Char) × List Char)
  | '.' :: cs =>
    match takeDigits cs with
    | ([], _) => none
    | (ds, rest) => some (some ds, rest)
  | cs => some (none, cs)

/-- A number: exact when it is written as a whole number that the rules keep,
and otherwise the nearest double, which must be finite. -/
def readNumber (rules : Rules) (cs : List Char) : Option (Json × List Char) := do
  let (negative, cs) := takeMinus cs
  let (whole, cs) := takeDigits cs
  -- a zero in front stands alone
  guard (whole ≠ [] ∧ (whole.head? = some '0' → whole.length = 1))
  let (fraction, cs) ← takeFraction cs
  let (exponent, cs) ← takeExponent cs
  let n : Int := digitsValue whole
  let n := if negative then -n else n
  if fraction.isNone ∧ exponent.isNone ∧ rules.keeps n then
    some (.int n, cs)
  else
    let x := (Numeral.ofParts negative whole (fraction.getD []) (exponent.getD 0)).toFloat
    if x.isFinite then some (.float x, cs) else none

/-! ### Values of any kind -/

/-- Items with commas between them up to the closing character; the fuel bounds
their number. -/
def readItems {α : Type} (item : List Char → Option (α × List Char)) (close : Char) :
    (fuel : Nat) → List Char → Option (List α × List Char)
  | 0, _ => none
  | fuel + 1, cs => do
    let (x, cs) ← item cs
    match skipBlanks cs with
    | c :: rest =>
      if c = close then some ([x], rest)
      else if c = ',' then
        let (xs, rest) ← readItems item close fuel rest
        some (x :: xs, rest)
      else none
    | [] => none

/-- The contents of a container after its opening character. -/
def readContents {α : Type} (item : List Char → Option (α × List Char)) (close : Char)
    (cs : List Char) : Option (List α × List Char) :=
  match skipBlanks cs with
  -- each item takes a character at least, so that the length of the text is fuel enough
  | c :: rest => if c = close then some ([], rest) else readItems item close cs.length cs
  | [] => none

/-- A member of an object: a name, a colon and a value. -/
def readMember (value : List Char → Option (Json × List Char)) (cs : List Char) :
    Option ((String × Json) × List Char) :=
  match skipBlanks cs with
  | '"' :: rest => do
    let (name, rest) ← readChars rest
    match skipBlanks rest with
    | ':' :: rest =>
      let (v, rest) ← value rest
      some ((String.ofList name, v), rest)
    | _ => none
  | _ => none

/-- A word with a meaning of its own. -/
def readWord (word : List Char) (value : Json) (cs : List Char) : Option (Json × List Char) :=
  (word.isPrefixOf? cs).map fun rest => (value, rest)

/-- A value whose contents `inner` reads; without `inner`, containers are refused. -/
def readWith (rules : Rules) (inner : Option (List Char → Option (Json × List Char)))
    (cs : List Char) : Option (Json × List Char) :=
  let cs := skipBlanks cs
  match cs with
  | '"' :: rest => (readChars rest).map fun (s, rest) => (.str (String.ofList s), rest)
  | '[' :: rest => do
    let (items, rest) ← readContents (← inner) ']' rest
    some (.arr items, rest)
  | '{' :: rest => do
    let (members, rest) ← readContents (readMember (← inner)) '}' rest
    some (ofMembers members, rest)
  | 'n' :: _ => readWord ['n', 'u', 'l', 'l'] .null cs
  | 't' :: _ => readWord ['t', 'r', 'u', 'e'] (.bool true) cs
  | 'f' :: _ => readWord ['f', 'a', 'l', 's', 'e'] (.bool false) cs
  | _ => readNumber rules cs

/-- A value in which containers nest at most `depth` deep, and what follows it. -/
def readValue (rules : Rules) : (depth : Nat) → List Char → Option (Json × List Char)
  | 0 => readWith rules none
  | depth + 1 => readWith rules (some (readValue rules depth))

/-- The value that a text holds and nothing but it. -/
def parse? (rules : Rules) (text : String) : Option Json := do
  let (value, rest) ← readValue rules rules.maxDepth text.toList
  guard (skipBlanks rest = [])
  some value

/-- The value that a text holds in strict UTF-8. -/
def parseBytes? (rules : Rules) (bytes : ByteArray) : Option Json := do
  parse? rules (← String.fromUTF8? bytes)

/-! ## Writing -/

/-- Doubles are positional from 0.00001 up to below 10^16, exponents are not
padded, and `null` stands for all that is not finite. -/
def numberLayout : Decimal.Layout where
  lowest := -5
  highest := 15
  exponentDigits := 1
  infinity := "null"
  signedInfinity := false
  nan := "null"

/-- How a character is written inside a string. -/
def escapeChar (c : Char) : List Char :=
  if c = '"' ∨ c = '\\' then ['\\', c]
  else if c = '\x08' then ['\\', 'b']
  else if c = '\t' then ['\\', 't']
  else if c = '\n' then ['\\', 'n']
  else if c = '\x0c' then ['\\', 'f']
  else if c = '\r' then ['\\', 'r']
  else if c.toNat < 0x20 then '\\' :: 'u' :: Text.Hex.digits 4 c.toNat
  else [c]

/-- A string in its quotes. -/
def writeString (s : String) : List Char :=
  '"' :: s.toList.flatMap escapeChar ++ ['"']

/-- A whole number. -/
def writeInt (n : Int) : List Char :=
  Decimal.sign (n < 0) ++ Decimal.digitsOf n.natAbs

/-- A new line and its indentation. -/
def lineBreak (level : Nat) : List Char := '\n' :: List.replicate (2 * level) ' '

mutual

/-- A value whose lines are indented from `level` on. -/
def write (level : Nat) : Json → List Char
  | .null => ['n', 'u', 'l', 'l']
  | .bool true => ['t', 'r', 'u', 'e']
  | .bool false => ['f', 'a', 'l', 's', 'e']
  | .int n => writeInt n
  | .float x => numberLayout.write x
  | .str s => writeString s
  | .arr [] => ['[', ']']
  | .arr (item :: items) =>
    '[' :: lineBreak (level + 1) ++ write (level + 1) item ++ writeItems (level + 1) items ++
      lineBreak level ++ [']']
  | .obj [] => ['{', '}']
  | .obj ((name, value) :: members) =>
    '{' :: lineBreak (level + 1) ++ writeString name ++ ':' :: ' ' :: write (level + 1) value ++
      writeMembers (level + 1) members ++ lineBreak level ++ ['}']

/-- The items after the first one, each behind a comma. -/
def writeItems (level : Nat) : List Json → List Char
  | [] => []
  | item :: items => ',' :: lineBreak level ++ write level item ++ writeItems level items

/-- The members after the first one, each behind a comma. -/
def writeMembers (level : Nat) : List (String × Json) → List Char
  | [] => []
  | (name, value) :: members =>
    ',' :: lineBreak level ++ writeString name ++ ':' :: ' ' :: write level value ++
      writeMembers level members

end

/-- A value as a text. -/
def toText (value : Json) : String := String.ofList (write 0 value)

end Json

end RoadSpeed
