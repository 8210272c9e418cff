import RobotTelemetry.Json.Basic
/-!
# Reading JSON

The reader accepts the JSON grammar and, beside its numbers, the three that stand for infinity and
not-a-number. Strings hold no raw control characters, and surrogate escapes come in pairs. It can be
held to a depth of nesting and to a length of integers.
-/

namespace RobotTelemetry.Json

/-- What a reader step yields: a result and the rest of the text. -/
abbrev Step (β : Type) :=
  Option (β × List Char)

/-- The bounds of a reader. -/
structure Limits where
  /-- The greatest number of containers with content inside each other. -/
  depth : Nat
  /-- The greatest number of digits of an integer part. -/
  digits : Nat
deriving DecidableEq

/-- Whether a character may stand between tokens. -/
def isSpace (c : Char) : Bool :=
  c = ' ' || c = '\n' || c = '\r' || c = '\t'

/-- Skips what may stand between tokens. -/
def skipSpace (cs : List Char) : List Char :=
  cs.dropWhile isSpace

/-! ### Strings -/

/-- The value of a hexadecimal digit. -/
def hexValue? (c : Char) : Option Nat :=
  if '0' ≤ c ∧ c ≤ '9' then some (c.toNat - 48)
  else if 'a' ≤ c ∧ c ≤ 'f' then some (c.toNat - 87)
  else if 'A' ≤ c ∧ c ≤ 'F' then some (c.toNat - 55)
  else none

/-- The value of four hexadecimal digits. -/
def hexUnit? (a b c d : Char) : Option Nat := do
  let a ← hexValue? a
  let b ← hexValue? b
  let c ← hexValue? c
  let d ← hexValue? d
  some (((a * 16 + b) * 16 + c) * 16 + d)

/-- The character that stands behind a backslash for another one. -/
def unescape? : Char → Option Char
  | '"' => some '"'
  | '\\' => some '\\'
  | '/' => some '/'
  | 'b' => some '\x08'
  | 'f' => some '\x0c'
  | 'n' => some '\n'
  | 'r' => some '\r'
  | 't' => some '\t'
  | _ => none

/-- Puts a number before the numbers that a step yields. -/
def consUnit (n : Nat) : Step (List Nat) → Step (List Nat)
  | none => none
  | some (ns, rest) => some (n :: ns, rest)

/-- The body of a string up to its closing quote, as numbers of characters and of UTF-16 units. -/
def readUnits : List Char → Step (List Nat)
  | [] => none
  | '"' :: rest => some ([], rest)
  | '\\' :: 'u' :: a :: b :: c :: d :: rest =>
      match hexUnit? a b c d with
      | none => none
      | some n => consUnit n (readUnits rest)
  | '\\' :: c :: rest =>
      match unescape? c with
      | none => none
      | some e => consUnit e.toNat (readUnits rest)
  | c :: rest => if c.toNat < 0x20 then none else consUnit c.toNat (readUnits rest)

/-- Joins pairs of surrogates; none may stand alone. -/
def joinUnits : List Nat → Option (List Char)
  | [] => some []
  | n :: ns =>
      if 0xd800 ≤ n ∧ n < 0xdc00 then
        match ns with
        | [] => none
        | n' :: ns =>
            if 0xdc00 ≤ n' ∧ n' < 0xe000 then
              (joinUnits ns).map (Char.ofNat (0x10000 + (n - 0xd800) * 0x400 + (n' - 0xdc00)) :: ·)
            else none
      else if 0xdc00 ≤ n ∧ n < 0xe000 then none
      else (joinUnits ns).map (Char.ofNat n :: ·)

/-- A string behind its opening quote. -/
def readString (cs : List Char) : Step String :=
  match readUnits cs with
  | none => none
  | some (ns, rest) => (joinUnits ns).map fun s => (String.ofList s, rest)

/-! ### Numbers -/

/-- At least one digit. -/
def readDigits (cs : List Char) : Step (List Char) :=
  match cs.takeWhile Char.isDigit with
  | [] => none
  | ds => some (ds, cs.dropWhile Char.isDigit)

/-- The integer part of a number: zero, or digits that do not start with one. -/
def readWhole : List Char → Step (List Char)
  | '0' :: rest => some (['0'], rest)
  | cs => readDigits cs

/-- The fraction of a number, if there is one. -/
def readFraction : List Char → Step (List Char)
  | '.' :: rest => (readDigits rest).map fun (ds, rest) => ('.' :: ds, rest)
  | cs => some ([], cs)

/-- A sign, if there is one. -/
def readSign : List Char → List Char × List Char
  | '+' :: rest => (['+'], rest)
  | '-' :: rest => (['-'], rest)
  | cs => ([], cs)

/-- The exponent of a number, if there is one. -/
def readExponent : List Char → Step (List Char)
  | c :: rest =>
      if c = 'e' ∨ c = 'E' then
        let (sign, rest) := readSign rest
        (readDigits rest).map fun (ds, rest) => (c :: sign ++ ds, rest)
      else some ([], c :: rest)
  | [] => some ([], [])

/-- A number without its sign. -/
def readUnsigned (limits : Limits) (cs : List Char) : Option (List Char × List Char) := do
  let (whole, rest) ← readWhole cs
  if limits.digits < whole.length then none
  else
    let (fraction, rest) ← readFraction rest
    let (exponent, rest) ← readExponent rest
    some (whole ++ fraction ++ exponent, rest)

/-- A number. -/
def readNumber (limits : Limits) : List Char → Step (List Char)
  | '-' :: rest => (readUnsigned limits rest).map fun (cs, rest) => ('-' :: cs, rest)
  | cs => readUnsigned limits cs

/-! ### Values -/

/-- The words that are values. -/
def words : List (String × Json) :=
  [("null", .null), ("true", .bool true), ("false", .bool false), ("NaN", .number "NaN"),
    ("Infinity", .number "Infinity"), ("-Infinity", .number "-Infinity")]

/-- A word that is a value. -/
def readWord (cs : List Char) : Step Json :=
  words.findSome? fun (word, v) =>
    if word.toList.isPrefixOf cs then some (v, cs.drop word.length) else none

/-- Items between commas up to a closing bracket, at most `fuel` of them. -/
def readItems {β : Type} (item : List Char → Step β) (close : Char) :
    Nat → List Char → Step (List β)
  | 0, _ => none
  | fuel + 1, cs =>
      match item (skipSpace cs) with
      | none => none
      | some (x, rest) =>
          match skipSpace rest with
          | [] => none
          | c :: rest =>
              if c = close then some ([x], rest)
              else if c = ',' then
                (readItems item close fuel rest).map fun (xs, rest) => (x :: xs, rest)
              else none

/-- A member of an object. -/
def readMember (value : List Char → Step Json) : List Char → Step (String × Json)
  | '"' :: rest =>
      match readString rest with
      | none => none
      | some (name, rest) =>
          match skipSpace rest with
          | ':' :: rest => (value (skipSpace rest)).map fun (v, rest) => ((name, v), rest)
          | _ => none
  | _ => none

/-- A value whose content, if it is a container, is read by `inner`. -/
def readWith (limits : Limits) (fuel : Nat) (inner : List Char → Step Json) :
    List Char → Step Json
  | '"' :: rest => (readString rest).map fun (s, rest) => (.string s, rest)
  | '[' :: rest =>
      match skipSpace rest with
      | ']' :: rest => some (.array [], rest)
      | rest => (readItems inner ']' fuel rest).map fun (items, rest) => (.array items, rest)
  | '{' :: rest =>
      match skipSpace rest with
      | '}' :: rest => some (.object [], rest)
      | rest =>
          (readItems (readMember inner) '}' fuel rest).map fun (members, rest) =>
            (ofMembers members, rest)
  | cs =>
      match readWord cs with
      | some result => some result
      | none => (readNumber limits cs).map fun (text, rest) => (.number (String.ofList text), rest)

/-- A value with at most so many containers with content inside each other. -/
def readValue (limits : Limits) (fuel : Nat) : Nat → List Char → Step Json
  | 0 => readWith limits fuel fun _ => none
  | depth + 1 => readWith limits fuel (readValue limits fuel depth)

/-- The value that a text stands for. -/
def read (limits : Limits) (text : String) : Option Json :=
  match readValue limits text.length limits.depth (skipSpace text.toList) with
  | some (v, rest) => if (skipSpace rest).isEmpty then some v else none
  | none => none

/-- The value that a text stands for, however deep and long. -/
def readAll (text : String) : Option Json :=
  read ⟨text.length, text.length⟩ text

end RobotTelemetry.Json
