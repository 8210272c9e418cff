import RobotTelemetry.Decimal.Shortest
import RobotTelemetry.Text.Character
/-!
# Reading numerals

A numeral may stand between blanks, use the digits of any script, and set off groups of digits by
single underscores. An integer has a sign and digits; a decimal may also have a point, an exponent,
or be one of the words for infinity and not-a-number. A decimal is read as the double nearest to it.
-/

namespace RobotTelemetry.Decimal

/-- A number as it is written. -/
inductive Numeral where
  | notANumber
  | infinite (negative : Bool)
  | finite (negative : Bool) (digits : Nat) (exponent : Int)
deriving DecidableEq

namespace Numeral

/-- Numbers from ten to this power on have no finite double near them, and those below ten to minus
this power are nearest to zero. -/
def reach : Int := 400

/-- The bits of the nonnegative double nearest to `digits · 10 ^ exponent`. -/
def magnitudeBits (digits : Nat) (exponent : Int) : UInt64 :=
  let lead := exponent + digitCount digits
  if digits = 0 ∨ lead < -reach then 0
  else if reach < lead then Binary64.nearest (Nat.pow 10 reach.toNat) 1
  else Binary64.nearest (scaledNum digits exponent) (scaledDen 1 exponent)

/-- The double nearest to a numeral. -/
def toFloat : Numeral → Float
  | notANumber => 0.0 / 0.0
  | infinite negative => if negative then -1.0 / 0.0 else 1.0 / 0.0
  | finite negative digits exponent =>
      let magnitude := Float.ofBits (magnitudeBits digits exponent)
      if negative then -magnitude else magnitude

end Numeral

/-! ### Preparation -/

/-- Whether a blank may surround a numeral. -/
def surrounds (c : Char) : Bool :=
  c = ' ' || ('\t' ≤ c && c ≤ '\r')

/-- A blank of any width as a space and a digit of any script as the digit of its value. -/
def simplify (c : Char) : Char :=
  if c.toNat < 0x80 then c
  else if Text.isBlank c then ' '
  else match Text.digit? c with
    | some d => Nat.digitChar d
    | none => c

/-- A text without surrounding blanks. -/
def trim (cs : List Char) : List Char :=
  ((cs.dropWhile surrounds).reverse.dropWhile surrounds).reverse

/-- Drops the underscores of a text after a given character: each must stand between two digits. -/
def dropUnderscores (before : Char) : List Char → Option (List Char)
  | [] => if before = '_' then none else some []
  | c :: rest =>
      if c = '_' then if before.isDigit then dropUnderscores c rest else none
      else if before = '_' ∧ !c.isDigit then none
      else (dropUnderscores c rest).map (c :: ·)

/-- A text ready to be read as a numeral. -/
def prepare (s : String) : Option (List Char) :=
  dropUnderscores ' ' (trim (s.toList.map simplify))

/-- A sign, and whether it is a minus. -/
def readSign : List Char → Bool × List Char
  | '-' :: rest => (true, rest)
  | '+' :: rest => (false, rest)
  | cs => (false, cs)

/-- The value of a text of digits. -/
def digitsValue (cs : List Char) : Nat :=
  cs.foldl (fun n c => 10 * n + (c.toNat - '0'.toNat)) 0

/-! ### Integers -/

/-- The greatest number of digits of an integer. -/
def maxDigits : Nat := 4300

/-- The integer that a text stands for. -/
def readInt (s : String) : Option Int := do
  let (negative, digits) := readSign (← prepare s)
  if digits.isEmpty ∨ !digits.all Char.isDigit ∨ maxDigits < digits.length then none
  else
    let n : Int := digitsValue digits
    some (if negative then -n else n)

/-! ### Decimals -/

/-- The exponent at the end of a decimal. -/
def readExponent : List Char → Option Int
  | [] => some 0
  | c :: rest =>
      let (negative, digits) := readSign rest
      if (c = 'e' ∨ c = 'E') ∧ digits ≠ [] ∧ digits.all Char.isDigit then
        let n : Int := digitsValue digits
        some (if negative then -n else n)
      else none

/-- A decimal without its sign. -/
def readUnsigned (negative : Bool) (cs : List Char) : Option Numeral := do
  let whole := cs.takeWhile Char.isDigit
  let (fraction, rest) :=
    match cs.dropWhile Char.isDigit with
    | '.' :: rest => (rest.takeWhile Char.isDigit, rest.dropWhile Char.isDigit)
    | rest => ([], rest)
  if whole.isEmpty ∧ fraction.isEmpty then none
  else
    let exponent ← readExponent rest
    some (.finite negative (digitsValue (whole ++ fraction)) (exponent - fraction.length))

/-- The decimal that a text stands for. -/
def read (s : String) : Option Numeral := do
  let (negative, cs) := readSign (← prepare s)
  let word := String.ofList (cs.map Char.toLower)
  if word = "nan" then some .notANumber
  else if word = "inf" ∨ word = "infinity" then some (.infinite negative)
  else readUnsigned negative cs

end RobotTelemetry.Decimal
