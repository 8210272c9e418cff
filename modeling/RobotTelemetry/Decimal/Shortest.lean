import RobotTelemetry.Decimal.Binary64
/-!
# The shortest decimal of a double

A positive double `m · 2 ^ q` is the nearest double to every number of an interval around it, ends
included when `m` is even. `Decimal.shortest` finds the decimal of that interval with the fewest
digits, and of those the nearest to the double; `Decimal.Style` says how the digits are written.
-/

namespace RobotTelemetry

/-- The number `digits · 10 ^ exponent`. -/
structure Decimal where
  digits : Nat
  exponent : Int
deriving DecidableEq

namespace Decimal

/-! ### Scaled comparison -/

/-- The numerator of `num / den · 10 ^ e` over `scaledDen den e`. -/
def scaledNum (num : Nat) (e : Int) : Nat :=
  if 0 ≤ e then num * Nat.pow 10 e.toNat else num

/-- The denominator of `num / den · 10 ^ e` over `scaledNum num e`. -/
def scaledDen (den : Nat) (e : Int) : Nat :=
  if 0 ≤ e then den else den * Nat.pow 10 (-e).toNat

/-- How many decimal digits a natural has. -/
def digitCount (n : Nat) : Nat :=
  (Nat.toDigits 10 n).length

/-- The exponent `e` with `10 ^ e ≤ num / den < 10 ^ (e + 1)`. -/
def leadingExponent (num den : Nat) : Int :=
  let guess : Int := (digitCount num : Int) - digitCount den
  if scaledDen den (-guess) ≤ scaledNum num (-guess) then guess else guess - 1

/-! ### The interval of a double -/

/-- The numbers that a positive double is nearest to, as quotients over one denominator. -/
structure Interval where
  low : Nat
  value : Nat
  high : Nat
  den : Nat
  closed : Bool

/-- The interval of `m · 2 ^ q`. Below a power of two the doubles lie twice as close. -/
def Interval.of (m : Nat) (q : Int) : Interval :=
  let scale := if 2 ≤ q then Nat.pow 2 (q - 2).toNat else 1
  let den := if 2 ≤ q then 1 else Nat.pow 2 (2 - q).toNat
  let gap := if m = Binary64.leastNormal ∧ Binary64.leastExponent < q then 1 else 2
  ⟨(4 * m - gap) * scale, 4 * m * scale, (4 * m + 2) * scale, den, m % 2 = 0⟩

/-- Whether `digits · 10 ^ e` lies in an interval. -/
def Interval.contains (i : Interval) (digits : Nat) (e : Int) : Bool :=
  let num := scaledNum digits e * i.den
  let den := scaledDen 1 e
  if i.closed then i.low * den ≤ num ∧ num ≤ i.high * den
  else i.low * den < num ∧ num < i.high * den

/-- The decimal of the interval on the grid `10 ^ e` next to the value: of two, the nearer, and at
the same distance the even one. -/
def Interval.onGrid (i : Interval) (e : Int) : Option Decimal :=
  let num := scaledNum i.value (-e)
  let den := scaledDen i.den (-e)
  let below := num / den
  let twice := 2 * (num % den)
  let candidates := (i.contains below e, i.contains (below + 1) e)
  match candidates with
  | (true, true) =>
      if twice < den ∨ (twice = den ∧ below % 2 = 0) then some ⟨below, e⟩ else some ⟨below + 1, e⟩
  | (true, false) => some ⟨below, e⟩
  | (false, true) => some ⟨below + 1, e⟩
  | (false, false) => none

/-- The decimal with the fewest digits, from `count` digits on, trying `tries` counts. -/
def shortestFrom (i : Interval) (lead : Int) : Nat → Nat → Decimal
  | 0, count =>
      let places := count - 1 - lead
      ⟨scaledNum i.value places / scaledDen i.den places, -places⟩
  | tries + 1, count =>
      match i.onGrid (lead + 1 - count) with
      | some d => d
      | none => shortestFrom i lead tries (count + 1)

/-- Drops trailing zeros, at most `limit` of them. -/
def strip : Nat → Decimal → Decimal
  | 0, d => d
  | limit + 1, d =>
      if d.digits ≠ 0 ∧ d.digits % 10 = 0 then strip limit ⟨d.digits / 10, d.exponent + 1⟩ else d

/-- The shortest decimal that reads back as the positive double `m · 2 ^ q`: seventeen digits always
suffice. -/
def shortest (m : Nat) (q : Int) : Decimal :=
  let i := Interval.of m q
  strip 17 (shortestFrom i (leadingExponent i.value i.den) 17 1)

/-! ### Writing -/

/-- How a decimal is written. -/
structure Style where
  /-- The least exponent of the leading digit that is written without an exponent. -/
  leastPositional : Int
  /-- The first exponent of the leading digit that is written with an exponent. -/
  firstScientific : Int
  /-- The least number of digits of an exponent. -/
  exponentWidth : Nat
  /-- What follows a whole number written without an exponent. -/
  wholeSuffix : String

/-- Digits with a point after the first `whole` of them. -/
def withPoint (digits : List Char) (whole : Nat) : String :=
  String.ofList (digits.take whole) ++ "." ++ String.ofList (digits.drop whole)

/-- An exponent with its sign. -/
def Style.exponentText (style : Style) (e : Int) : String :=
  let digits := Nat.toDigits 10 e.natAbs
  let padded := List.replicate (style.exponentWidth - digits.length) '0' ++ digits
  (if e < 0 then "e-" else "e+") ++ String.ofList padded

/-- The text of a positive decimal. -/
def Style.write (style : Style) (d : Decimal) : String :=
  let digits := Nat.toDigits 10 d.digits
  let lead := d.exponent + digits.length - 1
  if style.leastPositional ≤ lead ∧ lead < style.firstScientific then
    if 0 ≤ d.exponent then
      String.ofList (digits ++ List.replicate d.exponent.toNat '0') ++ style.wholeSuffix
    else if 0 ≤ lead then withPoint digits (lead + 1).toNat
    else "0." ++ String.ofList (List.replicate (-lead - 1).toNat '0' ++ digits)
  else
    (if digits.length = 1 then String.ofList digits else withPoint digits 1) ++
      style.exponentText lead

/-- Numbers are positional from a ten-thousandth up to sixteen digits before the point. -/
def Style.standard : Style :=
  ⟨-4, 16, 2, ".0"⟩

/-- The text of a double in the standard style, with names for the infinite ones and for what is no
number. -/
def text (infinity notANumber : String) : Binary64 → String
  | .notANumber => notANumber
  | .infinite negative => (if negative then "-" else "") ++ infinity
  | .finite negative m q =>
      (if negative then "-" else "") ++
        (if m = 0 then "0.0" else Style.standard.write (shortest m q))

end Decimal

end RobotTelemetry
