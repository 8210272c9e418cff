/-!
# Doubles as exact numbers

A double is a sign, an integer `m` and a power of two, `± m · 2 ^ q`, or it is infinite or not a
number. `Binary64.ofBits` reads these off the sixty-four bits, and `Binary64.nearest` goes the other
way: the bits of the double nearest to a quotient of naturals, a half going to the even neighbour.
-/

namespace RobotTelemetry

/-- The value of a double. -/
inductive Binary64 where
  | notANumber
  | infinite (negative : Bool)
  | finite (negative : Bool) (mantissa : Nat) (exponent : Int)
deriving DecidableEq

/-- The natural nearest to `num / den`, a half going to the even neighbour. -/
def divRoundEven (num den : Nat) : Nat :=
  let quotient := num / den
  let twice := 2 * (num % den)
  if twice < den then quotient
  else if den < twice then quotient + 1
  else if quotient % 2 = 0 then quotient else quotient + 1

namespace Binary64

/-- The least exponent of a double: `2 ^ leastExponent` is the smallest positive one. -/
def leastExponent : Int := -1074

/-- Two to the fifty-second. Above the least exponent mantissas lie between it and its double. -/
def leastNormal : Nat := 0x10000000000000

/-- The value that sixty-four bits stand for. -/
def ofBits (bits : UInt64) : Binary64 :=
  let n := bits.toNat
  let negative := decide (0x8000000000000000 ≤ n)
  let field : Nat := n / leastNormal % 0x800
  let fraction : Nat := n % leastNormal
  if field = 2047 then
    if fraction = 0 then .infinite negative else .notANumber
  else if field = 0 then .finite negative fraction leastExponent
  else .finite negative (leastNormal + fraction) ((field : Int) - 1075)

/-- The value of a double. -/
def ofFloat (x : Float) : Binary64 :=
  ofBits x.toBits

/-- The integer nearest to `m · 2 ^ q`, a half going to the even neighbour. -/
def roundNat (m : Nat) (q : Int) : Nat :=
  if 0 ≤ q then m * Nat.pow 2 q.toNat else divRoundEven m (Nat.pow 2 (-q).toNat)

/-- The exponent at which `num / den` is read: its integer part then has fifty-three bits, or fewer
at the least exponent. -/
def exponentOf (num den : Nat) : Int :=
  let guess : Int := (Nat.log2 num : Int) - (Nat.log2 den : Int) - 53
  let whole :=
    if 0 ≤ guess then num / (den * Nat.pow 2 guess.toNat) else num * Nat.pow 2 (-guess).toNat / den
  max leastExponent (if whole < 2 * leastNormal then guess else guess + 1)

/-- The bits of the nonnegative double nearest to `num / den`; past the largest double, infinity. -/
def nearest (num den : Nat) : UInt64 :=
  let q := exponentOf num den
  let m :=
    if 0 ≤ q then divRoundEven num (den * Nat.pow 2 q.toNat)
    else divRoundEven (num * Nat.pow 2 (-q).toNat) den
  let (m, q) := if m = 2 * leastNormal then (leastNormal, q + 1) else (m, q)
  if 971 < q then 0x7FF0000000000000
  else if m < leastNormal then UInt64.ofNat m
  else UInt64.ofNat ((q + 1075).toNat * leastNormal + (m - leastNormal))

end Binary64

end RobotTelemetry
