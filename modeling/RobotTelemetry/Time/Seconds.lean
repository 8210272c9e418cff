import RobotTelemetry.Time.Basic
import RobotTelemetry.Decimal.Binary64
/-!
# Durations from seconds

A number of seconds becomes a duration through the double product with a thousand million, rounded
to the nearest whole nanosecond, a half going to the even neighbour. The parts of the duration carry
the sign of the whole.
-/

namespace RobotTelemetry

/-- Why a number of seconds is no duration. -/
inductive SecondsError where
  | notANumber
  | infinite
  | outOfRange (seconds : Int)
deriving DecidableEq

/-- What is said about a number of seconds that is no duration. -/
def SecondsError.message : SecondsError → String
  | .notANumber => "cannot convert float NaN to integer"
  | .infinite => "cannot convert float infinity to integer"
  | .outOfRange seconds => s!"Value out of range: {seconds}"

namespace Duration

/-- The whole seconds that a duration can hold, those of a signed sixty-four bit word. -/
def Representable (seconds : Int) : Prop :=
  -0x8000000000000000 ≤ seconds ∧ seconds < 0x8000000000000000

instance (seconds : Int) : Decidable (Representable seconds) :=
  inferInstanceAs (Decidable (_ ∧ _))

/-- Whole seconds, rounded toward zero, and the nanoseconds that are left, of the same sign. -/
def ofNanoseconds (total : Int) : Except SecondsError Duration :=
  let seconds := total.tdiv nanosPerSecond
  if Representable seconds then .ok ⟨seconds, total.tmod nanosPerSecond⟩
  else .error (.outOfRange seconds)

/-- The whole nanoseconds nearest to a double, if it is finite. -/
def nearestNanoseconds : Binary64 → Except SecondsError Int
  | .notANumber => .error .notANumber
  | .infinite _ => .error .infinite
  | .finite negative m q =>
      let n : Int := Binary64.roundNat m q
      .ok (if negative then -n else n)

/-- The duration of a number of nanoseconds given as a double. -/
def ofProduct (product : Binary64) : Except SecondsError Duration :=
  nearestNanoseconds product >>= ofNanoseconds

/-- The duration nearest to a number of seconds. -/
def ofSeconds (seconds : Float) : Except SecondsError Duration :=
  ofProduct (Binary64.ofFloat (seconds * 1000000000.0))

end Duration

end RobotTelemetry
