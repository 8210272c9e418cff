/-!
# Instants, durations and clock correction

A robot stamps its readings with its own clock. `Timestamp.corrected` moves such an instant onto the
local clock: the skew is added in whole nanoseconds, the sum is clamped to the instants that a
timestamp can hold, and only then split into seconds and nanoseconds.
-/

namespace RobotTelemetry

/-- Nanoseconds in a second. -/
abbrev nanosPerSecond : Int := 1000000000

/-- An instant on the robot's clock. The nanoseconds need not lie between zero and a second. -/
structure Timestamp where
  seconds : Int := 0
  nanos : Int := 0
deriving DecidableEq

/-- A signed length of time. The nanoseconds need not lie between zero and a second. -/
structure Duration where
  seconds : Int := 0
  nanos : Int := 0
deriving DecidableEq

/-- An instant on the local clock. -/
structure Stamp where
  sec : Int := 0
  nanosec : Int := 0
deriving DecidableEq

/-- A length of time as it is published. -/
structure Elapsed where
  sec : Int := 0
  nanosec : Int := 0
deriving DecidableEq

/-- The nanoseconds from the epoch to an instant. -/
def Timestamp.total (t : Timestamp) : Int :=
  t.seconds * nanosPerSecond + t.nanos

/-- A duration in nanoseconds. -/
def Duration.total (d : Duration) : Int :=
  d.seconds * nanosPerSecond + d.nanos

/-- A duration is published as it stands: its two parts are copied. -/
def Elapsed.ofDuration (d : Duration) : Elapsed :=
  ⟨d.seconds, d.nanos⟩

namespace Stamp

/-- Whole seconds, rounded down, and the nanoseconds that are left. -/
def ofNanoseconds (total : Int) : Stamp :=
  ⟨total.fdiv nanosPerSecond, total.fmod nanosPerSecond⟩

/-- The nanoseconds from the epoch to an instant. -/
def toNanoseconds (s : Stamp) : Int :=
  s.sec * nanosPerSecond + s.nanosec

@[simp]
theorem toNanoseconds_ofNanoseconds (total : Int) :
    (ofNanoseconds total).toNanoseconds = total := by
  rw [ofNanoseconds, toNanoseconds, Int.mul_comm]
  exact Int.mul_fdiv_add_fmod total nanosPerSecond

/-- The last instant a timestamp can hold, 9999-12-31T23:59:59.999999999Z, in nanoseconds. -/
def lastInstant : Int := 253402300799 * nanosPerSecond + (nanosPerSecond - 1)

/-- The nearest total between the epoch and the last instant. -/
def clamp (total : Int) : Int :=
  min (max total 0) lastInstant

end Stamp

/-- The instant on the local clock, saturated to the epoch and to the last instant. -/
def Timestamp.corrected (t : Timestamp) (skew : Duration) : Stamp :=
  Stamp.ofNanoseconds (Stamp.clamp (t.total + skew.total))

end RobotTelemetry
