import RobotTelemetry.State.OfSnapshot
/-!
# Settings given as texts

A caller names the anchor of the odometry by a text. `Settings.options` checks the name; only then
is a snapshot looked at.
-/

namespace RobotTelemetry

/-- How a snapshot is to be read, with the anchor still unchecked. -/
structure Settings extends Naming where
  anchorFrame : String := Anchor.standard.frame
deriving DecidableEq

/-- Why a request for a robot state fails. -/
inductive ReadError where
  /-- The named frame is no anchor. -/
  | notAnAnchor (frame : String)
  | noState (error : StateError)
deriving DecidableEq

/-- What is said about a request that fails. -/
def ReadError.message : ReadError → String
  | notAnAnchor frame => Text.quoted frame ++ " is not a valid OdometryFrame"
  | noState error => error.message

/-- The anchor with a given name. -/
def Anchor.named (frame : String) : Except ReadError Anchor :=
  match Anchor.ofFrame? frame with
  | none => .error (.notAnAnchor frame)
  | some anchor => .ok anchor

namespace Settings

/-- The checked options. -/
def options (s : Settings) : Except ReadError Options :=
  (Anchor.named s.anchorFrame).map fun anchor => { s.toNaming with anchor }

/-- The settings that stand for given options. -/
def ofOptions (options : Options) : Settings :=
  { options.toNaming with anchorFrame := options.anchor.frame }

variable {α : Type} [Add α] [Sub α] [Mul α] [Neg α] [Div α] [IntCast α] [LT α] [DecidableLT α]
  [OfScientific α] [SquareRoot α]

/-- The robot state of a snapshot under given settings. -/
def read (s : Settings) (snapshot : Snapshot α) (skew : Duration) :
    Logged ReadError (RobotState α) := do
  let options ← .ofExcept s.options
  (snapshot.toState skew options).mapError .noState

end Settings

end RobotTelemetry
