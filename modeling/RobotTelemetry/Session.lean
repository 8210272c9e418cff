import RobotTelemetry.Settings
import RobotTelemetry.Snapshot.Part
/-!
# Sessions

A session holds one snapshot that is edited step by step, the clock skew, and the settings under
which robot states are read from it. A step that fails changes nothing, and the session goes on.
-/

namespace RobotTelemetry

/-- A snapshot under edit and how it is read. -/
structure Session (α : Type) where
  settings : Settings
  snapshot : Snapshot α := {}
  skew : Duration := {}

/-- A setting with its new value. The name of an anchor is not checked before the next reading. -/
inductive Setting where
  | framePrefix (value : String)
  | inverseTarget (value : String)
  | anchorFrame (value : String)
deriving DecidableEq

/-- What can be done in a session. -/
inductive Action (α : Type) where
  | put (parts : List (Part α))
  | setEdge (frame : String) (edge : Edge α)
  | eraseEdge (frame : String)
  | addJoint (joint : JointReport α)
  | setSkew (skew : Duration)
  | change (setting : Setting)
  | read

/-- What a step answers. -/
inductive Reply (α : Type) where
  | done
  | count (n : Nat)
  | state (state : RobotState α)

/-- Changes a setting. -/
def Settings.change (s : Settings) : Setting → Settings
  | .framePrefix value => { s with framePrefix := value }
  | .inverseTarget value => { s with inverseTarget := value }
  | .anchorFrame value => { s with anchorFrame := value }

namespace Session

variable {α : Type}

/-- A session with a missing snapshot, for settings whose anchor exists. -/
def start (settings : Settings) : Except ReadError (Session α) :=
  settings.options.map fun _ => ⟨settings, {}, {}⟩

variable [Add α] [Sub α] [Mul α] [Neg α] [Div α] [IntCast α] [LT α] [DecidableLT α]
  [OfScientific α] [SquareRoot α]

/-- The session after an action. -/
def next (s : Session α) : Action α → Session α
  | .put parts => { s with snapshot := parts.foldl Snapshot.put s.snapshot }
  | .setEdge frame edge => { s with snapshot := s.snapshot.setEdge frame edge }
  | .eraseEdge frame => { s with snapshot := s.snapshot.eraseEdge frame }
  | .addJoint joint => { s with snapshot := s.snapshot.addJoint joint }
  | .setSkew skew => { s with skew }
  | .change setting => { s with settings := s.settings.change setting }
  | .read => s

/-- What an action answers. -/
def reply (s : Session α) : Action α → Except ReadError (Reply α)
  | .put _ | .setSkew _ | .change _ => .ok .done
  | .setEdge frame edge => .ok (.count (s.snapshot.setEdge frame edge).edgeCount)
  | .eraseEdge frame => .ok (.count (s.snapshot.eraseEdge frame).edgeCount)
  | .addJoint joint => .ok (.count (s.snapshot.addJoint joint).jointCount)
  | .read => (s.settings.read s.snapshot s.skew).outcome.map .state

/-- The answers of all actions in order. -/
def run (s : Session α) : List (Action α) → List (Except ReadError (Reply α))
  | [] => []
  | action :: actions => s.reply action :: (s.next action).run actions

end Session

end RobotTelemetry
