import RobotTelemetry.State.Facets
import RobotTelemetry.Frames.Odometry
/-!
# From snapshots to robot states

`Snapshot.toState` reads every facet of a snapshot against one clock skew. It fails as a whole if
the body cannot be placed in the chosen anchor, or else if a joint is unknown; what it reports comes
after both checks, so that a failure leaves no event behind.
-/

namespace RobotTelemetry

/-- Why a snapshot has no robot state. -/
inductive StateError where
  /-- The body cannot be placed in the frame of the anchor. -/
  | missingAnchor (frame : String) (fault : PathFault)
  /-- A joint id belongs to no joint. -/
  | unknownJoint (id : String)
deriving DecidableEq

/-- What is said about two frames without a path between them. -/
def noPathText (anchorFrame body : String) : String :=
  "Transform snapshot has no path between anchor frame '" ++ anchorFrame ++ "' and '" ++ body ++ "'"

/-- What is said about a snapshot without a robot state. -/
def StateError.message : StateError → String
  | missingAnchor frame _ => noPathText frame bodyFrame
  | unknownJoint id =>
      "Unknown joint id '" ++ id ++ "'; the friendly name table does not cover it"

/-- How a snapshot is read. -/
structure Options extends Naming where
  anchor : Anchor := .standard
deriving DecidableEq

variable {α : Type} [Add α] [Sub α] [Mul α] [Neg α] [IntCast α]

/-- The odometry of a snapshot as a step towards its robot state. -/
def Snapshot.odometryFor (s : Snapshot α) (skew : Duration) (options : Options) :
    Except StateError (Option (Odometry α)) :=
  (s.odometry skew options.framePrefix options.anchor none).mapError
    (.missingAnchor options.anchor.frame)

omit [Add α] [Sub α] [Mul α] [Neg α] in
/-- The joints of a snapshot as a step towards its robot state. -/
def Snapshot.jointStates (s : Snapshot α) (skew : Duration) (framePrefix : String) :
    Except StateError (Option (JointStates α)) :=
  match s.kinematics with
  | none => .ok none
  | some k => ((k.jointStates skew framePrefix).mapError .unknownJoint).map some

variable [Div α] [LT α] [DecidableLT α] [OfScientific α] [SquareRoot α]

/-- A robot state from the three facets that need checks or reports. -/
def Snapshot.assemble (s : Snapshot α) (skew : Duration) (options : Options)
    (odometry : Option (Odometry α)) (joints : Option (JointStates α))
    (transforms : Option (List (Transform α))) : RobotState α where
  batteries := batteryStates skew s.batteries
  wifi := wifiState skew s.comms
  feet := presentList s.feet
  estops := estopStates skew s.estops
  joints
  transforms
  bodyTwist := s.bodyTwist skew options.framePrefix options.anchor
  odometry
  correctedOdometry := odometry.map (·.corrected)
  power := s.power.map (·.state skew)
  systemFaults := s.faults.map (·.state skew)
  manipulator := s.manipulator
  endEffectorForce := endEffectorForce skew options.framePrefix s
  behaviorFaults := s.behaviorFaults.map (List.map (·.state skew))

omit [Add α] [Sub α] [Mul α] [Neg α] [IntCast α] [Div α] [LT α] [DecidableLT α] [OfScientific α]
  [SquareRoot α] in
/-- The report about a robot state that is ready. -/
def RobotState.summary (state : RobotState α) (options : Options) : Event :=
  .stateReady options.framePrefix options.anchor state.present (state.transforms.getD []).length

/-- The robot state of a snapshot. -/
def Snapshot.toState (s : Snapshot α) (skew : Duration) (options : Options) :
    Logged StateError (RobotState α) := do
  let odometry ← .ofExcept (s.odometryFor skew options)
  let joints ← .ofExcept (s.jointStates skew options.framePrefix)
  let transforms ← s.transforms skew options.toNaming
  let state := s.assemble skew options odometry joints transforms
  Logged.report [state.summary options]
  pure state

end RobotTelemetry
