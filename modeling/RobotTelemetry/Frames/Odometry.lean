import RobotTelemetry.Geometry.Rotation
import RobotTelemetry.Frames.Ascent
import RobotTelemetry.Frames.Transforms
/-!
# Odometry

Odometry is the pose of the body in a world frame together with the velocity of the body. The robot
reports the velocity in the world frame; the corrected odometry gives it in the frame of the body.
-/

namespace RobotTelemetry

/-- The body velocity that the robot reports in the frame of an anchor. -/
def KinematicsReport.bodyVelocity {α : Type} (k : KinematicsReport α) : Anchor → Twist α
  | .odom => k.bodyVelocityInOdom
  | .vision => k.bodyVelocityInVision

/-- The body velocity in the frame of an anchor, at the instant of acquisition. -/
def Snapshot.bodyTwist {α : Type} (s : Snapshot α) (skew : Duration) (framePrefix : String)
    (anchor : Anchor) : Option (StampedTwist α) :=
  s.kinematics.map fun k =>
    ⟨k.acquired.corrected skew, framePrefix ++ anchor.frame, k.bodyVelocity anchor⟩

/-- The edges of a snapshot; there are none without moving parts. -/
def Snapshot.edges {α : Type} (s : Snapshot α) : EdgeMap α :=
  match s.kinematics with
  | none => .empty
  | some k => k.edges

variable {α : Type} [Add α] [Sub α] [Mul α] [Neg α] [IntCast α]

/-- The odometry that belongs to a given velocity. -/
def Snapshot.odometryWith (s : Snapshot α) (framePrefix : String) (anchor : Anchor)
    (twist : StampedTwist α) : Except PathFault (Odometry α) :=
  (s.edges.relativePose anchor.frame bodyFrame).map fun pose =>
    ⟨twist.stamp, twist.frame, framePrefix ++ bodyFrame, pose, twist.twist⟩

/-- The odometry of a snapshot; none without moving parts. A velocity given beforehand is used in
place of the reported one, even if there are no moving parts. -/
def Snapshot.odometry (s : Snapshot α) (skew : Duration) (framePrefix : String) (anchor : Anchor)
    (given : Option (StampedTwist α)) : Except PathFault (Option (Odometry α)) :=
  match given.or (s.bodyTwist skew framePrefix anchor) with
  | none => .ok none
  | some twist => (s.odometryWith framePrefix anchor twist).map some

variable [Div α] [LT α] [DecidableLT α] [OfScientific α]

/-- The same odometry with its velocity in the frame of the body, the orientation having the given
length. -/
def Odometry.inBody (o : Odometry α) (length : α) : Odometry α :=
  { o with twist := o.twist.inBody (o.pose.rotation.map Component.value) length }

/-- The same odometry with its velocity in the frame of the body. -/
def Odometry.corrected [SquareRoot α] (o : Odometry α) : Odometry α :=
  o.inBody (SquareRoot.sqrt (o.pose.rotation.map Component.value).normSq)

end RobotTelemetry
