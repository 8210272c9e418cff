/-!
# Frames with a meaning of their own

The robot reports poses in frames it names itself. Three of those names are known beforehand: the
body, and the two world frames that odometry can be anchored in.
-/

namespace RobotTelemetry

/-- The frame of the robot's body. -/
def bodyFrame : String :=
  "body"

/-- The frame of the robot's hand. -/
def handFrame : String :=
  "hand"

/-- A world frame that odometry is anchored in. -/
inductive Anchor where
  | odom
  | vision
deriving DecidableEq

namespace Anchor

/-- Both anchors, in order. -/
def all : List Anchor :=
  [.odom, .vision]

/-- The frame of an anchor. -/
def frame : Anchor → String
  | odom => "odom"
  | vision => "vision"

/-- The anchor that is used when none is named. -/
def standard : Anchor :=
  .vision

/-- The anchor with a given frame. -/
def ofFrame? (frame : String) : Option Anchor :=
  all.find? (·.frame = frame)

@[simp]
theorem ofFrame?_frame (a : Anchor) : ofFrame? a.frame = some a := by
  cases a <;> decide

/-- An anchor is found only under its own frame. -/
theorem frame_of_ofFrame? {frame : String} {a : Anchor} (h : ofFrame? frame = some a) :
    a.frame = frame := by
  simpa using List.find?_some h

end Anchor

end RobotTelemetry
