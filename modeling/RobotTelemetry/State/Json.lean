import RobotTelemetry.Json.Basic
import RobotTelemetry.State.Basic
/-!
# Robot states as JSON

Every record becomes an object with its fields in order; what is missing becomes null. How a number
is written is left open: `number` decides.
-/

namespace RobotTelemetry

open Json

/-! ### Time -/

/-- An instant as an object. -/
def Stamp.toJson (s : Stamp) : Json :=
  .object [("sec", int s.sec), ("nanosec", int s.nanosec)]

/-- A length of time as an object. -/
def Elapsed.toJson (e : Elapsed) : Json :=
  .object [("sec", int e.sec), ("nanosec", int e.nanosec)]

/-! ### Geometry -/

section Geometry

variable {β : Type} (number : β → Json)

/-- A vector as an object. -/
def Vec3.toJson (v : Vec3 β) : Json :=
  .object [("x", number v.x), ("y", number v.y), ("z", number v.z)]

/-- A quaternion as an object. -/
def Quat.toJson (q : Quat β) : Json :=
  .object [("x", number q.x), ("y", number q.y), ("z", number q.z), ("w", number q.w)]

/-- A rigid motion as an object. -/
def Pose.toJson (p : Pose β) : Json :=
  .object [("translation", p.position.toJson number), ("rotation", p.rotation.toJson number)]

/-- A velocity as an object. -/
def Twist.toJson (t : Twist β) : Json :=
  .object [("linear", t.linear.toJson number), ("angular", t.angular.toJson number)]

end Geometry

/-! ### Records without measured numbers -/

/-- The wireless link as an object. -/
def WifiState.toJson (w : WifiState) : Json :=
  .object [("stamp", w.stamp.toJson), ("current_mode", int w.mode), ("essid", .string w.network)]

/-- An emergency stop as an object. -/
def EstopState.toJson (e : EstopState) : Json :=
  .object [("stamp", e.stamp.toJson), ("name", .string e.name), ("type", int e.kind),
    ("state", int e.state), ("state_description", .string e.description)]

/-- A fault as an object. -/
def SystemFault.toJson (f : SystemFault) : Json :=
  .object [("stamp", f.stamp.toJson), ("name", .string f.name), ("duration", f.duration.toJson),
    ("code", int f.code), ("uid", int f.uid), ("error_message", .string f.message),
    ("attributes", ofList .string f.attributes), ("severity", int f.severity)]

/-- Active faults and those that are over as an object. -/
def SystemFaults.toJson (f : SystemFaults) : Json :=
  .object [("faults", ofList SystemFault.toJson f.active),
    ("historical_faults", ofList SystemFault.toJson f.historical)]

/-- A fault of the behaviour as an object. -/
def BehaviorFault.toJson (f : BehaviorFault) : Json :=
  .object [("stamp", f.stamp.toJson), ("behavior_fault_id", int f.id), ("cause", int f.cause),
    ("status", int f.status)]

/-- The faults of the behaviour as an object. -/
def BehaviorFault.listToJson (faults : List BehaviorFault) : Json :=
  .object [("faults", ofList BehaviorFault.toJson faults)]

/-! ### Records with measured numbers -/

section Measured

variable {α : Type} (number : Component α → Json)

/-- A battery pack as an object. -/
def BatteryState.toJson (b : BatteryState α) : Json :=
  .object [("stamp", b.stamp.toJson), ("identifier", .string b.identifier),
    ("charge_percentage", number (.real b.charge)), ("estimated_runtime", b.runtime.toJson),
    ("current", number (.real b.current)), ("voltage", number (.real b.voltage)),
    ("temperatures", ofList (fun t => number (.real t)) b.temperatures),
    ("status", int b.status)]

/-- What a foot makes of the ground as an object. -/
def Terrain.toJson (t : Terrain α) : Json :=
  let vector (v : Vec3 α) := v.toJson fun x => number (.real x)
  .object [("ground_mu_est", number (.real t.friction)), ("frame_name", .string t.frame),
    ("foot_slip_distance_rt_frame", vector t.slipDistance),
    ("foot_slip_velocity_rt_frame", vector t.slipVelocity),
    ("ground_contact_normal_rt_frame", vector t.contactNormal),
    ("visual_surface_ground_penetration_mean", number (.real t.penetrationMean)),
    ("visual_surface_ground_penetration_std", number (.real t.penetrationDeviation))]

/-- A foot as an object. -/
def Foot.toJson (f : Foot α) : Json :=
  .object [("position_rt_body", f.position.toJson fun x => number (.real x)),
    ("contact", int f.contact), ("terrain", ofOption (Terrain.toJson number) f.terrain)]

/-- The joints as an object: one list for each quantity, all in the order of the joints. -/
def JointStates.toJson (j : JointStates α) : Json :=
  .object [("stamp", j.stamp.toJson), ("name", ofList (fun s => .string s.name) j.joints),
    ("position", ofList (fun s => number (.real s.position)) j.joints),
    ("velocity", ofList (fun s => number (.real s.velocity)) j.joints),
    ("effort", ofList (fun s => number (.real s.effort)) j.joints)]

/-- A transform as an object. -/
def Transform.toJson (t : Transform α) : Json :=
  .object [("stamp", t.stamp.toJson), ("parent_frame_id", .string t.parent),
    ("child_frame_id", .string t.child), ("transform", t.pose.toJson number)]

/-- The transforms as an object. -/
def Transform.listToJson (transforms : List (Transform α)) : Json :=
  .object [("transforms", ofList (Transform.toJson number) transforms)]

/-- A velocity in a frame as an object. -/
def StampedTwist.toJson (t : StampedTwist α) : Json :=
  .object [("stamp", t.stamp.toJson), ("frame_id", .string t.frame),
    ("twist", t.twist.toJson fun x => number (.real x))]

/-- Odometry as an object. -/
def Odometry.toJson (o : Odometry α) : Json :=
  .object [("stamp", o.stamp.toJson), ("frame_id", .string o.frame),
    ("child_frame_id", .string o.childFrame), ("pose", o.pose.toJson number),
    ("twist", o.twist.toJson fun x => number (.real x))]

/-- The power supply as an object. -/
def PowerState.toJson (p : PowerState α) : Json :=
  .object [("stamp", p.stamp.toJson), ("motor_power_state", int p.motor),
    ("shore_power_state", int p.shore),
    ("locomotion_charge_percentage", number (.real p.charge)),
    ("locomotion_estimated_runtime", p.runtime.toJson)]

/-- The arm as an object. -/
def Manipulator.toJson (m : Manipulator α) : Json :=
  let real (x : α) := number (.real x)
  .object [("gripper_open_percentage", real m.gripperOpening),
    ("is_gripper_holding_item", .bool m.holdsItem),
    ("estimated_end_effector_force_in_hand", ofOption (Vec3.toJson real) m.force),
    ("stow_state", int m.stow),
    ("velocity_of_hand_in_vision", ofOption (Twist.toJson real) m.handVelocityInVision),
    ("velocity_of_hand_in_odom", ofOption (Twist.toJson real) m.handVelocityInOdom),
    ("carry_state", int m.carry)]

/-- The force at the hand as an object. -/
def EndEffectorForce.toJson (f : EndEffectorForce α) : Json :=
  .object [("stamp", ofOption Stamp.toJson f.stamp), ("frame_id", .string f.frame),
    ("force", ofOption (Vec3.toJson fun x => number (.real x)) f.force)]

namespace RobotState

/-- A facet as a value, null if it is missing. -/
def facetJson (s : RobotState α) : Facet → Json
  | .batteries => ofOption (ofList (BatteryState.toJson number)) s.batteries
  | .wifi => ofOption WifiState.toJson s.wifi
  | .feet => ofOption (ofList (Foot.toJson number)) s.feet
  | .estops => ofOption (ofList EstopState.toJson) s.estops
  | .joints => ofOption (JointStates.toJson number) s.joints
  | .transforms => ofOption (Transform.listToJson number) s.transforms
  | .bodyTwist => ofOption (StampedTwist.toJson number) s.bodyTwist
  | .odometry => ofOption (Odometry.toJson number) s.odometry
  | .correctedOdometry => ofOption (Odometry.toJson number) s.correctedOdometry
  | .power => ofOption (PowerState.toJson number) s.power
  | .systemFaults => ofOption SystemFaults.toJson s.systemFaults
  | .manipulator => ofOption (Manipulator.toJson number) s.manipulator
  | .endEffectorForce => ofOption (EndEffectorForce.toJson number) s.endEffectorForce
  | .behaviorFaults => ofOption BehaviorFault.listToJson s.behaviorFaults

/-- A robot state as an object with one member for each facet. -/
def toJson (s : RobotState α) : Json :=
  .object (Facet.all.map fun f => (f.name, s.facetJson number f))

end RobotState

end Measured

end RobotTelemetry
