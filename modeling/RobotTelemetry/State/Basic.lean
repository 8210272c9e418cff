import RobotTelemetry.Snapshot.Basic
/-!
# Robot states

A robot state is a snapshot as consumers read it: instants on the local clock, names qualified by a
frame prefix, velocities in the frames where they are expected. Each of its fourteen facets is
present or missing as a whole.
-/

namespace RobotTelemetry

variable (α : Type)

/-- One battery pack, at its own instant. -/
structure BatteryState where
  stamp : Stamp
  identifier : String
  charge : α
  runtime : Elapsed
  current : α
  voltage : α
  temperatures : List α
  status : Int

/-- The wireless link. -/
structure WifiState where
  stamp : Stamp
  mode : Int
  network : String

/-- One emergency stop. -/
structure EstopState where
  stamp : Stamp
  name : String
  kind : Int
  state : Int
  description : String

/-- One joint under its qualified name. -/
structure JointState where
  name : String
  position : α
  velocity : α
  effort : α

/-- All joints, at the instant of their acquisition. -/
structure JointStates where
  stamp : Stamp
  joints : List (JointState α)

/-- The pose of a child frame in its parent frame. -/
structure Transform where
  stamp : Stamp
  parent : String
  child : String
  pose : Pose (Component α)

/-- A velocity in a frame. -/
structure StampedTwist where
  stamp : Stamp
  frame : String
  twist : Twist α

/-- Where the body is and how it moves. -/
structure Odometry where
  stamp : Stamp
  frame : String
  childFrame : String
  pose : Pose (Component α)
  twist : Twist α

/-- The power supply. -/
structure PowerState where
  stamp : Stamp
  motor : Int
  shore : Int
  charge : α
  runtime : Elapsed

/-- A fault of the robot's software or hardware, at its onset. -/
structure SystemFault where
  stamp : Stamp
  name : String
  duration : Elapsed
  code : Int
  uid : Int
  message : String
  attributes : List String
  severity : Int

/-- The faults that are active and those that are over. -/
structure SystemFaults where
  active : List SystemFault
  historical : List SystemFault

/-- The force at the hand, at the instant of the kinematic acquisition if there is one. -/
structure EndEffectorForce where
  stamp : Option Stamp
  frame : String
  force : Option (Vec3 α)

/-- A fault of the robot's behaviour, at its onset. -/
structure BehaviorFault where
  stamp : Stamp
  id : Int
  cause : Int
  status : Int

/-- A snapshot as consumers read it. -/
structure RobotState where
  batteries : Option (List (BatteryState α)) := none
  wifi : Option WifiState := none
  feet : Option (List (Foot α)) := none
  estops : Option (List EstopState) := none
  joints : Option (JointStates α) := none
  transforms : Option (List (Transform α)) := none
  bodyTwist : Option (StampedTwist α) := none
  odometry : Option (Odometry α) := none
  correctedOdometry : Option (Odometry α) := none
  power : Option (PowerState α) := none
  systemFaults : Option SystemFaults := none
  manipulator : Option (Manipulator α) := none
  endEffectorForce : Option (EndEffectorForce α) := none
  behaviorFaults : Option (List BehaviorFault) := none

variable {α}

/-! ### Facets -/

/-- The parts of a robot state. -/
inductive Facet where
  | batteries
  | wifi
  | feet
  | estops
  | joints
  | transforms
  | bodyTwist
  | odometry
  | correctedOdometry
  | power
  | systemFaults
  | manipulator
  | endEffectorForce
  | behaviorFaults
deriving DecidableEq

namespace Facet

/-- The facets in the order in which a robot state lists them. -/
def all : List Facet :=
  [.batteries, .wifi, .feet, .estops, .joints, .transforms, .bodyTwist, .odometry,
    .correctedOdometry, .power, .systemFaults, .manipulator, .endEffectorForce, .behaviorFaults]

/-- The name under which a facet is published. -/
def name : Facet → String
  | batteries => "battery_states"
  | wifi => "wifi_state"
  | feet => "foot_states"
  | estops => "estop_states"
  | joints => "joint_states"
  | transforms => "tf"
  | bodyTwist => "odom_twist"
  | odometry => "odom"
  | correctedOdometry => "odom_corrected"
  | power => "power_state"
  | systemFaults => "system_fault_state"
  | manipulator => "manipulator_state"
  | endEffectorForce => "end_effector_force"
  | behaviorFaults => "behavior_fault_state"

/-- The facet published under a name. -/
def ofName? (name : String) : Option Facet :=
  all.find? (·.name = name)

theorem mem_all (f : Facet) : f ∈ all := by
  cases f <;> decide

@[simp]
theorem ofName?_name (f : Facet) : ofName? f.name = some f := by
  cases f <;> decide

end Facet

namespace RobotState

/-- Whether a facet is present. -/
def has (s : RobotState α) : Facet → Bool
  | .batteries => s.batteries.isSome
  | .wifi => s.wifi.isSome
  | .feet => s.feet.isSome
  | .estops => s.estops.isSome
  | .joints => s.joints.isSome
  | .transforms => s.transforms.isSome
  | .bodyTwist => s.bodyTwist.isSome
  | .odometry => s.odometry.isSome
  | .correctedOdometry => s.correctedOdometry.isSome
  | .power => s.power.isSome
  | .systemFaults => s.systemFaults.isSome
  | .manipulator => s.manipulator.isSome
  | .endEffectorForce => s.endEffectorForce.isSome
  | .behaviorFaults => s.behaviorFaults.isSome

/-- The facets that are present, in order. -/
def present (s : RobotState α) : List Facet :=
  Facet.all.filter s.has

@[simp]
theorem mem_present {s : RobotState α} {f : Facet} : f ∈ s.present ↔ s.has f := by
  simp [present, Facet.mem_all]

end RobotState

end RobotTelemetry
