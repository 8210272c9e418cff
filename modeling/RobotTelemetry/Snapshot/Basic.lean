import RobotTelemetry.Time.Basic
import RobotTelemetry.Frames.EdgeMap
/-!
# Snapshots

A snapshot is what the robot reports about itself at one moment. Its parts may be missing; a part
that is present may still leave a reading open, and an open reading counts as zero. Codes such as a
battery's status are passed on as the robot's numbers.
-/

namespace RobotTelemetry

/-- A measured quantity that the robot may leave open. -/
abbrev Reading (α : Type) :=
  Option α

/-- The measured quantity, zero when it is left open. -/
def Reading.value {α : Type} [IntCast α] (r : Reading α) : α :=
  r.getD ((0 : Int) : α)

/-- The power supply. -/
structure PowerReport (α : Type) where
  timestamp : Timestamp
  motor : Int
  shore : Int
  charge : Reading α
  runtime : Duration

/-- One battery pack. -/
structure BatteryReport (α : Type) where
  timestamp : Timestamp
  identifier : String
  charge : Reading α
  runtime : Duration
  current : Reading α
  voltage : Reading α
  temperatures : List α
  status : Int

/-- The state of a wireless link. -/
structure WifiReport where
  mode : Int
  network : String

/-- One communication channel. -/
structure CommsReport where
  timestamp : Timestamp
  wifi : Option WifiReport

/-- A fault of the robot's software or hardware. -/
structure FaultReport where
  onset : Timestamp
  name : String
  duration : Duration
  code : Int
  uid : Int
  message : String
  attributes : List String
  severity : Int

/-- The faults that are active and those that are over. -/
structure FaultReports where
  active : List FaultReport
  historical : List FaultReport

/-- One emergency stop. -/
structure EstopReport where
  timestamp : Timestamp
  name : String
  kind : Int
  state : Int
  description : String

/-- A fault of the robot's behaviour. -/
structure BehaviorFaultReport where
  onset : Timestamp
  id : Int
  cause : Int
  status : Int

/-- What a foot makes of the ground. Its frame is the robot's own name for it. -/
structure Terrain (α : Type) where
  friction : α
  frame : String
  slipDistance : Vec3 α
  slipVelocity : Vec3 α
  contactNormal : Vec3 α
  penetrationMean : α
  penetrationDeviation : α

/-- One foot, placed in the body frame. A foot carries no time of its own. -/
structure Foot (α : Type) where
  position : Vec3 α
  contact : Int
  terrain : Option (Terrain α)

/-- The arm and its gripper. A quantity that the robot did not measure is missing. -/
structure Manipulator (α : Type) where
  gripperOpening : α
  holdsItem : Bool
  force : Option (Vec3 α)
  stow : Int
  handVelocityInVision : Option (Twist α)
  handVelocityInOdom : Option (Twist α)
  carry : Int

/-- One joint. -/
structure JointReport (α : Type) where
  id : String
  position : Reading α
  velocity : Reading α
  acceleration : Reading α
  load : Reading α

/-- The moving parts: joints, body velocities and frames, all acquired at one instant. -/
structure KinematicsReport (α : Type) where
  acquired : Timestamp
  joints : List (JointReport α)
  bodyVelocityInVision : Twist α
  bodyVelocityInOdom : Twist α
  edges : EdgeMap α

/-- What the robot reports about itself at one moment. -/
structure Snapshot (α : Type) where
  power : Option (PowerReport α) := none
  batteries : List (BatteryReport α) := []
  comms : List CommsReport := []
  faults : Option FaultReports := none
  estops : List EstopReport := []
  behaviorFaults : Option (List BehaviorFaultReport) := none
  feet : List (Foot α) := []
  manipulator : Option (Manipulator α) := none
  kinematics : Option (KinematicsReport α) := none

/-! ### Parts that report nothing -/

/-- A channel of which nothing is reported. -/
def CommsReport.unset : CommsReport :=
  ⟨{}, none⟩

/-- An emergency stop of which nothing is reported. -/
def EstopReport.unset : EstopReport :=
  ⟨{}, "", 0, 0, ""⟩

variable {α : Type} [IntCast α]

/-- A body at rest. -/
def Twist.zero : Twist α :=
  ⟨Vec3.zero, Vec3.zero⟩

/-- A power supply of which nothing is reported. -/
def PowerReport.unset : PowerReport α :=
  ⟨{}, 0, 0, none, {}⟩

/-- A battery pack of which nothing is reported. -/
def BatteryReport.unset : BatteryReport α :=
  ⟨{}, "", none, {}, none, none, [], 0⟩

/-- A foot of which nothing is reported. -/
def Foot.unset : Foot α :=
  ⟨Vec3.zero, 0, none⟩

/-- An arm of which nothing is reported. -/
def Manipulator.unset : Manipulator α :=
  ⟨((0 : Int) : α), false, none, 0, none, none, 0⟩

/-- Moving parts of which nothing is reported. -/
def KinematicsReport.unset : KinematicsReport α :=
  ⟨{}, [], Twist.zero, Twist.zero, EdgeMap.empty⟩

end RobotTelemetry
