import RobotTelemetry.Snapshot.Basic
import RobotTelemetry.Snapshot.Message
/-!
# Snapshots in binary form

Each part of a snapshot is read from its message. A field that is missing counts as zero or empty;
whether it was there is kept only where it makes a difference.
-/

namespace RobotTelemetry

open Wire (Message)

/-! ### Quantities -/

/-- A point in time. -/
def Timestamp.ofMessage (m : Message) : Timestamp :=
  ⟨m.signed 64 1, m.signed 32 2⟩

/-- A span of time. -/
def Duration.ofMessage (m : Message) : Duration :=
  ⟨m.signed 64 1, m.signed 32 2⟩

/-- A reading: open if its message is missing. -/
def Reading.ofMessage (m : Option Message) : Reading Float :=
  m.map (·.double 1)

/-- A vector. -/
def Vec3.ofMessage (m : Message) : Vec3 Float :=
  ⟨m.double 1, m.double 2, m.double 3⟩

/-- A quaternion, its scalar part last. -/
def Quat.ofMessage (m : Message) : Quat Float :=
  ⟨m.double 1, m.double 2, m.double 3, m.double 4⟩

/-- A pose. -/
def PoseReport.ofMessage (m : Message) : PoseReport Float :=
  ⟨.ofMessage (m.message 1), (m.message? 2).map .ofMessage⟩

/-- A velocity. -/
def Twist.ofMessage (m : Message) : Twist Float :=
  ⟨.ofMessage (m.message 1), .ofMessage (m.message 2)⟩

/-! ### Parts -/

/-- The power supply. -/
def PowerReport.ofMessage (m : Message) : PowerReport Float where
  timestamp := .ofMessage (m.message 1)
  motor := m.signed 32 2
  shore := m.signed 32 3
  charge := .ofMessage (m.message? 4)
  runtime := .ofMessage (m.message 5)

/-- A battery pack. -/
def BatteryReport.ofMessage (m : Message) : BatteryReport Float where
  timestamp := .ofMessage (m.message 1)
  identifier := m.text 2
  charge := .ofMessage (m.message? 3)
  runtime := .ofMessage (m.message 4)
  current := .ofMessage (m.message? 5)
  voltage := .ofMessage (m.message? 6)
  temperatures := m.doubles 7
  status := m.signed 32 8

/-- A wireless link. -/
def WifiReport.ofMessage (m : Message) : WifiReport :=
  ⟨m.signed 32 1, m.text 2⟩

/-- A communication channel. -/
def CommsReport.ofMessage (m : Message) : CommsReport :=
  ⟨.ofMessage (m.message 1), (m.message? 2).map .ofMessage⟩

/-- A fault. -/
def FaultReport.ofMessage (m : Message) : FaultReport where
  onset := .ofMessage (m.message 2)
  name := m.text 1
  duration := .ofMessage (m.message 3)
  code := m.signed 32 4
  uid := m.unsigned 64 8
  message := m.text 5
  attributes := m.texts 6
  severity := m.signed 32 7

/-- The faults. -/
def FaultReports.ofMessage (m : Message) : FaultReports :=
  ⟨(m.messages 1).map .ofMessage, (m.messages 2).map .ofMessage⟩

/-- An emergency stop. -/
def EstopReport.ofMessage (m : Message) : EstopReport where
  timestamp := .ofMessage (m.message 1)
  name := m.text 2
  kind := m.signed 32 3
  state := m.signed 32 4
  description := m.text 5

/-- A fault of the behaviour. -/
def BehaviorFaultReport.ofMessage (m : Message) : BehaviorFaultReport where
  onset := .ofMessage (m.message 2)
  id := m.unsigned 32 1
  cause := m.signed 32 3
  status := m.signed 32 4

/-- The ground under a foot. -/
def Terrain.ofMessage (m : Message) : Terrain Float where
  friction := m.double 1
  frame := m.text 2
  slipDistance := .ofMessage (m.message 3)
  slipVelocity := .ofMessage (m.message 4)
  contactNormal := .ofMessage (m.message 5)
  penetrationMean := m.double 6
  penetrationDeviation := m.double 7

/-- A foot. -/
def Foot.ofMessage (m : Message) : Foot Float where
  position := .ofMessage (m.message 1)
  contact := m.signed 32 2
  terrain := (m.message? 3).map .ofMessage

/-- The arm. -/
def Manipulator.ofMessage (m : Message) : Manipulator Float where
  gripperOpening := m.double 12
  holdsItem := m.integer 6 ≠ 0
  force := (m.message? 13).map .ofMessage
  stow := m.signed 32 9
  handVelocityInVision := (m.message? 14).map .ofMessage
  handVelocityInOdom := (m.message? 15).map .ofMessage
  carry := m.signed 32 16

/-- A joint. -/
def JointReport.ofMessage (m : Message) : JointReport Float where
  id := m.text 1
  position := .ofMessage (m.message? 2)
  velocity := .ofMessage (m.message? 3)
  acceleration := .ofMessage (m.message? 4)
  load := .ofMessage (m.message? 5)

/-- A frame and its edge. -/
def Edge.ofMessage (m : Message) : String × Edge Float :=
  let edge := m.message 2
  (m.text 1, ⟨edge.text 1, .ofMessage (edge.message 2)⟩)

/-- The moving parts. -/
def KinematicsReport.ofMessage (m : Message) : KinematicsReport Float where
  acquired := .ofMessage (m.message 30)
  joints := (m.messages 2).map .ofMessage
  bodyVelocityInVision := .ofMessage (m.message 8)
  bodyVelocityInOdom := .ofMessage (m.message 12)
  edges := .ofList (((m.message 31).entries 1).map Edge.ofMessage)

/-! ### Snapshots -/

namespace Snapshot

/-- The snapshot that a message stands for. -/
def ofMessage (m : Message) : Snapshot Float where
  power := (m.message? 1).map .ofMessage
  batteries := (m.messages 2).map .ofMessage
  comms := (m.messages 3).map .ofMessage
  faults := (m.message? 4).map .ofMessage
  estops := (m.messages 5).map .ofMessage
  kinematics := (m.message? 6).map .ofMessage
  behaviorFaults := (m.message? 7).map fun faults => (faults.messages 1).map .ofMessage
  feet := (m.messages 8).map .ofMessage
  manipulator := (m.message? 11).map .ofMessage

/-- How deep messages may be nested. -/
def maxLevels : Nat := 100

/-- A snapshot in binary form. -/
def ofBytes? (bytes : List UInt8) : Option (Snapshot Float) :=
  (Wire.readMessage maxLevels .snapshot bytes).map ofMessage

end Snapshot

end RobotTelemetry
