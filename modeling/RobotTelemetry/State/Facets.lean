import RobotTelemetry.Joint
import RobotTelemetry.Frames.Anchor
import RobotTelemetry.State.Basic
/-!
# Facets read off a snapshot

Each function makes one facet of a robot state from the part of the snapshot it depends on. A list
facet is missing when its list is empty, any other when its part is missing. Instants are corrected
by the clock skew; lengths of time are not.
-/

namespace RobotTelemetry

/-- A list that counts as missing when it is empty. -/
def presentList {β : Type} : List β → Option (List β)
  | [] => none
  | xs => some xs

theorem isSome_presentList {β : Type} {xs : List β} : (presentList xs).isSome ↔ xs ≠ [] := by
  cases xs <;> simp [presentList]

theorem getD_presentList {β : Type} (xs : List β) : (presentList xs).getD [] = xs := by
  cases xs <;> rfl

variable {α : Type} [IntCast α]

/-! ### Batteries, radio, stops and power -/

/-- A battery pack at its corrected instant. -/
def BatteryReport.state (skew : Duration) (b : BatteryReport α) : BatteryState α where
  stamp := b.timestamp.corrected skew
  identifier := b.identifier
  charge := b.charge.value
  runtime := .ofDuration b.runtime
  current := b.current.value
  voltage := b.voltage.value
  temperatures := b.temperatures
  status := b.status

/-- The state of each battery pack. -/
def batteryStates (skew : Duration) (batteries : List (BatteryReport α)) :
    Option (List (BatteryState α)) :=
  presentList (batteries.map (·.state skew))

/-- The wireless link of a channel, if it reports one. -/
def CommsReport.wifiState (skew : Duration) (c : CommsReport) : Option WifiState :=
  c.wifi.map fun w => ⟨c.timestamp.corrected skew, w.mode, w.network⟩

/-- The wireless link of the last channel that reports one. -/
def wifiState (skew : Duration) (comms : List CommsReport) : Option WifiState :=
  (comms.filterMap (·.wifiState skew)).getLast?

/-- An emergency stop at its corrected instant. -/
def EstopReport.toState (skew : Duration) (e : EstopReport) : EstopState where
  stamp := e.timestamp.corrected skew
  name := e.name
  kind := e.kind
  state := e.state
  description := e.description

/-- The state of each emergency stop. -/
def estopStates (skew : Duration) (estops : List EstopReport) : Option (List EstopState) :=
  presentList (estops.map (·.toState skew))

/-- The power supply at its corrected instant. -/
def PowerReport.state (skew : Duration) (p : PowerReport α) : PowerState α where
  stamp := p.timestamp.corrected skew
  motor := p.motor
  shore := p.shore
  charge := p.charge.value
  runtime := .ofDuration p.runtime

/-! ### Faults -/

/-- A fault at its corrected onset; its duration is copied. -/
def FaultReport.state (skew : Duration) (f : FaultReport) : SystemFault where
  stamp := f.onset.corrected skew
  name := f.name
  duration := .ofDuration f.duration
  code := f.code
  uid := f.uid
  message := f.message
  attributes := f.attributes
  severity := f.severity

/-- Active faults and those that are over stay apart. -/
def FaultReports.state (skew : Duration) (f : FaultReports) : SystemFaults :=
  ⟨f.active.map (·.state skew), f.historical.map (·.state skew)⟩

/-- A fault of the behaviour at its corrected onset. -/
def BehaviorFaultReport.state (skew : Duration) (f : BehaviorFaultReport) : BehaviorFault :=
  ⟨f.onset.corrected skew, f.id, f.cause, f.status⟩

/-! ### Joints -/

/-- A joint under its qualified name; the error is an id that the table lacks. -/
def JointReport.state (framePrefix : String) (j : JointReport α) : Except String (JointState α) :=
  match Joint.ofId? j.id with
  | none => .error j.id
  | some joint =>
      .ok ⟨joint.qualifiedName framePrefix, j.position.value, j.velocity.value, j.load.value⟩

/-- All joints in order; the error is the first id that the table lacks. -/
def KinematicsReport.jointStates (skew : Duration) (framePrefix : String)
    (k : KinematicsReport α) : Except String (JointStates α) :=
  (k.joints.mapM (JointReport.state framePrefix)).map fun joints =>
    ⟨k.acquired.corrected skew, joints⟩

/-! ### The hand -/

omit [IntCast α] in
/-- The force at the hand; its instant is the kinematic acquisition. -/
def endEffectorForce (skew : Duration) (framePrefix : String) (s : Snapshot α) :
    Option (EndEffectorForce α) :=
  s.manipulator.map fun m =>
    ⟨s.kinematics.map (·.acquired.corrected skew), framePrefix ++ handFrame, m.force⟩

end RobotTelemetry
