import RobotTelemetry.Snapshot.Basic
/-!
# Parts of a snapshot

A snapshot is put together part by part. Putting a part replaces it whole; putting its empty form
clears it.
-/

namespace RobotTelemetry

/-- A part of a snapshot with its content. -/
inductive Part (α : Type) where
  | power (report : Option (PowerReport α))
  | batteries (reports : List (BatteryReport α))
  | comms (reports : List CommsReport)
  | faults (reports : Option FaultReports)
  | estops (reports : List EstopReport)
  | behaviorFaults (reports : Option (List BehaviorFaultReport))
  | feet (feet : List (Foot α))
  | manipulator (manipulator : Option (Manipulator α))
  | kinematics (report : Option (KinematicsReport α))

namespace Snapshot

variable {α : Type}

/-- Replaces a part. -/
def put (s : Snapshot α) : Part α → Snapshot α
  | .power report => { s with power := report }
  | .batteries reports => { s with batteries := reports }
  | .comms reports => { s with comms := reports }
  | .faults reports => { s with faults := reports }
  | .estops reports => { s with estops := reports }
  | .behaviorFaults reports => { s with behaviorFaults := reports }
  | .feet feet => { s with feet }
  | .manipulator manipulator => { s with manipulator }
  | .kinematics report => { s with kinematics := report }

/-- The snapshot made of given parts; of two forms of one part the later counts. -/
def ofParts (parts : List (Part α)) : Snapshot α :=
  parts.foldl put {}

variable [IntCast α]

/-- The moving parts, with nothing reported if they are missing. -/
def kinematicsOrUnset (s : Snapshot α) : KinematicsReport α :=
  s.kinematics.getD .unset

/-- Sets the edge of a frame. -/
def setEdge (s : Snapshot α) (frame : String) (edge : Edge α) : Snapshot α :=
  let k := s.kinematicsOrUnset
  { s with kinematics := some { k with edges := k.edges.insert frame edge } }

omit [IntCast α] in
/-- Removes the edge of a frame. Moving parts that were missing stay missing. -/
def eraseEdge (s : Snapshot α) (frame : String) : Snapshot α :=
  { s with kinematics := s.kinematics.map fun k => { k with edges := k.edges.erase frame } }

/-- Adds a joint after those that are there. -/
def addJoint (s : Snapshot α) (joint : JointReport α) : Snapshot α :=
  let k := s.kinematicsOrUnset
  { s with kinematics := some { k with joints := k.joints ++ [joint] } }

/-- How many edges there are. -/
def edgeCount (s : Snapshot α) : Nat :=
  s.kinematicsOrUnset.edges.size

/-- How many joints there are. -/
def jointCount (s : Snapshot α) : Nat :=
  s.kinematicsOrUnset.joints.length

end Snapshot

end RobotTelemetry
