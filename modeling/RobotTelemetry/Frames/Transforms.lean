import RobotTelemetry.Log
/-!
# Published transforms

Each edge of a snapshot is published as the pose of the child in its parent. One edge may be
published the other way round, so that its child becomes the parent of its old parent: the edge
whose qualified child is the inverse target. A root has no edge to publish; a root named as the
target is reported.
-/

namespace RobotTelemetry

/-- How frames are named when they are published. -/
structure Naming where
  framePrefix : String := ""
  inverseTarget : String := ""
deriving DecidableEq

/-- The qualified name of a frame. -/
def Naming.qualify (n : Naming) (frame : String) : String :=
  n.framePrefix ++ frame

/-- Whether a frame is the inverse target. -/
def Naming.IsTarget (n : Naming) (frame : String) : Prop :=
  n.qualify frame = n.inverseTarget

instance (n : Naming) (frame : String) : Decidable (n.IsTarget frame) :=
  inferInstanceAs (Decidable (_ = _))

namespace Edge

variable {α : Type}

/-- What is reported about the edge of a frame. -/
def event? (n : Naming) (frame : String) (edge : Edge α) : Option Event :=
  if n.IsTarget frame then
    some (if edge.parent = "" then .targetIsRoot (n.qualify frame)
      else .invertedEdge (n.qualify edge.parent) (n.qualify frame))
  else none

variable [Add α] [Sub α] [Mul α] [Neg α] [IntCast α]

/-- The transform that the edge of a frame is published as; a root has none. -/
def transform? (n : Naming) (stamp : Stamp) (frame : String) (edge : Edge α) :
    Option (Transform α) :=
  if edge.parent = "" then none
  else if n.IsTarget frame then
    some ⟨stamp, n.qualify frame, n.qualify edge.parent, edge.pose.pose.inverse⟩
  else some ⟨stamp, n.qualify edge.parent, n.qualify frame, edge.pose.pose⟩

end Edge

namespace EdgeMap

variable {α : Type}

/-- What is reported while the edges are published. -/
def events (m : EdgeMap α) (n : Naming) : List Event :=
  m.entries.filterMap fun (frame, edge) => edge.event? n frame

variable [Add α] [Sub α] [Mul α] [Neg α] [IntCast α]

/-- The transforms of all edges, in order. -/
def transforms (m : EdgeMap α) (n : Naming) (stamp : Stamp) : List (Transform α) :=
  m.entries.filterMap fun (frame, edge) => edge.transform? n stamp frame

end EdgeMap

/-- The transforms of a snapshot, with what is reported on the way; none without moving parts. -/
def Snapshot.transforms {α ε : Type} [Add α] [Sub α] [Mul α] [Neg α] [IntCast α] (s : Snapshot α)
    (skew : Duration) (n : Naming) : Logged ε (Option (List (Transform α))) :=
  match s.kinematics with
  | none => pure none
  | some k => do
      Logged.report (k.edges.events n)
      pure (some (k.edges.transforms n (k.acquired.corrected skew)))

namespace Transform

variable {α : Type}

/-- The first transform with a given child. -/
def find? (transforms : List (Transform α)) (child : String) : Option (Transform α) :=
  transforms.find? (·.child = child)

end Transform

end RobotTelemetry
