import RobotTelemetry.Frames.EdgeMap
/-!
# Walking up to the root

Following parents from a frame leads to a root, or runs into a frame that the map lacks, or into a
frame met before. `EdgeMap.ascend` records the edges of the first kind of walk and fails on the
other two: it climbs in the map without the frames already left, so that a frame met again is
missing.

An edge map is a tree when it has a frame, no frame is nameless, and all walks end in one root. In a
tree any two frames are placed relative to each other through the root.
-/

namespace RobotTelemetry

/-- A walk up to a root: the frames left on the way with their edges, lowest first, and the root. -/
structure Ascent (α : Type) where
  steps : List (String × Edge α)
  root : String

/-- Why two frames cannot be placed relative to each other. -/
inductive PathFault where
  /-- The edges do not form one tree. -/
  | malformedTree
  /-- They do, but one of the frames is not in it. -/
  | missingFrame
deriving DecidableEq

namespace EdgeMap

variable {α : Type}

/-- The walk from a frame up to its root. -/
def ascend (m : EdgeMap α) (frame : String) : Option (Ascent α) :=
  match _h : m.find? frame with
  | none => none
  | some edge =>
      if edge.parent = "" then some ⟨[], frame⟩
      else (ascend (m.erase frame) edge.parent).map fun a => ⟨(frame, edge) :: a.steps, a.root⟩
termination_by m.size
decreasing_by exact size_erase_lt _h

/-- The root of a tree; none when the edges do not form one tree. -/
def root? (m : EdgeMap α) : Option String :=
  match m.keys with
  | [] => none
  | first :: _ =>
      match m.ascend first with
      | none => none
      | some a =>
          if m.keys.all fun k => k ≠ "" ∧ (m.ascend k).any (·.root = a.root) then some a.root
          else none

end EdgeMap

variable {α : Type} [Add α] [Sub α] [Mul α] [Neg α] [IntCast α]

/-- The pose of the frame where a walk starts, as seen from its root. The edge of the root plays no
part. -/
def Ascent.pose (a : Ascent α) : Pose (Component α) :=
  a.steps.foldl (fun pose step => step.2.pose.pose * pose) Pose.identity

/-- The pose of a frame as seen from an anchor. -/
def EdgeMap.relativePose (m : EdgeMap α) (anchor frame : String) :
    Except PathFault (Pose (Component α)) :=
  match m.root? with
  | none => .error .malformedTree
  | some _ =>
      match m.ascend anchor, m.ascend frame with
      | some a, some b => .ok (a.pose.inverse * b.pose)
      | _, _ => .error .missingFrame

end RobotTelemetry
