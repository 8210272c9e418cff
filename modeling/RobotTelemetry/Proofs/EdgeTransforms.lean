import Mathlib.Data.List.Forall2
import RobotTelemetry.Proofs.Poses
import RobotTelemetry.Proofs.Publication
/-!
# From edges to transforms

Whatever the edges of a snapshot are, those with a parent and the published transforms belong
together one to one (`Snapshot.transforms_of_edges`). A transform is its edge as it stands, number
by number, or turned round if the child is the inverse target. At most one edge is turned round,
since a name belongs to one frame only; the one event that is reported tells whether it was, or why
the target has no edge. The transform of a turned edge is the inverse of its pose, up to the squared
length of a rotation that is no unit quaternion (`EdgeMap.turned_edge_inverts`).
-/

namespace RobotTelemetry

section Target

variable {α : Type} {m : EdgeMap α} {n : Naming}

/-! ## The edge of the target -/

namespace EdgeMap

/-- The edges with a parent, in order. -/
def parented (m : EdgeMap α) : List (String × Edge α) :=
  m.entries.filter fun entry => entry.2.parent ≠ ""

def turnedEdges (m : EdgeMap α) (n : Naming) : List (String × Edge α) :=
  m.parented.filter fun entry => n.qualify entry.1 = n.inverseTarget

theorem turnedEdges_eq (m : EdgeMap α) (n : Naming) :
    m.turnedEdges n = (m.targeted n).filter fun entry => entry.2.parent ≠ "" := by
  rw [turnedEdges, parented, targeted, List.filter_filter, List.filter_filter]
  exact List.filter_congr fun entry _ => Bool.and_comm _ _

end EdgeMap

/-- What can become of the inverse target. -/
inductive TargetFate where
  /-- Its edge is turned round. -/
  | inverted
  /-- It is the name of a frame without a parent. -/
  | parentless
  /-- It is the name of no frame. -/
  | unnamed

namespace TargetFate

/-- How urgent the reports about the inverse target are. -/
def levels : TargetFate → List Level
  | inverted => [.debug]
  | parentless => [.warning]
  | unnamed => []

/-- Which edges are turned round, and what is reported. -/
def Holds (m : EdgeMap α) (n : Naming) (log : List Event) : TargetFate → Prop
  | inverted => ∃ f edge, m.turnedEdges n = [(f, edge)] ∧
      log = [.invertedEdge (n.qualify edge.parent) (n.qualify f)]
  | parentless => (∃ f edge, m.find? f = some edge ∧ edge.parent = "" ∧
      n.qualify f = n.inverseTarget) ∧ m.turnedEdges n = [] ∧ log = [.targetIsRoot n.inverseTarget]
  | unnamed => (∀ f ∈ m.keys, n.qualify f ≠ n.inverseTarget) ∧ m.turnedEdges n = [] ∧ log = []

variable {log : List Event} {fate fate' : TargetFate}

theorem Holds.levels_eq (h : fate.Holds m n log) : log.map Event.level = fate.levels := by
  cases fate with
  | inverted =>
    obtain ⟨f, edge, -, rfl⟩ := h
    rfl
  | parentless =>
    obtain ⟨-, -, rfl⟩ := h
    rfl
  | unnamed =>
    obtain ⟨-, -, rfl⟩ := h
    rfl

/-- No two fates leave reports of the same urgency. -/
theorem Holds.unique (h : fate.Holds m n log) (h' : fate'.Holds m n log) : fate = fate' := by
  have hlevels : fate.levels = fate'.levels := h.levels_eq.symm.trans h'.levels_eq
  cases fate <;> cases fate' <;> simp [levels] at hlevels ⊢

theorem exists_holds (m : EdgeMap α) (n : Naming) :
    ∃ fate : TargetFate, fate.Holds m n (m.events n) := by
  obtain ⟨hnil, hno⟩ | ⟨f, edge, hf, ht, hone⟩ := m.targeted_cases n
  · have hevents : m.events n = [] := by rw [EdgeMap.events_eq_filterMap, hnil, List.filterMap_nil]
    have hturned : m.turnedEdges n = [] := by rw [EdgeMap.turnedEdges_eq, hnil, List.filter_nil]
    exact ⟨.unnamed, hno, hturned, hevents⟩
  · have hevent : m.events n = (edge.event? n f).toList := by
      rw [EdgeMap.events_eq_filterMap, hone]
      cases h : edge.event? n f <;> simp [h]
    have hturned : m.turnedEdges n = [(f, edge)].filter fun entry => entry.2.parent ≠ "" := by
      rw [EdgeMap.turnedEdges_eq, hone]
    by_cases hp : edge.parent = ""
    · have hevents : m.events n = [.targetIsRoot n.inverseTarget] := by
        rw [hevent, Edge.event?, if_pos ht, if_pos hp, ht, Option.toList_some]
      exact ⟨.parentless, ⟨f, edge, hf, hp, ht⟩, by simp [hturned, hp], hevents⟩
    · have hevents : m.events n = [.invertedEdge (n.qualify edge.parent) (n.qualify f)] := by
        rw [hevent, Edge.event?, if_pos ht, if_neg hp, Option.toList_some]
      exact ⟨.inverted, f, edge, by simp [hturned, hp], hevents⟩

end TargetFate

end Target

/-! ## Edges as they are shown -/

section Shown

variable {α : Type} {n : Naming} {stamp : Stamp} {f : String} {edge : Edge α}

/-- A pose has exactly the numbers of a report; those of an unset rotation are whole. -/
def Pose.HasNumbers (p : Pose (Component α)) (report : PoseReport α) : Prop :=
  p.position = report.position.map .real ∧
    (∀ q, report.rotation = some q → p.rotation = q.map .real) ∧
    (report.rotation = none → p.rotation = ⟨.whole 0, .whole 0, .whole 0, .whole 1⟩)

theorem Pose.hasNumbers (report : PoseReport α) : report.pose.HasNumbers report := by
  refine ⟨rfl, fun q hq => ?_, fun hnone => ?_⟩
  · rw [PoseReport.pose, hq]
    rfl
  · rw [PoseReport.pose, hnone]
    rfl

variable [Add α] [Sub α] [Mul α] [Neg α] [IntCast α]

/-- A pose has the numbers of a report turned round: those of the conjugate rotation, and those of
the position rotated by it, with the sign changed. -/
def Pose.HasTurnedNumbers (p : Pose (Component α)) (report : PoseReport α) : Prop :=
  p.position = (p.rotation.rotate (report.position.map .real)).map (-·) ∧
    (∀ q, report.rotation = some q →
      p.rotation = ⟨.real (-q.x), .real (-q.y), .real (-q.z), .real q.w⟩) ∧
    (report.rotation = none → p.rotation = ⟨.whole 0, .whole 0, .whole 0, .whole 1⟩)

theorem Pose.hasTurnedNumbers (report : PoseReport α) :
    report.pose.inverse.HasTurnedNumbers report := by
  refine ⟨rfl, fun q hq => ?_, fun hnone => ?_⟩
  · rw [Pose.inverse, PoseReport.pose, hq]
    rfl
  · rw [Pose.inverse, PoseReport.pose, hnone]
    rfl

/-- The transform `t` shows the edge of the frame `f`: as it stands, or turned round if the frame is
the inverse target. -/
structure Edge.Shown (n : Naming) (stamp : Stamp) (f : String) (edge : Edge α) (t : Transform α) :
    Prop where
  stamp_eq : t.stamp = stamp
  forward : n.framePrefix ++ f ≠ n.inverseTarget → t.parent = n.framePrefix ++ edge.parent ∧
    t.child = n.framePrefix ++ f ∧ t.pose.HasNumbers edge.pose
  turned : n.framePrefix ++ f = n.inverseTarget → t.parent = n.framePrefix ++ f ∧
    t.child = n.framePrefix ++ edge.parent ∧ t.pose = edge.pose.pose.inverse ∧
      t.pose.HasTurnedNumbers edge.pose

theorem Edge.exists_shown (n : Naming) (stamp : Stamp) (f : String) (hp : edge.parent ≠ "") :
    ∃ t, edge.transform? n stamp f = some t ∧ edge.Shown n stamp f t := by
  by_cases ht : n.IsTarget f
  · refine ⟨_, Edge.transform?_of_target hp ht, rfl, fun hne => absurd ht hne, fun _ => ?_⟩
    exact ⟨rfl, rfl, rfl, Pose.hasTurnedNumbers edge.pose⟩
  · refine ⟨_, Edge.transform?_of_forward hp ht, rfl, fun _ => ?_, fun he => absurd he ht⟩
    exact ⟨rfl, rfl, Pose.hasNumbers edge.pose⟩

theorem EdgeMap.forall₂_shown (m : EdgeMap α) (n : Naming) (stamp : Stamp) :
    List.Forall₂ (fun entry t => entry.2.Shown n stamp entry.1 t) m.parented
      (m.transforms n stamp) := by
  rw [parented, transforms]
  induction m.entries with
  | nil => exact .nil
  | cons entry rest ih =>
    obtain ⟨f, edge⟩ := entry
    by_cases hp : edge.parent = ""
    · have hnone : edge.transform? n stamp f = none := if_pos hp
      rw [List.filter_cons_of_neg (by simpa using hp)]
      simp only [List.filterMap_cons, hnone]
      exact ih
    · obtain ⟨t, ht, hshown⟩ := edge.exists_shown n stamp f hp
      rw [List.filter_cons_of_pos (by simpa using hp)]
      simp only [List.filterMap_cons, ht]
      exact .cons hshown ih

/-- The edges with a parent, whatever they are, and the transforms belong together one to one: each
transform shows its edge at the corrected instant of acquisition. Exactly one thing becomes of the
inverse target. -/
theorem Snapshot.transforms_of_edges {ε : Type} {s : Snapshot α} {k : KinematicsReport α}
    (hk : s.kinematics = some k) (skew : Duration) (n : Naming) :
    ∃ log ts, (s.transforms skew n : Logged ε _) = ⟨log, .ok (some ts)⟩ ∧
      List.Forall₂ (fun entry t => entry.2.Shown n (k.acquired.corrected skew) entry.1 t)
        k.edges.parented ts ∧
      k.edges.parented.Nodup ∧
      (∀ f edge, (f, edge) ∈ k.edges.parented ↔
        k.edges.find? f = some edge ∧ edge.parent ≠ "") ∧
      ∃! fate : TargetFate, fate.Holds k.edges n log ∧ log.map Event.level = fate.levels := by
  refine ⟨_, _, transforms_of_some hk skew n, k.edges.forall₂_shown n _, ?_, fun f edge => ?_, ?_⟩
  · exact k.edges.nodup_keys.of_map.filter _
  · simp [EdgeMap.parented, EdgeMap.mem_entries_iff]
  · obtain ⟨fate, hfate⟩ := TargetFate.exists_holds k.edges n
    exact ⟨fate, ⟨hfate, hfate.levels_eq⟩, fun fate' hfate' => hfate'.1.unique hfate⟩

end Shown

/-- Moving parts whose two frames are each other's parents. -/
def circling : KinematicsReport Int :=
  { KinematicsReport.unset with
    edges := .ofList [("odom", ⟨"body", ⟨⟨1, 0, 0⟩, some ⟨1, 2, 3, 4⟩⟩⟩),
      ("body", ⟨"odom", .unset⟩)] }

/-- Both edges of the circle are published, and exactly one thing becomes of the target. -/
theorem circling_transforms : ∃ log ts,
    (({ kinematics := some circling } : Snapshot Int).transforms {} ⟨"spot/", "spot/odom"⟩ :
      Logged PathFault _) = ⟨log, .ok (some ts)⟩ ∧ ts.length = 2 ∧
    ∃! fate : TargetFate, fate.Holds circling.edges ⟨"spot/", "spot/odom"⟩ log ∧
      log.map Event.level = fate.levels := by
  obtain ⟨log, ts, heq, hshown, -, -, hfate⟩ :=
    Snapshot.transforms_of_edges (s := { kinematics := some circling }) rfl {}
      ⟨"spot/", "spot/odom"⟩
  have hlength : circling.edges.parented.length = 2 := by decide +kernel
  exact ⟨log, ts, heq, hshown.length_eq ▸ hlength, hfate⟩

/-! ## The inverse over exact numbers -/

section Exact

variable {R : Type} [CommRing R] {n : Naming} {f : String} {edge : Edge R}

/-- The rotation of an edge; one that is not set is the identity. -/
def Edge.rotation (edge : Edge R) : Quat R :=
  edge.pose.rotation.getD Quat.identity

/-- The transform of a turned edge and the pose of the edge undo each other up to the squared length
of its rotation, and so does turning round twice. For a unit quaternion nothing is left over. -/
theorem EdgeMap.turned_edge_inverts {m : EdgeMap R} (hf : m.find? f = some edge)
    (hp : edge.parent ≠ "") (ht : n.qualify f = n.inverseTarget) (stamp : Stamp) :
    ∃ x ∈ m.transforms n stamp, edge.transform? n stamp f = some x ∧
      (x.pose * edge.pose.pose).value = ⟨Vec3.zero, ⟨0, 0, 0, edge.rotation.normSq⟩⟩ ∧
      (edge.pose.pose * x.pose).value =
        ⟨(1 - edge.rotation.normSq ^ 2) • edge.pose.position,
          ⟨0, 0, 0, edge.rotation.normSq⟩⟩ ∧
      x.pose.inverse.value =
        ⟨edge.rotation.normSq ^ 2 • edge.pose.position, edge.rotation⟩ ∧
      (edge.rotation.normSq = 1 →
        (x.pose * edge.pose.pose).value = Pose.identity ∧
        (edge.pose.pose * x.pose).value = Pose.identity ∧
        x.pose.inverse.value = edge.pose.pose.value) := by
  have hpose : edge.pose.pose.value = ⟨edge.pose.position, edge.rotation⟩ :=
    Pose.value_pose edge.pose
  refine ⟨_, mem_transforms_of_target hf hp ht, Edge.transform?_of_target hp ht, ?_⟩
  simp only [Pose.value_mul, Pose.value_inverse, hpose]
  refine ⟨Pose.inverse_mul _, Pose.mul_inverse _, Pose.inverse_inverse _, fun unit => ?_⟩
  have rigid : (⟨edge.pose.position, edge.rotation⟩ : Pose R).Rigid := unit
  refine ⟨rigid.inverse_mul_self, rigid.mul_inverse_self, ?_⟩
  rw [Pose.inverse_inverse, unit, one_pow, Vec3.one_smul]

end Exact

/-- An edge whose rotation has the squared length four. -/
def tilted : EdgeMap Int :=
  .ofList [("odom", ⟨"body", ⟨⟨1, 2, 3⟩, some ⟨1, 1, 1, 1⟩⟩⟩)]

/-- Turning the tilted edge round twice moves it sixteen times as far. -/
theorem tilted_twice_turned : ∃ x ∈ tilted.transforms ⟨"", "odom"⟩ {},
    x.pose.inverse.value = ⟨⟨16, 32, 48⟩, ⟨1, 1, 1, 1⟩⟩ := by
  obtain ⟨x, hx, -, -, -, hback, -⟩ :=
    EdgeMap.turned_edge_inverts (m := tilted) (n := ⟨"", "odom"⟩) (f := "odom") rfl (by decide)
      (by decide) {}
  exact ⟨x, hx, hback.trans (by decide +kernel)⟩

end RobotTelemetry
