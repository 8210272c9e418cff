import RobotTelemetry.Proofs.BodyRotation
import RobotTelemetry.Proofs.MeasuredParts
import RobotTelemetry.Proofs.Poses
import RobotTelemetry.Proofs.Reading
import RobotTelemetry.Proofs.TransformTrees
/-!
# The edge of the anchor

If the body is the root of the frame tree and the anchor hangs right below it, the transform of the
anchor's edge, turned round, and the odometry say the same thing: where the body is in the frame of
the anchor. They are computed differently. The one inverts the reported pose. The other multiplies
that pose by the identity, inverts the product, and multiplies it by the climb of the body, which is
the identity again. They agree for any reported rotation, since the identity changes neither a
reported pose nor its inverse, not even in which of their parts are whole
(`Pose.Reported.mul_identity`). The main result is `anchor_edge_eq_odometry`.
-/

namespace RobotTelemetry

section Exact

variable {R : Type} [CommRing R]

theorem Component.eq_of_value {a b : Component R} (ha : a.isWhole = false)
    (hb : b.isWhole = false) (h : a.value = b.value) : a = b := by
  cases a with
  | whole m => cases ha
  | real x =>
    cases b with
    | whole n => cases hb
    | real y => exact congrArg Component.real h

/-- Measured vectors with the same values are equal. -/
theorem Vec3.Measured.eq_of_value {u v : Vec3 (Component R)} (hu : u.Measured) (hv : v.Measured)
    (h : u.map Component.value = v.map Component.value) : u = v :=
  Vec3.ext (Component.eq_of_value hu.x hv.x (congrArg Vec3.x h))
    (Component.eq_of_value hu.y hv.y (congrArg Vec3.y h))
    (Component.eq_of_value hu.z hv.z (congrArg Vec3.z h))

/-! ## Poses that can be reported -/

namespace Pose

/-- A pose that a report may give: its position is measured, and its rotation is measured or the
whole identity. -/
def Reported (p : Pose (Component R)) : Prop :=
  ∃ report : PoseReport R, report.pose = p

variable {p : Pose (Component R)}

theorem Reported.inverse (h : p.Reported) : p.inverse.Reported := by
  obtain ⟨report, rfl⟩ := h
  refine ⟨⟨report.pose.inverse.value.position, report.rotation.map Quat.inverse⟩,
    Pose.ext_iff.2 ⟨?_, ?_⟩⟩
  · have turned := (Vec3.measured_map_real report.position).rotate report.pose.rotation.inverse
    exact (Vec3.measured_map_real _).eq_of_value turned.neg rfl
  · obtain ⟨v, _ | q⟩ := report
    · rfl
    · rfl

/-- Moving on by nothing keeps every number of a pose, and which of them are whole. -/
theorem Reported.mul_identity (h : p.Reported) : p * identity = p := by
  obtain ⟨report, rfl⟩ := h
  have values : (report.pose * identity).value = report.pose.value := by
    rw [value_mul, value_identity, Pose.mul_identity]
  refine Pose.ext_iff.2 ⟨?_, ?_⟩
  · have measured := Vec3.measured_map_real report.position
    exact (measured.add _).eq_of_value measured (congrArg Pose.position values)
  · obtain ⟨v, _ | q⟩ := report
    · rfl
    · exact congrArg (Quat.map Component.real) (Quat.mul_identity q)

end Pose

/-! ## The transform of an edge below the root -/

/-- If no two transforms have the same child, each is the only one with its child. -/
theorem Transform.filter_child_eq {α : Type} {ts : List (Transform α)} {t : Transform α}
    (nodup : (ts.map (·.child)).Nodup) (ht : t ∈ ts) :
    ts.filter (·.child = t.child) = [t] := by
  refine List.perm_singleton.1 ?_
  rw [List.perm_ext_iff_of_nodup (nodup.of_map.filter _) (List.nodup_singleton t)]
  intro t'
  rw [List.mem_filter, List.mem_singleton, decide_eq_true_iff]
  constructor
  · rintro ⟨ht', hchild⟩
    exact List.inj_on_of_nodup_map nodup ht' ht hchild
  · rintro rfl
    exact ⟨ht, rfl⟩

namespace EdgeMap

variable {m : EdgeMap R} {n : Naming} {f p : String} {edge : Edge R}

/-- If the inverse target hangs right below a root, the root is the child of one transform, the
turned edge of the target. -/
theorem filter_child_of_target (hf : m.find? f = some edge) (hne : edge.parent ≠ "")
    (hroot : m.IsRoot edge.parent) (ht : n.IsTarget f) (stamp : Stamp) :
    (m.transforms n stamp).filter (·.child = n.qualify edge.parent) =
      [⟨stamp, n.qualify f, n.qualify edge.parent, edge.pose.pose.inverse⟩] := by
  have good : ∀ f' p, ¬ m.DeepTarget n f' p := by
    rintro f' p ⟨ht', hp, g, hg⟩
    obtain rfl := ht'.unique ht
    obtain rfl := hp.unique ⟨edge, hf, hne, rfl⟩
    exact hroot.not_parent hg
  exact Transform.filter_child_eq (nodup_children good) (mem_transforms_of_target hf hne ht)

/-- A frame right below a root stands in it as its edge reports, and the root in it the other way
round. -/
theorem relativePose_of_below_root {pose : Pose (Component R)} (hf : m.find? f = some edge)
    (hne : edge.parent ≠ "") (hroot : m.IsRoot edge.parent)
    (h : m.relativePose f edge.parent = .ok pose) : pose = edge.pose.pose.inverse := by
  obtain ⟨r, steps, steps', -, hc, hc', rfl⟩ := relativePose_ok_cases h
  obtain ⟨edge', hr, he⟩ := hroot
  have below : m.Climb f [(f, edge)] edge.parent := .up hf hne (.root hr he)
  obtain ⟨rfl, rfl⟩ := below.unique hc
  obtain ⟨rfl, -⟩ := (Climb.root hr he).unique hc'
  have reported : edge.pose.pose.Reported := ⟨edge.pose, rfl⟩
  calc (edge.pose.pose * Pose.identity).inverse * Pose.identity
      = edge.pose.pose.inverse * Pose.identity := by rw [reported.mul_identity]
    _ = edge.pose.pose.inverse := reported.inverse.mul_identity

end EdgeMap

/-! ## Main result -/

variable [Div R] [LT R] [DecidableLT R] [OfScientific R] [SquareRoot R] {s : Snapshot R}
  {skew : Duration} {options : Options} {state : RobotState R}

/-- If the body is the root and the parent of the anchor, and the anchor is the inverse target, then
exactly one transform has the body as its child, and it says what the odometry says, for any
rotation that the anchor reports. -/
theorem anchor_edge_eq_odometry (hs : (s.toState skew options).outcome = .ok state)
    (hroot : s.edges.IsRoot bodyFrame) (hp : s.edges.Parent options.anchor.frame bodyFrame)
    (ht : options.inverseTarget = options.framePrefix ++ options.anchor.frame) :
    ∃ ts t o, state.transforms = some ts ∧ state.odometry = some o ∧
      ts.filter (·.child = options.framePrefix ++ bodyFrame) = [t] ∧
      Transform.find? ts (options.framePrefix ++ bodyFrame) = some t ∧
      t.stamp = o.stamp ∧ t.parent = o.frame ∧ t.child = o.childFrame ∧ t.pose = o.pose := by
  obtain ⟨edge, hf, hne, hbody⟩ := hp
  obtain ⟨hnone, -⟩ | ⟨k, pose, joints, hk, hpose, -, rfl⟩ := Snapshot.toState_ok_cases hs
  · obtain ⟨edge', hr, -⟩ := hroot
    rw [Snapshot.edges, hnone] at hr
    cases hr
  rw [Snapshot.edges, hk] at hf hroot
  rw [← hbody] at hroot hpose
  have htarget : options.IsTarget options.anchor.frame := ht.symm
  have only := EdgeMap.filter_child_of_target hf hne hroot htarget (k.acquired.corrected skew)
  rw [hbody] at only
  refine ⟨_, _, _, rfl, rfl, only, ?_, rfl, rfl, rfl, ?_⟩
  · rw [Transform.find?, ← List.head?_filter]
    exact congrArg List.head? only
  · exact (EdgeMap.relativePose_of_below_root hf hne hroot hpose).symm

end Exact

/-! ### A stretched anchor -/

/-- Moving parts whose anchor hangs below the body with a rotation of length five, above a foot. -/
def stretched : KinematicsReport ℚ :=
  { KinematicsReport.unset with
    edges := .ofList [("odom", ⟨"body", ⟨⟨1, 2, 0⟩, some ⟨1, 2, 2, 4⟩⟩⟩),
      ("foot", ⟨"odom", ⟨⟨0, 0, 1⟩, none⟩⟩), ("body", ⟨"", .unset⟩)] }

/-- Neither the turned edge nor the odometry makes the rotation shorter. -/
theorem stretched_anchor_edge :
    stretched.edges.IsRoot bodyFrame ∧ stretched.edges.Parent "odom" bodyFrame ∧
      ∃ state ts t o, (({ kinematics := some stretched } : Snapshot ℚ).toState {}
          ⟨⟨"spot/", "spot/odom"⟩, .odom⟩).outcome = .ok state ∧
        state.transforms = some ts ∧ state.odometry = some o ∧
        ts.filter (·.child = "spot/body") = [t] ∧ Transform.find? ts "spot/body" = some t ∧
        t.stamp = o.stamp ∧ t.parent = o.frame ∧ t.child = o.childFrame ∧ t.pose = o.pose := by
  have isRoot : stretched.edges.IsRoot bodyFrame := ⟨_, rfl, rfl⟩
  have parent : stretched.edges.Parent "odom" bodyFrame := ⟨_, rfl, by decide, rfl⟩
  have root : stretched.edges.root? = some bodyFrame := by decide +kernel
  have hodom : "odom" ∈ stretched.edges.keys := by decide +kernel
  have hbody : bodyFrame ∈ stretched.edges.keys := by decide +kernel
  obtain ⟨pose, ok⟩ := Snapshot.exists_assembled (s := { kinematics := some stretched }) {}
    ⟨⟨"spot/", "spot/odom"⟩, .odom⟩ rfl root hodom hbody rfl
  obtain ⟨ts, t, o, edge⟩ := anchor_edge_eq_odometry ok isRoot parent rfl
  exact ⟨isRoot, parent, _, ts, t, o, ok, edge⟩

end RobotTelemetry
