import Mathlib.Analysis.Real.Sqrt
import RobotTelemetry.Proofs.Poses
import RobotTelemetry.Proofs.Reading
/-!
# Walks through the published transforms

The transforms and the odometry of a robot state describe one geometry. A walk goes through the
transforms in either direction and multiplies their poses. In a tree every frame `f` has a pose in
the frame of the root, and a step of a walk takes the pose of its start to the pose of its end,
whichever way round the edge was published. So the product along a walk is the inverse of the first
pose times the last, however the walk goes, and between the anchor and the body this is the pose of
the odometry (`walk_product_eq_odometry`).
-/

namespace RobotTelemetry

variable {R : Type} [CommRing R]

/-! ## Walks -/

namespace Transform

/-- A walk through transforms with the product of its steps: from parent to child by the pose of a
transform, from child to parent by its inverse. -/
inductive Walk (ts : List (Transform R)) (a : String) : String → Pose R → Prop
  | nil : Walk ts a a Pose.identity
  | down {p : Pose R} {t : Transform R} :
      Walk ts a t.parent p → t ∈ ts → Walk ts a t.child (p * t.pose.value)
  | up {p : Pose R} {t : Transform R} :
      Walk ts a t.child p → t ∈ ts → Walk ts a t.parent (p * t.pose.value.inverse)

variable {ts : List (Transform R)} {a b c : String} {p q : Pose R}

theorem Walk.trans (h : Walk ts a b p) (h' : Walk ts b c q) : Walk ts a c (p * q) := by
  induction h' with
  | nil => rwa [Pose.mul_identity]
  | down _ ht ih =>
    rw [← Pose.mul_assoc]
    exact ih.down ht
  | up _ ht ih =>
    rw [← Pose.mul_assoc]
    exact ih.up ht

/-- There is a walk between two frames. -/
def Linked (ts : List (Transform R)) (a b : String) : Prop :=
  ∃ p, Walk ts a b p

theorem Linked.trans (h : Linked ts a b) (h' : Linked ts b c) : Linked ts a c := by
  obtain ⟨p, hp⟩ := h
  obtain ⟨q, hq⟩ := h'
  exact ⟨p * q, hp.trans hq⟩

theorem linked_of_mem {t : Transform R} (ht : t ∈ ts) :
    Linked ts t.parent t.child ∧ Linked ts t.child t.parent :=
  ⟨⟨_, Walk.nil.down ht⟩, ⟨_, Walk.nil.up ht⟩⟩

end Transform

/-! ## Poses in the frame of the root -/

/-- The rotation of a reported pose is missing or a unit quaternion. -/
def PoseReport.UnitOrUnset (p : PoseReport R) : Prop :=
  ∀ q, p.rotation = some q → q.normSq = 1

theorem PoseReport.UnitOrUnset.rigid {p : PoseReport R} (h : p.UnitOrUnset) :
    p.pose.value.Rigid := by
  rw [Pose.Rigid, Pose.value_pose]
  rcases hq : p.rotation with _ | q
  · exact Pose.rigid_identity
  · exact h q hq

namespace Ascent

variable {f r : String} {edge : Edge R} {steps : List (String × Edge R)}

/-- The pose of the frame where a walk starts, as exact numbers. -/
theorem value_foldl (steps : List (String × Edge R)) (x : Pose (Component R)) :
    (steps.foldl (fun pose step => step.2.pose.pose * pose) x).value =
      (steps.foldl (fun pose step => step.2.pose.pose * pose) Pose.identity).value * x.value := by
  induction steps generalizing x with
  | nil => rw [List.foldl_nil, List.foldl_nil, Pose.value_identity, Pose.identity_mul]
  | cons step steps ih =>
    rw [List.foldl_cons, List.foldl_cons, ih, ih (step.2.pose.pose * Pose.identity),
      Pose.value_mul, Pose.value_mul, Pose.value_identity, Pose.mul_identity, Pose.mul_assoc]

/-- The pose of a frame is the pose of its parent times that of its edge. -/
theorem value_pose_cons : (⟨(f, edge) :: steps, r⟩ : Ascent R).pose.value =
    (⟨steps, r⟩ : Ascent R).pose.value * edge.pose.pose.value := by
  rw [pose, List.foldl_cons, value_foldl, Pose.value_mul, Pose.value_identity, Pose.mul_identity]
  rfl

end Ascent

namespace EdgeMap

variable {m : EdgeMap R} {n : Naming} {stamp : Stamp} {f r c : String} {p : Pose R}
  {steps : List (String × Edge R)} {t : Transform R}

/-- The rotations of all edges with a parent are missing or unit quaternions. -/
def UnitEdges (m : EdgeMap R) : Prop :=
  ∀ f edge, m.find? f = some edge → edge.parent ≠ "" → edge.pose.UnitOrUnset

/-- The pose of a frame in the frame of the root, for a climb with the given steps. -/
def climbed (steps : List (String × Edge R)) (r : String) : Pose R :=
  (⟨steps, r⟩ : Ascent R).pose.value

theorem climbed_rigid (hu : m.UnitEdges) (h : m.Climb f steps r) : (climbed steps r).Rigid := by
  induction h with
  | root => exact Pose.rigid_identity
  | up hf hne _ ih =>
    rw [climbed, Ascent.value_pose_cons]
    exact ih.mul (hu _ _ hf hne).rigid

/-- A published transform takes the pose of its parent to the pose of its child, whichever way round
its edge was published. -/
theorem climbed_mul_of_mem_transforms (hu : m.UnitEdges) (tree : m.RootedAt r)
    (ht : t ∈ m.transforms n stamp) : t.pose.value.Rigid ∧
      ∃ f g steps steps', t.parent = n.qualify f ∧ t.child = n.qualify g ∧ m.Climb f steps r ∧
        m.Climb g steps' r ∧ climbed steps r * t.pose.value = climbed steps' r := by
  obtain ⟨f, edge, hf, hne, hends⟩ := mem_transforms_cases ht
  obtain ⟨steps, hc⟩ := tree.climb (tree.parent_mem_keys ⟨edge, hf, hne, rfl⟩)
  have hc' : m.Climb f ((f, edge) :: steps) r := .up hf hne hc
  have hrigid := (hu f edge hf hne).rigid
  obtain ⟨-, rfl⟩ | ⟨-, rfl⟩ := hends
  · exact ⟨hrigid, edge.parent, f, steps, _, rfl, rfl, hc, hc', Ascent.value_pose_cons.symm⟩
  · refine ⟨?_, f, edge.parent, _, steps, rfl, rfl, hc', hc, ?_⟩
    · rw [Pose.value_inverse]
      exact hrigid.inverse
    · rw [climbed, Ascent.value_pose_cons, Pose.value_inverse, Pose.mul_assoc,
        hrigid.mul_inverse_self, Pose.mul_identity, climbed]

/-- A walk that starts at a frame takes the pose of this frame to the pose of the frame where it
ends. -/
theorem climbed_mul_of_walk (hu : m.UnitEdges) (tree : m.RootedAt r) (hc : m.Climb f steps r)
    (hw : Transform.Walk (m.transforms n stamp) (n.qualify f) c p) :
    ∃ g steps', c = n.qualify g ∧ m.Climb g steps' r ∧ climbed steps r * p = climbed steps' r := by
  induction hw with
  | nil => exact ⟨f, steps, rfl, hc, Pose.mul_identity _⟩
  | @down p t _ ht ih =>
    obtain ⟨g, steps₁, hg, hc₁, heq⟩ := ih
    obtain ⟨-, f', g', steps₂, steps₃, hf', hg', hc₂, hc₃, hstep⟩ :=
      climbed_mul_of_mem_transforms hu tree ht
    obtain rfl : g = f' := Naming.qualify_inj.1 (hg.symm.trans hf')
    obtain ⟨rfl, -⟩ := hc₁.unique hc₂
    exact ⟨g', steps₃, hg', hc₃, by rw [← Pose.mul_assoc, heq, hstep]⟩
  | @up p t _ ht ih =>
    obtain ⟨g, steps₁, hg, hc₁, heq⟩ := ih
    obtain ⟨hrigid, f', g', steps₂, steps₃, hf', hg', hc₂, hc₃, hstep⟩ :=
      climbed_mul_of_mem_transforms hu tree ht
    obtain rfl : g = g' := Naming.qualify_inj.1 (hg.symm.trans hg')
    obtain ⟨rfl, -⟩ := hc₁.unique hc₃
    refine ⟨f', steps₂, hf', hc₂, ?_⟩
    rw [← Pose.mul_assoc, heq, ← hstep, Pose.mul_assoc, hrigid.mul_inverse_self, Pose.mul_identity]

/-- A frame and its parent are joined by the transform that their edge is published as. -/
theorem linked_parent {p : String} (n : Naming) (stamp : Stamp) (hp : m.Parent f p) :
    Transform.Linked (m.transforms n stamp) (n.qualify f) (n.qualify p) ∧
      Transform.Linked (m.transforms n stamp) (n.qualify p) (n.qualify f) := by
  obtain ⟨edge, hf, hne, rfl⟩ := hp
  by_cases ht : n.IsTarget f
  · exact Transform.linked_of_mem (mem_transforms_of_target hf hne ht)
  · exact (Transform.linked_of_mem (mem_transforms_of_forward hf hne ht)).symm

/-- A frame that can be climbed from is linked with the root. -/
theorem linked_root (n : Naming) (stamp : Stamp) (h : m.Climb f steps r) :
    Transform.Linked (m.transforms n stamp) (n.qualify f) (n.qualify r) ∧
      Transform.Linked (m.transforms n stamp) (n.qualify r) (n.qualify f) := by
  induction h with
  | root => exact ⟨⟨_, .nil⟩, ⟨_, .nil⟩⟩
  | up hf hne _ ih =>
    obtain ⟨hup, hdown⟩ := linked_parent n stamp ⟨_, hf, hne, rfl⟩
    exact ⟨hup.trans ih.1, ih.2.trans hdown⟩

end EdgeMap

/-! ## Main result -/

section Main

variable [Div R] [LT R] [DecidableLT R] [OfScientific R] [SquareRoot R] {s : Snapshot R}
  {k : KinematicsReport R} {skew : Duration} {options : Options} {state : RobotState R}

/-- Over exact numbers, if all rotations are unit quaternions or unset, there is a walk through the
published transforms from the anchor to the body, and the product along every such walk is the pose
of the odometry. All transforms have the stamp of the odometry. -/
theorem walk_product_eq_odometry (hk : s.kinematics = some k) (hu : k.edges.UnitEdges)
    (hs : (s.toState skew options).outcome = .ok state) :
    ∃ ts odometry, state.transforms = some ts ∧ state.odometry = some odometry ∧
      (∃ p, Transform.Walk ts (options.framePrefix ++ options.anchor.frame)
        (options.framePrefix ++ bodyFrame) p) ∧
      (∀ p, Transform.Walk ts (options.framePrefix ++ options.anchor.frame)
        (options.framePrefix ++ bodyFrame) p → p = odometry.pose.value) ∧
      ∀ t ∈ ts, t.stamp = odometry.stamp := by
  obtain ⟨hnone, -⟩ | ⟨k', pose, joints, hk', hpose, -, rfl⟩ := Snapshot.toState_ok_cases hs
  · rw [hk] at hnone
    cases hnone
  obtain rfl : k = k' := Option.some.inj (hk.symm.trans hk')
  obtain ⟨r, steps, steps', tree, ha, hb, rfl⟩ := EdgeMap.relativePose_ok_cases hpose
  refine ⟨_, _, rfl, rfl, ?_, fun p hw => ?_, fun t ht => EdgeMap.stamp_of_mem_transforms ht⟩
  · have hup := (EdgeMap.linked_root options.toNaming (k.acquired.corrected skew) ha).1
    have hdown := (EdgeMap.linked_root options.toNaming (k.acquired.corrected skew) hb).2
    exact hup.trans hdown
  · obtain ⟨g, steps₁, hg, hc, heq⟩ := EdgeMap.climbed_mul_of_walk hu tree ha hw
    obtain rfl : bodyFrame = g := Naming.qualify_inj.1 hg
    obtain ⟨rfl, -⟩ := hb.unique hc
    calc p = (EdgeMap.climbed steps r).inverse * EdgeMap.climbed steps' r :=
          (EdgeMap.climbed_rigid hu ha).eq_inverse_mul heq
      _ = ((⟨steps, r⟩ : Ascent R).pose.inverse * (⟨steps', r⟩ : Ascent R).pose).value := by
          rw [Pose.value_mul, Pose.value_inverse, EdgeMap.climbed, EdgeMap.climbed]

end Main

/-! ### A turned body -/

noncomputable instance instSquareRootReal : SquareRoot ℝ := ⟨Real.sqrt⟩

/-- Moving parts whose body is turned in the frame of the odometry, with a foot below the body. -/
noncomputable def turned : KinematicsReport ℝ :=
  { KinematicsReport.unset with
    edges := .ofList [
      ("odom", ⟨"body", ⟨1, 2, 0⟩, some ⟨0, 0, 3 / 5, 4 / 5⟩⟩),
      ("foot", ⟨"odom", ⟨0, 0, 1⟩, none⟩),
      ("body", ⟨"", ⟨0, 0, 0⟩, none⟩)] }

theorem turned_unitEdges : turned.edges.UnitEdges := by
  intro f edge hf hne q hq
  have mem := EdgeMap.mem_entries_iff.2 hf
  simp only [turned, EdgeMap.ofList, EdgeMap.insert, EdgeMap.insertEntry, EdgeMap.empty,
    List.foldl_cons, List.foldl_nil, String.reduceEq, if_false, List.mem_cons, List.not_mem_nil,
    or_false, Prod.mk.injEq] at mem
  obtain ⟨-, rfl⟩ | ⟨-, rfl⟩ | ⟨-, rfl⟩ := mem
  · obtain rfl := Option.some.inj hq
    norm_num [Quat.normSq]
  · cases hq
  · cases hq

/-- The edge of the anchor is published turned round, and the walk over it still gives the pose of
the odometry. -/
theorem turned_walk_product : ∃ state ts odometry,
    (({ kinematics := some turned } : Snapshot ℝ).toState {}
      ⟨⟨"spot/", "spot/odom"⟩, .odom⟩).outcome = .ok state ∧
    turned.edges.UnitEdges ∧ state.transforms = some ts ∧ state.odometry = some odometry ∧
      (∃ p, Transform.Walk ts "spot/odom" "spot/body" p) ∧
      (∀ p, Transform.Walk ts "spot/odom" "spot/body" p → p = odometry.pose.value) ∧
      ∀ t ∈ ts, t.stamp = odometry.stamp := by
  have root : turned.edges.root? = some "body" := by decide +kernel
  have tree := EdgeMap.rootedAt_of_root? root
  have hodom : "odom" ∈ turned.edges.keys := by decide +kernel
  obtain ⟨pose, hp⟩ := tree.relativePose_ok hodom tree.mem_keys
  have hs : ({ kinematics := some turned } : Snapshot ℝ).toState {}
      ⟨⟨"spot/", "spot/odom"⟩, .odom⟩ = _ := Snapshot.toState_of_ok rfl hp rfl
  have ok := congrArg Logged.outcome hs
  obtain ⟨ts, odometry, hts, ho, hwalk⟩ := walk_product_eq_odometry rfl turned_unitEdges ok
  exact ⟨_, ts, odometry, ok, turned_unitEdges, hts, ho, hwalk⟩

end RobotTelemetry
