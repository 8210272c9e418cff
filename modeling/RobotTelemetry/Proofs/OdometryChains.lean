import Mathlib.Algebra.BigOperators.Group.List.Lemmas
import Mathlib.Algebra.BigOperators.Ring.List
import RobotTelemetry.Proofs.BodyRotation
import RobotTelemetry.Proofs.Walks
/-!
# The two chains of the odometry

The odometry of a snapshot is made of two climbs, from the anchor and from the body to the root of
the frame tree. No other edge is looked at: if two trees agree on the way up from a frame, a climb
in the one is the same climb in the other (`EdgeMap.Climb.agreeAbove_iff`), and so the odometry is
the same, whatever the arithmetic is (`Snapshot.odometry_of_chains`). Over exact numbers the squared
length of the orientation is the product of those along the two climbs, an edge on both counting
twice. The length that velocities are divided by is therefore zero exactly if an edge of a climb
reports a rotation of zeros (`Snapshot.odometry_length`).
-/

namespace RobotTelemetry

/-! ## Trees that agree on the way up -/

section Agreement

variable {α : Type}

/-- Two edges have the same parent, and the same pose unless they are edges of a root. -/
def Edge.Agree (edge edge' : Edge α) : Prop :=
  edge.parent = edge'.parent ∧ (edge.parent ≠ "" → edge.pose = edge'.pose)

theorem Edge.Agree.eq {edge edge' : Edge α} (h : edge.Agree edge') (hne : edge.parent ≠ "") :
    edge = edge' := by
  rw [Edge.mk.injEq]
  exact ⟨h.1, h.2 hne⟩

namespace EdgeMap

variable {m m' : EdgeMap α} {f p r : String} {steps : List (String × Edge α)}

/-- Two edge maps agree on all frames met when walking up from a frame. -/
def AgreeAbove (m m' : EdgeMap α) (f : String) : Prop :=
  ∀ g, Relation.ReflTransGen m.Parent f g → Option.Rel Edge.Agree (m.find? g) (m'.find? g)

theorem AgreeAbove.of_parent (h : m.AgreeAbove m' f) (hp : m.Parent f p) : m.AgreeAbove m' p :=
  fun g hg => h g (.head hp hg)

theorem AgreeAbove.exists_edge (h : m.AgreeAbove m' f) {edge : Edge α}
    (hf : m.find? f = some edge) : ∃ edge', m'.find? f = some edge' ∧ edge.Agree edge' := by
  have hrel := h f .refl
  rw [hf] at hrel
  generalize m'.find? f = found at hrel
  cases hrel with
  | some hagree => exact ⟨_, rfl, hagree⟩

/-- A climb is a climb in every map that agrees on the way up. -/
theorem Climb.of_agreeAbove (h : m.Climb f steps r) (agree : m.AgreeAbove m' f) :
    m'.Climb f steps r := by
  induction h with
  | root hr he =>
    obtain ⟨edge', hr', hagree⟩ := agree.exists_edge hr
    exact .root hr' (hagree.1 ▸ he)
  | up hf hne _ ih =>
    obtain ⟨edge', hf', hagree⟩ := agree.exists_edge hf
    obtain rfl := hagree.eq hne
    exact .up hf' hne (ih (agree.of_parent ⟨_, hf, hne, rfl⟩))

/-- Maps agree above a frame exactly if the climb from it is the same in both. -/
theorem Climb.agreeAbove_iff (h : m.Climb f steps r) :
    m.AgreeAbove m' f ↔ m'.Climb f steps r := by
  refine ⟨h.of_agreeAbove, fun h' g hg => ?_⟩
  induction h with
  | @root r edge hr he =>
    obtain ⟨edge', hr', he'⟩ := h'.isRoot
    obtain rfl | ⟨p, hp, -⟩ := hg.cases_head
    · rw [hr, hr']
      exact .some ⟨he.trans he'.symm, fun hne => absurd he hne⟩
    · exact absurd hp (IsRoot.not_parent ⟨edge, hr, he⟩)
  | @up f r edge steps hf hne _ ih =>
    cases h' with
    | up hf' _ hc' =>
      obtain rfl | ⟨p, hp, hg⟩ := hg.cases_head
      · rw [hf, hf']
        exact .some ⟨rfl, fun _ => rfl⟩
      · obtain rfl := hp.unique ⟨edge, hf, hne, rfl⟩
        exact ih hc' hg

variable [Add α] [Sub α] [Mul α] [Neg α] [IntCast α] {g r' : String}

/-- The pose of one frame relative to another is read off the edges above the two. -/
theorem RootedAt.exists_pose_of_agreeAbove (tree : m.RootedAt r) (tree' : m'.RootedAt r')
    (hf : f ∈ m.keys) (hg : g ∈ m.keys) (agree : m.AgreeAbove m' f)
    (agree' : m.AgreeAbove m' g) :
    ∃ pose, m.relativePose f g = .ok pose ∧ m'.relativePose f g = .ok pose := by
  obtain ⟨steps, hc⟩ := tree.climb hf
  obtain ⟨steps', hc'⟩ := tree.climb hg
  have there := hc.of_agreeAbove agree
  obtain rfl : r = r' := tree'.eq_of_isRoot there.isRoot
  exact ⟨_, relativePose_of_climb tree hc hc',
    relativePose_of_climb tree' there (hc'.of_agreeAbove agree')⟩

end EdgeMap

variable [Add α] [Sub α] [Mul α] [Neg α] [IntCast α] {s s' : Snapshot α}
  {k k' : KinematicsReport α} {anchor : Anchor} {r r' : String}

/-- Two snapshots whose moving parts were acquired at one instant with one velocity of the body have
the same odometry if their edges are trees that agree on the way up from the anchor and from the
body, which are frames of the first. -/
theorem Snapshot.odometry_of_chains (hk : s.kinematics = some k) (hk' : s'.kinematics = some k')
    (acquired : k.acquired = k'.acquired)
    (velocity : k.bodyVelocity anchor = k'.bodyVelocity anchor)
    (tree : k.edges.root? = some r) (tree' : k'.edges.root? = some r')
    (ha : anchor.frame ∈ k.edges.keys) (hb : bodyFrame ∈ k.edges.keys)
    (agree : k.edges.AgreeAbove k'.edges anchor.frame)
    (agree' : k.edges.AgreeAbove k'.edges bodyFrame) (skew : Duration) (framePrefix : String)
    (given : Option (StampedTwist α)) :
    ∃ o, s.odometry skew framePrefix anchor given = .ok (some o) ∧
      s'.odometry skew framePrefix anchor given = .ok (some o) := by
  obtain ⟨pose, hp, hp'⟩ := (EdgeMap.rootedAt_of_root? tree).exists_pose_of_agreeAbove
    (EdgeMap.rootedAt_of_root? tree') ha hb agree agree'
  have edges : s.edges = k.edges := by rw [Snapshot.edges, hk]
  have edges' : s'.edges = k'.edges := by rw [Snapshot.edges, hk']
  have twists : s.bodyTwist skew framePrefix anchor = s'.bodyTwist skew framePrefix anchor := by
    rw [bodyTwist, bodyTwist, hk, hk', Option.map_some, Option.map_some, acquired, velocity]
  obtain ⟨twist, ht⟩ :
      ∃ twist, given.or (s.bodyTwist skew framePrefix anchor) = some twist := by
    rw [bodyTwist, hk]
    cases given with
    | none => exact ⟨_, rfl⟩
    | some twist => exact ⟨twist, rfl⟩
  exact ⟨_, odometry_of_pose ht (edges ▸ hp), odometry_of_pose (twists ▸ ht) (edges' ▸ hp')⟩

end Agreement

/-! ### Frames beside the chains -/

/-- The anchor on a cart. -/
def anchorOnCart : String × Edge Float :=
  ("odom", ⟨"cart", ⟨⟨1, 2, 0⟩, some ⟨0, 0, 3, 4⟩⟩⟩)

/-- The body on the same cart. -/
def bodyOnCart : String × Edge Float :=
  ("body", ⟨"cart", ⟨⟨0, 1, 0⟩, none⟩⟩)

/-- Moving parts on a cart, with a hand on the body. -/
def handOnBody : KinematicsReport Float :=
  { KinematicsReport.unset with
    edges := .ofList [anchorOnCart, ("hand", ⟨"body", .unset⟩), bodyOnCart,
      ("cart", ⟨"", .unset⟩)] }

/-- The same parts in another order, with the hand on a lamp, on a cart that reports a pose. -/
def handOnLamp : KinematicsReport Float :=
  { KinematicsReport.unset with
    edges := .ofList [("cart", ⟨"", ⟨⟨7, 7, 7⟩, some ⟨0, 0, 0, 0⟩⟩⟩), ("lamp", ⟨"odom", .unset⟩),
      bodyOnCart, ("hand", ⟨"lamp", .unset⟩), anchorOnCart] }

/-- Neither the hand nor the pose of the cart makes a difference to the odometry. -/
theorem handOnBody_same_odometry :
    handOnBody.edges.AgreeAbove handOnLamp.edges "odom" ∧
      handOnBody.edges.AgreeAbove handOnLamp.edges "body" ∧
      ∃ o, ({ kinematics := some handOnBody } : Snapshot Float).odometry {} "spot/" .odom none =
          .ok (some o) ∧
        ({ kinematics := some handOnLamp } : Snapshot Float).odometry {} "spot/" .odom none =
          .ok (some o) := by
  have anchor : handOnBody.edges.Climb "odom" [anchorOnCart] "cart" :=
    .up rfl (by decide) (.root rfl rfl)
  have anchor' : handOnLamp.edges.Climb "odom" [anchorOnCart] "cart" :=
    .up rfl (by decide) (.root rfl rfl)
  have body : handOnBody.edges.Climb "body" [bodyOnCart] "cart" :=
    .up rfl (by decide) (.root rfl rfl)
  have body' : handOnLamp.edges.Climb "body" [bodyOnCart] "cart" :=
    .up rfl (by decide) (.root rfl rfl)
  have agree := anchor.agreeAbove_iff.2 anchor'
  have agree' := body.agreeAbove_iff.2 body'
  have tree : handOnBody.edges.root? = some "cart" := by decide +kernel
  have tree' : handOnLamp.edges.root? = some "cart" := by decide +kernel
  have acquired : handOnBody.acquired = handOnLamp.acquired := rfl
  have velocity : handOnBody.bodyVelocity .odom = handOnLamp.bodyVelocity .odom := rfl
  exact ⟨agree, agree', Snapshot.odometry_of_chains rfl rfl acquired velocity tree tree'
    anchor.mem_keys body.mem_keys agree agree' {} "spot/" none⟩

/-! ## The length of the orientation -/

section Length

variable {R : Type} [CommRing R]

/-- The squared length of the rotation of an edge; one that is not set counts as one. -/
def Edge.normSq (edge : Edge R) : R :=
  (edge.pose.rotation.map Quat.normSq).getD 1

/-- The edge reports a rotation, and all its numbers are zero. -/
def Edge.Collapsed (edge : Edge R) : Prop :=
  edge.pose.rotation = some ⟨0, 0, 0, 0⟩

theorem Edge.normSq_rotation (edge : Edge R) :
    edge.pose.pose.value.rotation.normSq = edge.normSq := by
  rw [Pose.value_pose, Edge.normSq]
  cases edge.pose.rotation with
  | none => exact Pose.rigid_identity
  | some q => rfl

theorem Edge.normSq_eq_one {edge : Edge R} (h : edge.pose.UnitOrUnset) : edge.normSq = 1 :=
  edge.normSq_rotation.symm.trans h.rigid

/-- The product of the squared lengths of all rotations on the way. -/
def EdgeMap.scale (steps : List (String × Edge R)) : R :=
  (steps.map fun step => step.2.normSq).prod

theorem EdgeMap.normSq_climbed (steps : List (String × Edge R)) (r : String) :
    (climbed steps r).rotation.normSq = scale steps := by
  induction steps with
  | nil => exact Pose.rigid_identity
  | cons step steps ih =>
    rw [climbed, Ascent.value_pose_cons, Pose.mul_def, Quat.normSq_mul, Edge.normSq_rotation,
      ← climbed, ih, mul_comm, scale, scale, List.map_cons, List.prod_cons]

theorem EdgeMap.scale_eq_one {steps : List (String × Edge R)}
    (h : ∀ step ∈ steps, step.2.pose.UnitOrUnset) : scale steps = 1 := by
  refine List.prod_eq_one fun c hc => ?_
  obtain ⟨step, hstep, rfl⟩ := List.mem_map.1 hc
  exact Edge.normSq_eq_one (h step hstep)

/-- Turning back by one climb and on by another multiplies the squared lengths along both. -/
theorem EdgeMap.normSq_relativePose {m : EdgeMap R} {f g : String} {pose : Pose (Component R)}
    (h : m.relativePose f g = .ok pose) : ∃ r steps steps', m.Climb f steps r ∧
      m.Climb g steps' r ∧ pose.value.rotation.normSq = scale (steps ++ steps') := by
  obtain ⟨r, steps, steps', -, hc, hc', rfl⟩ := relativePose_ok_cases h
  refine ⟨r, steps, steps', hc, hc', ?_⟩
  have back : (climbed steps r).inverse.rotation.normSq = (climbed steps r).rotation.normSq :=
    Quat.normSq_inverse _
  rw [Pose.value_mul, Pose.value_inverse, Pose.mul_def, Quat.normSq_mul]
  rw [← climbed, ← climbed, back, normSq_climbed, normSq_climbed, scale, scale, scale,
    List.map_append, List.prod_append]

variable {F : Type} [Field F] [LinearOrder F] [IsStrictOrderedRing F]

theorem Quat.normSq_eq_zero_iff {q : Quat F} : q.normSq = 0 ↔ q = ⟨0, 0, 0, 0⟩ := by
  constructor
  · intro h
    rw [normSq] at h
    have hw := mul_self_nonneg q.w
    have hx := mul_self_nonneg q.x
    have hy := mul_self_nonneg q.y
    have hz := mul_self_nonneg q.z
    ext
    · exact mul_self_eq_zero.1 (by linarith)
    · exact mul_self_eq_zero.1 (by linarith)
    · exact mul_self_eq_zero.1 (by linarith)
    · exact mul_self_eq_zero.1 (by linarith)
  · rintro rfl
    simp [normSq]

theorem Edge.normSq_eq_zero_iff {edge : Edge F} : edge.normSq = 0 ↔ edge.Collapsed := by
  rw [Edge.normSq, Collapsed]
  cases edge.pose.rotation with
  | none => simp
  | some q => simp [Quat.normSq_eq_zero_iff]

theorem EdgeMap.scale_eq_zero_iff {steps : List (String × Edge F)} :
    scale steps = 0 ↔ ∃ step ∈ steps, step.2.Collapsed := by
  rw [scale, List.prod_eq_zero_iff, List.mem_map]
  simp only [Edge.normSq_eq_zero_iff]

/-- The number is the length of a quaternion, which may be zero. -/
def Quat.HasNorm (q : Quat F) (n : F) : Prop :=
  0 ≤ n ∧ n * n = q.normSq

variable [SquareRoot F] {s : Snapshot F} {o : Odometry F} {n : F} {skew : Duration}
  {framePrefix : String} {anchor : Anchor} {given : Option (StampedTwist F)}

omit [IsStrictOrderedRing F] in
theorem Odometry.corrected_of_hasNorm (root : ∀ n : F, 0 ≤ n → SquareRoot.sqrt (n * n) = n)
    (h : o.orientation.HasNorm n) : o.corrected = o.inBody n := by
  have length : SquareRoot.sqrt o.orientation.normSq = n := by
    rw [← h.2, root n h.1]
  exact congrArg o.inBody length

/-- The squared length of the orientation of an odometry is the product of those of all edges with a
parent on the ways from the anchor and from the body to the root. So the length that velocities are
divided by is zero exactly if one of these edges has collapsed, and one if all are unit. -/
theorem Snapshot.odometry_length (root : ∀ n : F, 0 ≤ n → SquareRoot.sqrt (n * n) = n)
    (h : s.odometry skew framePrefix anchor given = .ok (some o)) :
    ∃ r steps steps', s.edges.Climb anchor.frame steps r ∧ s.edges.Climb bodyFrame steps' r ∧
      o.orientation.normSq = ((steps ++ steps').map fun step => step.2.normSq).prod ∧
      (∀ n, o.orientation.HasNorm n → o.corrected = o.inBody n ∧
        (n = 0 ↔ ∃ step ∈ steps ++ steps', step.2.Collapsed) ∧
        ((∀ step ∈ steps ++ steps', step.2.pose.UnitOrUnset) → n = 1)) ∧
      ((∃ step ∈ steps ++ steps', step.2.Collapsed) → o.orientation.HasNorm 0) ∧
      ((∀ step ∈ steps ++ steps', step.2.pose.UnitOrUnset) → o.orientation.HasNorm 1) := by
  obtain ⟨r, steps, steps', hc, hc', hnorm⟩ :=
    EdgeMap.normSq_relativePose (relativePose_of_odometry h)
  have scaled : o.orientation.normSq = EdgeMap.scale (steps ++ steps') := hnorm
  refine ⟨r, steps, steps', hc, hc', scaled, fun n hn => ?_, fun collapsed => ?_, fun unit => ?_⟩
  · refine ⟨Odometry.corrected_of_hasNorm root hn, ?_, fun unit => ?_⟩
    · rw [← EdgeMap.scale_eq_zero_iff, ← scaled, ← hn.2, mul_self_eq_zero]
    · have square : n * n = 1 := by rw [hn.2, scaled, EdgeMap.scale_eq_one unit]
      rcases mul_self_eq_one_iff.1 square with one | minus
      · exact one
      · exact absurd hn.1 (by rw [minus]; norm_num)
  · refine ⟨le_refl 0, ?_⟩
    rw [scaled, EdgeMap.scale_eq_zero_iff.2 collapsed, mul_zero]
  · refine ⟨zero_le_one, ?_⟩
    rw [scaled, EdgeMap.scale_eq_one unit, mul_one]

end Length

/-! ### A rotation of zeros -/

/-- Moving parts whose body reports a rotation of zeros, on a cart that is turned and stretched. -/
def stalled : KinematicsReport ℚ :=
  { KinematicsReport.unset with
    edges := .ofList [("odom", ⟨"", .unset⟩), ("cart", ⟨"odom", ⟨⟨1, 0, 0⟩, some ⟨1, 2, 2, 4⟩⟩⟩),
      ("body", ⟨"cart", ⟨⟨0, 1, 0⟩, some ⟨0, 0, 0, 0⟩⟩⟩)] }

/-- The velocity of the stalled body is divided by zero. -/
theorem stalled_divides_by_zero : (∀ n : ℚ, 0 ≤ n → SquareRoot.sqrt (n * n) = n) ∧
    ∃ o, ({ kinematics := some stalled } : Snapshot ℚ).odometry {} "" .odom none = .ok (some o) ∧
      o.orientation.HasNorm 0 ∧ o.corrected = o.inBody 0 := by
  have root : ∀ n : ℚ, 0 ≤ n → SquareRoot.sqrt (n * n) = n :=
    fun n hn => (Rat.sqrt_eq n).trans (abs_of_nonneg hn)
  have tree := EdgeMap.rootedAt_of_root? (m := stalled.edges) (r := "odom") (by decide +kernel)
  have body : stalled.edges.Climb "body" [("body", ⟨"cart", ⟨⟨0, 1, 0⟩, some ⟨0, 0, 0, 0⟩⟩⟩),
      ("cart", ⟨"odom", ⟨⟨1, 0, 0⟩, some ⟨1, 2, 2, 4⟩⟩⟩)] "odom" :=
    .up rfl (by decide) (.up rfl (by decide) (.root rfl rfl))
  obtain ⟨pose, hp⟩ := tree.relativePose_ok tree.mem_keys body.mem_keys
  have ho : ({ kinematics := some stalled } : Snapshot ℚ).odometry {} "" .odom none = _ :=
    Snapshot.odometry_of_pose rfl hp
  obtain ⟨r, steps, steps', -, hbody, -, divided, stops, -⟩ := Snapshot.odometry_length root ho
  obtain ⟨rfl, -⟩ := body.unique hbody
  have zero := stops ⟨_, List.mem_append_right _ List.mem_cons_self, rfl⟩
  exact ⟨root, _, ho, zero, (divided 0 zero).1⟩

end RobotTelemetry
