import Mathlib.Data.List.Forall2
import RobotTelemetry.Proofs.Publication
import RobotTelemetry.State.OfSnapshot
/-!
# How a snapshot is read

`Snapshot.toState` places the body, then reads the joints, then publishes the frames. Without moving
parts it does none of this (`toState_of_none`). With moving parts it stops at the first of the two
checks that fails, with nothing reported (`toState_of_fault`, `toState_of_unknown`), or reports what
the publication reports and then the summary (`toState_of_ok`).
-/

namespace RobotTelemetry

/-- The odometry of moving parts whose body stands at a given pose in the frame of the anchor. -/
def KinematicsReport.odometryAt {α : Type} (k : KinematicsReport α) (skew : Duration)
    (options : Options) (pose : Pose (Component α)) : Odometry α :=
  ⟨k.acquired.corrected skew, options.framePrefix ++ options.anchor.frame,
    options.framePrefix ++ bodyFrame, pose, k.bodyVelocity options.anchor⟩

namespace Snapshot

variable {α : Type} [Add α] [Sub α] [Mul α] [Neg α] [IntCast α] {s : Snapshot α}
  {k : KinematicsReport α} {skew : Duration} {options : Options}

/-! ## The parts that can fail -/

theorem odometryFor_of_none (h : s.kinematics = none) : s.odometryFor skew options = .ok none := by
  simp [odometryFor, odometry, bodyTwist, h, Except.mapError]

theorem odometryFor_of_fault (h : s.kinematics = some k) {fault : PathFault}
    (hp : k.edges.relativePose options.anchor.frame bodyFrame = .error fault) :
    s.odometryFor skew options = .error (.missingAnchor options.anchor.frame fault) := by
  simp [odometryFor, odometry, odometryWith, edges, bodyTwist, h, hp, Except.mapError, Except.map]

theorem odometryFor_of_ok (h : s.kinematics = some k) {pose : Pose (Component α)}
    (hp : k.edges.relativePose options.anchor.frame bodyFrame = .ok pose) :
    s.odometryFor skew options = .ok (some (k.odometryAt skew options pose)) := by
  simp [odometryFor, odometry, odometryWith, edges, bodyTwist, h, hp, Except.mapError, Except.map,
    KinematicsReport.odometryAt]

/-- Once the body is placed, any velocity has an odometry that belongs to it. -/
theorem odometry_of_pose {framePrefix : String} {anchor : Anchor}
    {given : Option (StampedTwist α)} {twist : StampedTwist α}
    (ht : given.or (s.bodyTwist skew framePrefix anchor) = some twist) {pose : Pose (Component α)}
    (hp : s.edges.relativePose anchor.frame bodyFrame = .ok pose) :
    s.odometry skew framePrefix anchor given =
      .ok (some ⟨twist.stamp, twist.frame, framePrefix ++ bodyFrame, pose, twist.twist⟩) := by
  simp [odometry, odometryWith, ht, hp, Except.map]

theorem relativePose_of_odometry {framePrefix : String} {anchor : Anchor}
    {given : Option (StampedTwist α)} {o : Odometry α}
    (h : s.odometry skew framePrefix anchor given = .ok (some o)) :
    s.edges.relativePose anchor.frame bodyFrame = .ok o.pose := by
  unfold odometry odometryWith at h
  split at h
  · cases h
  · cases hp : s.edges.relativePose anchor.frame bodyFrame with
    | error fault =>
      rw [hp] at h
      cases h
    | ok pose =>
      rw [hp] at h
      cases h
      rfl

omit [Add α] [Sub α] [Mul α] [Neg α] in
theorem jointStates_of_none (h : s.kinematics = none) (skew : Duration) (framePrefix : String) :
    s.jointStates skew framePrefix = .ok none := by
  rw [jointStates, h]

omit [Add α] [Sub α] [Mul α] [Neg α] in
theorem jointStates_of_error (h : s.kinematics = some k) {framePrefix id : String}
    (hj : k.jointStates skew framePrefix = .error id) :
    s.jointStates skew framePrefix = .error (.unknownJoint id) := by
  simp [jointStates, h, hj, Except.mapError, Except.map]

omit [Add α] [Sub α] [Mul α] [Neg α] in
theorem jointStates_of_ok (h : s.kinematics = some k) {framePrefix : String} {joints : JointStates α}
    (hj : k.jointStates skew framePrefix = .ok joints) :
    s.jointStates skew framePrefix = .ok (some joints) := by
  simp [jointStates, h, hj, Except.mapError, Except.map]

end Snapshot

/-! ## Joints that are read -/

/-- If all items of a list are read, each result is that of the item in its place. -/
theorem forall₂_of_mapM_ok {ε β γ : Type} {f : β → Except ε γ} {xs : List β} {ys : List γ}
    (h : xs.mapM f = .ok ys) : List.Forall₂ (fun x y => f x = .ok y) xs ys := by
  induction xs generalizing ys with
  | nil =>
    cases h
    exact .nil
  | cons x xs ih =>
    rw [List.mapM_cons] at h
    cases hx : f x with
    | error e =>
      rw [hx] at h
      cases h
    | ok y =>
      cases hs : xs.mapM f with
      | error e =>
        rw [hx, hs] at h
        cases h
      | ok ys =>
        rw [hx, hs] at h
        cases h
        exact .cons hx (ih hs)

section Joints

variable {α : Type} [IntCast α] {framePrefix : String}

theorem JointReport.state_ok_cases {j : JointReport α} {state : JointState α}
    (h : j.state framePrefix = .ok state) : ∃ joint, Joint.ofId? j.id = some joint ∧
      state = ⟨joint.qualifiedName framePrefix, j.position.value, j.velocity.value,
        j.load.value⟩ := by
  unfold JointReport.state at h
  split at h
  · cases h
  · next joint hj =>
    cases h
    exact ⟨joint, hj, rfl⟩

theorem KinematicsReport.jointStates_ok_cases {k : KinematicsReport α} {skew : Duration}
    {joints : JointStates α} (h : k.jointStates skew framePrefix = .ok joints) :
    joints.stamp = k.acquired.corrected skew ∧
      List.Forall₂ (fun j state => j.state framePrefix = .ok state) k.joints joints.joints := by
  unfold jointStates at h
  cases hs : k.joints.mapM (JointReport.state framePrefix) with
  | error id =>
    rw [hs] at h
    cases h
  | ok states =>
    rw [hs] at h
    cases h
    exact ⟨rfl, forall₂_of_mapM_ok hs⟩

end Joints

namespace Snapshot

variable {α : Type} [Add α] [Sub α] [Mul α] [Neg α] [IntCast α] {s : Snapshot α}
  {k : KinematicsReport α} {skew : Duration} {options : Options}

/-! ## The whole reading -/

variable [Div α] [LT α] [DecidableLT α] [OfScientific α] [SquareRoot α]

theorem toState_of_none (h : s.kinematics = none) (skew : Duration) (options : Options) :
    s.toState skew options =
      ⟨[(s.assemble skew options none none none).summary options],
        .ok (s.assemble skew options none none none)⟩ := by
  simp [toState, bind, pure, Logged.andThen, Logged.ofExcept, Logged.report,
    odometryFor_of_none h, jointStates_of_none h, transforms_of_none h]

theorem toState_of_fault (h : s.kinematics = some k) {fault : PathFault}
    (hp : k.edges.relativePose options.anchor.frame bodyFrame = .error fault) (skew : Duration) :
    s.toState skew options = ⟨[], .error (.missingAnchor options.anchor.frame fault)⟩ := by
  simp [toState, bind, Logged.andThen, Logged.ofExcept, odometryFor_of_fault h hp]

theorem toState_of_unknown (h : s.kinematics = some k) {pose : Pose (Component α)}
    (hp : k.edges.relativePose options.anchor.frame bodyFrame = .ok pose) {id : String}
    (hj : k.jointStates skew options.framePrefix = .error id) :
    s.toState skew options = ⟨[], .error (.unknownJoint id)⟩ := by
  simp [toState, bind, Logged.andThen, Logged.ofExcept, odometryFor_of_ok h hp,
    jointStates_of_error h hj]

/-- The robot state of a snapshot with moving parts that pass both checks. -/
def assembled (s : Snapshot α) (k : KinematicsReport α) (skew : Duration) (options : Options)
    (pose : Pose (Component α)) (joints : JointStates α) : RobotState α :=
  s.assemble skew options (some (k.odometryAt skew options pose)) (some joints)
    (some (k.edges.transforms options.toNaming (k.acquired.corrected skew)))

theorem toState_of_ok (h : s.kinematics = some k) {pose : Pose (Component α)}
    (hp : k.edges.relativePose options.anchor.frame bodyFrame = .ok pose) {joints : JointStates α}
    (hj : k.jointStates skew options.framePrefix = .ok joints) :
    s.toState skew options =
      ⟨k.edges.events options.toNaming ++ [(s.assembled k skew options pose joints).summary options],
        .ok (s.assembled k skew options pose joints)⟩ := by
  simp [toState, bind, pure, Logged.andThen, Logged.ofExcept, Logged.report,
    odometryFor_of_ok h hp, jointStates_of_ok h hj, transforms_of_some h, assembled]

/-- A reading succeeds if the edges are a tree with the anchor and the body and the joints are
known. -/
theorem exists_assembled (skew : Duration) (options : Options) (h : s.kinematics = some k)
    {r : String} (root : k.edges.root? = some r)
    (ha : options.anchor.frame ∈ k.edges.keys) (hb : bodyFrame ∈ k.edges.keys)
    {joints : JointStates α} (hj : k.jointStates skew options.framePrefix = .ok joints) :
    ∃ pose, (s.toState skew options).outcome = .ok (s.assembled k skew options pose joints) := by
  obtain ⟨pose, hp⟩ := (EdgeMap.rootedAt_of_root? root).relativePose_ok ha hb
  exact ⟨pose, by rw [toState_of_ok h hp hj]⟩

/-- A reading that succeeds has no moving parts, or it has some that pass both checks. -/
theorem toState_ok_cases {state : RobotState α}
    (hs : (s.toState skew options).outcome = .ok state) :
    s.kinematics = none ∧ state = s.assemble skew options none none none ∨
      ∃ k pose joints, s.kinematics = some k ∧
        k.edges.relativePose options.anchor.frame bodyFrame = .ok pose ∧
        k.jointStates skew options.framePrefix = .ok joints ∧
        state = s.assembled k skew options pose joints := by
  rcases hk : s.kinematics with _ | k
  · rw [toState_of_none hk, Except.ok.injEq] at hs
    exact .inl ⟨rfl, hs.symm⟩
  · rcases hp : k.edges.relativePose options.anchor.frame bodyFrame with fault | pose
    · rw [toState_of_fault hk hp] at hs
      cases hs
    · rcases hj : k.jointStates skew options.framePrefix with id | joints
      · rw [toState_of_unknown hk hp hj] at hs
        cases hs
      · rw [toState_of_ok hk hp hj, Except.ok.injEq] at hs
        exact .inr ⟨k, pose, joints, rfl, hp, hj, hs.symm⟩

end Snapshot

end RobotTelemetry
