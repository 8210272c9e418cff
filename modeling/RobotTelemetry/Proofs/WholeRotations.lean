import RobotTelemetry.Proofs.EdgeTransforms
import RobotTelemetry.Proofs.MeasuredParts
import RobotTelemetry.Proofs.ParentWalks
/-!
# Where whole numbers are published

A rotation that the robot leaves unset is the identity in whole numbers, and a walk up to the root
starts with such a pose. The position that a walk carries is measured once an edge has been taken
(`Walker.measured_carry`), and the rotation stays whole as long as no edge reports one
(`Walker.wholeIf_carry`). The anchor and the body are different frames, so that one of their two
walks takes an edge. Hence the position of the odometry is measured, and its rotation is whole
exactly if no edge on the two walks reports one. A published transform is whole or measured as its
own edge is. Whole rotations are nothing but the identity, and all else is measured
(`Snapshot.toState_whole_parts`).
-/

namespace RobotTelemetry

variable {α : Type}

/-! ## Transforms -/

theorem Pose.HasNumbers.wholeIf {p : Pose (Component α)} {report : PoseReport α}
    (h : p.HasNumbers report) : p.WholeIf report.rotation.isNone := by
  obtain ⟨position, given, missing⟩ := h
  refine ⟨position ▸ Vec3.measured_map_real report.position, ?_⟩
  cases hq : report.rotation with
  | none => exact missing hq ▸ .identity
  | some q => exact given q hq ▸ .measured (Quat.measured_map_real q)

/-- A reported pose is measured but for a rotation that is not set. -/
theorem PoseReport.wholeIf_pose (report : PoseReport α) :
    report.pose.WholeIf report.rotation.isNone :=
  (Pose.hasNumbers report).wholeIf

variable [Add α] [Sub α] [Mul α] [Neg α] [IntCast α]

/-- A transform has a whole rotation exactly if its edge reports none, as it stands or turned
round. -/
theorem Edge.Shown.wholeIf {n : Naming} {stamp : Stamp} {f : String} {edge : Edge α}
    {t : Transform α} (h : edge.Shown n stamp f t) : t.pose.WholeIf edge.pose.rotation.isNone := by
  by_cases target : n.framePrefix ++ f = n.inverseTarget
  · obtain ⟨-, -, hpose, -⟩ := h.turned target
    exact hpose ▸ edge.pose.wholeIf_pose.inverse
  · obtain ⟨-, -, hpose⟩ := h.forward target
    exact hpose.wholeIf

/-! ## Walks -/

namespace Walker

variable {p : Pose (Component α)} {unset : Bool}

/-- The last edge that a walk takes measures the position. -/
theorem measured_carry {steps : List (String × Edge α)} (h : steps ≠ [])
    (p : Pose (Component α)) : (carry steps p).position.Measured := by
  obtain ⟨earlier, last, rfl⟩ := (List.eq_nil_or_concat steps).resolve_left h
  rw [carry, List.concat_eq_append, List.foldl_append]
  exact Pose.measured_mul (Vec3.measured_map_real last.2.pose.position) _

theorem wholeIf_carry (steps : List (String × Edge α)) (h : p.rotation.WholeIf unset) :
    (carry steps p).rotation.WholeIf
      ((steps.all fun step => step.2.pose.rotation.isNone) && unset) := by
  -- By induction on the edges: each of them multiplies the rotation carried so far by its own.
  induction steps generalizing p unset with
  | nil => exact h
  | cons step steps ih =>
    have taken : (step.2.pose.pose * p).rotation.WholeIf
        (step.2.pose.rotation.isNone && unset) :=
      step.2.pose.wholeIf_pose.rotation.mul h
    rw [List.all_cons, Bool.and_comm _ (steps.all _), Bool.and_assoc]
    exact ih taken

end Walker

/-! ## Poses relative to an anchor -/

namespace EdgeMap

variable {m : EdgeMap α} {f g r : String} {steps steps' : List (String × Edge α)}

omit [Add α] [Sub α] [Mul α] [Neg α] [IntCast α] in
/-- Of two different frames at most one is the root. -/
theorem Climb.ne_nil_or_ne_nil (hf : m.Climb f steps r) (hg : m.Climb g steps' r) (hne : f ≠ g) :
    steps ≠ [] ∨ steps' ≠ [] := by
  cases hf with
  | up => exact .inl (List.cons_ne_nil _ _)
  | root =>
    cases hg with
    | up => exact .inr (List.cons_ne_nil _ _)
    | root => exact absurd rfl hne

theorem wholeIf_relativePose {pose : Pose (Component α)} (h : m.relativePose f g = .ok pose)
    (hne : f ≠ g) : ∃ r steps steps', m.Climb f steps r ∧ m.Climb g steps' r ∧
      pose.WholeIf ((steps ++ steps').all fun step => step.2.pose.rotation.isNone) := by
  obtain ⟨r, steps, steps', -, hf, hg, rfl⟩ := relativePose_ok_cases h
  have turns (steps : List (String × Edge α)) : (⟨steps, r⟩ : Ascent α).pose.rotation.WholeIf
      (steps.all fun step => step.2.pose.rotation.isNone) := by
    have start : (Pose.identity : Pose (Component α)).rotation.WholeIf true := .identity
    have carried := Walker.wholeIf_carry steps start
    rwa [Bool.and_true] at carried
  refine ⟨r, steps, steps', hf, hg, ?_, ?_⟩
  · rcases hf.ne_nil_or_ne_nil hg hne with there | back
    · exact Pose.measured_mul (Pose.measured_inverse (Walker.measured_carry there _)) _
    · exact Pose.measured_mul_left (Walker.measured_carry back _) _
  · rw [List.all_append]
    exact (turns steps).inverse.mul (turns steps')

end EdgeMap

/-! ## Main result -/

variable [Div α] [LT α] [DecidableLT α] [OfScientific α] [SquareRoot α] {s : Snapshot α}
  {k : KinematicsReport α} {skew : Duration} {options : Options} {state : RobotState α}

/-- In a robot state with moving parts, the only whole numbers among the parts of poses are those of
the identity rotation, `0, 0, 0, 1`. A transform has it exactly if its edge reports no rotation, and
the odometry exactly if no edge with a parent does on the ways from the anchor and from the body to
the root. Positions and the corrected velocity have no whole part. -/
theorem Snapshot.toState_whole_parts (hs : (s.toState skew options).outcome = .ok state)
    (hk : s.kinematics = some k) :
    ∃ ts o, state.transforms = some ts ∧ state.odometry = some o ∧
      state.correctedOdometry = some o.corrected ∧
      List.Forall₂ (fun entry t =>
          entry.2.Shown options.toNaming (k.acquired.corrected skew) entry.1 t ∧
            t.pose.WholeIf entry.2.pose.rotation.isNone)
        k.edges.parented ts ∧
      (∃ r steps steps', k.edges.Climb options.anchor.frame steps r ∧
        k.edges.Climb bodyFrame steps' r ∧
        o.pose.WholeIf ((steps ++ steps').all fun step => step.2.pose.rotation.isNone)) ∧
      o.correctedParts.Measured ∧ o.correctedParts = o.corrected.twist.map .real := by
  obtain ⟨hnone, -⟩ | ⟨k', pose, joints, hk', hpose, -, rfl⟩ := toState_ok_cases hs
  · rw [hk] at hnone
    cases hnone
  obtain rfl : k = k' := Option.some.inj (hk.symm.trans hk')
  have different : options.anchor.frame ≠ bodyFrame := by
    cases options.anchor <;> decide
  have shown := k.edges.forall₂_shown options.toNaming (k.acquired.corrected skew)
  refine ⟨_, _, rfl, rfl, rfl, shown.imp fun _ _ h => ⟨h, h.wholeIf⟩, ?_, ?_, ?_⟩
  · exact EdgeMap.wholeIf_relativePose hpose different
  · exact Odometry.measured_correctedParts _
  · exact Odometry.correctedParts_eq _

/-! ### Rotations beside the walks -/

/-- Moving parts on a cart, of which only the cart and a hand on the body report a rotation. -/
def onTurnedCart : KinematicsReport Float :=
  { KinematicsReport.unset with
    edges := .ofList [("vision", ⟨"cart", ⟨⟨1, 2, 0⟩, none⟩⟩), ("body", ⟨"cart", ⟨⟨0, 1, 0⟩, none⟩⟩),
      ("hand", ⟨"body", ⟨⟨1, 0, 0⟩, some ⟨0, 0, 3, 4⟩⟩⟩),
      ("cart", ⟨"", ⟨⟨7, 7, 7⟩, some ⟨0, 0, 0, 0⟩⟩⟩)] }

/-- The cart is the root, and no walk passes the hand, so that the orientation is whole. -/
theorem onTurnedCart_orientation_whole : ∃ state ts o,
    (({ kinematics := some onTurnedCart } : Snapshot Float).toState {}
      ⟨⟨"", "hand"⟩, .vision⟩).outcome = .ok state ∧
    state.transforms = some ts ∧ state.odometry = some o ∧
    List.Forall₂ (fun unset t => t.pose.WholeIf unset) [true, true, false] ts ∧
    o.pose.position.Measured ∧ o.pose.rotation = ⟨.whole 0, .whole 0, .whole 0, .whole 1⟩ := by
  have anchor : onTurnedCart.edges.Climb "vision" [("vision", ⟨"cart", ⟨⟨1, 2, 0⟩, none⟩⟩)]
      "cart" := .up rfl (by decide) (.root rfl rfl)
  have body : onTurnedCart.edges.Climb "body" [("body", ⟨"cart", ⟨⟨0, 1, 0⟩, none⟩⟩)] "cart" :=
    .up rfl (by decide) (.root rfl rfl)
  have root : onTurnedCart.edges.root? = some "cart" := by decide +kernel
  obtain ⟨pose, ok⟩ := Snapshot.exists_assembled (s := { kinematics := some onTurnedCart }) {}
    ⟨⟨"", "hand"⟩, .vision⟩ rfl root anchor.mem_keys body.mem_keys rfl
  obtain ⟨ts, o, hts, ho, -, shown, ⟨r, steps, steps', hanchor, hbody, whole⟩, -⟩ :=
    Snapshot.toState_whole_parts ok rfl
  obtain ⟨rfl, -⟩ := anchor.unique hanchor
  obtain ⟨rfl, -⟩ := body.unique hbody
  have transforms : List.Forall₂ (fun unset (t : Transform Float) => t.pose.WholeIf unset)
      (onTurnedCart.edges.parented.map fun entry => entry.2.pose.rotation.isNone) ts :=
    List.forall₂_map_left_iff.2 (shown.imp fun _ _ h => h.2)
  exact ⟨_, ts, o, ok, hts, ho, transforms, whole.position, whole.rotation.eq_identity⟩

end RobotTelemetry
