import RobotTelemetry.Proofs.Reading
/-!
# Odometry with a velocity given beforehand

The velocity of the body may be given when its odometry is asked for, so that it is not read off the
snapshot twice. As long as there are moving parts this changes nothing but the velocity itself, with
its instant and its frame: the body is placed or not placed for the same reasons. Without moving
parts the two ways differ. A velocity that is read off is missing then, and so is the odometry, but
for a given one the body has to be placed among no edges at all. So the two agree exactly on
snapshots with moving parts (`odometry_given`).
-/

namespace RobotTelemetry

variable {α : Type}

/-- The same odometry with another velocity, at its instant and in its frame. -/
def Odometry.withTwist (o : Odometry α) (t : StampedTwist α) : Odometry α :=
  { o with stamp := t.stamp, frame := t.frame, twist := t.twist }

/-- Two attempts at an odometry end alike, but that the second has a velocity of its own. -/
structure SameButTwist (t : StampedTwist α) (plain given : Except PathFault (Option (Odometry α))) :
    Prop where
  none_iff : given = .ok none ↔ plain = .ok none
  error_iff : ∀ fault, given = .error fault ↔ plain = .error fault
  some_iff : ∀ o, given = .ok (some o) ↔ ∃ o', plain = .ok (some o') ∧ o = o'.withTwist t

namespace Snapshot

variable [Add α] [Sub α] [Mul α] [Neg α] [IntCast α] {s : Snapshot α} {k : KinematicsReport α}

theorem odometry_some (s : Snapshot α) (skew : Duration) (framePrefix : String) (anchor : Anchor)
    (t : StampedTwist α) : s.odometry skew framePrefix anchor (some t) =
      (s.odometryWith framePrefix anchor t).map some :=
  rfl

/-- With moving parts there is a velocity to be read off. -/
theorem odometry_none_of_some (h : s.kinematics = some k) (skew : Duration) (framePrefix : String)
    (anchor : Anchor) : s.odometry skew framePrefix anchor none =
      (s.odometryWith framePrefix anchor ⟨k.acquired.corrected skew, framePrefix ++ anchor.frame,
        k.bodyVelocity anchor⟩).map some := by
  simp [odometry, bodyTwist, h]

theorem odometry_none_of_none (h : s.kinematics = none) (skew : Duration) (framePrefix : String)
    (anchor : Anchor) : s.odometry skew framePrefix anchor none = .ok none := by
  simp [odometry, bodyTwist, h]

theorem odometry_given_of_none (h : s.kinematics = none) (skew : Duration) (framePrefix : String)
    (anchor : Anchor) (t : StampedTwist α) :
    s.odometry skew framePrefix anchor (some t) = .error .malformedTree := by
  -- Without moving parts there are no edges, and a tree without edges has no root.
  have none_placed : s.edges.relativePose anchor.frame bodyFrame = .error .malformedTree := by
    rw [edges, h]
    exact EdgeMap.relativePose_of_malformed (.empty rfl) _ _
  rw [odometry_some, odometryWith, none_placed]
  rfl

/-- The body is placed without regard to the velocity. -/
theorem sameButTwist_odometryWith (s : Snapshot α) (framePrefix : String) (anchor : Anchor)
    (t t' : StampedTwist α) : SameButTwist t ((s.odometryWith framePrefix anchor t').map some)
      ((s.odometryWith framePrefix anchor t).map some) := by
  unfold odometryWith
  cases s.edges.relativePose anchor.frame bodyFrame with
  | error fault =>
    show SameButTwist t (.error fault) (.error fault)
    exact ⟨by simp, by simp, by simp⟩
  | ok pose =>
    let o : Odometry α := ⟨t'.stamp, t'.frame, framePrefix ++ bodyFrame, pose, t'.twist⟩
    show SameButTwist t (.ok (some o)) (.ok (some (o.withTwist t)))
    exact ⟨by simp, by simp, by simp [eq_comm]⟩

/-- Whatever velocity is given, the odometry with it is the plain odometry with the velocity
replaced, or fails as the plain one does, exactly if there are moving parts. Without them the plain
odometry is missing and the other one fails. The velocity that is read off makes no difference. -/
theorem odometry_given (s : Snapshot α) (skew : Duration) (framePrefix : String) (anchor : Anchor)
    (t : StampedTwist α) :
    (SameButTwist t (s.odometry skew framePrefix anchor none)
      (s.odometry skew framePrefix anchor (some t)) ↔ s.kinematics.isSome) ∧
    (s.kinematics = none → s.odometry skew framePrefix anchor none = .ok none ∧
      s.odometry skew framePrefix anchor (some t) = .error .malformedTree) ∧
    s.odometry skew framePrefix anchor (s.bodyTwist skew framePrefix anchor) =
      s.odometry skew framePrefix anchor none := by
  have read : s.odometry skew framePrefix anchor (s.bodyTwist skew framePrefix anchor) =
      s.odometry skew framePrefix anchor none := by
    rw [odometry, odometry, Option.or_self, Option.none_or]
  refine ⟨?_, fun h => ⟨odometry_none_of_none h _ _ _, odometry_given_of_none h _ _ _ _⟩, read⟩
  cases h : s.kinematics with
  | none =>
    refine iff_of_false (fun same => ?_) Bool.false_ne_true
    have missing := same.none_iff.2 (odometry_none_of_none h skew framePrefix anchor)
    rw [odometry_given_of_none h] at missing
    cases missing
  | some k =>
    refine iff_of_true ?_ rfl
    rw [odometry_none_of_some h, odometry_some]
    exact s.sameButTwist_odometryWith framePrefix anchor t _

/-- A robot without moving parts has no odometry, but with a given velocity it is refused. -/
theorem motionless_refused : ∃ (s : Snapshot Int) (t : StampedTwist Int), s.kinematics = none ∧
    s.odometry {} "" .vision none = .ok none ∧
    s.odometry {} "" .vision (some t) = .error .malformedTree ∧
    ¬ SameButTwist t (s.odometry {} "" .vision none) (s.odometry {} "" .vision (some t)) := by
  have plain : ({} : Snapshot Int).odometry {} "" .vision none = .ok none := rfl
  have given : ({} : Snapshot Int).odometry {} "" .vision (some ⟨⟨7, 0⟩, "odom", .zero⟩) =
      .error .malformedTree := rfl
  refine ⟨{}, ⟨⟨7, 0⟩, "odom", .zero⟩, rfl, plain, given, fun same => ?_⟩
  have missing := same.none_iff.2 plain
  rw [given] at missing
  cases missing

end Snapshot

end RobotTelemetry
