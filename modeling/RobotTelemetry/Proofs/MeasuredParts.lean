import RobotTelemetry.Frames.Odometry
import RobotTelemetry.Proofs.Poses
/-!
# Measured parts

A result is whole only if it is computed from whole numbers alone. A measured vector therefore stays
measured when it is moved or turned, even by the whole identity (`Vec3.Measured.rotate`). A rotation
that is the whole identity or measured in all its parts stays one of the two: a product is whole
exactly if both factors are (`Quat.WholeIf.mul`). A velocity is measured, and no matrix makes a part
of it whole (`Twist.Measured.inBody`), so that the corrected velocity of an odometry is measured,
whatever its orientation (`Odometry.correctedParts_eq`). All this holds of any arithmetic.
-/

namespace RobotTelemetry

variable {α : Type}

/-! ## Vectors -/

namespace Vec3

/-- No part of the vector is a whole number. -/
structure Measured (v : Vec3 (Component α)) : Prop where
  x : v.x.isWhole = false
  y : v.y.isWhole = false
  z : v.z.isWhole = false

theorem measured_map_real (w : Vec3 α) : Measured (w.map .real) :=
  ⟨rfl, rfl, rfl⟩

variable [Add α] [Sub α] [Mul α] [Neg α] [IntCast α] {u v : Vec3 (Component α)}

omit [Sub α] [Mul α] [Neg α] in
theorem Measured.add (h : u.Measured) (v : Vec3 (Component α)) : Measured (u + v) := by
  obtain ⟨hx, hy, hz⟩ := h
  constructor
  · exact (Component.isWhole_add _ _).trans (by rw [hx, Bool.false_and])
  · exact (Component.isWhole_add _ _).trans (by rw [hy, Bool.false_and])
  · exact (Component.isWhole_add _ _).trans (by rw [hz, Bool.false_and])

omit [Sub α] [Mul α] [Neg α] in
theorem Measured.add_left (h : v.Measured) (u : Vec3 (Component α)) : Measured (u + v) := by
  obtain ⟨hx, hy, hz⟩ := h
  constructor
  · exact (Component.isWhole_add _ _).trans (by rw [hx, Bool.and_false])
  · exact (Component.isWhole_add _ _).trans (by rw [hy, Bool.and_false])
  · exact (Component.isWhole_add _ _).trans (by rw [hz, Bool.and_false])

omit [Add α] [Sub α] [Mul α] [IntCast α] in
theorem Measured.neg (h : v.Measured) : Measured (-v) :=
  ⟨(Component.isWhole_neg _).trans h.x, (Component.isWhole_neg _).trans h.y,
    (Component.isWhole_neg _).trans h.z⟩

/-- Turning a measured vector gives a measured one, even if the rotation is whole. -/
theorem Measured.rotate (h : v.Measured) (q : Quat (Component α)) : Measured (q.rotate v) := by
  obtain ⟨hx, hy, hz⟩ := h
  constructor <;> simp [Quat.rotate, Quat.vec, Quat.ofVec, hx, hy, hz]

end Vec3

/-! ## Rotations -/

namespace Quat

/-- No part of the quaternion is a whole number. -/
structure Measured (q : Quat (Component α)) : Prop where
  x : q.x.isWhole = false
  y : q.y.isWhole = false
  z : q.z.isWhole = false
  w : q.w.isWhole = false

/-- The rotation is the identity in whole numbers if `unset`, and else no part of it is whole. -/
inductive WholeIf : Quat (Component α) → Bool → Prop
  | identity : WholeIf ⟨.whole 0, .whole 0, .whole 0, .whole 1⟩ true
  | measured {q : Quat (Component α)} : q.Measured → WholeIf q false

theorem WholeIf.eq_identity {q : Quat (Component α)} (h : q.WholeIf true) :
    q = ⟨.whole 0, .whole 0, .whole 0, .whole 1⟩ := by
  cases h
  rfl

theorem measured_map_real (q : Quat α) : Measured (q.map .real) :=
  ⟨rfl, rfl, rfl, rfl⟩

variable [Add α] [Sub α] [Mul α] [Neg α] [IntCast α] {a b q : Quat (Component α)} {s t : Bool}

omit [Neg α] in
theorem Measured.mul (h : a.Measured) (b : Quat (Component α)) : Measured (a * b) := by
  obtain ⟨hx, hy, hz, hw⟩ := h
  constructor <;> simp [hx, hy, hz, hw]

omit [Neg α] in
theorem Measured.mul_left (h : b.Measured) (a : Quat (Component α)) : Measured (a * b) := by
  obtain ⟨hx, hy, hz, hw⟩ := h
  constructor <;> simp [hx, hy, hz, hw]

omit [Add α] [Sub α] [Mul α] [IntCast α] in
theorem Measured.inverse (h : q.Measured) : Measured q.inverse :=
  ⟨(Component.isWhole_neg _).trans h.x, (Component.isWhole_neg _).trans h.y,
    (Component.isWhole_neg _).trans h.z, h.w⟩

omit [Neg α] in
/-- A product is the whole identity if both factors are, and measured if one of them is. -/
theorem WholeIf.mul (ha : a.WholeIf s) (hb : b.WholeIf t) : (a * b).WholeIf (s && t) := by
  cases ha with
  | identity =>
    cases hb with
    | identity => exact .identity
    | measured hb => exact .measured (hb.mul_left _)
  | measured ha => exact .measured (ha.mul b)

omit [Add α] [Sub α] [Mul α] [IntCast α] in
theorem WholeIf.inverse (h : q.WholeIf s) : q.inverse.WholeIf s := by
  cases h with
  | identity => exact .identity
  | measured h => exact .measured h.inverse

end Quat

/-! ## Poses -/

namespace Pose

/-- The position of the pose is measured. Its rotation is the identity in whole numbers if `unset`,
and else measured. -/
structure WholeIf (p : Pose (Component α)) (unset : Bool) : Prop where
  position : p.position.Measured
  rotation : p.rotation.WholeIf unset

variable [Add α] [Sub α] [Mul α] [Neg α] [IntCast α] {p q : Pose (Component α)} {unset : Bool}

theorem measured_mul (h : p.position.Measured) (q : Pose (Component α)) :
    (p * q).position.Measured :=
  h.add _

theorem measured_mul_left (h : q.position.Measured) (p : Pose (Component α)) :
    (p * q).position.Measured :=
  (h.rotate p.rotation).add_left p.position

theorem measured_inverse (h : p.position.Measured) : p.inverse.position.Measured :=
  (h.rotate p.rotation.inverse).neg

theorem WholeIf.inverse (h : p.WholeIf unset) : p.inverse.WholeIf unset :=
  ⟨measured_inverse h.position, h.rotation.inverse⟩

end Pose

/-! ## Velocities -/

namespace Component

variable [IntCast α]

/-- Quotients are measured, also those of whole numbers. -/
instance instDiv [Div α] : Div (Component α) := ⟨fun a b => .real (a.value / b.value)⟩

instance instLT [LT α] : LT (Component α) := ⟨fun a b => a.value < b.value⟩

instance instDecidableLT [LT α] [DecidableLT α] : DecidableLT (Component α) :=
  fun a b => inferInstanceAs (Decidable (a.value < b.value))

instance instOfScientific [OfScientific α] : OfScientific (Component α) :=
  ⟨fun mantissa negative exponent => .real (OfScientific.ofScientific mantissa negative exponent)⟩

instance instSquareRoot [SquareRoot α] : SquareRoot (Component α) :=
  ⟨fun a => .real (SquareRoot.sqrt a.value)⟩

end Component

namespace Twist

/-- Applies a function to each part. -/
def map {β γ : Type} (f : β → γ) (t : Twist β) : Twist γ :=
  ⟨t.linear.map f, t.angular.map f⟩

/-- No part of the velocity is a whole number. -/
structure Measured (t : Twist (Component α)) : Prop where
  linear : t.linear.Measured
  angular : t.angular.Measured

end Twist

section Correction

variable [Add α] [Sub α] [Mul α] [IntCast α]

omit [Sub α] in
/-- A matrix gives a measured vector for a measured one, whichever of its own entries are whole. -/
theorem Vec3.Measured.mulVec {v : Vec3 (Component α)} (h : v.Measured)
    (m : Matrix3 (Component α)) : (m.mulVec v).Measured := by
  obtain ⟨hx, hy, hz⟩ := h
  constructor <;> simp [Matrix3.mulVec, Matrix3.dot, hx, hy, hz]

variable [Neg α] [Div α] [LT α] [DecidableLT α] [OfScientific α]

theorem Twist.Measured.inBody {t : Twist (Component α)} (h : t.Measured) (q : Quat (Component α))
    (length : Component α) : (t.inBody q length).Measured :=
  ⟨h.linear.mulVec _, h.angular.mulVec _⟩

/-- The matrix of a measured orientation has whole constants in it. It still gives a measured vector,
with the numbers it gives if nobody keeps track of what is whole. -/
theorem Quat.mulVec_bodyMatrix_map_real (q : Quat α) (length : α) (v : Vec3 α) :
    ((q.map Component.real).bodyMatrix (.real length)).mulVec (v.map Component.real) =
      ((q.bodyMatrix length).mulVec v).map Component.real := by
  have same : ((q.map Component.real).unitInverse (.real length)).normSq <
      (2.220446049250313e-16 : Component α) ↔
      (q.unitInverse length).normSq < (2.220446049250313e-16 : α) := Iff.rfl
  unfold bodyMatrix Matrix3.ofQuat
  by_cases h : (q.unitInverse length).normSq < (2.220446049250313e-16 : α)
  · rw [if_pos h, if_pos (same.2 h)]
    rfl
  · rw [if_neg h, if_neg (mt same.1 h)]
    rfl

theorem Twist.inBody_map_real (t : Twist α) (q : Quat α) (length : α) :
    (t.map Component.real).inBody (q.map Component.real) (.real length) =
      (t.inBody q length).map Component.real := by
  rw [inBody, map, map, Quat.mulVec_bodyMatrix_map_real, Quat.mulVec_bodyMatrix_map_real]
  rfl

variable [SquareRoot α]

/-- The corrected velocity of an odometry, computed on components, which tell what is whole. -/
def Odometry.correctedParts (o : Odometry α) : Twist (Component α) :=
  let q := (o.pose.rotation.map Component.value).map .real
  (o.twist.map .real).inBody q (SquareRoot.sqrt q.normSq)

theorem Odometry.measured_correctedParts (o : Odometry α) : o.correctedParts.Measured :=
  Twist.Measured.inBody ⟨Vec3.measured_map_real _, Vec3.measured_map_real _⟩ _ _

/-- Computed on components, the corrected velocity has the same numbers. -/
theorem Odometry.correctedParts_eq (o : Odometry α) :
    o.correctedParts = o.corrected.twist.map .real :=
  Twist.inBody_map_real _ _ _

end Correction

end RobotTelemetry
