import Mathlib.Algebra.Ring.Int.Defs
import Mathlib.Data.Int.Cast.Lemmas
import Mathlib.Tactic.Ring
import RobotTelemetry.Frames.Ascent
/-!
# Poses over exact arithmetic

Over a commutative ring the pose formulas obey the laws of rigid motions. Reading whole components
as measured ones respects all operations (`Pose.value_mul`, `Pose.value_inverse`), products are
associative, and the inverse undoes a pose up to the squared length of its rotation
(`Pose.inverse_mul`, `Pose.mul_inverse`), hence altogether if the rotation is a unit quaternion
(`Pose.Rigid.inverse_mul_self`, `Pose.Rigid.mul_inverse_self`).
-/

namespace RobotTelemetry

attribute [ext] Vec3 Quat Pose

variable {R : Type} [CommRing R]

/-! ## Components -/

namespace Component

@[simp]
theorem value_intCast (n : Int) : ((n : Component R)).value = (n : R) := rfl

@[simp]
theorem value_neg (a : Component R) : (-a).value = -a.value := by
  cases a with
  | whole n => exact Int.cast_neg n
  | real x => rfl

@[simp]
theorem value_add (a b : Component R) : (a + b).value = a.value + b.value := by
  cases a <;> cases b
  case whole.whole m n => exact Int.cast_add m n
  all_goals rfl

@[simp]
theorem value_sub (a b : Component R) : (a - b).value = a.value - b.value := by
  cases a <;> cases b
  case whole.whole m n => exact Int.cast_sub m n
  all_goals rfl

@[simp]
theorem value_mul (a b : Component R) : (a * b).value = a.value * b.value := by
  cases a <;> cases b
  case whole.whole m n => exact Int.cast_mul m n
  all_goals rfl

end Component

/-! ## Vectors -/

namespace Vec3

variable {β : Type}

@[simp]
theorem add_x [Add β] (u v : Vec3 β) : (u + v).x = u.x + v.x := rfl

@[simp]
theorem add_y [Add β] (u v : Vec3 β) : (u + v).y = u.y + v.y := rfl

@[simp]
theorem add_z [Add β] (u v : Vec3 β) : (u + v).z = u.z + v.z := rfl

@[simp]
theorem neg_x [Neg β] (v : Vec3 β) : (-v).x = -v.x := rfl

@[simp]
theorem neg_y [Neg β] (v : Vec3 β) : (-v).y = -v.y := rfl

@[simp]
theorem neg_z [Neg β] (v : Vec3 β) : (-v).z = -v.z := rfl

/-- A vector times a number. -/
instance : SMul R (Vec3 R) := ⟨fun c v => ⟨c * v.x, c * v.y, c * v.z⟩⟩

@[simp]
theorem smul_x (c : R) (v : Vec3 R) : (c • v).x = c * v.x := rfl

@[simp]
theorem smul_y (c : R) (v : Vec3 R) : (c • v).y = c * v.y := rfl

@[simp]
theorem smul_z (c : R) (v : Vec3 R) : (c • v).z = c * v.z := rfl

theorem one_smul (v : Vec3 R) : (1 : R) • v = v := by
  ext <;> simp

theorem zero_eq : (Vec3.zero : Vec3 R) = ⟨0, 0, 0⟩ := by
  simp [zero]

theorem add_assoc (u v w : Vec3 R) : u + v + w = u + (v + w) := by
  ext <;> simp only [add_x, add_y, add_z] <;> ring

theorem map_value_add (u v : Vec3 (Component R)) :
    (u + v).map Component.value = u.map Component.value + v.map Component.value := by
  ext <;> simp [map]

theorem map_value_neg (v : Vec3 (Component R)) :
    (-v).map Component.value = -v.map Component.value := by
  ext <;> simp [map]

end Vec3

/-! ## Quaternions -/

namespace Quat

variable {β : Type}

@[simp]
theorem mul_x [Add β] [Sub β] [Mul β] (a b : Quat β) :
    (a * b).x = a.w * b.x + a.x * b.w + a.y * b.z - a.z * b.y := rfl

@[simp]
theorem mul_y [Add β] [Sub β] [Mul β] (a b : Quat β) :
    (a * b).y = a.w * b.y - a.x * b.z + a.y * b.w + a.z * b.x := rfl

@[simp]
theorem mul_z [Add β] [Sub β] [Mul β] (a b : Quat β) :
    (a * b).z = a.w * b.z + a.x * b.y - a.y * b.x + a.z * b.w := rfl

@[simp]
theorem mul_w [Add β] [Sub β] [Mul β] (a b : Quat β) :
    (a * b).w = a.w * b.w - a.x * b.x - a.y * b.y - a.z * b.z := rfl

/-- A quaternion times a number. -/
instance : SMul R (Quat R) := ⟨fun c q => ⟨c * q.x, c * q.y, c * q.z, c * q.w⟩⟩

@[simp]
theorem smul_x (c : R) (q : Quat R) : (c • q).x = c * q.x := rfl

@[simp]
theorem smul_y (c : R) (q : Quat R) : (c • q).y = c * q.y := rfl

@[simp]
theorem smul_z (c : R) (q : Quat R) : (c • q).z = c * q.z := rfl

@[simp]
theorem smul_w (c : R) (q : Quat R) : (c • q).w = c * q.w := rfl

theorem identity_eq : (Quat.identity : Quat R) = ⟨0, 0, 0, 1⟩ := by
  simp [identity]

theorem mul_assoc (a b c : Quat R) : a * b * c = a * (b * c) := by
  ext <;> simp only [mul_x, mul_y, mul_z, mul_w] <;> ring

theorem mul_identity (q : Quat R) : q * identity = q := by
  ext <;> simp [identity_eq]

theorem normSq_mul (a b : Quat R) : (a * b).normSq = a.normSq * b.normSq := by
  simp only [normSq, mul_x, mul_y, mul_z, mul_w]
  ring

theorem normSq_smul (c : R) (q : Quat R) : (c • q).normSq = c * c * q.normSq := by
  simp only [normSq, smul_x, smul_y, smul_z, smul_w]
  ring

theorem normSq_inverse (q : Quat R) : q.inverse.normSq = q.normSq := by
  simp only [normSq, inverse]
  ring

theorem inverse_inverse (q : Quat R) : q.inverse.inverse = q := by
  ext <;> simp [inverse]

theorem inverse_mul_self (q : Quat R) : q.inverse * q = ⟨0, 0, 0, q.normSq⟩ := by
  ext <;> simp only [mul_x, mul_y, mul_z, mul_w, inverse, normSq] <;> ring

theorem mul_inverse_self (q : Quat R) : q * q.inverse = ⟨0, 0, 0, q.normSq⟩ := by
  ext <;> simp only [mul_x, mul_y, mul_z, mul_w, inverse, normSq] <;> ring

/-- Turning by a product turns by its second factor, then by its first. -/
theorem rotate_mul (a b : Quat R) (v : Vec3 R) : (a * b).rotate v = a.rotate (b.rotate v) := by
  ext <;> simp [rotate, vec, ofVec, inverse] <;> ring

theorem rotate_add (q : Quat R) (u v : Vec3 R) : q.rotate (u + v) = q.rotate u + q.rotate v := by
  ext <;> simp [rotate, vec, ofVec, inverse] <;> ring

theorem rotate_neg (q : Quat R) (v : Vec3 R) : q.rotate (-v) = -q.rotate v := by
  ext <;> simp [rotate, vec, ofVec, inverse] <;> ring

theorem map_value_mul (a b : Quat (Component R)) :
    (a * b).map Component.value = a.map Component.value * b.map Component.value := by
  ext <;> simp [map]

theorem map_value_inverse (q : Quat (Component R)) :
    q.inverse.map Component.value = (q.map Component.value).inverse := by
  ext <;> simp [map, inverse]

theorem map_value_rotate (q : Quat (Component R)) (v : Vec3 (Component R)) :
    (q.rotate v).map Component.value = (q.map Component.value).rotate (v.map Component.value) := by
  ext <;> simp [rotate, vec, ofVec, inverse, map, Vec3.map]

/-- A scalar quaternion scales by its square. -/
theorem rotate_scalar (c : R) (v : Vec3 R) :
    (⟨0, 0, 0, c⟩ : Quat R).rotate v = c ^ 2 • v := by
  ext <;> simp [rotate, vec, ofVec, inverse] <;> ring

/-- Turning by a unit quaternion undoes turning by its inverse. -/
theorem rotate_rotate_inverse {q : Quat R} (h : q.normSq = 1) (v : Vec3 R) :
    q.rotate (q.inverse.rotate v) = v := by
  rw [← rotate_mul, mul_inverse_self, h, rotate_scalar, one_pow, Vec3.one_smul]

end Quat

/-! ## Poses -/

namespace Pose

variable {p q r : Pose R}

theorem mul_def (p q : Pose R) :
    p * q = ⟨p.position + p.rotation.rotate q.position, p.rotation * q.rotation⟩ := rfl

theorem mul_assoc (p q r : Pose R) : p * q * r = p * (q * r) := by
  simp only [mul_def, Quat.mul_assoc, Quat.rotate_mul, Quat.rotate_add, Vec3.add_assoc]

theorem identity_mul (p : Pose R) : identity * p = p := by
  ext <;> simp [mul_def, identity, Vec3.zero_eq, Quat.identity_eq, Quat.rotate_scalar]

theorem mul_identity (p : Pose R) : p * identity = p := by
  ext <;> simp [mul_def, identity, Vec3.zero_eq, Quat.identity_eq, Quat.rotate, Quat.vec,
    Quat.ofVec, Quat.inverse]

theorem inverse_mul (p : Pose R) :
    p.inverse * p = ⟨Vec3.zero, 0, 0, 0, p.rotation.normSq⟩ := by
  rw [mul_def, inverse, Quat.inverse_mul_self, Vec3.zero_eq]
  ext <;> simp

/-- The inverse of a pose undoes it up to the square of its squared length. -/
theorem mul_inverse (p : Pose R) : p * p.inverse =
    ⟨(1 - p.rotation.normSq ^ 2) • p.position, 0, 0, 0, p.rotation.normSq⟩ := by
  rw [mul_def, inverse, Quat.rotate_neg, ← Quat.rotate_mul, Quat.mul_inverse_self,
    Quat.rotate_scalar]
  ext <;> simp <;> ring

theorem inverse_inverse (p : Pose R) :
    p.inverse.inverse = ⟨p.rotation.normSq ^ 2 • p.position, p.rotation⟩ := by
  rw [inverse, inverse, Quat.inverse_inverse, Quat.rotate_neg, ← Quat.rotate_mul,
    Quat.mul_inverse_self, Quat.rotate_scalar]
  ext <;> simp

/-! ### Rigid poses -/

/-- A pose whose rotation is a unit quaternion. -/
def Rigid (p : Pose R) : Prop :=
  p.rotation.normSq = 1

theorem rigid_identity : (identity : Pose R).Rigid := by
  simp [Rigid, identity, Quat.identity_eq, Quat.normSq]

theorem Rigid.mul (hp : p.Rigid) (hq : q.Rigid) : (p * q).Rigid := by
  rw [Rigid, mul_def, Quat.normSq_mul, hp, hq, one_mul]

theorem Rigid.inverse (h : p.Rigid) : p.inverse.Rigid := by
  rw [Rigid, ← h]
  exact Quat.normSq_inverse _

theorem Rigid.inverse_mul_self (h : p.Rigid) : p.inverse * p = identity := by
  rw [inverse_mul, h, identity, Quat.identity_eq]

theorem Rigid.mul_inverse_self (h : p.Rigid) : p * p.inverse = identity := by
  rw [mul_inverse, h, identity, Quat.identity_eq, Vec3.zero_eq]
  ext <;> simp

/-- Moving on from a rigid pose by `q` leads to `r` for one `q` only. -/
theorem Rigid.eq_inverse_mul (h : p.Rigid) (heq : p * q = r) : q = p.inverse * r := by
  rw [← heq, ← mul_assoc, h.inverse_mul_self, identity_mul]

/-! ### Exact values -/

/-- A pose as exact numbers. -/
def value (p : Pose (Component R)) : Pose R :=
  p.map Component.value

theorem value_identity : (identity : Pose (Component R)).value = identity := rfl

/-- A reported pose has the reported numbers, and an unset rotation is the identity. -/
theorem value_pose (p : PoseReport R) :
    p.pose.value = ⟨p.position, p.rotation.getD Quat.identity⟩ := by
  obtain ⟨position, _ | rotation⟩ := p <;> rfl

theorem value_mul (p q : Pose (Component R)) : (p * q).value = p.value * q.value := by
  have hpos := Vec3.map_value_add p.position (p.rotation.rotate q.position)
  rw [Quat.map_value_rotate] at hpos
  exact Pose.ext_iff.2 ⟨hpos, Quat.map_value_mul p.rotation q.rotation⟩

theorem value_inverse (p : Pose (Component R)) : p.inverse.value = p.value.inverse := by
  have hpos := Vec3.map_value_neg (p.rotation.inverse.rotate p.position)
  rw [Quat.map_value_rotate, Quat.map_value_inverse] at hpos
  exact Pose.ext_iff.2 ⟨hpos, Quat.map_value_inverse p.rotation⟩

end Pose

end RobotTelemetry
