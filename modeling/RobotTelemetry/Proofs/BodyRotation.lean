import Mathlib.Algebra.Order.Field.Basic
import Mathlib.Data.Rat.Sqrt
import Mathlib.LinearAlgebra.Matrix.Notation
import Mathlib.LinearAlgebra.UnitaryGroup
import Mathlib.Tactic.FieldSimp
import Mathlib.Tactic.LinearCombination
import Mathlib.Tactic.NormNum.OfScientific
import RobotTelemetry.Frames.Odometry
import RobotTelemetry.Proofs.Poses
/-!
# Velocities in the body frame

The corrected odometry turns velocities by a matrix, while poses turn vectors by quaternions. Over
an ordered field the two agree: the matrix of a unit quaternion turns a vector as the quaternion
does (`Matrix3.mulVec_ofScaled_two`), and it is a rotation in the sense of linear algebra
(`Matrix3.toMatrix_ofScaled_two_mem`). The orientation of a body is divided by its length first, so
that its scale plays no part (`Odometry.corrected_rotates`).
-/

namespace RobotTelemetry

open Matrix

section Rotation

variable {F : Type}

/-! ## Matrices by rows and matrices of linear algebra -/

def Vec3.coords (v : Vec3 F) : Fin 3 → F :=
  ![v.x, v.y, v.z]

theorem Vec3.exists_coords_eq (x : Fin 3 → F) : ∃ v : Vec3 F, v.coords = x := by
  refine ⟨⟨x 0, x 1, x 2⟩, ?_⟩
  ext i
  fin_cases i <;> rfl

variable [Field F]

namespace Matrix3

variable {u : Quat F}

def toMatrix (M : Matrix3 F) : Matrix (Fin 3) (Fin 3) F :=
  of ![M.row₁.coords, M.row₂.coords, M.row₃.coords]

theorem coords_mulVec (M : Matrix3 F) (v : Vec3 F) :
    (M.mulVec v).coords = M.toMatrix *ᵥ v.coords := by
  ext i
  fin_cases i <;> simp [toMatrix, Vec3.coords, mulVec, dot, Matrix.mulVec, dotProduct,
    Fin.sum_univ_three]

/-- A rotation keeps the product of two vectors. -/
theorem dotProduct_of_mem {M : Matrix3 F} (h : M.toMatrix ∈ specialOrthogonalGroup (Fin 3) F)
    (v w : Vec3 F) : (M.mulVec v).coords ⬝ᵥ (M.mulVec w).coords = v.coords ⬝ᵥ w.coords := by
  have orthogonal : M.toMatrixᵀ * M.toMatrix = 1 :=
    (mem_orthogonalGroup_iff' _ _).1 (mem_specialOrthogonalGroup_iff.1 h).1
  rw [coords_mulVec, coords_mulVec, dotProduct_mulVec, ← mulVec_transpose, mulVec_mulVec,
    orthogonal, one_mulVec]

/-! ## The matrix of a unit quaternion -/

theorem mulVec_ofScaled_two (h : u.normSq = 1) (v : Vec3 F) :
    (ofScaled u 2).mulVec v = u.rotate v := by
  rw [Quat.normSq] at h
  ext <;> simp only [ofScaled, mulVec, dot, Quat.rotate, Quat.vec, Quat.ofVec, Quat.inverse,
    Quat.mul_x, Quat.mul_y, Quat.mul_z, Quat.mul_w, Int.cast_zero, Int.cast_one]
  · linear_combination (-v.x) * h
  · linear_combination (-v.y) * h
  · linear_combination (-v.z) * h

theorem toMatrix_ofScaled_inverse (u : Quat F) (s : F) :
    (ofScaled u.inverse s).toMatrix = (ofScaled u s).toMatrixᵀ := by
  ext i j
  fin_cases i <;> fin_cases j <;> simp [toMatrix, Vec3.coords, ofScaled, Quat.inverse] <;> ring

theorem toMatrix_ofScaled_two_mem (h : u.normSq = 1) :
    (ofScaled u 2).toMatrix ∈ specialOrthogonalGroup (Fin 3) F := by
  have hinv : u.inverse.normSq = 1 := (Quat.normSq_inverse u).trans h
  refine mem_specialOrthogonalGroup_iff.2 ⟨(mem_orthogonalGroup_iff' _ _).2 ?_, ?_⟩
  · -- Turning back undoes turning, whatever the vector.
    refine ext_iff_mulVec.2 fun x => ?_
    obtain ⟨v, rfl⟩ := Vec3.exists_coords_eq x
    have back : u.inverse.rotate (u.rotate v) = v := by
      simpa only [Quat.inverse_inverse] using Quat.rotate_rotate_inverse hinv v
    rw [← toMatrix_ofScaled_inverse, ← mulVec_mulVec, ← coords_mulVec, ← coords_mulVec,
      mulVec_ofScaled_two h, mulVec_ofScaled_two hinv, back, one_mulVec]
  · rw [Quat.normSq] at h
    rw [det_fin_three]
    simp only [toMatrix, Vec3.coords, ofScaled, of_apply, cons_val, Int.cast_one]
    linear_combination 4 * (u.x ^ 2 + u.y ^ 2 + u.z ^ 2) * h

theorem ofScaled_neg (u : Quat F) (s : F) : ofScaled ((-1 : F) • u) s = ofScaled u s := by
  simp [ofScaled]

end Matrix3

end Rotation

/-! ## Orientations with a length -/

theorem Quat.unitInverse_eq {F : Type} [Field F] (q : Quat F) (n : F) :
    q.unitInverse n = (n⁻¹ • q).inverse := by
  ext <;> simp [unitInverse, inverse, div_eq_inv_mul]

section Length

variable {F : Type} [Field F] [LinearOrder F] {q : Quat F} {c n : F}

def Quat.HasLength (q : Quat F) (n : F) : Prop :=
  0 < n ∧ n * n = q.normSq

namespace Quat.HasLength

theorem normSq_unit (h : q.HasLength n) : (n⁻¹ • q).normSq = 1 := by
  have hn : n ≠ 0 := h.1.ne'
  rw [normSq_smul, ← h.2]
  field_simp

theorem normSq_unitInverse (h : q.HasLength n) : (q.unitInverse n).normSq = 1 := by
  rw [unitInverse_eq, normSq_inverse, h.normSq_unit]

variable [IsStrictOrderedRing F]

theorem smul (h : q.HasLength n) (hc : c ≠ 0) : (c • q).HasLength (|c| * n) := by
  refine ⟨mul_pos (abs_pos.2 hc) h.1, ?_⟩
  calc |c| * n * (|c| * n) = |c| * |c| * (n * n) := by ring
    _ = c * c * q.normSq := by rw [abs_mul_abs_self, h.2]
    _ = (c • q).normSq := (normSq_smul c q).symm

/-- The squared length of a unit quaternion is far from the threshold. -/
theorem not_lt (h : q.HasLength n) :
    ¬ (q.unitInverse n).normSq < (2.220446049250313e-16 : F) := by
  rw [h.normSq_unitInverse]
  norm_num

theorem bodyMatrix_eq (h : q.HasLength n) :
    q.bodyMatrix n = Matrix3.ofScaled (q.unitInverse n) 2 := by
  rw [bodyMatrix, Matrix3.ofQuat, if_neg h.not_lt, h.normSq_unitInverse, div_one, Int.cast_ofNat]

theorem mulVec_bodyMatrix (h : q.HasLength n) (v : Vec3 F) :
    (q.bodyMatrix n).mulVec v = (n⁻¹ • q).inverse.rotate v := by
  rw [h.bodyMatrix_eq, Matrix3.mulVec_ofScaled_two h.normSq_unitInverse, unitInverse_eq]

/-- A factor cancels against its absolute value but for its sign, and the sign cancels in the
products that the matrix is made of. -/
theorem bodyMatrix_smul (h : q.HasLength n) (hc : c ≠ 0) :
    (c • q).bodyMatrix (|c| * n) = q.bodyMatrix n := by
  have hn : n ≠ 0 := h.1.ne'
  rw [h.bodyMatrix_eq, (h.smul hc).bodyMatrix_eq]
  rcases abs_cases c with ⟨habs, -⟩ | ⟨habs, -⟩
  · have same : (c • q).unitInverse (c * n) = q.unitInverse n := by
      ext <;> simp [unitInverse] <;> field_simp
    rw [habs, same]
  · have opposite : (c • q).unitInverse (-c * n) = (-1 : F) • q.unitInverse n := by
      ext <;> simp [unitInverse] <;> field_simp
    rw [habs, opposite, Matrix3.ofScaled_neg]

end Quat.HasLength

end Length

/-! ## Main result -/

/-- The square root is exact: it gives back every positive number that was squared. -/
def SquareRoot.Exact (F : Type) [Mul F] [Zero F] [LT F] [SquareRoot F] : Prop :=
  ∀ n : F, 0 < n → SquareRoot.sqrt (n * n) = n

/-- Two velocities have parts of the same lengths and with the same product. -/
structure Twist.Congruent {F : Type} [Field F] (t t' : Twist F) : Prop where
  linear : t.linear.coords ⬝ᵥ t.linear.coords = t'.linear.coords ⬝ᵥ t'.linear.coords
  angular : t.angular.coords ⬝ᵥ t.angular.coords = t'.angular.coords ⬝ᵥ t'.angular.coords
  mixed : t.linear.coords ⬝ᵥ t.angular.coords = t'.linear.coords ⬝ᵥ t'.angular.coords

namespace Odometry

variable {F : Type} [Field F] [LinearOrder F] [IsStrictOrderedRing F] [SquareRoot F]
  {o : Odometry F} {n : F}

/-- The orientation of an odometry as exact numbers. -/
def orientation (o : Odometry F) : Quat F :=
  o.pose.rotation.map Component.value

omit [IsStrictOrderedRing F] in
theorem corrected_eq_inBody (root : SquareRoot.Exact F) (h : o.orientation.HasLength n) :
    o.corrected = o.inBody n := by
  have hlength : SquareRoot.sqrt o.orientation.normSq = n := by
    rw [← h.2, root n h.1]
  exact congrArg o.inBody hlength

/-- An orientation of any scale turns velocities into the frame of the body by a rotation, the one
that the unit quaternion of the orientation undoes. -/
theorem corrected_rotates (root : SquareRoot.Exact F) (h : o.orientation.HasLength n) :
    ∃ M : Matrix3 F, o.orientation.bodyMatrix n = M ∧
      ¬ (o.orientation.unitInverse n).normSq < (2.220446049250313e-16 : F) ∧
      M.toMatrix ∈ specialOrthogonalGroup (Fin 3) F ∧
      (∀ v, M.mulVec v = (n⁻¹ • o.orientation).inverse.rotate v) ∧
      o.corrected = { o with twist := ⟨M.mulVec o.twist.linear, M.mulVec o.twist.angular⟩ } ∧
      o.corrected.twist.Congruent o.twist ∧
      (n⁻¹ • o.orientation).rotate o.corrected.twist.linear = o.twist.linear ∧
      (n⁻¹ • o.orientation).rotate o.corrected.twist.angular = o.twist.angular ∧
      ∀ c : F, c ≠ 0 → ∀ o' : Odometry F, o'.orientation = c • o.orientation →
        o'.twist = o.twist → o'.corrected.twist = o.corrected.twist := by
  have rotation : (o.orientation.bodyMatrix n).toMatrix ∈ specialOrthogonalGroup (Fin 3) F := by
    rw [h.bodyMatrix_eq]
    exact Matrix3.toMatrix_ofScaled_two_mem h.normSq_unitInverse
  have back (v : Vec3 F) :
      (n⁻¹ • o.orientation).rotate ((o.orientation.bodyMatrix n).mulVec v) = v := by
    rw [h.mulVec_bodyMatrix, Quat.rotate_rotate_inverse h.normSq_unit]
  have heq := corrected_eq_inBody root h
  have dot := Matrix3.dotProduct_of_mem rotation
  refine ⟨_, rfl, h.not_lt, rotation, h.mulVec_bodyMatrix, heq, ?_, ?_, ?_, ?_⟩
  · rw [heq]
    exact ⟨dot _ _, dot _ _, dot _ _⟩
  · rw [heq]
    exact back o.twist.linear
  · rw [heq]
    exact back o.twist.angular
  · intro c hc o' hq htwist
    have h' : o'.orientation.HasLength (|c| * n) := hq ▸ h.smul hc
    have same : o'.orientation.bodyMatrix (|c| * n) = o.orientation.bodyMatrix n := by
      rw [hq, h.bodyMatrix_smul hc]
    rw [heq, corrected_eq_inBody root h']
    calc (o'.inBody (|c| * n)).twist
        = ⟨(o'.orientation.bodyMatrix (|c| * n)).mulVec o'.twist.linear,
            (o'.orientation.bodyMatrix (|c| * n)).mulVec o'.twist.angular⟩ := rfl
      _ = ⟨(o.orientation.bodyMatrix n).mulVec o.twist.linear,
            (o.orientation.bodyMatrix n).mulVec o.twist.angular⟩ := by rw [same, htwist]
      _ = (o.inBody n).twist := rfl

end Odometry

/-! ### An orientation of length five -/

instance instSquareRootRat : SquareRoot ℚ := ⟨Rat.sqrt⟩

/-- A body that drives ahead while it turns, in an orientation about no axis of the frame. -/
def veering : Odometry ℚ where
  stamp := {}
  frame := "odom"
  childFrame := "body"
  pose := ⟨Vec3.zero, ⟨.real 1, .real 2, .real 2, .real 4⟩⟩
  twist := ⟨⟨1, 0, 0⟩, ⟨0, 0, 1⟩⟩

/-- The same body with the opposite orientation, one part of it a whole number. -/
def veeringOpposite : Odometry ℚ :=
  { veering with pose := ⟨Vec3.zero, ⟨.real (-1), .real (-2), .real (-2), .whole (-4)⟩⟩ }

theorem veering_turned_back : SquareRoot.Exact ℚ ∧ veering.orientation.HasLength 5 ∧
    ((5 : ℚ)⁻¹ • veering.orientation).rotate veering.corrected.twist.linear = ⟨1, 0, 0⟩ ∧
    veeringOpposite.corrected.twist = veering.corrected.twist := by
  have root : SquareRoot.Exact ℚ := fun n hn => (Rat.sqrt_eq n).trans (abs_of_pos hn)
  have length : veering.orientation.HasLength 5 := by
    constructor
    · norm_num
    · norm_num [Quat.normSq, Odometry.orientation, veering, Quat.map, Component.value]
  have opposite : veeringOpposite.orientation = (-1 : ℚ) • veering.orientation := by
    ext <;> norm_num [Odometry.orientation, veeringOpposite, veering, Quat.map, Component.value]
  obtain ⟨M, -, -, -, -, -, -, back, -, scale⟩ := Odometry.corrected_rotates root length
  exact ⟨root, length, back, scale (-1) (by norm_num) veeringOpposite opposite rfl⟩

end RobotTelemetry
