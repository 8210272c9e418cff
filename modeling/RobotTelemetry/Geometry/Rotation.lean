import RobotTelemetry.Geometry.Pose
/-!
# Rotation matrices

A robot reports its body velocity in a world frame; consumers expect it in the body frame. The
velocity is turned by the matrix of the inverse orientation. `Quat.unitInverse` divides the
conjugate by the length of the quaternion, so that the matrix is a rotation for an orientation of
any length.
-/

namespace RobotTelemetry

/-- A matrix by its rows. -/
structure Matrix3 (α : Type) where
  row₁ : Vec3 α
  row₂ : Vec3 α
  row₃ : Vec3 α
deriving DecidableEq

variable {α : Type} [Add α] [Sub α] [Mul α] [Neg α] [Div α] [IntCast α]

namespace Matrix3

omit [Sub α] [Mul α] [Neg α] [Div α] [Add α] in
/-- The matrix that moves nothing. -/
def identity : Matrix3 α :=
  ⟨⟨((1 : Int) : α), ((0 : Int) : α), ((0 : Int) : α)⟩,
    ⟨((0 : Int) : α), ((1 : Int) : α), ((0 : Int) : α)⟩,
    ⟨((0 : Int) : α), ((0 : Int) : α), ((1 : Int) : α)⟩⟩

/-- A row times a column. The sum starts from zero, so that it is never a negative zero. -/
def dot (row v : Vec3 α) : α :=
  ((0 : Int) : α) + ((row.x * v.x + row.y * v.y) + row.z * v.z)

/-- A matrix times a vector. -/
def mulVec (m : Matrix3 α) (v : Vec3 α) : Vec3 α :=
  ⟨dot m.row₁ v, dot m.row₂ v, dot m.row₃ v⟩

/-- The matrix of a quaternion whose squared length is `2 / s`. -/
def ofScaled (q : Quat α) (s : α) : Matrix3 α :=
  let one : α := ((1 : Int) : α)
  let X := q.x * s
  let Y := q.y * s
  let Z := q.z * s
  ⟨⟨one - (q.y * Y + q.z * Z), q.x * Y - q.w * Z, q.x * Z + q.w * Y⟩,
    ⟨q.x * Y + q.w * Z, one - (q.x * X + q.z * Z), q.y * Z - q.w * X⟩,
    ⟨q.x * Z - q.w * Y, q.y * Z + q.w * X, one - (q.x * X + q.y * Y)⟩⟩

/-- The matrix of a quaternion. One whose squared length is below the spacing of doubles at one
stands for no rotation. -/
def ofQuat [LT α] [DecidableLT α] [OfScientific α] (q : Quat α) : Matrix3 α :=
  if q.normSq < (2.220446049250313e-16 : α) then identity
  else ofScaled q (((2 : Int) : α) / q.normSq)

end Matrix3

/-- The conjugate over a given length, which is the inverse of a quaternion up to its length. -/
def Quat.unitInverse (q : Quat α) (length : α) : Quat α :=
  ⟨-q.x / length, -q.y / length, -q.z / length, q.w / length⟩

variable [LT α] [DecidableLT α] [OfScientific α]

/-- The matrix that turns world velocities into the frame of a body with orientation `q`. -/
def Quat.bodyMatrix (q : Quat α) (length : α) : Matrix3 α :=
  Matrix3.ofQuat (q.unitInverse length)

/-- The same velocity, read in the frame of a body with orientation `q` of the given length. -/
def Twist.inBody (t : Twist α) (q : Quat α) (length : α) : Twist α :=
  ⟨(q.bodyMatrix length).mulVec t.linear, (q.bodyMatrix length).mulVec t.angular⟩

end RobotTelemetry
