import RobotTelemetry.Geometry.Component
/-!
# Vectors, quaternions and poses

A pose maps points of one frame into another: it rotates them by a quaternion and then moves them.
The formulas are stated over any type of numbers with the operations they use. Their order of
operations is fixed, since rounded arithmetic is not associative, and no quaternion is normalised on
the way.
-/

namespace RobotTelemetry

/-- A vector of space. -/
structure Vec3 (β : Type) where
  x : β
  y : β
  z : β
deriving DecidableEq

/-- A quaternion, with its scalar part last. -/
structure Quat (β : Type) where
  x : β
  y : β
  z : β
  w : β
deriving DecidableEq

/-- A rigid motion: a rotation followed by a move. -/
structure Pose (β : Type) where
  position : Vec3 β
  rotation : Quat β
deriving DecidableEq

/-- A linear and an angular velocity. -/
structure Twist (β : Type) where
  linear : Vec3 β
  angular : Vec3 β
deriving DecidableEq

variable {β γ : Type}

namespace Vec3

/-- Applies a function to each part. -/
def map (f : β → γ) (v : Vec3 β) : Vec3 γ :=
  ⟨f v.x, f v.y, f v.z⟩

/-- The parts in order. -/
def toList (v : Vec3 β) : List β :=
  [v.x, v.y, v.z]

/-- The origin. -/
def zero [IntCast β] : Vec3 β :=
  ⟨((0 : Int) : β), ((0 : Int) : β), ((0 : Int) : β)⟩

instance [Add β] : Add (Vec3 β) := ⟨fun u v => ⟨u.x + v.x, u.y + v.y, u.z + v.z⟩⟩

instance [Neg β] : Neg (Vec3 β) := ⟨fun v => ⟨-v.x, -v.y, -v.z⟩⟩

end Vec3

namespace Quat

/-- Applies a function to each part. -/
def map (f : β → γ) (q : Quat β) : Quat γ :=
  ⟨f q.x, f q.y, f q.z, f q.w⟩

/-- The parts in order, the scalar part last. -/
def toList (q : Quat β) : List β :=
  [q.x, q.y, q.z, q.w]

/-- The rotation that moves nothing. -/
def identity [IntCast β] : Quat β :=
  ⟨((0 : Int) : β), ((0 : Int) : β), ((0 : Int) : β), ((1 : Int) : β)⟩

/-- The product of quaternions; each part is summed from left to right. -/
def mul [Add β] [Sub β] [Mul β] (a b : Quat β) : Quat β where
  w := a.w * b.w - a.x * b.x - a.y * b.y - a.z * b.z
  x := a.w * b.x + a.x * b.w + a.y * b.z - a.z * b.y
  y := a.w * b.y - a.x * b.z + a.y * b.w + a.z * b.x
  z := a.w * b.z + a.x * b.y - a.y * b.x + a.z * b.w

instance [Add β] [Sub β] [Mul β] : Mul (Quat β) := ⟨mul⟩

/-- The conjugate, which is the inverse of a unit quaternion. -/
def inverse [Neg β] (q : Quat β) : Quat β :=
  ⟨-q.x, -q.y, -q.z, q.w⟩

/-- The squared length of a quaternion. -/
def normSq [Add β] [Mul β] (q : Quat β) : β :=
  q.w * q.w + q.x * q.x + q.y * q.y + q.z * q.z

/-- The quaternion of a vector: its scalar part is a whole zero. -/
def ofVec [IntCast β] (v : Vec3 β) : Quat β :=
  ⟨v.x, v.y, v.z, ((0 : Int) : β)⟩

/-- The vector part of a quaternion. -/
def vec (q : Quat β) : Vec3 β :=
  ⟨q.x, q.y, q.z⟩

/-- Rotates a vector: the vector part of `q * (v * q⁻¹)`. -/
def rotate [Add β] [Sub β] [Mul β] [Neg β] [IntCast β] (q : Quat β) (v : Vec3 β) : Vec3 β :=
  (q * (ofVec v * q.inverse)).vec

end Quat

namespace Pose

/-- The parts in order: the position, then the rotation with its scalar part last. -/
def toList (p : Pose β) : List β :=
  p.position.toList ++ p.rotation.toList

/-- Applies a function to each part. -/
def map (f : β → γ) (p : Pose β) : Pose γ :=
  ⟨p.position.map f, p.rotation.map f⟩

/-- The motion that moves nothing. -/
def identity [IntCast β] : Pose β :=
  ⟨Vec3.zero, Quat.identity⟩

variable [Add β] [Sub β] [Mul β] [Neg β] [IntCast β]

/-- The motion back, provided the rotation is a unit quaternion. -/
def inverse (p : Pose β) : Pose β :=
  ⟨-p.rotation.inverse.rotate p.position, p.rotation.inverse⟩

/-- The motion `b` followed by the motion `a`. -/
def mul (a b : Pose β) : Pose β :=
  ⟨a.position + a.rotation.rotate b.position, a.rotation * b.rotation⟩

instance : Mul (Pose β) := ⟨mul⟩

end Pose

/-! ### Measured poses -/

variable {α : Type}

/-- Whether a motion equals the one that moves nothing, as numbers: the sign of a zero plays no
part. -/
def Pose.isIdentity [BEq α] [IntCast α] (p : Pose (Component α)) : Bool :=
  (p.toList.zip (Pose.identity : Pose (Component α)).toList).all fun (a, b) => a.value == b.value

/-- A pose as the robot reports it; its rotation may be missing. -/
structure PoseReport (α : Type) where
  position : Vec3 α
  rotation : Option (Quat α)

namespace PoseReport

/-- A report that gives neither position nor rotation. -/
def unset [IntCast α] : PoseReport α :=
  ⟨Vec3.zero, none⟩

/-- The reported motion; a missing rotation is the whole identity. -/
def pose (p : PoseReport α) : Pose (Component α) :=
  ⟨p.position.map .real, (p.rotation.map (Quat.map .real)).getD Quat.identity⟩

end PoseReport

end RobotTelemetry
