/-!
# Joints

The robot names a joint by a short internal id such as `fl.hx`; consumers read a friendly name such
as `front_left_hip_x`. The table of joints is closed: an id that it lacks belongs to no joint.
-/

namespace RobotTelemetry

/-- A joint of the legs or of the arm. -/
inductive Joint where
  | frontLeftHipX
  | frontLeftHipY
  | frontLeftKnee
  | frontRightHipX
  | frontRightHipY
  | frontRightKnee
  | rearLeftHipX
  | rearLeftHipY
  | rearLeftKnee
  | rearRightHipX
  | rearRightHipY
  | rearRightKnee
  | armSh0
  | armSh1
  | armHr0
  | armEl0
  | armEl1
  | armWr0
  | armWr1
  | armF1x
deriving DecidableEq

namespace Joint

/-- The joints in the order of the table. -/
def all : List Joint :=
  [.frontLeftHipX, .frontLeftHipY, .frontLeftKnee, .frontRightHipX, .frontRightHipY,
    .frontRightKnee, .rearLeftHipX, .rearLeftHipY, .rearLeftKnee, .rearRightHipX, .rearRightHipY,
    .rearRightKnee, .armSh0, .armSh1, .armHr0, .armEl0, .armEl1, .armWr0, .armWr1, .armF1x]

/-- The id that the robot uses. -/
def id : Joint → String
  | frontLeftHipX => "fl.hx"
  | frontLeftHipY => "fl.hy"
  | frontLeftKnee => "fl.kn"
  | frontRightHipX => "fr.hx"
  | frontRightHipY => "fr.hy"
  | frontRightKnee => "fr.kn"
  | rearLeftHipX => "hl.hx"
  | rearLeftHipY => "hl.hy"
  | rearLeftKnee => "hl.kn"
  | rearRightHipX => "hr.hx"
  | rearRightHipY => "hr.hy"
  | rearRightKnee => "hr.kn"
  | armSh0 => "arm0.sh0"
  | armSh1 => "arm0.sh1"
  | armHr0 => "arm0.hr0"
  | armEl0 => "arm0.el0"
  | armEl1 => "arm0.el1"
  | armWr0 => "arm0.wr0"
  | armWr1 => "arm0.wr1"
  | armF1x => "arm0.f1x"

/-- The name that consumers read. -/
def friendlyName : Joint → String
  | frontLeftHipX => "front_left_hip_x"
  | frontLeftHipY => "front_left_hip_y"
  | frontLeftKnee => "front_left_knee"
  | frontRightHipX => "front_right_hip_x"
  | frontRightHipY => "front_right_hip_y"
  | frontRightKnee => "front_right_knee"
  | rearLeftHipX => "rear_left_hip_x"
  | rearLeftHipY => "rear_left_hip_y"
  | rearLeftKnee => "rear_left_knee"
  | rearRightHipX => "rear_right_hip_x"
  | rearRightHipY => "rear_right_hip_y"
  | rearRightKnee => "rear_right_knee"
  | armSh0 => "arm_sh0"
  | armSh1 => "arm_sh1"
  | armHr0 => "arm_hr0"
  | armEl0 => "arm_el0"
  | armEl1 => "arm_el1"
  | armWr0 => "arm_wr0"
  | armWr1 => "arm_wr1"
  | armF1x => "arm_f1x"

/-- The label of the joint in the table: its friendly name in capitals. -/
def label (j : Joint) : String :=
  j.friendlyName.toUpper

/-- Whether the joint belongs to the arm. -/
def isArm (j : Joint) : Bool :=
  j.id.startsWith "arm0."

/-- The joint with an id, if the table has it. -/
def ofId? (id : String) : Option Joint :=
  all.find? (·.id = id)

theorem mem_all (j : Joint) : j ∈ all := by
  cases j <;> decide

@[simp]
theorem ofId?_id (j : Joint) : ofId? j.id = some j := by
  cases j <;> decide

/-- A joint is found only under its own id. -/
theorem id_of_ofId? {id : String} {j : Joint} (h : ofId? id = some j) : j.id = id := by
  simpa using List.find?_some h

/-- The friendly name, qualified. -/
def qualifiedName (framePrefix : String) (j : Joint) : String :=
  framePrefix ++ j.friendlyName

end Joint

end RobotTelemetry
