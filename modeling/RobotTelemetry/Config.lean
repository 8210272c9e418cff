import RobotTelemetry.Json.Basic
import RobotTelemetry.Text.Character
import RobotTelemetry.Text.Quoted
import RobotTelemetry.State.OfSnapshot
/-!
# Client configurations

A configuration names the robot, the anchor of its odometry and the frame to be published inverted.
It is accepted only if the names qualify safely: the robot's name holds no slash and no blank, and
the inverse target is an unqualified frame below the body. `Config.ofJson` reports every defect of a
document, the fields in order and then the members that no field accounts for.
-/

namespace RobotTelemetry

/-- Whether a text can serve as the name of a robot. -/
def PlainName (name : String) : Prop :=
  ∀ c ∈ name.toList, c ≠ '/' ∧ Text.isBlank c = false

instance (name : String) : Decidable (PlainName name) :=
  List.decidableBAll _ name.toList

/-- A robot without a name has a plain one. -/
theorem plainName_empty : PlainName "" := by
  simp [PlainName]

/-- Whether a text is the name of a frame without a leading slash. -/
def UnqualifiedFrame (frame : String) : Prop :=
  frame ≠ "" ∧ frame.toList.head? ≠ some '/'

instance (frame : String) : Decidable (UnqualifiedFrame frame) :=
  inferInstanceAs (Decidable (_ ∧ _))

/-- Whether a frame, if one is given, can be published inverted: it is unqualified and below the
body. -/
def InvertibleTarget (target : Option String) : Prop :=
  ∀ t ∈ target, UnqualifiedFrame t ∧ t ≠ bodyFrame

theorem invertibleTarget_none : InvertibleTarget none := by
  simp [InvertibleTarget]

theorem invertibleTarget_some {frame : String} (h : UnqualifiedFrame frame)
    (h' : frame ≠ bodyFrame) : InvertibleTarget (some frame) := by
  simp [InvertibleTarget, h, h']

/-- A configuration with safe names. -/
structure Config where
  robotName : String
  anchor : Anchor
  inverseTarget : Option String
  plain_robotName : PlainName robotName
  invertible_inverseTarget : InvertibleTarget inverseTarget
deriving DecidableEq

namespace Config

/-- What qualifies the names of this robot. -/
def framePrefix (c : Config) : String :=
  if c.robotName = "" then "" else c.robotName ++ "/"

/-- The qualified frame to be published inverted: the anchor, unless a frame is named. -/
def inverseTargetFrame (c : Config) : String :=
  c.framePrefix ++ c.inverseTarget.getD c.anchor.frame

/-- How snapshots are read under a configuration. -/
def options (c : Config) : Options where
  framePrefix := c.framePrefix
  inverseTarget := c.inverseTargetFrame
  anchor := c.anchor

/-! ### Fields -/

/-- The fields of a configuration. -/
inductive Field where
  | robotName
  | anchor
  | inverseTarget
deriving DecidableEq

namespace Field

/-- The fields in order. -/
def all : List Field :=
  [.robotName, .anchor, .inverseTarget]

/-- The name of a field in a document. -/
def name : Field → String
  | robotName => "robot_name"
  | anchor => "preferred_odom_frame"
  | inverseTarget => "inverse_target_frame"

theorem mem_all (field : Field) : field ∈ all := by
  cases field <;> decide

end Field

/-! ### Defects -/

/-- What is wrong with a member of a document. -/
inductive Problem where
  | notText
  | notAnAnchor
  /-- The robot's name holds a slash or a blank. -/
  | unsafeName (name : String)
  /-- The inverse target is empty or starts with a slash. -/
  | qualifiedTarget
  /-- The inverse target is the body. -/
  | rootTarget
  /-- No field accounts for the member. -/
  | unknownMember
  /-- Configurations cannot be changed. -/
  | unchangeable
deriving DecidableEq

namespace Problem

/-- The kind of a problem. -/
def kind : Problem → String
  | notText => "string_type"
  | notAnAnchor => "enum"
  | unsafeName _ | qualifiedTarget | rootTarget => "value_error"
  | unknownMember => "extra_forbidden"
  | unchangeable => "frozen_instance"

/-- What is said about a problem. -/
def message : Problem → String
  | notText => "Input should be a valid string"
  | notAnAnchor => "Input should be 'odom' or 'vision'"
  | unsafeName name =>
      "Value error, robot_name must not contain '/' or whitespace: " ++ Text.quoted name
  | qualifiedTarget =>
      "Value error, inverse_target_frame must be a non-empty frame name without a leading '/'"
  | rootTarget =>
      "Value error, inverse_target_frame must not be the frame tree root " ++ Text.quoted bodyFrame
  | unknownMember => "Extra inputs are not permitted"
  | unchangeable => "Instance is frozen"

end Problem

/-- A problem with a member of a document. -/
structure Defect where
  member : String
  problem : Problem
deriving DecidableEq

/-- Why a document is no configuration. -/
inductive Rejection where
  /-- The text is no document at all. -/
  | malformed
  /-- The document is no object. -/
  | notAnObject
  | defects (list : List Defect)
deriving DecidableEq

/-! ### Reading -/

/-- The name of a robot. -/
def readName : Json → Except Problem { name : String // PlainName name }
  | .string name => if h : PlainName name then .ok ⟨name, h⟩ else .error (.unsafeName name)
  | _ => .error .notText

/-- The anchor of the odometry. -/
def readAnchor : Json → Except Problem Anchor
  | .string frame =>
      match Anchor.ofFrame? frame with
      | some anchor => .ok anchor
      | none => .error .notAnAnchor
  | _ => .error .notAnAnchor

/-- A frame to be published inverted, or null for none. -/
def readTarget : Json → Except Problem { target : Option String // InvertibleTarget target }
  | .null => .ok ⟨none, invertibleTarget_none⟩
  | .string frame =>
      if h : UnqualifiedFrame frame then
        if h' : frame = bodyFrame then .error .rootTarget
        else .ok ⟨some frame, invertibleTarget_some h h'⟩
      else .error .qualifiedTarget
  | _ => .error .notText

/-- A field of a document, its default if the document does not mention it. -/
def readField {β : Type} (members : List (String × Json)) (field : Field) (standard : β)
    (read : Json → Except Problem β) : Except Problem β :=
  match members.lookup field.name with
  | none => .ok standard
  | some v => read v

/-- The defect of a field, if it has one. -/
def defectOf {β : Type} (field : Field) : Except Problem β → List Defect
  | .ok _ => []
  | .error problem => [⟨field.name, problem⟩]

/-- The members that no field accounts for. -/
def strayMembers (members : List (String × Json)) : List Defect :=
  (members.filter fun member => Field.all.all (·.name ≠ member.1)).map fun member =>
    ⟨member.1, .unknownMember⟩

/-- The configuration that the members of an object stand for, or all their defects. -/
def ofMembers (members : List (String × Json)) : Except (List Defect) Config :=
  let name := readField members .robotName ⟨"", plainName_empty⟩ readName
  let anchor := readField members .anchor Anchor.standard readAnchor
  let target := readField members .inverseTarget ⟨none, invertibleTarget_none⟩ readTarget
  match name, anchor, target, strayMembers members with
  | .ok name, .ok anchor, .ok target, [] =>
      .ok ⟨name.val, anchor, target.val, name.property, target.property⟩
  | _, _, _, stray =>
      .error (defectOf .robotName name ++ defectOf .anchor anchor ++
        defectOf .inverseTarget target ++ stray)

/-- The configuration that a document stands for. -/
def ofJson : Json → Except Rejection Config
  | .object members => (ofMembers members).mapError .defects
  | _ => .error .notAnObject

/-- A configuration refuses to be changed. Names that start with an underscore are not its members,
and setting them leaves it as it is. -/
def assign (c : Config) (member : String) : Except Rejection Config :=
  if member.toList.head? = some '_' then .ok c
  else .error (.defects [⟨member, .unchangeable⟩])

end Config

end RobotTelemetry
