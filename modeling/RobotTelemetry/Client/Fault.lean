import RobotTelemetry.Decimal.Shortest
import RobotTelemetry.State.OfSnapshot
/-!
# Faults of the sources

A source that cannot answer gives a fault: its kind and some details. The text of a fault shows the
details, one as it is and several as a list. Faults of the operating system carry a number and a
message, and the common numbers have kinds of their own. A fault of the operating system has two to
five details; with fewer or more they mean nothing in particular.
-/

namespace RobotTelemetry

/-- A detail of a fault. -/
inductive Detail where
  | text (s : String)
  | number (n : Int)
  | decimal (x : Binary64)
  | truth (b : Bool)
  | nothing
  | list (items : List Detail)
  | record (members : List (String × Detail))
deriving Inhabited

namespace Detail

mutual

/-- A detail with texts between quotes. -/
def quoted : Detail → String
  | text s => Text.quoted s
  | number n => toString n
  | decimal x => Decimal.text "inf" "nan" x
  | truth b => if b then "True" else "False"
  | nothing => "None"
  | list items => "[" ++ ", ".intercalate (quotedItems items) ++ "]"
  | record members => "\x7b" ++ ", ".intercalate (quotedMembers members) ++ "\x7d"

/-- The items of a list, each with texts between quotes. -/
def quotedItems : List Detail → List String
  | [] => []
  | item :: items => item.quoted :: quotedItems items

/-- The members of a record, each with texts between quotes. -/
def quotedMembers : List (String × Detail) → List String
  | [] => []
  | (name, value) :: members =>
      (Text.quoted name ++ ": " ++ value.quoted) :: quotedMembers members

end

/-- A detail as it is: a text without quotes. -/
def plain : Detail → String
  | text s => s
  | detail => detail.quoted

/-- A detail as an integer; what is true counts as one, and what is false as zero. -/
def integer? : Detail → Option Int
  | number n => some n
  | truth b => some (if b then 1 else 0)
  | _ => none

/-- Whether a detail is a number of some kind. -/
def isNumeric : Detail → Bool
  | number _ | decimal _ | truth _ => true
  | _ => false

end Detail

/-- What a source gives in place of an answer. -/
structure Fault where
  kind : String
  details : List Detail

namespace Fault

/-- The kinds of faults of the operating system, the general one first. -/
def systemKinds : List String :=
  ["OSError", "BlockingIOError", "ChildProcessError", "ConnectionError", "BrokenPipeError",
    "ConnectionAbortedError", "ConnectionRefusedError", "ConnectionResetError", "FileExistsError",
    "FileNotFoundError", "InterruptedError", "IsADirectoryError", "NotADirectoryError",
    "PermissionError", "ProcessLookupError", "TimeoutError"]

/-- The kinds that numbers of the operating system have of their own. -/
def numberedKinds : List (Int × String) :=
  [(1, "PermissionError"), (2, "FileNotFoundError"), (3, "ProcessLookupError"),
    (4, "InterruptedError"), (10, "ChildProcessError"), (11, "BlockingIOError"),
    (13, "PermissionError"), (17, "FileExistsError"), (20, "NotADirectoryError"),
    (21, "IsADirectoryError"), (32, "BrokenPipeError"), (103, "ConnectionAbortedError"),
    (104, "ConnectionResetError"), (108, "BrokenPipeError"), (110, "TimeoutError"),
    (111, "ConnectionRefusedError"), (114, "BlockingIOError"), (115, "BlockingIOError")]

/-- Details in parentheses. -/
def listed (details : List Detail) : String :=
  "(" ++ ", ".intercalate (details.map (·.quoted)) ++ ")"

/-- The text of details without a rule of their own. -/
def plainText : List Detail → String
  | [] => ""
  | [detail] => detail.plain
  | details => listed details

/-- The paths that a fault of the operating system is about: the first detail behind the message and
the third one. -/
def pathsText : List Detail → String
  | [] | .nothing :: _ => ""
  | [path, _, .nothing] => ": " ++ path.quoted
  | [path, _, path'] => ": " ++ path.quoted ++ " -> " ++ path'.quoted
  | path :: _ => ": " ++ path.quoted

/-- The text of a fault of the operating system: its number and message, then the paths it is
about. -/
def systemText : List Detail → String
  | number :: message :: more =>
      if more.length ≤ 3 then
        "[Errno " ++ number.plain ++ "] " ++ message.plain ++ pathsText more
      else plainText (number :: message :: more)
  | details => plainText details

/-- The kind that a fault is known by: a general fault of the system goes by its number. -/
def knownKind (f : Fault) : String :=
  match f.kind, f.details with
  | "OSError", number :: _ :: more =>
      let known := number.integer?.bind fun n => numberedKinds.lookup n
      if more.length ≤ 3 then known.getD f.kind else f.kind
  | kind, _ => kind

/-- How much was written before an operation was blocked, if its fault says so: there a number in
the place of a path is a count. -/
def written? (f : Fault) : Option Detail :=
  match f.knownKind, f.details with
  | "BlockingIOError", _ :: _ :: count :: more =>
      if count.isNumeric ∧ more.length ≤ 2 then some count else none
  | _, _ => none

/-- The text of a fault. -/
def text (f : Fault) : String :=
  match f.kind, f.details with
  | "UnknownJointError", [id] => (StateError.unknownJoint id.plain).message
  | "MissingRequiredAnchorError", [frame] => noPathText frame.plain bodyFrame
  | "MissingRequiredAnchorError", [frame, body] => noPathText frame.plain body.plain
  | "KeyError", [detail] => detail.quoted
  | kind, details =>
      if kind ∈ systemKinds then
        systemText (if f.written?.isSome then details.take 2 else details)
      else plainText details

end Fault

end RobotTelemetry
