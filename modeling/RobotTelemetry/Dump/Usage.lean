import RobotTelemetry.Dump.Arguments
/-!
# Usage of the dump

The usage is shown with every command line that is not accepted, and at the top of the help.
-/

namespace RobotTelemetry.Dump

/-- The name of the program. -/
def programName : String :=
  "robot_state_dump.py"

/-- Lines, each with its end. -/
def lines (texts : List String) : String :=
  String.join (texts.map (· ++ "\n"))

/-- How the program is called. -/
def usage : String :=
  lines
    ["usage: " ++ programName ++ " [-h] [--text] [--skew SKEW]",
      "                           [--robot-name ROBOT_NAME]",
      "                           [--odom-frame \x7bodom,vision\x7d]",
      "                           [--inverse-target INVERSE_TARGET] [--indent INDENT]",
      "                           snapshot"]

/-- What the program does and what its arguments mean. -/
def helpPage : String :=
  usage ++ lines
    ["",
      "Translate a saved Spot RobotState snapshot to JSON.",
      "",
      "positional arguments:",
      "  snapshot              serialized RobotState (binary unless --text)",
      "",
      "options:",
      "  -h, --help            show this help message and exit",
      "  --text                snapshot is in protobuf text format",
      "  --skew SKEW           clock skew in seconds added to every stamp",
      "  --robot-name ROBOT_NAME",
      "                        frame prefix namespace (empty for none)",
      "  --odom-frame \x7bodom,vision\x7d",
      "                        world anchor used for odometry",
      "  --inverse-target INVERSE_TARGET",
      "                        frame whose parent edge is published inverted",
      "  --indent INDENT"]

/-- What is shown with a command line that is not accepted. -/
def UsageError.report (e : UsageError) : String :=
  usage ++ lines [programName ++ ": error: " ++ e.message]

end RobotTelemetry.Dump
