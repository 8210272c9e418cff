import RobotTelemetry.Config
import RobotTelemetry.Dump.Usage
import RobotTelemetry.Json.Printer
import RobotTelemetry.Snapshot.BinaryForm
import RobotTelemetry.State.Json
import RobotTelemetry.Time.Seconds
/-!
# The dump

The dump reads a snapshot file and writes its robot state as JSON. `prepare` reads the command line
and checks the configuration before any file is opened; `complete` takes what opening the file gave
and says how the program ends. What a file stands for is up to a `Decoder`, which knows the two forms
of snapshots. Some things are not among the ends of the program and break it off: a path with a null
character, a text file that is not encoded properly, a skew that is no duration and an indentation
past a machine word.
-/

namespace RobotTelemetry.Dump

/-! ### Ends -/

/-- How the program ends: its exit code, what it writes, and what it reports. -/
structure Ending where
  code : Nat
  output : String := ""
  errors : String := ""
  log : List Event := []
deriving DecidableEq

/-- What breaks the program off. -/
inductive Breakdown where
  /-- The path of the file holds a null character. -/
  | path
  | encoding (error : Text.Utf8Error)
  /-- The skew is nothing. -/
  | noSkew
  | skew (error : SecondsError)
  /-- The indentation is nothing. -/
  | noIndent
  /-- The indentation is past a signed sixty-four bit word. -/
  | indentRange
deriving DecidableEq

/-- What is said when the program breaks off. -/
def Breakdown.message : Breakdown → String
  | path => "embedded null byte"
  | encoding error => error.message
  | noSkew => "type list doesn't define __round__ method"
  | skew error => error.message
  | noIndent => "can't multiply sequence by non-int of type 'list'"
  | indentRange => "cannot fit 'int' into an index-sized integer"

/-- An end with an error message. -/
def Ending.failure (code : Nat) (text : String) : Ending :=
  { code, errors := "[ERROR] " ++ text ++ "\n" }

/-- The end that a command line leads to when it is not read to its end. -/
def Stop.ending : Stop → Ending
  | .help => { code := 0, output := helpPage }
  | .error e => { code := 2, errors := e.report }

/-! ### Configurations -/

/-- The longest start of a text that takes at most so many bytes. -/
def startWithin : (bytes : Nat) → List Char → List Char
  | _, [] => []
  | bytes, c :: cs =>
      if c.utf8Size ≤ bytes then c :: startWithin (bytes - c.utf8Size) cs else []

/-- A text that is cut in the middle if it takes more than fifty bytes. -/
def shortened (s : String) : String :=
  let cs := s.toList
  if s.utf8ByteSize ≤ 50 then s
  else
    String.ofList (startWithin 25 cs) ++ "..." ++
      String.ofList (startWithin 24 cs.reverse).reverse

/-- Where a kind of defect is explained. -/
def explanation (kind : String) : String :=
  "https:" ++ "//errors.pydantic.dev/2.14/v/" ++ kind

/-- How a member of a configuration is shown: a text, or an empty list if nothing was given. -/
def shown : Option Json → String
  | some (.string s) => "input_value=" ++ shortened (Text.quoted s) ++ ", input_type=str"
  | _ => "input_value=[], input_type=list"

/-- The text of a defect of the configuration that given members stand for. -/
def defectText (members : List (String × Json)) (d : Config.Defect) : String :=
  "\n" ++ d.member ++ "\n  " ++ d.problem.message ++ " [type=" ++ d.problem.kind ++ ", " ++
    shown (members.lookup d.member) ++ "]\n    For further information visit " ++
    explanation d.problem.kind

/-- How many defects there are. -/
def countText (n : Nat) : String :=
  toString n ++ (if n = 1 then " validation error" else " validation errors") ++
    " for StateClientConfig"

/-- The text of all defects. -/
def defectsText (members : List (String × Json)) (ds : List Config.Defect) : String :=
  countText ds.length ++ String.join (ds.map (defectText members))

/-- What is given, as a member of a document: nothing is an empty list. -/
def Given.toJson {β : Type} (text : β → String) : Given β → Json
  | .value x => .string (text x)
  | .nothing => .array []

namespace Arguments

/-- The configuration as a document. -/
def members (a : Arguments) : List (String × Json) :=
  [(Config.Field.robotName.name, a.robotName.toJson id),
    (Config.Field.anchor.name, a.anchor.toJson (·.frame)),
    (Config.Field.inverseTarget.name, Json.ofOption (·.toJson id) a.inverseTarget)]

/-- The checked configuration. -/
def config (a : Arguments) : Except Ending Config :=
  (Config.ofMembers a.members).mapError fun ds =>
    .failure 2 ("invalid configuration: " ++ defectsText a.members ds)

end Arguments

/-! ### Files -/

/-- A path in its normal form: without empty steps and without steps that stay in place. Two leading
slashes, and no more, are kept. -/
def normalPath (path : String) : String :=
  let steps := ((path.toList.splitOn '/').map String.ofList).filter fun step =>
    step ≠ "" ∧ step ≠ "."
  let root :=
    if path.startsWith "//" ∧ ¬path.startsWith "///" then "//"
    else if path.startsWith "/" then "/"
    else ""
  let normal := root ++ "/".intercalate steps
  if normal = "" then "." else normal

/-- What opening a file gives. -/
inductive Opened where
  /-- The operating system refuses, with a number and a message. -/
  | refused (number : Nat) (message : String)
  | content (bytes : List UInt8)
deriving DecidableEq

/-- Why a snapshot file cannot be read. -/
inductive LoadError where
  | refused (number : Nat) (message : String)
  /-- The decoder says what is wrong with the file. -/
  | malformed (message : String)
deriving DecidableEq

/-- What is said about a file that cannot be read. -/
def LoadError.report (path : String) (e : LoadError) : String :=
  "could not read " ++ path ++ ": " ++
    match e with
    | refused number message =>
        "[Errno " ++ toString number ++ "] " ++ message ++ ": " ++ Text.quoted path
    | malformed message => message

/-- What the two forms of a snapshot file stand for: a snapshot, or a message that says why there is
none. -/
structure Decoder where
  text : String → Except String (Snapshot Float)
  bytes : List UInt8 → Except String (Snapshot Float)

/-- The binary form is that of `Snapshot.ofBytes?`, with one message for all that is malformed. -/
def Decoder.binary (text : String → Except String (Snapshot Float)) (malformed : String) :
    Decoder where
  text
  bytes bytes :=
    match Snapshot.ofBytes? bytes with
    | some s => .ok s
    | none => .error malformed

/-- All lines of a text end in the same way, whichever characters ended them before. -/
def unifiedLines : List Char → List Char
  | [] => []
  | '\r' :: '\n' :: cs => '\n' :: unifiedLines cs
  | '\r' :: cs => '\n' :: unifiedLines cs
  | c :: cs => c :: unifiedLines cs

/-- The text of a file, its lines ended alike. -/
def textOf (bytes : List UInt8) : Except Text.Utf8Error String :=
  (Text.decode bytes).map fun text => .ofList (unifiedLines text.toList)

/-- The snapshot in an opened file. -/
def load (decoder : Decoder) (asText : Bool) :
    Opened → Except Breakdown (Except LoadError (Snapshot Float))
  | .refused number message => .ok (.error (.refused number message))
  | .content bytes =>
      if asText then
        match textOf bytes with
        | .error e => .error (.encoding e)
        | .ok text => .ok ((decoder.text text).mapError .malformed)
      else .ok ((decoder.bytes bytes).mapError .malformed)

/-! ### Output -/

/-- The text of a double. -/
def doubleText (x : Binary64) : String :=
  Decimal.text "Infinity" "NaN" x

/-- A component as a JSON number: a whole one keeps no point. -/
def componentJson : Component Float → Json
  | .whole n => .int n
  | .real x => .number (doubleText (.ofFloat x))

/-- The text of a robot state, one item per line. -/
def stateText (indent : Nat) (s : RobotState Float) : String :=
  (s.toJson componentJson).write (.indented indent)

/-- The indentation that is given. A negative one is none. -/
def indentation : Given Int → Except Breakdown Nat
  | .nothing => .error .noIndent
  | .value n =>
      if n < -0x8000000000000000 ∨ 0x8000000000000000 ≤ n then .error .indentRange
      else .ok n.toNat

/-- The skew that is given. -/
def skewOf : Given Decimal.Numeral → Except Breakdown Duration
  | .nothing => .error .noSkew
  | .value seconds => (Duration.ofSeconds seconds.toFloat).mapError .skew

/-! ### The program -/

/-- What is left to do once the command line is accepted. -/
structure Request where
  arguments : Arguments
  config : Config

/-- The path of the snapshot file. -/
def Request.path (r : Request) : String :=
  normalPath r.arguments.file

/-- The path of the snapshot file, if it is one that can be looked up. -/
def Request.checkedPath (r : Request) : Except Breakdown String :=
  if r.path.toList.contains '\x00' then .error .path else .ok r.path

/-- The request of a command line; the program ends here if there is none. -/
def prepare (words : List String) : Except Ending Request := do
  let arguments ← (Arguments.read words).mapError (·.ending)
  let config ← arguments.config
  pure ⟨arguments, config⟩

/-- How a request ends, given what became of its snapshot file. -/
def complete (r : Request) : Except LoadError (Snapshot Float) → Except Breakdown Ending
  | .error e => .ok (.failure 1 (e.report r.path))
  | .ok snapshot => do
      let skew ← skewOf r.arguments.skew
      let read := snapshot.toState skew r.config.options
      match read.outcome with
      | .error e =>
          pure { Ending.failure 1 ("translation failed: " ++ e.message) with log := read.log }
      | .ok state =>
          let indent ← indentation r.arguments.indent
          pure { code := 0, output := stateText indent state ++ "\n", log := read.log }

/-- The program, with what becomes of a file at a path, read as text or not. -/
def run (words : List String)
    (file : String → Bool → Except Breakdown (Except LoadError (Snapshot Float))) :
    Except Breakdown Ending :=
  match prepare words with
  | .error ending => .ok ending
  | .ok request => do
      complete request (← file (← request.checkedPath) request.arguments.asText)

end RobotTelemetry.Dump
