import RobotTelemetry.Decimal.Reader
import RobotTelemetry.Dump.Option
import RobotTelemetry.Frames.Anchor
import RobotTelemetry.Text.Quoted
/-!
# Arguments of the dump

The words of a command line are first told apart, then read from left to right. The first plain word
names the snapshot file; later ones are left over, as are unknown options. The first defect on the
way ends the reading, and so does the wish for help. A later option overrides an earlier one.
-/

namespace RobotTelemetry.Dump

/-- What is given as the value of an option. Two dashes attached to an option give nothing at all,
and nothing is not checked on the command line. -/
inductive Given (β : Type) where
  | value (x : β)
  | nothing
deriving DecidableEq

/-- The arguments of the dump. -/
structure Arguments where
  file : String
  asText : Bool
  skew : Given Decimal.Numeral
  robotName : Given String
  anchor : Given Anchor
  inverseTarget : Option (Given String)
  indent : Given Int
deriving DecidableEq

/-- Why a command line is not accepted. -/
inductive UsageError where
  | ambiguous (word : String) (flags : List Flag)
  | missingValue (flag : Flag)
  | unwantedValue (flag : Flag) (value : String)
  | notADecimal (flag : Flag) (value : String)
  | notAnInteger (flag : Flag) (value : String)
  | notAChoice (flag : Flag) (value : String) (choices : List String)
  | missingFile
  | leftOver (words : List String)
deriving DecidableEq

/-- What is said about a command line that is not accepted. -/
def UsageError.message : UsageError → String
  | ambiguous word flags =>
      "ambiguous option: " ++ word ++ " could match " ++ ", ".intercalate (flags.map (·.name))
  | missingValue flag => about flag "expected one argument"
  | unwantedValue flag value => about flag ("ignored explicit argument " ++ Text.quoted value)
  | notADecimal flag value => about flag ("invalid float value: " ++ Text.quoted value)
  | notAnInteger flag value => about flag ("invalid int value: " ++ Text.quoted value)
  | notAChoice flag value choices =>
      about flag ("invalid choice: " ++ Text.quoted value ++ " (choose from " ++
        ", ".intercalate (choices.map Text.quoted) ++ ")")
  | missingFile => "the following arguments are required: snapshot"
  | leftOver words => "unrecognized arguments: " ++ " ".intercalate words
where
  about (flag : Flag) (text : String) : String :=
    "argument " ++ flag.title ++ ": " ++ text

/-- Why the reading of a command line ends early. -/
inductive Stop where
  | help
  | error (e : UsageError)
deriving DecidableEq

/-- What has been read so far. -/
structure Progress where
  file : Option String := none
  asText : Bool := false
  skew : Given Decimal.Numeral := .value (.finite false 0 0)
  robotName : Given String := .value ""
  anchor : Given Anchor := .value .standard
  inverseTarget : Option (Given String) := none
  indent : Given Int := .value 2
  leftOver : List String := []
  /-- The option whose value comes next. -/
  awaiting : Option Flag := none
  /-- Whether the last word named the file. -/
  justNamed : Bool := false

namespace Progress

/-- Leaves a word over. -/
def leave (p : Progress) (word : String) : Progress :=
  { p with leftOver := p.leftOver ++ [word] }

/-- Sets an option that has a value. -/
def set (p : Progress) (flag : Flag) (value : String) : Except Stop Progress :=
  match flag with
  | .help => .error .help
  | .text => .ok { p with asText := true }
  | .skew =>
      match Decimal.read value with
      | some skew => .ok { p with skew := .value skew }
      | none => .error (.error (.notADecimal flag value))
  | .robotName => .ok { p with robotName := .value value }
  | .anchor =>
      match Anchor.ofFrame? value with
      | some anchor => .ok { p with anchor := .value anchor }
      | none => .error (.error (.notAChoice flag value (Anchor.all.map (·.frame))))
  | .inverseTarget => .ok { p with inverseTarget := some (.value value) }
  | .indent =>
      match Decimal.readInt value with
      | some indent => .ok { p with indent := .value indent }
      | none => .error (.error (.notAnInteger flag value))

/-- Sets an option to nothing, if it has a value. -/
def setNothing (p : Progress) : Flag → Progress
  | .help | .text => p
  | .skew => { p with skew := .nothing }
  | .robotName => { p with robotName := .nothing }
  | .anchor => { p with anchor := .nothing }
  | .inverseTarget => { p with inverseTarget := some .nothing }
  | .indent => { p with indent := .nothing }

/-- Sets an option to what is attached to it. -/
def setAttached (p : Progress) (flag : Flag) (value : String) : Except Stop Progress :=
  if flag.takesValue then
    if value = "--" then .ok (p.setNothing flag) else p.set flag value
  else .error (.error (.unwantedValue flag value))

/-- The arguments at the end of a command line. -/
def finish (p : Progress) : Except Stop Arguments :=
  match p.awaiting, p.file, p.leftOver with
  | some flag, _, _ => .error (.error (.missingValue flag))
  | none, none, _ => .error (.error .missingFile)
  | none, some file, [] =>
      .ok ⟨file, p.asText, p.skew, p.robotName, p.anchor, p.inverseTarget, p.indent⟩
  | none, some _, words => .error (.error (.leftOver words))

end Progress

/-! ### Telling words apart -/

/-- What the words are. Behind the mark that ends the options every word is plain. -/
def tokens : List String → Except Stop (List Token)
  | [] => .ok []
  | word :: words =>
      if word = "--" then .ok (.endOfOptions :: words.map .plain)
      else
        match Token.ofWord word with
        | .error flags => .error (.error (.ambiguous word flags))
        | .ok token => (tokens words).map (token :: ·)

/-! ### Reading -/

/-- What letters behind the short form of help lead to: help, if each asks for it again. Others are
a value, which help does not take. -/
def readLetters : List Char → Stop
  | [] => .help
  | 'h' :: letters => readLetters letters
  | letters => .error (.unwantedValue .help (String.ofList letters))

/-- Reads a word. The mark that ends the options is dropped if it stands next to the name of the
file, and left over otherwise. -/
def Progress.read (before : Progress) (token : Token) : Except Stop Progress :=
  let p := { before with awaiting := none, justNamed := false }
  match before.awaiting, token with
  | some flag, .plain value => p.set flag value
  | some flag, _ => .error (.error (.missingValue flag))
  | none, .plain word =>
      .ok (if p.file.isNone then { p with file := some word, justNamed := true } else p.leave word)
  | none, .endOfOptions => .ok (if p.file.isNone ∨ before.justNamed then p else p.leave "--")
  | none, .unknown word => .ok (p.leave word)
  | none, .shortHelp letters => .error (readLetters letters)
  | none, .flag flag none =>
      if flag.takesValue then .ok { p with awaiting := flag } else p.set flag ""
  | none, .flag flag (some value) => p.setAttached flag value

/-- The arguments that a command line stands for. -/
def Arguments.read (words : List String) : Except Stop Arguments := do
  (← (← tokens words).foldlM Progress.read {}).finish

end RobotTelemetry.Dump
