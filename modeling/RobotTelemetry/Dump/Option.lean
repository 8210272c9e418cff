import RobotTelemetry.Text.Character
/-!
# Options on a command line

An option is written out or cut short, as long as it stays unambiguous; its value follows it or is
attached by an equals sign. Everything else that starts with a dash is an unknown option, unless it
is a number or holds a space.
-/

namespace RobotTelemetry.Dump

/-- The options of the dump. -/
inductive Flag where
  | help
  | text
  | skew
  | robotName
  | anchor
  | inverseTarget
  | indent
deriving DecidableEq

namespace Flag

/-- The options in the order of the usage. -/
def all : List Flag :=
  [.help, .text, .skew, .robotName, .anchor, .inverseTarget, .indent]

/-- How an option is written out. -/
def name : Flag → String
  | help => "--help"
  | text => "--text"
  | skew => "--skew"
  | robotName => "--robot-name"
  | anchor => "--odom-frame"
  | inverseTarget => "--inverse-target"
  | indent => "--indent"

/-- How an option is named in messages. -/
def title : Flag → String
  | help => "-h/--help"
  | flag => flag.name

/-- Whether an option has a value. -/
def takesValue : Flag → Bool
  | help | text => false
  | _ => true

end Flag

/-- What a word of a command line is. -/
inductive Token where
  /-- A word that stands for itself. -/
  | plain (word : String)
  /-- An option, perhaps with a value attached. -/
  | flag (flag : Flag) (attached : Option String)
  /-- The short form of help with more letters behind it, perhaps after an equals sign. -/
  | shortHelp (letters : List Char)
  /-- An option that the dump does not have. -/
  | unknown (word : String)
  /-- The mark that ends the options. -/
  | endOfOptions
deriving DecidableEq

/-- A word cut at its first equals sign. -/
def splitAtEquals (cs : List Char) : List Char × Option (List Char) :=
  match cs.dropWhile (· ≠ '=') with
  | [] => (cs, none)
  | _ :: value => (cs.takeWhile (· ≠ '='), some value)

/-- Whether all characters are digits, of any script. -/
def allDigits (cs : List Char) : Bool :=
  cs.all fun c => (Text.digit? c).isSome

/-- Whether characters are digits, perhaps with a point before the last of them. -/
def isUnsigned (cs : List Char) : Bool :=
  match cs.dropWhile (· ≠ '.') with
  | [] => !cs.isEmpty && allDigits cs
  | _ :: fraction => allDigits (cs.takeWhile (· ≠ '.')) && !fraction.isEmpty && allDigits fraction

/-- Whether a word is a negative number; a line break may end it. -/
def isNegativeNumber : List Char → Bool
  | '-' :: rest => isUnsigned rest || (rest.getLast? = some '\n' && isUnsigned rest.dropLast)
  | _ => false

/-- The options whose written-out form starts with the given characters. -/
def candidates (name : List Char) : List Flag :=
  Flag.all.filter fun flag => name.isPrefixOf flag.name.toList

/-- What a word is, given what it would be if it is no option of the dump. A written-out option is
meant even if it starts a longer one. The error names the options that a cut one could mean. -/
def longFlag (word : List Char) (otherwise : Token) : Except (List Flag) Token :=
  let (name, value) := splitAtEquals word
  let attached := value.map String.ofList
  match Flag.all.find? fun flag => flag.name.toList = name with
  | some flag => .ok (.flag flag attached)
  | none =>
      match candidates name with
      | [] => .ok otherwise
      | [flag] => .ok (.flag flag attached)
      | flags => .error flags

/-- What a word is; the error names the options that it could mean. -/
def Token.ofWord (word : String) : Except (List Flag) Token :=
  let cs := word.toList
  let otherwise :=
    if isNegativeNumber cs || cs.contains ' ' then Token.plain word else Token.unknown word
  match cs with
  | '-' :: '-' :: _ => longFlag cs otherwise
  | ['-', 'h'] => .ok (.flag .help none)
  | ['-', 'h', '='] => .ok (.flag .help (some ""))
  | '-' :: 'h' :: '=' :: letters => .ok (.shortHelp letters)
  | '-' :: 'h' :: letters => .ok (.shortHelp letters)
  | '-' :: _ :: _ => .ok otherwise
  | _ => .ok (.plain word)

end RobotTelemetry.Dump
