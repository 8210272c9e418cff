import RobotTelemetry.Dump.Basic
/-!
# The dump as a program

Everything that the dump decides is in `prepare`, `load` and `complete`; here a file is opened and
the end is written out.
-/

namespace RobotTelemetry.Dump

/-- What the operating system says about common numbers. -/
def systemMessages : List (Nat × String) :=
  [(1, "Operation not permitted"), (2, "No such file or directory"), (5, "Input/output error"),
    (6, "No such device or address"), (13, "Permission denied"), (20, "Not a directory"),
    (21, "Is a directory"), (23, "Too many open files in system"), (24, "Too many open files"),
    (36, "File name too long"), (40, "Too many levels of symbolic links")]

/-- The number of a failed operation, perhaps negated, and a message. -/
def numbered : IO.Error → UInt32 × String
  | .alreadyExists _ n text | .otherError n text | .resourceBusy n text
  | .resourceVanished n text | .unsupportedOperation n text | .hardwareFault n text
  | .unsatisfiedConstraints n text | .illegalOperation n text | .protocolError n text
  | .timeExpired n text | .interrupted _ n text | .noFileOrDirectory _ n text
  | .invalidArgument _ n text | .permissionDenied _ n text | .resourceExhausted _ n text
  | .inappropriateType _ n text | .noSuchThing _ n text => (n, text)
  | .unexpectedEof => (0, "unexpected end of file")
  | .userError text => (0, text)

/-- A failed operation as a refusal of the operating system. -/
def refusal (e : IO.Error) : Opened :=
  let (n, text) := numbered e
  let number := if n < 0x80000000 then n.toNat else (-n).toNat
  .refused number ((systemMessages.lookup number).getD text)

/-- What opening a file gives. -/
def openFile (path : String) : IO Opened := do
  try
    return .content (← IO.FS.readBinFile path).toList
  catch e =>
    return refusal e

/-- Writes how the program ends. -/
def finish (ending : Ending) : IO UInt32 := do
  (← IO.getStdout).putStr ending.output
  (← IO.getStderr).putStr ending.errors
  return ending.code.toUInt32

/-- Writes what breaks the program off. -/
def breakOff (breakdown : Breakdown) : IO UInt32 := do
  (← IO.getStderr).putStrLn breakdown.message
  return 1

/-- Reads a snapshot file and writes its robot state. -/
def program (decoder : Decoder) (words : List String) : IO UInt32 := do
  match prepare words with
  | .error ending => finish ending
  | .ok request =>
      match request.checkedPath with
      | .error breakdown => breakOff breakdown
      | .ok path =>
          let opened ← openFile path
          match load decoder request.arguments.asText opened >>= complete request with
          | .ok ending => finish ending
          | .error breakdown => breakOff breakdown

end RobotTelemetry.Dump
