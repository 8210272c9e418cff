import RobotTelemetry.Text.Quoted
/-!
# Reading UTF-8

Bytes are read as characters one sequence after the other. Only the shortest sequence of a character
is accepted, and surrogates have none. The first defect ends the reading; it is described by the
bytes it extends over.
-/

namespace RobotTelemetry.Text

/-- What is wrong with a sequence of bytes. -/
inductive Utf8Defect where
  | start
  | continuation
  | truncated
deriving DecidableEq

/-- What is said about a defect. -/
def Utf8Defect.message : Utf8Defect → String
  | start => "invalid start byte"
  | continuation => "invalid continuation byte"
  | truncated => "unexpected end of data"

/-- A defect, the bytes it extends over and the first of them. -/
structure Utf8Error where
  defect : Utf8Defect
  position : Nat
  extent : Nat
  byte : UInt8
deriving DecidableEq

/-- What is said about bytes that are no text. -/
def Utf8Error.message (e : Utf8Error) : String :=
  let subject :=
    if e.extent = 1 then
      "byte 0x" ++ String.ofList (hexDigits 2 e.byte.toNat) ++ " in position " ++
        toString e.position
    else
      "bytes in position " ++ toString e.position ++ "-" ++ toString (e.position + e.extent - 1)
  "'utf-8' codec can't decode " ++ subject ++ ": " ++ e.defect.message

/-- Whether a byte continues a sequence. -/
def continues (b : UInt8) : Bool :=
  0x80 ≤ b.toNat && b.toNat < 0xc0

/-- How many bytes follow the first byte of a sequence. -/
def followers? (first : UInt8) : Option Nat :=
  let n := first.toNat
  if n < 0x80 then some 0
  else if n < 0xc2 then none
  else if n < 0xe0 then some 1
  else if n < 0xf0 then some 2
  else if n < 0xf5 then some 3
  else none

/-- Whether a byte may follow the first one: it continues the sequence, and the sequence is then
neither longer than needed, nor a surrogate, nor past the last character. -/
def secondFits (first second : UInt8) : Bool :=
  let n := second.toNat
  continues second &&
    !((first = 0xe0 && n < 0xa0) || (first = 0xed && 0xa0 ≤ n) || (first = 0xf0 && n < 0x90) ||
      (first = 0xf4 && 0x90 ≤ n))

/-- How many bytes after the first one fit. -/
def fitting (first : UInt8) : List UInt8 → Nat
  | [] => 0
  | second :: rest => if secondFits first second then 1 + (rest.takeWhile continues).length else 0

/-- The number that the bits of a sequence with `count` followers stand for. -/
def sequenceValue (first : UInt8) (count : Nat) (rest : List UInt8) : Nat :=
  let lead := if count = 0 then first.toNat else first.toNat % Nat.pow 2 (6 - count)
  rest.foldl (fun n b => n * 64 + b.toNat % 64) lead

/-- The characters of bytes that stand at a position. -/
def decodeAt (position : Nat) (bytes : List UInt8) : Except Utf8Error (List Char) :=
  match bytes with
  | [] => .ok []
  | first :: rest =>
      match followers? first with
      | none => .error ⟨.start, position, 1, first⟩
      | some count =>
          let fit := fitting first (rest.take count)
          if fit = count then
            (decodeAt (position + 1 + count) (rest.drop count)).map
              (Char.ofNat (sequenceValue first count (rest.take count)) :: ·)
          else if fit = rest.length then .error ⟨.truncated, position, 1 + fit, first⟩
          else .error ⟨.continuation, position, 1 + fit, first⟩
termination_by bytes.length
decreasing_by simp only [List.length_drop, List.length_cons]; omega

/-- The text that bytes stand for. -/
def decode (bytes : List UInt8) : Except Utf8Error String :=
  (decodeAt 0 bytes).map String.ofList

end RobotTelemetry.Text
