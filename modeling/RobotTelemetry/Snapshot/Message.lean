import RobotTelemetry.Snapshot.Wire
import RobotTelemetry.Text.Utf8
/-!
# Messages

The fields of a snapshot have known numbers and known kinds of content, laid down in `fields`. A
field with another number, or with another form of content, is skipped and leaves a mark behind. A
field that occurs again overrides a number or a text, adds to a list, and adds its own fields to a
message.
-/

namespace RobotTelemetry.Wire

/-! ### Kinds -/

/-- The kinds of messages. -/
inductive MessageKind where
  | snapshot
  | time
  | reading
  | vector
  | rotation
  | pose
  | twist
  | power
  | battery
  | comms
  | wifi
  | faults
  | fault
  | faultLevel
  | estop
  | kinematics
  | joint
  | frameTree
  | frame
  | edge
  | behaviorFaults
  | behaviorFault
  | foot
  | terrain
  | manipulator
  | serviceFaults
  | serviceFault
  | serviceFaultId
  | ground
  | system
  | motor
  | behavior

/-- The kinds of content. -/
inductive FieldKind where
  | integer
  | double
  /-- Doubles, one by one or packed. -/
  | doubles
  | text
  | message (kind : MessageKind)

/-- The fields of a message by number. Integers and single doubles that nobody asks for are not
listed: whether they are read or skipped makes no difference. -/
def fields : MessageKind → List (Nat × FieldKind)
  | .snapshot =>
      [(1, .message .power), (2, .message .battery), (3, .message .comms), (4, .message .faults),
        (5, .message .estop), (6, .message .kinematics), (7, .message .behaviorFaults),
        (8, .message .foot), (10, .message .serviceFaults), (11, .message .manipulator),
        (12, .message .ground), (13, .message .system), (14, .message .behavior)]
  | .time => [(1, .integer), (2, .integer)]
  | .reading => [(1, .double)]
  | .vector => [(1, .double), (2, .double), (3, .double)]
  | .rotation => [(1, .double), (2, .double), (3, .double), (4, .double)]
  | .pose => [(1, .message .vector), (2, .message .rotation)]
  | .twist => [(1, .message .vector), (2, .message .vector)]
  | .power =>
      [(1, .message .time), (2, .integer), (3, .integer), (4, .message .reading),
        (5, .message .time), (10, .text)]
  | .battery =>
      [(1, .message .time), (2, .text), (3, .message .reading), (4, .message .time),
        (5, .message .reading), (6, .message .reading), (7, .doubles), (8, .integer),
        (9, .message .reading)]
  | .comms => [(1, .message .time), (2, .message .wifi)]
  | .wifi => [(1, .integer), (2, .text)]
  | .faults => [(1, .message .fault), (2, .message .fault), (3, .message .faultLevel)]
  | .fault =>
      [(1, .text), (2, .message .time), (3, .message .time), (4, .integer), (5, .text), (6, .text),
        (7, .integer), (8, .integer), (9, .text), (15, .text)]
  | .faultLevel => [(1, .text)]
  | .estop => [(1, .message .time), (2, .text), (3, .integer), (4, .integer), (5, .text)]
  | .kinematics =>
      [(2, .message .joint), (8, .message .twist), (12, .message .twist), (30, .message .time),
        (31, .message .frameTree)]
  | .joint =>
      [(1, .text), (2, .message .reading), (3, .message .reading), (4, .message .reading),
        (5, .message .reading)]
  | .frameTree => [(1, .message .frame)]
  | .frame => [(1, .text), (2, .message .edge)]
  | .edge => [(1, .text), (2, .message .pose)]
  | .behaviorFaults => [(1, .message .behaviorFault)]
  | .behaviorFault => [(1, .integer), (2, .message .time), (3, .integer), (4, .integer)]
  | .foot => [(1, .message .vector), (2, .integer), (3, .message .terrain)]
  | .terrain =>
      [(1, .double), (2, .text), (3, .message .vector), (4, .message .vector),
        (5, .message .vector), (6, .double), (7, .double)]
  | .manipulator =>
      [(6, .integer), (9, .integer), (12, .double), (13, .message .vector), (14, .message .twist),
        (15, .message .twist), (16, .integer), (17, .message .twist)]
  | .serviceFaults =>
      [(1, .message .serviceFault), (2, .message .serviceFault), (3, .message .faultLevel)]
  | .serviceFault =>
      [(1, .message .serviceFaultId), (2, .text), (3, .text), (5, .message .time),
        (6, .message .time)]
  | .serviceFaultId => [(1, .text), (2, .text), (3, .text)]
  | .system => [(1, .message .motor)]
  | .motor => [(1, .text)]
  | .ground | .behavior => []

/-! ### Values -/

/-- The value of a field. -/
inductive Value where
  | integer (n : Nat)
  | double (bits : Nat)
  | text (s : String)
  | message (fields : List (Nat × Value))
  /-- The mark of a field that was skipped. -/
  | skipped

/-- A message: the values of its fields by number, in order. -/
abbrev Message :=
  List (Nat × Value)

/-- Packed doubles, at most `count`. -/
def unpacked : (count : Nat) → List UInt8 → Option (List Value)
  | _, [] => some []
  | 0, _ => none
  | count + 1, bytes => do
      let (bs, rest) ← readBytes 8 bytes
      (unpacked count rest).map (.double (bitsOf bs) :: ·)

/-- The values that content stands for, with a way to read messages; a mark if its form is another
than the kind asks for. -/
def valuesOf (nested : MessageKind → List UInt8 → Option Message) :
    FieldKind → Content → Option (List Value)
  | .integer, .integer n => some [.integer n]
  | .double, .wide bits => some [.double bits]
  | .doubles, .wide bits => some [.double bits]
  | .doubles, .bytes bytes => unpacked bytes.length bytes
  | .text, .bytes bytes => (Text.decode bytes).toOption.map fun s => [.text s]
  | .message kind, .bytes bytes => (nested kind bytes).map fun m => [.message m]
  | _, _ => some [.skipped]

/-- The values of a field. -/
def readField (nested : MessageKind → List UInt8 → Option Message) (kind : MessageKind)
    (field : Field) : Option Message :=
  match (fields kind).lookup field.number with
  | none => some [(field.number, .skipped)]
  | some fieldKind =>
      (valuesOf nested fieldKind field.content).map (List.map fun v => (field.number, v))

/-- A message of some kind, with groups and messages nested at most `levels` deep. -/
def readMessage : (levels : Nat) → MessageKind → List UInt8 → Option Message
  | 0, kind, bytes => do
      let fields ← fieldsOf 0 bytes
      (fields.mapM (readField (fun _ _ => none) kind)).map List.flatten
  | levels + 1, kind, bytes => do
      let fields ← fieldsOf (levels + 1) bytes
      (fields.mapM (readField (readMessage levels) kind)).map List.flatten

namespace Message

/-- The values of a field, in order. -/
def values (m : Message) (number : Nat) : List Value :=
  (m.filter (·.1 = number)).map Prod.snd

/-- The integers of a field, as their sixty-four bits. -/
def integers (m : Message) (number : Nat) : List Nat :=
  (m.values number).filterMap fun
    | .integer n => some n
    | _ => none

/-- The integer of a field; zero if it is missing. -/
def integer (m : Message) (number : Nat) : Nat :=
  (m.integers number).getLast?.getD 0

/-- The signed integer of a field that keeps so many bits. -/
def signed (bits : Nat) (m : Message) (number : Nat) : Int :=
  (m.integer number : Int).bmod (Nat.pow 2 bits)

/-- The unsigned integer of a field that keeps so many bits. -/
def unsigned (bits : Nat) (m : Message) (number : Nat) : Int :=
  (m.integer number % Nat.pow 2 bits : Nat)

/-- The doubles of a field. -/
def doubles (m : Message) (number : Nat) : List Float :=
  (m.values number).filterMap fun
    | .double bits => some (Float.ofBits (UInt64.ofNat bits))
    | _ => none

/-- The double of a field; zero if it is missing. -/
def double (m : Message) (number : Nat) : Float :=
  (m.doubles number).getLast?.getD 0.0

/-- The texts of a field. -/
def texts (m : Message) (number : Nat) : List String :=
  (m.values number).filterMap fun
    | .text s => some s
    | _ => none

/-- The text of a field; empty if it is missing. -/
def text (m : Message) (number : Nat) : String :=
  (m.texts number).getLast?.getD ""

/-- The messages of a field that is a list. -/
def messages (m : Message) (number : Nat) : List Message :=
  (m.values number).filterMap fun
    | .message fields => some fields
    | _ => none

/-- The message of a field that is none or one: the fields of all its occurrences. -/
def message? (m : Message) (number : Nat) : Option Message :=
  match m.messages number with
  | [] => none
  | occurrences => some occurrences.flatten

/-- The message of a field; one without fields if it is missing. -/
def message (m : Message) (number : Nat) : Message :=
  (m.message? number).getD []

/-- Whether no field of the message itself was skipped. -/
def isComplete (m : Message) : Bool :=
  m.all fun
    | (_, .skipped) => false
    | _ => true

/-- The messages of a field that is a map: an entry with a skipped field is left out. -/
def entries (m : Message) (number : Nat) : List Message :=
  (m.messages number).filter (·.isComplete)

end Message

end RobotTelemetry.Wire
