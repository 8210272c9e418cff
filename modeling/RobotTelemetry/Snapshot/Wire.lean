/-!
# Wire fields

A binary message is a sequence of fields. Each starts with a tag that holds its number and the form
of its content: a variable-length integer, eight or four bytes, bytes with their count in front, or
a group of fields up to an end tag of the same number. Groups are out of use; they are skipped, but
they have to be well formed and may not be nested too deep.
-/

namespace RobotTelemetry.Wire

/-- The content of a field. -/
inductive Content where
  /-- A variable-length integer. -/
  | integer (n : Nat)
  /-- Eight bytes as one number. -/
  | wide (bits : Nat)
  /-- Four bytes as one number. -/
  | narrow (bits : Nat)
  | bytes (bytes : List UInt8)
  | group

/-- A field. -/
structure Field where
  number : Nat
  content : Content

/-! ### Numbers -/

/-- A variable-length integer of at most `limit` bytes, the lowest seven bits first. -/
def readVarint : (limit : Nat) → List UInt8 → Option (Nat × List UInt8)
  | 0, _ => none
  | _, [] => none
  | limit + 1, b :: rest =>
      if b.toNat < 0x80 then some (b.toNat, rest)
      else (readVarint limit rest).map fun (n, rest) => (b.toNat - 0x80 + 0x80 * n, rest)

/-- A variable-length integer that stays below a bound. -/
def readBelow (bound : Nat) (bytes : List UInt8) : Option (Nat × List UInt8) :=
  match readVarint 5 bytes with
  | some (n, rest) => if n < bound then some (n, rest) else none
  | none => none

/-- So many bytes. -/
def readBytes (count : Nat) (bytes : List UInt8) : Option (List UInt8 × List UInt8) :=
  if count ≤ bytes.length then some (bytes.take count, bytes.drop count) else none

/-- The number that bytes stand for, the lowest byte first. -/
def bitsOf (bytes : List UInt8) : Nat :=
  bytes.foldr (fun b n => b.toNat + 0x100 * n) 0

/-! ### Fields -/

/-- A tag: the number of a field and the form of its content. -/
def readTag (bytes : List UInt8) : Option ((Nat × Nat) × List UInt8) :=
  (readBelow 0x100000000 bytes).map fun (tag, rest) => ((tag / 8, tag % 8), rest)

/-- The content of a field, with a way to skip a group. -/
def readContent (skip : Nat → List UInt8 → Option (List UInt8)) (number form : Nat)
    (bytes : List UInt8) : Option (Content × List UInt8) :=
  match form with
  | 0 => (readVarint 10 bytes).map fun (n, rest) => (.integer (n % 0x10000000000000000), rest)
  | 1 => (readBytes 8 bytes).map fun (bs, rest) => (.wide (bitsOf bs), rest)
  | 2 => do
      let (count, rest) ← readBelow 0x80000000 bytes
      (readBytes count rest).map fun (bs, rest) => (.bytes bs, rest)
  | 3 => (skip number bytes).map fun rest => (.group, rest)
  | 5 => (readBytes 4 bytes).map fun (bs, rest) => (.narrow (bitsOf bs), rest)
  | _ => none

/-- What is left after the end tag of a group, at most `count` fields further. -/
def skipFields (skip : Nat → List UInt8 → Option (List UInt8)) (group : Nat) :
    (count : Nat) → List UInt8 → Option (List UInt8)
  | 0, _ => none
  | count + 1, bytes => do
      let ((number, form), rest) ← readTag bytes
      if form = 4 then
        if number = group then some rest else none
      else
        let (_, rest) ← readContent skip number form rest
        skipFields skip group count rest

/-- What is left after a group that is nested at most `levels` deep. A field takes a byte or more,
so that there are no more fields than bytes. -/
def skipGroup : (levels : Nat) → (group : Nat) → List UInt8 → Option (List UInt8)
  | 0, _, _ => none
  | levels + 1, group, bytes => skipFields (skipGroup levels) group bytes.length bytes

/-- All fields, at most `count`. None of them has the number zero. -/
def readFields (skip : Nat → List UInt8 → Option (List UInt8)) :
    (count : Nat) → List UInt8 → Option (List Field)
  | _, [] => some []
  | 0, _ => none
  | count + 1, bytes => do
      let ((number, form), rest) ← readTag bytes
      if number = 0 then none
      else
        let (content, rest) ← readContent skip number form rest
        (readFields skip count rest).map (⟨number, content⟩ :: ·)

/-- The fields of a message, with groups nested at most `levels` deep. -/
def fieldsOf (levels : Nat) (bytes : List UInt8) : Option (List Field) :=
  readFields (skipGroup levels) bytes.length bytes

end RobotTelemetry.Wire
