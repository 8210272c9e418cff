import RobotTelemetry.Json.Basic
import RobotTelemetry.Text.Quoted
/-!
# Writing JSON

A value is written in ASCII: other characters are escaped by the numbers of their UTF-16 units. The
layout says whether every item has a line of its own and how far a line is indented per level.
-/

namespace RobotTelemetry.Json

/-- How a value is laid out. -/
inductive Layout where
  /-- All on one line. -/
  | compact
  /-- One item per line, indented by so many spaces per level. -/
  | indented (width : Nat)
deriving DecidableEq

/-- What stands before an item at a level. -/
def Layout.lineBreak : Layout → Nat → List Char
  | compact, _ => []
  | indented width, level => '\n' :: List.replicate (width * level) ' '

/-! ### Strings -/

/-- A UTF-16 unit by its number. -/
def escapeUnit (n : Nat) : List Char :=
  '\\' :: 'u' :: Text.hexDigits 4 n

/-- A character by its UTF-16 units. -/
def escapeUnits (n : Nat) : List Char :=
  if n < 0x10000 then escapeUnit n
  else escapeUnit (0xd800 + (n - 0x10000) / 0x400) ++ escapeUnit (0xdc00 + (n - 0x10000) % 0x400)

/-- A character as it stands in a string. -/
def escapeChar (c : Char) : List Char :=
  if c = '"' then ['\\', '"']
  else if c = '\\' then ['\\', '\\']
  else if c = '\n' then ['\\', 'n']
  else if c = '\r' then ['\\', 'r']
  else if c = '\t' then ['\\', 't']
  else if c = '\x08' then ['\\', 'b']
  else if c = '\x0c' then ['\\', 'f']
  else if 0x20 ≤ c.toNat ∧ c.toNat < 0x7f then [c]
  else escapeUnits c.toNat

/-- A string in double quotes. -/
def stringChars (s : String) : List Char :=
  '"' :: s.toList.flatMap escapeChar ++ ['"']

/-! ### Values -/

mutual

/-- The text of a value that starts at a level. -/
def chars (layout : Layout) (level : Nat) : Json → List Char
  | .null => "null".toList
  | .bool true => "true".toList
  | .bool false => "false".toList
  | .number text => text.toList
  | .string s => stringChars s
  | .array [] => ['[', ']']
  | .array (item :: items) =>
      '[' :: layout.lineBreak (level + 1) ++ chars layout (level + 1) item ++
        itemChars layout level items
  | .object [] => ['{', '}']
  | .object (member :: members) =>
      '{' :: layout.lineBreak (level + 1) ++ stringChars member.1 ++ ':' :: ' ' ::
        chars layout (level + 1) member.2 ++ memberChars layout level members

/-- The items of an array after the first, and its end. -/
def itemChars (layout : Layout) (level : Nat) : List Json → List Char
  | [] => layout.lineBreak level ++ [']']
  | item :: items =>
      ',' :: layout.lineBreak (level + 1) ++ chars layout (level + 1) item ++
        itemChars layout level items

/-- The members of an object after the first, and its end. -/
def memberChars (layout : Layout) (level : Nat) : List (String × Json) → List Char
  | [] => layout.lineBreak level ++ ['}']
  | (name, value) :: members =>
      ',' :: layout.lineBreak (level + 1) ++ stringChars name ++ ':' :: ' ' ::
        chars layout (level + 1) value ++ memberChars layout level members

end

/-- The text of a value. -/
def write (layout : Layout) (v : Json) : String :=
  String.ofList (v.chars layout 0)

end RobotTelemetry.Json
