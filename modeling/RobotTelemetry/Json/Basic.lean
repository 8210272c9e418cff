/-!
# JSON values

The members of an object keep their order, and a number keeps its text, so that a value determines
how it is written up to layout.
-/

namespace RobotTelemetry

/-- A JSON value. -/
inductive Json where
  | null
  | bool (b : Bool)
  | number (text : String)
  | string (s : String)
  | array (items : List Json)
  | object (members : List (String × Json))
deriving Inhabited

namespace Json

/-- An integer. -/
def int (n : Int) : Json :=
  .number (toString n)

/-- A value that may be missing, written as null if it is. -/
def ofOption {β : Type} (f : β → Json) : Option β → Json
  | none => .null
  | some x => f x

/-- A list of values. -/
def ofList {β : Type} (f : β → Json) (xs : List β) : Json :=
  .array (xs.map f)

/-- Sets a member: a name that occurs keeps its place and takes the new value. -/
def setMember (name : String) (value : Json) : List (String × Json) → List (String × Json)
  | [] => [(name, value)]
  | member :: rest =>
      if member.1 = name then (name, value) :: rest else member :: setMember name value rest

/-- The object with the given members: of two members with one name the later value counts. -/
def ofMembers (members : List (String × Json)) : Json :=
  .object (members.foldl (fun done (name, value) => setMember name value done) [])

/-- A member of an object. -/
def member? (name : String) : Json → Option Json
  | .object members => members.lookup name
  | _ => none

end Json

end RobotTelemetry
