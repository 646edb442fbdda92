import TestCluster.Json.Value

namespace TestCluster

structure RegisteredSchema where
  subject : String
  id : Int32
  version : Int32
  schema : String
  type : Option String
  deriving DecidableEq, Repr

namespace Json.Value

def string? : Value → Option String
  | .text content => content.map String.ofList
  | _ => none

def int32? : Value → Option Int32
  | .number (some n) => if -2147483648 ≤ n ∧ n ≤ 2147483647 then some (Int32.ofInt n) else none
  | _ => none

/-- A member that is null counts as one that is absent. -/
def optionalString? : Option Value → Option (Option String)
  | none | some .null => some none
  | some v => v.string?.map some

def strings? : Value → Option (List String)
  | .list items => items.mapM string?
  | _ => none

/-- The value of a name, unless the name occurs twice. -/
def member? (members : List (Content × Value)) (name : String) : Option (Option Value) :=
  match members.filter (·.1 = some name.toList) with
  | [] => some none
  | [m] => some (some m.2)
  | _ => none

def required? (members : List (Content × Value)) (name : String) : Option Value :=
  (member? members name).join

end Json.Value

namespace RegisteredSchema

open Json (Value Content)

def ofMembers? (members : List (Content × Value)) : Option RegisteredSchema := do
  guard (members.all (·.1.isSome))
  some {
    subject := ← (← Value.required? members "subject").string?
    id := ← (← Value.required? members "id").int32?
    version := ← (← Value.required? members "version").int32?
    schema := ← (← Value.required? members "schema").string?
    type := ← Value.optionalString? (← Value.member? members "schemaType") }

/-- Without names the parts stand in their order, the type last if at all. -/
def ofItems? : List Value → Option RegisteredSchema
  | subject :: id :: version :: schema :: rest => do
    guard (rest.length ≤ 1)
    some ⟨← subject.string?, ← id.int32?, ← version.int32?, ← schema.string?,
      ← Value.optionalString? rest.head?⟩
  | _ => none

def ofValue? : Value → Option RegisteredSchema
  | .record members => ofMembers? members
  | .list items => ofItems? items
  | _ => none

end RegisteredSchema

end TestCluster
