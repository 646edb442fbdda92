import TestCluster.Json.Token

namespace TestCluster.Json

inductive Value
  | null
  | flag (b : Bool)
  | number (whole : Option Int)
  | text (content : Content)
  | list (items : List Value)
  | record (members : List (Content × Value))

namespace Value

/-- A container that is still open, with what it holds so far, latest first. -/
inductive Frame
  | list (items : List Value)
  | record (members : List (Content × Value)) (name : Content)

/-- What may come next. -/
inductive Due
  | value
  | firstItem
  | firstName (members : List (Content × Value))
  | name (members : List (Content × Value))
  | colon
  | separator
  | nothing (whole : Value)

structure State where
  frames : List Frame
  due : Due

/-- Puts a value that is complete into its container. -/
def place (v : Value) : List Frame → State
  | [] => ⟨[], .nothing v⟩
  | .list items :: frames => ⟨.list (v :: items) :: frames, .separator⟩
  | .record members name :: frames => ⟨.record ((name, v) :: members) name :: frames, .separator⟩

def scalar? : Token → Option Value
  | .null => some .null
  | .flag b => some (.flag b)
  | .number whole => some (.number whole)
  | .text content => some (.text content)
  | _ => none

def begin? (frames : List Frame) (t : Token) : Option State :=
  match t with
  | .openList => some ⟨.list [] :: frames, .firstItem⟩
  | .openRecord => some ⟨frames, .firstName []⟩
  | t => (scalar? t).map (place · frames)

def step? (s : State) (t : Token) : Option State :=
  match s.due, s.frames, t with
  | .value, frames, t => begin? frames t
  | .firstItem, .list _ :: frames, .closeList => some (place (.list []) frames)
  | .firstItem, frames, t => begin? frames t
  | .firstName _, frames, .closeRecord => some (place (.record []) frames)
  | .firstName members, frames, .text name | .name members, frames, .text name =>
    some ⟨.record members name :: frames, .colon⟩
  | .colon, frames, .colon => some ⟨frames, .value⟩
  | .separator, .list items :: frames, .comma => some ⟨.list items :: frames, .value⟩
  | .separator, .list items :: frames, .closeList => some (place (.list items.reverse) frames)
  | .separator, .record members _ :: frames, .comma => some ⟨frames, .name members⟩
  | .separator, .record members _ :: frames, .closeRecord =>
    some (place (.record members.reverse) frames)
  | _, _, _ => none

def ofTokens? (tokens : List Token) : Option Value :=
  match tokens.foldlM step? ⟨[], .value⟩ with
  | some ⟨_, .nothing v⟩ => some v
  | _ => none

def ofBytes? (bytes : Bytes) : Option Value := do
  ofTokens? (← Token.ofInput? (Utf8.pieces bytes))

end Value

end TestCluster.Json
