import TestCluster.Properties
import TestCluster.Yaml.Node
import TestCluster.Yaml.Resolve

namespace TestCluster.Yaml

inductive Step
  | key (name : String)
  | unnamed
  | index (i : Nat)
  deriving DecidableEq, Repr

abbrev Path := List Step

def Path.write : Path → String
  | [] => ""
  | .key name :: outer => (if outer.isEmpty then "" else write outer ++ ".") ++ name
  | .unnamed :: outer => (if outer.isEmpty then "" else write outer ++ ".") ++ "?"
  | .index i :: outer => (if outer.isEmpty then "." else write outer) ++ s!"[{i}]"

inductive Complaint
  | kind (found : Resolve.Found) (expected : String)
  | value (found : Resolve.Found) (expected : String)
  | duplicateField (name : String)
  | missingField (name : String)
  | unknownVariant (name : String) (known : List String)
  | refused (reason : String)
  deriving DecidableEq, Repr

def Complaint.message : Complaint → String
  | kind found expected => s!"invalid type: {found.describe}, expected {expected}"
  | value found expected => s!"invalid value: {found.describe}, expected {expected}"
  | duplicateField name => s!"duplicate field `{name}`"
  | missingField name => s!"missing field `{name}`"
  | unknownVariant name known =>
    s!"unknown variant `{name}`, expected one of "
      ++ ", ".intercalate (known.map fun k => s!"`{k}`")
  | refused reason => reason

structure Fault where
  path : Path
  complaint : Complaint
  deriving DecidableEq, Repr

def Fault.message (f : Fault) : String :=
  if f.path.isEmpty then f.complaint.message else f.path.write ++ ": " ++ f.complaint.message

structure Place where
  targets : List (Nat × Node)
  path : Path
  node : Node

namespace Place

variable (p : Place)

def follow : Node → Node
  | .alias id => (p.targets.lookup id).getD (.scalar .absent)
  | n => n

def fail {α : Type} (c : Complaint) : Except Fault α :=
  .error ⟨p.path, c⟩

def failOutside {α : Type} (c : Complaint) : Except Fault α :=
  .error ⟨p.path.drop 1, c⟩

def step : Node → Step
  | .scalar s => .key s.text
  | _ => .unnamed

def child (s : Step) (n : Node) : Place :=
  { p with path := s :: p.path, node := p.follow n }

/-- The complaint that something else was expected here. -/
def mismatch {α : Type} (expected : String) : Except Fault α :=
  match p.node with
  | .scalar s => match Resolve.scalar s with
    | .ok found => p.fail (.kind found expected)
    | .error wanted => p.fail (.value (.text s.text) wanted)
  | .sequence .. => p.fail (.kind .sequence expected)
  | _ => p.fail (.kind .mapping expected)

/-- An empty plain scalar stands for an empty mapping. -/
def entries (expected : String) : Except Fault (List (Node × Node)) :=
  match p.node with
  | .mapping _ entries => .ok entries
  | .scalar s => if s.text = "" && s.style = .plain then .ok [] else p.mismatch expected
  | _ => p.mismatch expected

def items (expected : String) : Except Fault (List Node) :=
  match p.node with
  | .sequence _ items => .ok items
  | .scalar s => if s.text = "" && s.style = .plain then .ok [] else p.mismatch expected
  | _ => p.mismatch expected

end Place

abbrev Decoder (α : Type) := Place → Except Fault α

namespace Decode

variable {α : Type}

def textFor (expected : String) : Decoder String := fun p =>
  match p.node with
  | .scalar s => .ok s.text
  | _ => p.mismatch expected

def text : Decoder String :=
  textFor "a string"

def filePath : Decoder String :=
  textFor "path string"

/-- A plain scalar, or a literal block under the core tag of that kind. -/
def bareText? (kind : String) : Node → Option String
  | .scalar s =>
    if s.style = .plain || (s.style = .literal && s.tag = some (Resolve.coreTag kind)) then
      some s.text
    else none
  | _ => none

def flag : Decoder Bool := fun p =>
  match (bareText? "bool" p.node).bind Resolve.flag? with
  | some b => .ok b
  | none => p.mismatch "a boolean"

def signed (expected : String) (fits : Int → Bool) (ofInt : Int → α) : Decoder α := fun p =>
  match (bareText? "int" p.node).bind (Resolve.signed? 64) with
  | some n => if fits n then .ok (ofInt n) else p.fail (.value (.integer n) expected)
  | none => p.mismatch expected

def unsigned (expected : String) (bits : Nat) (ofNat : Nat → α) : Decoder α := fun p =>
  match (bareText? "int" p.node).bind (Resolve.unsigned? 64) with
  | some n => if n < Nat.pow 2 bits then .ok (ofNat n) else p.fail (.value (.integer n) expected)
  | none => p.mismatch expected

def int32 : Decoder Int32 :=
  signed "i32" (fun n => Int32.minValue.toInt ≤ n && n ≤ Int32.maxValue.toInt) Int32.ofInt

def uint32 : Decoder UInt32 :=
  unsigned "u32" 32 UInt32.ofNat

def uint64 : Decoder UInt64 :=
  unsigned "u64" 64 UInt64.ofNat

def size : Decoder UInt64 :=
  unsigned "usize" 64 UInt64.ofNat

def isNothing (s : Scalar) : Bool :=
  s.style = .plain && s.tag.isNone && (s.text = "" || Resolve.isNull s.text)

def optional (d : Decoder α) : Decoder (Option α) := fun p =>
  match p.node with
  | .scalar s =>
    if isNothing s then .ok none
    else if s.style = .plain && s.tag = some (Resolve.coreTag "null") then
      if Resolve.isNull s.text then .ok none else p.failOutside (.value (.text s.text) "null")
    else some <$> d p
  | _ => some <$> d p

def readItems (d : Decoder α) (p : Place) (items : List Node) : Except Fault (List α) :=
  items.zipIdx.mapM fun (n, i) => d (p.child (.index i) n)

def list (d : Decoder α) : Decoder (List α) := fun p => do
  readItems d p (← p.items "a sequence")

/-- The text of a key; what is wrong with a key is reported for its mapping. -/
def keyText (p : Place) (expected : String) (key : Node) : Except Fault String :=
  textFor expected { p with node := p.follow key }

def readProperties (p : Place) : Properties → List (Node × Node) → Except Fault Properties
  | found, [] => .ok found
  | found, (k, v) :: rest => do
    let name ← keyText p "a string" k
    let value ← text (p.child (Place.step k) v)
    readProperties p (found.insert name value) rest

def properties : Decoder Properties := fun p => do
  readProperties p .empty (← p.entries "a map")

/-- A member of a record: its name, whether it has to be there, and what its node changes. -/
structure Member (α : Type) where
  name : String
  set : Decoder (α → α)
  required : Bool

def field {β : Type} (name : String) (d : Decoder β) (set : α → β → α) : Member α :=
  ⟨name, fun p => (fun b a => set a b) <$> d p, false⟩

def requiredField {β : Type} (name : String) (d : Decoder β) (set : α → β → α) : Member α :=
  { field name d set with required := true }

/-- Reads the fields of a record one after the other. Other names are passed over, whatever
stands there. -/
def readFields (fields : List (Member α)) (p : Place) :
    List String → α → List (Node × Node) → Except Fault (List String × α)
  | seen, a, [] => .ok (seen, a)
  | seen, a, (k, v) :: rest => do
    let name ← keyText p "field identifier" k
    match fields.find? (·.name = name) with
    | none => readFields fields p seen a rest
    | some f =>
      if seen.contains name then p.fail (.duplicateField name)
      else
        let update ← f.set (p.child (Place.step k) v)
        readFields fields p (name :: seen) (update a) rest

def record (name : String) (fields : List (Member α)) (a : α) : Decoder α := fun p => do
  let (seen, a) ← readFields fields p [] a (← p.entries ("struct " ++ name))
  match fields.find? fun f => f.required && !seen.contains f.name with
  | some f => p.fail (.missingField f.name)
  | none => pure a

def localTag? (tag : Option String) : Option String :=
  match tag.map String.toList with
  | some ('!' :: name) => some (String.ofList name)
  | _ => none

def nodeTag : Node → Option String
  | .scalar s => s.tag
  | .sequence tag _ | .mapping tag _ => tag
  | .alias _ => none

/-- What stands under a local tag that names a choice has to be nothing. -/
def nothing : Decoder Unit := fun p =>
  match p.node with
  | .scalar s =>
    if s.text = "" || (s.style = .plain && Resolve.isNull s.text) then .ok ()
    else p.fail (.value (.text s.text) "null")
  | .sequence .. => p.fail (.kind .sequence "unit")
  | _ => p.fail (.kind .mapping "unit")

/-- One of a list of names, given as text or as a local tag. -/
def choice (choices : List (String × α)) : Decoder α := fun p =>
  match localTag? (nodeTag p.node) with
  | some name => match choices.lookup name with
    | some a => (fun () => a) <$> nothing p
    | none => p.failOutside (.unknownVariant name (choices.map (·.1)))
  | none => match p.node with
    | .scalar s => match choices.lookup s.text with
      | some a => .ok a
      | none => p.fail (.unknownVariant s.text (choices.map (·.1)))
    | .sequence .. => p.fail (.kind .sequence "a YAML tag starting with '!'")
    | _ => p.fail (.kind .mapping "a YAML tag starting with '!'")

end Decode

end TestCluster.Yaml
