import TestCluster.Yaml.Event
import TestCluster.Yaml.Lexer

namespace TestCluster.Yaml

inductive Node
  | scalar (s : Scalar)
  | sequence (tag : Option String) (items : List Node)
  | mapping (tag : Option String) (entries : List (Node × Node))
  | alias (id : Nat)

instance : Inhabited Node :=
  ⟨.scalar .absent⟩

/-- A tree and the nodes that the aliases in it stand for. -/
structure Document where
  root : Option Node
  targets : List (Nat × Node)

/-- A collection that is still open, with its contents latest first. -/
structure Frame where
  serial : Option Nat
  tag : Option String
  isMapping : Bool
  contents : List Node

def pairs : List Node → List (Node × Node)
  | k :: v :: rest => (k, v) :: pairs rest
  | _ => []

def Frame.node (f : Frame) : Node :=
  let contents := f.contents.reverse
  if f.isMapping then .mapping f.tag (pairs contents) else .sequence f.tag contents

/-- `names` maps an anchor to the number that its aliases get. A number is the count of names at
that time, so a name given anew may share one with a later name: of both the later node counts. -/
structure Builder where
  frames : List Frame
  root : Option Node
  names : List (String × Nat)
  serials : List (Nat × Nat)
  nodes : List (Nat × Node)

namespace Builder

def empty : Builder :=
  ⟨[], none, [], [], []⟩

variable (b : Builder)

def anchor (name : Option String) : Option Nat × Builder :=
  match name with
  | none => (none, b)
  | some name =>
    let id := b.names.length
    let serial := b.serials.length
    (some serial, { b with
      names := (name, id) :: b.names.filter (·.1 ≠ name), serials := (id, serial) :: b.serials })

def place (serial : Option Nat) (n : Node) : Builder :=
  let nodes := match serial with
    | some s => (s, n) :: b.nodes
    | none => b.nodes
  match b.frames with
  | f :: frames => { b with nodes, frames := { f with contents := n :: f.contents } :: frames }
  | [] => { b with nodes, root := some n }

def openFrame (anchor tag : Option String) (isMapping : Bool) : Builder :=
  let (serial, b) := b.anchor anchor
  { b with frames := ⟨serial, tag, isMapping, []⟩ :: b.frames }

def closeFrame : Builder :=
  match b.frames with
  | f :: frames => { b with frames := frames }.place f.serial f.node
  | [] => b

def document : Document :=
  ⟨b.root, b.serials.filterMap fun (id, serial) => (b.nodes.lookup serial).map (id, ·)⟩

end Builder

/-- An alias to a name that is not known yet makes the whole stream invalid. -/
def Document.ofEvents? : Builder → List Event → Option (List Document)
  | _, [] => some []
  | b, e :: rest =>
    match e with
    | .alias name => do
      let id ← b.names.lookup name
      ofEvents? (b.place none (.alias id)) rest
    | .scalar anchor s =>
      let (serial, b) := b.anchor anchor
      ofEvents? (b.place serial (.scalar s)) rest
    | .sequence anchor tag => ofEvents? (b.openFrame anchor tag false) rest
    | .mapping anchor tag => ofEvents? (b.openFrame anchor tag true) rest
    | .close => ofEvents? b.closeFrame rest
    | .documentEnd => do
      let later ← ofEvents? .empty rest
      pure (b.document :: later)

/-- The documents of a text, or none when it is not well formed from end to end. -/
def documents? (text : String) : Option (List Document) := do
  let chars := match text.toList with
    | '\uFEFF' :: rest => rest
    | chars => chars
  let tokens ← Token.ofChars? chars
  let events ← Event.ofTokens? tokens
  Document.ofEvents? .empty events

end TestCluster.Yaml
