import TestCluster.Config.Fields
import TestCluster.Config.Validate
import TestCluster.Text.Blank
import TestCluster.Text.Reference
import TestCluster.Text.Utf8

namespace TestCluster

abbrev Files := String → Except Unreadable Bytes

def readText (files : Files) (path : String) : Except Unreadable String := do
  match Utf8.decode? (← files path) with
  | some chars => pure (String.ofList chars)
  | none => .error .notText

namespace Config

/-- A stream without a document is an empty tree. -/
def ofDocuments (documents : List Yaml.Document) : Except Malformed Config :=
  match documents with
  | [] => .ok {}
  | d :: later =>
    let root := d.root.getD (.scalar .absent)
    match decode ⟨d.targets, [], root⟩ with
    | .error fault => .error (.tree fault)
    | .ok c => if later.isEmpty then .ok c else .error .manyDocuments

/-- Text that is blank all over leaves every field at its default. -/
def read (text : String) : Except Malformed Config :=
  if Text.isBlank text then .ok {}
  else match Yaml.documents? text with
    | none => .error .text
    | some documents => ofDocuments documents

/-- Only a valid configuration is given out. -/
def ofText (text : String) : Except ConfigError Config := do
  let c ← (read text).mapError .malformed
  c.validate
  pure c

def ofFile (files : Files) (path : String) : Except ConfigError Config := do
  ofText (← (readText files path).mapError (.unreadable path))

def pathVariable : String := "KAFKA_FIXTURE_CONFIG"

/-- A path that is unset or empty leaves every field at its default. -/
def ofEnvironment (env : Environment) (files : Files) : Except ConfigError Config :=
  match env pathVariable with
  | some path => if path = "" then .ok {} else ofFile files path
  | none => .ok {}

end Config

end TestCluster
