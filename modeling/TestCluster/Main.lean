import TestCluster.Cli.Log
import TestCluster.Cli.Report
import TestCluster.Cli.Run
import TestCluster.Mock.Brokers

namespace TestCluster.Cli

def unreadable : IO.Error → Unreadable
  | .noFileOrDirectory .. => .missing
  | .inappropriateType .. => .directory
  | .invalidArgument .. => .nameTooLong
  | _ => .missing

def contentOf (path : String) : IO (Except Unreadable Bytes) := do
  try
    let content ← IO.FS.readBinFile path
    pure (.ok content.toList)
  catch e => pure (.error (unreadable e))

def valuesOf (names : List String) : IO Environment := do
  let found ← names.mapM fun name => do pure (name, ← IO.getEnv name)
  pure fun name => (found.lookup name).join

def namesIn (text : String) : List String :=
  (Text.Reference.split text.toList).filterMap fun
    | .name letters => some (String.ofList letters)
    | .char _ => none

def credentialNames (c : Config) : List String :=
  c.cluster.sasl.elim [] fun s => namesIn s.username ++ namesIn s.password

def putLines (log : Log) (notes : List Note) : IO Unit :=
  (notes.filterMap log.noteLine?).forM IO.println

def giveUp (t : Trouble) : IO UInt32 := do
  t.answer.forM IO.println
  IO.eprint t.complaint
  pure t.status

def awaitEnd : IO Unit := do
  let input ← IO.getStdin
  let _ ← input.read 1

def start (a : Arguments) (c : Config) : IO UInt32 := do
  let env ← valuesOf (credentialNames c)
  let log : Log := ⟨.ofCount a.verbosity c.logging, c.logging.json⟩
  let plan : Plan := ⟨c, a.topics, a.seed⟩
  let (begun, s) := (plan.begin Brokers.platform env).run.run { world := {} }
  putLines log s.notes
  match begun with
  | .error e => giveUp (.failure e)
  | .ok f =>
    awaitEnd
    let (finished, s) := (Plan.finish f).run.run { s with notes := [] }
    putLines log s.notes
    match finished with
    | .error e => giveUp (.failure e)
    | .ok _ => pure 0

end TestCluster.Cli

open TestCluster TestCluster.Cli

def main (arguments : List String) : IO UInt32 := do
  match Arguments.read arguments with
  | .error stop => giveUp (.arguments stop)
  | .ok a =>
    let env ← valuesOf [Config.pathVariable]
    let path := (a.config <|> env Config.pathVariable).getD ""
    let content ← contentOf path
    match a.configuration env fun _ => content with
    | .error e => giveUp (.config e)
    | .ok c => start a c
