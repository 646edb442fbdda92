import TestCluster.Cli.Arguments
import TestCluster.Failure

namespace TestCluster.Cli

/-- What ends a run before its time. -/
inductive Trouble
  | arguments (stop : Stop)
  | config (error : ConfigError)
  | failure (error : Failure)

namespace Trouble

/-- The errors beneath an error, the nearest first. -/
def causes : Failure → List String
  | .config e => e.message :: e.cause?.toList
  | .client e => e.cause?.toList
  | .container e => e.text :: e.causes
  | .registry e => [e.message]
  | _ => []

/-- Later lines of a cause stand below its first. -/
def indented (first later cause : String) : String :=
  first ++ ("\n" ++ later).intercalate (cause.splitOn "\n")

def numbered (i : Nat) (cause : String) : String :=
  indented (String.ofList (List.replicate (5 - (toString i).length) ' ') ++ toString i ++ ": ")
    "       " cause

/-- Causes are numbered when there are several. -/
def causeLines : List String → List String
  | [] => []
  | [cause] => ["", "Caused by:", indented "    " "    " cause]
  | causes => ["", "Caused by:"] ++ causes.zipIdx.map fun (cause, i) => numbered i cause

def errorText (message : String) (causes : List String) : String :=
  "\n".intercalate (s!"Error: {message}" :: causeLines causes) ++ "\n"

/-- What goes where results go. -/
def answer : Trouble → List String
  | arguments (.question flag) => answerLines flag
  | _ => []

/-- What goes where complaints go. -/
def complaint : Trouble → String
  | arguments (.fault f) => f.message
  | arguments (.question _) => ""
  | config e => errorText e.message e.cause?.toList
  | failure e => errorText e.message (causes e)

def status : Trouble → UInt32
  | arguments (.fault _) => 2
  | arguments (.question _) => 0
  | config _ | failure _ => 1

end Trouble

end TestCluster.Cli
