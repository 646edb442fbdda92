import TestCluster.Json.Quoted
import TestCluster.Session

namespace TestCluster.Cli

inductive Verbosity
  | trace
  | debug
  | info
  | warn
  | error
  deriving DecidableEq, Repr

namespace Verbosity

def all : List Verbosity :=
  [trace, debug, info, warn, error]

def name : Verbosity → String
  | trace => "trace"
  | debug => "debug"
  | info => "info"
  | warn => "warn"
  | error => "error"

/-- A name that is not known stands for the middle. -/
def ofName (text : String) : Verbosity :=
  (all.find? (·.name = text.map Char.toLower)).getD info

/-- Flags on the command line count more than the configuration. -/
def ofCount (count : Nat) (l : Logging) : Verbosity :=
  match count with
  | 0 => ofName l.level
  | 1 => debug
  | _ => trace

def shows : Verbosity → Level → Bool
  | trace, _ | debug, _ => true
  | info, level => level ≠ .debug
  | warn, level => level = .warn
  | error, _ => false

end Verbosity

structure Log where
  verbosity : Verbosity
  json : Bool

namespace Log

def valueText (json : Bool) : FieldValue → String
  | .text s => if json then Json.quoted s else s
  | .number n => toString n
  | .flag b => if b then "true" else "false"

def jsonLine (e : Event) : String :=
  let fields := ("message", FieldValue.text e.message) :: e.fields
  Json.recordText [("level", Json.quoted e.level.name),
    ("fields", Json.recordText (fields.map fun (name, v) => (name, valueText true v))),
    ("target", Json.quoted e.target)]

def plainLine (e : Event) : String :=
  let fields := e.fields.map fun (name, v) => s!" {name}=" ++ valueText false v
  s!"{e.level.name} {e.target}: {e.message}" ++ String.join fields

def line (l : Log) (e : Event) : String :=
  if l.json then jsonLine e else plainLine e

def shown (l : Log) (notes : List Note) : List Event :=
  (notes.filterMap (·.event?)).filter (l.verbosity.shows ·.level)

/-- What a note puts out: a printed line as it is, an event if it is shown. -/
def noteLine? (l : Log) : Note → Option String
  | .printed text => some text
  | .event e => if l.verbosity.shows e.level then some (l.line e) else none
  | _ => none

end Log

end TestCluster.Cli
