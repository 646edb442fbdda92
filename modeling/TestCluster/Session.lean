import TestCluster.Client.Property
import TestCluster.Delivery
import TestCluster.Shared
import TestCluster.Topic

/-!
What happens while a program works with a cluster. A session keeps the outside world, the notes on
what was done to it, in order, and the clients that are shared.
-/

namespace TestCluster

/-- A client that was made, told apart by its number. -/
structure Client where
  number : Nat
  kind : Client.Kind
  properties : Properties
  deriving DecidableEq

inductive Note
  | event (e : Event)
  | waited (readiness : Readiness)
  | asked (topic : String) (spec : TopicSpec) (timeout : UInt64)
  | stopped (cleanup : Bool)
  | made (kind : Client.Kind)
  | slept (ms : UInt64)
  | printed (line : String)

namespace Note

def event? : Note → Option Event
  | event e => some e
  | _ => none

def line? : Note → Option String
  | printed line => some line
  | _ => none

end Note

structure Session (w : Type) where
  world : w
  notes : List Note := []
  drawn : Nat := 0
  made : Nat := 0
  admin : Shared Client := .empty
  seeder : Shared Client := .empty

abbrev Act (w : Type) := ExceptT Failure (StateM (Session w))

/-- What can be heard of the world while it is acted on. -/
inductive Remark
  | event (e : Event)
  | slept (ms : UInt64)

def Remark.note : Remark → Note
  | event e => .event e
  | slept ms => .slept ms

structure Reaction (w : Type) where
  result : Except Failure Unit
  remarks : List Remark
  world : w

abbrev Hook (w : Type) := w → Reaction w

namespace Act

variable {w α : Type}

def note (n : Note) : Act w Unit :=
  modify fun s => { s with notes := s.notes ++ [n] }

def emit (e : Event) : Act w Unit :=
  note (.event e)

/-- Goes on after a failure. -/
def attempt (a : Act w α) : Act w (Except Failure α) :=
  ExceptT.mk (do return .ok (← a.run))

def onWorld (f : w → α × w) : Act w α :=
  modifyGet fun s => ((f s.world).1, { s with world := (f s.world).2 })

def ofExcept : Except Failure α → Act w α
  | .ok a => pure a
  | .error e => throw e

def hook (h : Hook w) : Act w Unit := do
  let r ← modifyGet fun s =>
    let r := h s.world
    (r.result, { s with world := r.world, notes := s.notes ++ r.remarks.map Remark.note })
  ofExcept r

end Act

end TestCluster
