import TestCluster.Delivery
import TestCluster.Failure

namespace TestCluster

/-- A header as a client keeps it, with a value or without one. -/
structure Header where
  name : String
  value : Option Bytes
  deriving DecidableEq, Repr

/-- What a client is given to send. All but the topic may be left out. -/
structure Submission where
  topic : String
  value : Option Bytes := none
  key : Option Bytes := none
  headers : Option (List Header) := none
  deriving DecidableEq, Repr

namespace Submission

/-- Headers are put in one after the other, each behind those before it. -/
def headersOf (headers : HeaderSet) : List Header :=
  headers.foldl (fun before (name, value) => before ++ [⟨name, some value⟩]) []

def ofRecord (topic : String) (r : Record) : Submission :=
  let plain : Submission := { topic := topic, value := some r.value }
  let keyed := match r.key with
    | some key => { plain with key := some key }
    | none => plain
  match r.headers with
  | some headers => { keyed with headers := some (headersOf headers) }
  | none => keyed

end Submission

/-- A client that sends messages. A send fails at once or leaves the message to be delivered. -/
structure Producer (σ : Type) where
  send : σ → Submission → Option ClientError × σ
  poll : σ → Nat → σ
  flush : σ → Option ClientError × σ

/-- Only a full queue is worth another try. -/
def Answer.ofSend : Option ClientError → Answer ClientError
  | none => .taken
  | some e => if e = .production .queueFull then .queueFull else .refused e

def Producer.handle {σ : Type} (p : Producer σ) : Handle σ ClientError where
  offer := fun s topic r =>
    let sent := p.send s (.ofRecord topic r)
    (.ofSend sent.1, sent.2)
  service := p.poll
  flush := p.flush

end TestCluster
