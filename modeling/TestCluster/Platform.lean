import TestCluster.Session

namespace TestCluster

structure TopicRequest where
  topic : String
  spec : TopicSpec
  timeout : Int32
  deriving DecidableEq

structure MockCluster (w : Type) where
  servers : String
  createTopic : String → TopicSpec → w → Option ClientError × w
  stop : w → w

/-- A container that runs one broker. -/
structure Container (w : Type) where
  id : String
  /-- The port on this side that leads to the broker. -/
  hostPort : w → Except ContainerError UInt16 × w
  remove : w → Option ContainerError × w
  stop : w → Option ContainerError × w

/-- What the client library, the brokers behind it and the container runtime do. -/
structure Platform (w : Type) where
  /-- The suffixes that make names unique, by the order of drawing them. -/
  suffix : Nat → String
  makeClient : Client.Kind → Properties → w → Option ClientError × w
  producer : Properties → FairHandle w ClientError
  /-- How many brokers the cluster tells of, if it tells anything in time. -/
  brokerCount : Properties → Int32 → w → Except ErrorCode Nat × w
  /-- How a look at the brokers breaks down before it comes to an end, and what that leaves. -/
  breakdown : w → Option (String × w)
  /-- The answer to a request for a topic, unless the time runs out first. -/
  createTopic : Properties → TopicRequest → w → Option ErrorCode × w
  startMock : Int32 → w → Except ClientError (MockCluster w) × w
  startContainer : w → Except ContainerError (Container w) × w

namespace Platform

variable {w : Type} (p : Platform w)

def makeClient! (kind : Client.Kind) (properties : Properties) : Act w Client := do
  match ← Act.onWorld (p.makeClient kind properties) with
  | some e => throw (.client e)
  | none =>
    let number ← modifyGet fun s => (s.made, { s with made := s.made + 1 })
    Act.note (.made kind)
    pure ⟨number, kind, properties⟩

def drawSuffix : Act w String :=
  modifyGet fun s => (p.suffix s.drawn, { s with drawn := s.drawn + 1 })

end Platform

/-- Clients count the milliseconds of a wait in 32 bits. -/
def clientWait (ms : UInt64) : Int32 :=
  Int32.ofNat ms.toNat

end TestCluster
