import TestCluster.Client.Producer
import TestCluster.Cluster.Launcher
import TestCluster.Recorder

/-!
Brokers that run inside the program. They keep the topics and the messages that clients send; any
client whose servers name one of their addresses finds them.
-/

namespace TestCluster

structure Brokers where
  addresses : List String := []
  /-- How requests for topics are answered, if at all. -/
  answer : Option ErrorCode := none
  partitions : List (String × Nat) := []
  /-- The latest message comes first. -/
  messages : List Message := []
  requests : List TopicRequest := []

namespace Brokers

variable (b : Brokers)

def splitServers (servers : String) : List String :=
  (Client.Shape.splitCommas servers).map fun part => String.ofList (Client.Shape.trim part)

/-- Only clients that speak without encryption or login are understood. -/
def hears (p : Properties) : Bool :=
  let servers := (Client.first? p [serversProperty, "metadata.broker.list"]).getD ""
  (splitServers servers).any b.addresses.contains
    && (p.get? "security.protocol").all (Client.Shape.lower · = "plaintext")

/-- A topic that nobody created has this many partitions. -/
def defaultPartitions : Nat := 4

def partitionsOf (topic : String) : Nat :=
  (b.partitions.lookup topic).getD defaultPartitions

def hasTopic (topic : String) : Bool :=
  (b.partitions.lookup topic).isSome

def addTopic (topic : String) (count : Nat) : Brokers :=
  { b with partitions := b.partitions ++ [(topic, count)] }

def createTopic (topic : String) (spec : TopicSpec) (b : Brokers) : Option ClientError × Brokers :=
  if TopicRequest.holdsNul topic then (some .nulInName, b)
  else if spec.partitions < 1 then (some (.mockCluster .invalidArgument), b)
  else if b.hasTopic topic then (some (.mockCluster (.ofNumber 36)), b)
  else (none, b.addTopic topic spec.partitions.toInt.toNat)

def store (m : Message) : Brokers :=
  let b := if b.hasTopic m.topic then b else b.addTopic m.topic defaultPartitions
  { b with messages := m :: b.messages }

def ofTopic (topic : String) : List Record :=
  (b.messages.filter (·.topic = topic)).reverse.map (·.record)

/-- A submission as those read it who find it in its topic. -/
def received (m : Submission) : Message :=
  ⟨m.topic, m.value.getD [], m.key, m.headers.map (·.map fun h => (h.name, h.value.getD []))⟩

def length (m : Submission) : Nat :=
  (m.value.getD []).length + (m.key.getD []).length

/-- A message that is too long is refused. -/
def send (p : Properties) (b : Brokers) (m : Submission) : Option ClientError × Brokers :=
  if Client.maxMessageBytes p < length m then (some (.production .messageTooLarge), b)
  else (none, if b.hears p then b.store (received m) else b)

def sender (p : Properties) : Producer Brokers where
  send := send p
  poll := fun b _ => b
  flush := fun b => (none, b)

theorem ofSend_send (p : Properties) (b : Brokers) (m : Submission) :
    Answer.ofSend (send p b m).1 ≠ .queueFull := by
  unfold send
  split
  · simp only [Answer.ofSend]
    rw [if_neg (by decide)]
    simp
  · simp [Answer.ofSend]

/-- The queue of a producer never fills up. -/
def producer (p : Properties) : FairHandle Brokers ClientError where
  toHandle := (sender p).handle
  fullsLeft := fun _ => 0
  fullsLeft_offer := fun b topic r h => absurd h (ofSend_send p b (.ofRecord topic r))
  fullsLeft_service := fun _ _ => Nat.le_refl 0

/-- A wait of −1 never ends; any other that is not positive is over at once. -/
def waits (timeout : Int32) : Bool :=
  timeout = -1 || 0 < timeout

def count (p : Properties) (timeout : Int32) (b : Brokers) : Except ErrorCode Nat × Brokers :=
  (if b.hears p && waits timeout then .ok b.addresses.length else .error .transportFailure, b)

def request (p : Properties) (q : TopicRequest) (b : Brokers) : Option ErrorCode × Brokers :=
  if b.hears p && waits q.timeout then (b.answer, { b with requests := b.requests ++ [q] })
  else (none, b)

def firstPort : Nat := 49200

def address (i : Nat) : String :=
  s!"127.0.0.1:{firstPort + i}"

def start (n : Int32) (b : Brokers) : Except ClientError (MockCluster Brokers) × Brokers :=
  if n < 1 then (.error (.mockCluster .invalidArgument), b)
  else
    let addresses := (List.range n.toInt.toNat).map address
    (.ok ⟨",".intercalate addresses, createTopic, fun b => { b with addresses := [] }⟩,
      { b with addresses := addresses })

def hexDigits (n : Nat) : String :=
  let digits := Nat.toDigits 16 n
  String.ofList (List.replicate (12 - digits.length) '0' ++ digits)

/-- A random identifier of version 4, as far as its form goes. -/
def suffix (n : Nat) : String :=
  "00000000-0000-4000-8000-" ++ hexDigits n

/-- There is no container runtime beside the brokers. -/
def noRuntime : ContainerError where
  text := "failed to create a container: no container runtime"

def platform : Platform Brokers where
  suffix := suffix
  makeClient := fun kind p b => (Client.fault? p kind, b)
  producer := producer
  brokerCount := count
  breakdown := fun _ => none
  createTopic := request
  startMock := start
  startContainer := fun b => (.error noRuntime, b)

end Brokers

end TestCluster
