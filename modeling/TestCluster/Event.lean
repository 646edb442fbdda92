namespace TestCluster

inductive Level
  | debug
  | info
  | warn
  deriving DecidableEq, Repr

def Level.name : Level → String
  | debug => "DEBUG"
  | info => "INFO"
  | warn => "WARN"

inductive FieldValue
  | text (value : String)
  | number (value : Int)
  | flag (value : Bool)
  deriving DecidableEq, Repr

inductive Event
  | mockStarted (brokerCount : Int) (servers : String)
  | containerStarted (id servers : String)
  | launched (launcher : String) (brokers : Nat) (servers : String)
  | operational (launcher : String) (brokers attempt : Nat)
  | notReady (launcher : String) (brokers expected attempt : Nat)
  | probeFailed (launcher : String) (attempt : Nat) (error : String)
  | probeCrashed (launcher : String) (attempt : Nat) (error : String)
  | fixtureReady (launcher servers : String)
  | cleanupFailed (error : String)
  | creatingAdmin
  | creatingSeeder (lingerMs : Nat)
  | topicCreated (topic : String) (partitions replication : Int)
  | topicConfigIgnored (topic : String)
  | delivering (topic : String) (count : Nat)
  | retrying (topic : String) (index : Nat)
  | delivered (topic : String) (count : Nat)
  | stopping (launcher : String) (cleanup : Bool)
  | mockStopped
  | containerStopping (id : String) (cleanup : Bool)
  | externalLeft (servers : String)
  | subjectUnknown (subject : String)
  | started (version launcher : String) (brokerCount : Int)
  | topicSeeded (topic : String) (count : Nat)
  | waiting (servers : String)
  | shutdown
  | finished
  deriving DecidableEq, Repr

namespace Event

def level : Event → Level
  | mockStarted .. | notReady .. | probeFailed .. | creatingAdmin | creatingSeeder _
  | topicConfigIgnored _ | retrying .. | mockStopped | containerStopping .. | externalLeft _
  | subjectUnknown _ => .debug
  | probeCrashed .. | cleanupFailed _ => .warn
  | _ => .info

def message : Event → String
  | mockStarted .. => "mock cluster started"
  | containerStarted .. => "kafka container started"
  | launched .. => "cluster launched"
  | operational .. => "cluster operational"
  | notReady .. => "cluster not ready yet"
  | probeFailed .. => "metadata probe failed"
  | probeCrashed .. => "metadata probe task failed"
  | fixtureReady .. => "cluster fixture ready"
  | cleanupFailed _ => "failed to stop cluster after readiness failure"
  | creatingAdmin => "creating admin client"
  | creatingSeeder _ => "creating seeding producer"
  | topicCreated .. => "topic created"
  | topicConfigIgnored _ => "mock cluster ignores topic configuration"
  | delivering .. => "producing messages"
  | retrying .. => "producer queue full, retrying"
  | delivered .. => "finished producing messages"
  | stopping .. => "stopping cluster fixture"
  | mockStopped => "stopping mock cluster"
  | containerStopping .. => "stopping kafka container"
  | externalLeft _ => "leaving external cluster running"
  | subjectUnknown _ => "subject not registered"
  | started .. => "starting kafka fixture"
  | topicSeeded .. => "seeded topic"
  | waiting _ => "cluster ready, press ctrl+c to stop"
  | shutdown => "shutdown signal received, stopping cluster"
  | finished => "kafka fixture stopped"

def fields : Event → List (String × FieldValue)
  | mockStarted count servers =>
    [("broker_count", .number count), ("bootstrap_servers", .text servers)]
  | containerStarted id servers =>
    [("container_id", .text id), ("bootstrap_servers", .text servers)]
  | launched launcher brokers servers =>
    [("launcher", .text launcher), ("brokers", .number brokers),
      ("bootstrap_servers", .text servers)]
  | operational launcher brokers attempt =>
    [("launcher", .text launcher), ("brokers", .number brokers), ("attempt", .number attempt)]
  | notReady launcher brokers expected attempt =>
    [("launcher", .text launcher), ("brokers", .number brokers),
      ("expected_brokers", .number expected), ("attempt", .number attempt)]
  | probeFailed launcher attempt error | probeCrashed launcher attempt error =>
    [("launcher", .text launcher), ("attempt", .number attempt), ("error", .text error)]
  | fixtureReady launcher servers =>
    [("launcher", .text launcher), ("bootstrap_servers", .text servers)]
  | cleanupFailed error => [("error", .text error)]
  | creatingSeeder ms => [("linger_ms", .text (toString ms))]
  | topicCreated topic partitions replication =>
    [("topic", .text topic), ("partitions", .number partitions),
      ("replication_factor", .number replication)]
  | topicConfigIgnored topic => [("topic", .text topic)]
  | delivering topic count | delivered topic count =>
    [("topic", .text topic), ("num_messages", .number count)]
  | retrying topic index => [("topic", .text topic), ("index", .number index)]
  | stopping launcher cleanup => [("launcher", .text launcher), ("cleanup", .flag cleanup)]
  | containerStopping id cleanup => [("container_id", .text id), ("cleanup", .flag cleanup)]
  | externalLeft servers | waiting servers => [("bootstrap_servers", .text servers)]
  | subjectUnknown subject => [("subject", .text subject)]
  | started version launcher count =>
    [("version", .text version), ("launcher", .text launcher), ("broker_count", .number count)]
  | topicSeeded topic count => [("topic", .text topic), ("produced", .number count)]
  | creatingAdmin | mockStopped | shutdown | finished => []

def target : Event → String
  | launched .. => "kafka_fixture_core::cluster"
  | mockStarted .. | topicConfigIgnored _ | mockStopped => "kafka_fixture_core::cluster::mock"
  | containerStarted .. | containerStopping .. => "kafka_fixture_core::cluster::container"
  | externalLeft _ => "kafka_fixture_core::cluster::external"
  | operational .. | notReady .. | probeFailed .. | probeCrashed .. =>
    "kafka_fixture_core::cluster::readiness"
  | fixtureReady .. | cleanupFailed _ | creatingAdmin | creatingSeeder _ | topicCreated ..
  | stopping .. => "kafka_fixture_core::fixture"
  | delivering .. | retrying .. | delivered .. => "kafka_fixture_core::produce"
  | subjectUnknown _ => "kafka_fixture_core::schema_registry"
  | started .. | topicSeeded .. | waiting _ | shutdown | finished => "kafka_fixture"

end Event

end TestCluster
