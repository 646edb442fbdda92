import TestCluster.Cluster.Launcher
import TestCluster.Registry.Client

namespace TestCluster

structure Fixture (w : Type) where
  platform : Platform w
  launcher : Launcher w
  config : Config

/-- Properties that a call gives to its client, in order. -/
abbrev Overrides := List (String × String)

namespace Fixture

variable {w : Type} (f : Fixture w)

def servers : String :=
  f.launcher.connection.servers

/-- Later layers win: the connection, defaults, the configuration, the call. -/
def layered (defaults overrides : Overrides) : Properties :=
  ((f.launcher.connection.clientProperties.overlay defaults).overlay f.config.overrides.toList).overlay
    overrides

def clientProperties (overrides : Overrides) : Properties :=
  f.layered [] overrides

/-- Each consumer is in a group of its own and reads from the start. -/
def consumerProperties (group : String) (overrides : Overrides) : Properties :=
  f.layered [("group.id", group), ("auto.offset.reset", "earliest")] overrides

def seederProperties : Properties :=
  f.clientProperties [("linger.ms", toString f.config.seed.linger.toNat)]

def registryProperties (url : String) (overrides : Overrides) : Properties :=
  (Properties.empty.insert Registry.urlProperty url).overlay overrides

def registry (overrides : Overrides) : Except Failure (Option Registry) :=
  match f.launcher.registryUrl with
  | none => .ok none
  | some url =>
    (some <$> Registry.ofProperties (registryProperties url overrides)).mapError .config

def client (kind : Client.Kind) (overrides : Overrides) : Act w Client := do
  if kind.consumes then
    let group ← f.platform.drawSuffix
    f.platform.makeClient! kind (f.consumerProperties group overrides)
  else f.platform.makeClient! kind (f.clientProperties overrides)

def makeAdmin : Act w Client := do
  Act.emit .creatingAdmin
  f.platform.makeClient! .admin (f.clientProperties [])

def makeSeeder : Act w Client := do
  Act.emit (.creatingSeeder f.config.seed.linger.toNat)
  f.platform.makeClient! .producer f.seederProperties

def admin : Act w Client := do
  let s ← get
  let (client, slot) ← s.admin.use (Act.attempt f.makeAdmin)
  modify ({ · with admin := slot })
  Act.ofExcept client

def seeder : Act w Client := do
  let s ← get
  let (client, slot) ← s.seeder.use (Act.attempt f.makeSeeder)
  modify ({ · with seeder := slot })
  Act.ofExcept client

def wait : Act w Unit := do
  Act.note (.waited f.config.cluster.readiness)
  Act.hook (f.launcher.wait f.config.cluster.readiness)

def shutDown (cleanup : Bool) : Act w Unit := do
  Act.note (.stopped cleanup)
  Act.hook (f.launcher.stop cleanup)

/-- Waits for the cluster. One that does not come up is stopped, and its own failure is the one
that is reported. -/
def ready : Act w Unit := do
  match ← Act.attempt f.wait with
  | .ok _ => Act.emit (.fixtureReady f.launcher.name f.servers)
  | .error e =>
    match ← Act.attempt (f.shutDown true) with
    | .ok _ => pure ()
    | .error failure => Act.emit (.cleanupFailed failure.message)
    throw e

def withLauncher (p : Platform w) (launcher : Launcher w) (config : Config) :
    Act w (Fixture w) := do
  let f : Fixture w := ⟨p, launcher, config⟩
  f.ready
  pure f

def start (p : Platform w) (env : Environment) (config : Config) : Act w (Fixture w) := do
  withLauncher p (← Launcher.launch p env config.cluster) config

def specOr (spec : Option TopicSpec) : TopicSpec :=
  spec.getD (.ofDefaults f.config.topic)

def createTopic (starting : String) (spec : Option TopicSpec) : Act w String := do
  let topic := topicName starting (← f.platform.drawSuffix)
  let admin ← f.admin
  Act.note (.asked topic (f.specOr spec) f.config.topic.timeout)
  Act.hook (f.launcher.createTopic admin topic (f.specOr spec) f.config.topic.timeout)
  Act.emit (.topicCreated topic (f.specOr spec).partitions.toInt (f.specOr spec).replication.toInt)
  pure topic

def deliver (client : Client) (d : Delivery) : Act w Nat := do
  let outcome ← Act.onWorld fun world =>
    let o := d.run (f.platform.producer client.properties) world
    (o, o.state)
  (outcome.notes.filterMap (·.event?)).forM Act.emit
  Act.ofExcept (outcome.result.mapError .client)

def pacing : Pacing :=
  ⟨f.config.seed.poll.toNat, f.config.seed.backOff.toNat⟩

def seedOr (seed : Option Seed) : Seed :=
  seed.getD (.numbered f.config.seed.count.toNat)

def seedTopic (topic : String) (seed : Option Seed) : Act w Nat := do
  let client ← f.seeder
  f.deliver client ⟨topic, f.seedOr seed, f.pacing⟩

/-- The shared clients go before the brokers do. -/
def stopWith (cleanup : Bool) : Act w Unit := do
  modify fun s => { s with admin := s.admin.take.2, seeder := s.seeder.take.2 }
  Act.emit (.stopping f.launcher.name cleanup)
  f.shutDown cleanup

def stop : Act w Unit :=
  f.stopWith true

end Fixture

end TestCluster
