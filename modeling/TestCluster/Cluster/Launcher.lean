import TestCluster.Cluster.Readiness
import TestCluster.Cluster.TopicCreation
import TestCluster.Config.Validate

namespace TestCluster

structure Launcher (w : Type) where
  name : String
  brokers : Nat
  connection : Connection
  registryUrl : Option String
  wait : Readiness → Hook w
  createTopic : Client → String → TopicSpec → UInt64 → Hook w
  stop : Bool → Hook w

/-- A cluster that someone else started. -/
structure ExternalCluster where
  connection : Connection
  brokers : Nat
  registryUrl : Option String

def ExternalCluster.ofConfig (env : Environment) (c : ClusterConfig) :
    Except ConfigError ExternalCluster :=
  if c.servers = [] then .error .noServers
  else .ok ⟨⟨",".intercalate c.servers, c.securityProperties env⟩,
    if 0 ≤ c.brokerCount.toInt then c.brokerCount.toInt.toNat else 1, c.registryUrl⟩

namespace Launcher

variable {w : Type} (p : Platform w)

/-- Leaves the cluster running when it is stopped. -/
def external (c : ExternalCluster) : Launcher w where
  name := LauncherKind.external.name
  brokers := c.brokers
  connection := c.connection
  registryUrl := c.registryUrl
  wait := p.waitForBrokers LauncherKind.external.name c.connection c.brokers
  createTopic := p.requestTopic
  stop := fun _ world => ⟨.ok (), [.event (.externalLeft c.connection.servers)], world⟩

/-- The brokers inside the program answer no requests for topics, so they are told directly. -/
def mock (count : Int32) (c : MockCluster w) : Launcher w where
  name := LauncherKind.mock.name
  brokers := count.toInt.toNat
  connection := .plaintext c.servers
  registryUrl := none
  wait := p.waitForBrokers LauncherKind.mock.name (.plaintext c.servers) count.toInt.toNat
  createTopic := fun _ topic spec _ world =>
    let (failure, world) := c.createTopic topic spec world
    ⟨failure.elim (.ok ()) (.error ∘ .client),
      if spec.config.isEmpty then [] else [.event (.topicConfigIgnored topic)], world⟩
  stop := fun _ world => ⟨.ok (), [.event .mockStopped], c.stop world⟩

def startMock (count : Int32) : Act w (Launcher w) := do
  match ← Act.onWorld (p.startMock count) with
  | .error e => throw (.client e)
  | .ok c =>
    Act.emit (.mockStarted count.toInt c.servers)
    pure (mock p count c)

/-- The broker of a container is reached at this side's own address. -/
def containerServers (port : UInt16) : String :=
  s!"127.0.0.1:{port.toNat}"

/-- A container that is not cleaned up stays when it is stopped. -/
def container (c : Container w) (port : UInt16) : Launcher w where
  name := LauncherKind.container.name
  brokers := 1
  connection := .plaintext (containerServers port)
  registryUrl := none
  wait := p.waitForBrokers LauncherKind.container.name (.plaintext (containerServers port)) 1
  createTopic := p.requestTopic
  stop := fun cleanup world =>
    let (failure, world) := if cleanup then c.remove world else c.stop world
    ⟨failure.elim (.ok ()) (.error ∘ .container), [.event (.containerStopping c.id cleanup)], world⟩

def startContainer : Act w (Launcher w) := do
  match ← Act.onWorld p.startContainer with
  | .error e => throw (.container e)
  | .ok c =>
    match ← Act.onWorld c.hostPort with
    | .error e => throw (.container e)
    | .ok port =>
      Act.emit (.containerStarted c.id (containerServers port))
      pure (container p c port)

def launch (env : Environment) (c : ClusterConfig) : Act w (Launcher w) := do
  Act.ofExcept (c.validate.mapError .config)
  let launcher ← match c.launcher with
    | .mock => startMock p c.brokerCount
    | .container => startContainer p
    | .external =>
      external p <$> Act.ofExcept ((ExternalCluster.ofConfig env c).mapError .config)
  Act.emit (.launched launcher.name launcher.brokers launcher.connection.servers)
  pure launcher

end Launcher

end TestCluster
