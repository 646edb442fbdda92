import TestCluster.Fixture.Basic

namespace TestCluster

structure MockBuilder where
  brokerCount : Int32
  config : Config

namespace MockBuilder

/-- Brokers inside the program are there at once, so there is little to wait for. -/
def standard : MockBuilder :=
  ⟨1, { cluster := { readiness := { interval := 100 } }, seed := { linger := 5 } }⟩

variable (b : MockBuilder)

def withBrokerCount (n : Int32) : MockBuilder :=
  ⟨n, { b.config with cluster := { b.config.cluster with brokerCount := n } }⟩

def withOverride (name text : String) : MockBuilder :=
  { b with config := { b.config with overrides := b.config.overrides.insert name text } }

def withMessageCount (n : UInt64) : MockBuilder :=
  { b with config := { b.config with seed := { b.config.seed with count := n } } }

def build {w : Type} (p : Platform w) : Act w (Fixture w) := do
  Fixture.withLauncher p (← Launcher.startMock p b.brokerCount) b.config

inductive Step
  | brokerCount (n : Int32)
  | override (name text : String)
  | messageCount (n : UInt64)
  deriving DecidableEq

def apply : Step → MockBuilder
  | .brokerCount n => b.withBrokerCount n
  | .override name text => b.withOverride name text
  | .messageCount n => b.withMessageCount n

def ofSteps (steps : List Step) : MockBuilder :=
  steps.foldl apply standard

end MockBuilder

end TestCluster
