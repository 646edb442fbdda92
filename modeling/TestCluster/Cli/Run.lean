import TestCluster.Cli.Arguments
import TestCluster.Config.Load
import TestCluster.Fixture.Basic

/-!
One run of the program: a cluster comes up, topics are prepared on it, and it stays up until it is
told to go down.
-/

namespace TestCluster.Cli

def Arguments.chosen (env : Environment) (files : Files) (a : Arguments) :
    Except ConfigError Config :=
  match a.config with
  | some path => Config.ofFile files path
  | none => Config.ofEnvironment env files

/-- A launcher among the arguments replaces that of a configuration that is valid as it stands, and
the outcome has to be valid too. -/
def Arguments.configuration (env : Environment) (files : Files) (a : Arguments) :
    Except ConfigError Config := do
  let c ← a.chosen env files
  match a.launcher with
  | none => pure c
  | some kind =>
    let c := { c with cluster := { c.cluster with launcher := kind } }
    c.validate
    pure c

structure Plan where
  config : Config
  topics : List String
  seed : Option UInt64

namespace Plan

variable {w : Type} (plan : Plan)

def seedTopic (f : Fixture w) (topic : String) : Act w Unit :=
  match plan.seed with
  | none => pure ()
  | some n => do
    let count ← f.seedTopic topic (some (.numbered n.toNat))
    Act.emit (.topicSeeded topic count)

/-- The name of a topic is printed once it has its messages. -/
def prepareTopic (f : Fixture w) (starting : String) : Act w Unit := do
  let topic ← f.createTopic starting none
  plan.seedTopic f topic
  Act.note (.printed topic)

def prepare (f : Fixture w) : Act w Unit :=
  plan.topics.forM (plan.prepareTopic f)

/-- Prepares a cluster that is up, and stops it when that fails. -/
def settle (f : Fixture w) : Act w Unit := do
  match ← Act.attempt (plan.prepare f) with
  | .ok _ =>
    Act.note (.printed f.servers)
    Act.emit (.waiting f.servers)
  | .error e =>
    f.stop
    throw e

def begin (p : Platform w) (env : Environment) : Act w (Fixture w) := do
  Act.emit (.started version plan.config.cluster.launcher.name plan.config.cluster.brokerCount.toInt)
  let f ← Fixture.start p env plan.config
  plan.settle f
  pure f

def finish (f : Fixture w) : Act w Unit := do
  Act.emit .shutdown
  f.stop
  Act.emit .finished

def run (p : Platform w) (env : Environment) : Act w Unit := do
  finish (← plan.begin p env)

end Plan

end TestCluster.Cli
