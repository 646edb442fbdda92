import TestCluster.Config.Basic

namespace TestCluster

/-- The layout of a topic that is to be created. -/
structure TopicSpec where
  partitions : Int32
  replication : Int32
  config : Properties
  deriving DecidableEq, Repr

namespace TopicSpec

def ofDefaults (t : TopicDefaults) : TopicSpec :=
  ⟨t.partitions, t.replication, t.config⟩

def standard : TopicSpec :=
  ofDefaults {}

variable (s : TopicSpec)

def withPartitions (n : Int32) : TopicSpec :=
  { s with partitions := n }

def withReplication (n : Int32) : TopicSpec :=
  { s with replication := n }

def withConfig (name text : String) : TopicSpec :=
  { s with config := s.config.insert name text }

end TopicSpec

def topicName (starting suffix : String) : String :=
  starting ++ suffix

end TestCluster
