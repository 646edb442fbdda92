import TestCluster.Config.Basic
import TestCluster.Yaml.Decode

namespace TestCluster

/-- The written form of a configuration. -/
inductive Tree
  | nothing
  | flag (b : Bool)
  | number (n : Int)
  | text (s : String)
  | list (items : List Tree)
  | record (entries : List (String × Tree))
  deriving Inhabited

namespace Tree

def optional (s : Option String) : Tree :=
  s.elim nothing text

def texts (p : Properties) : Tree :=
  record (p.toList.map fun (name, s) => (name, text s))

def bare (text : String) : Yaml.Node :=
  .scalar ⟨text, .plain, none⟩

def quoted (text : String) : Yaml.Node :=
  .scalar ⟨text, .quoted, none⟩

mutual

/-- The tree as a document has it, with quotes around all text. -/
def node : Tree → Yaml.Node
  | nothing => bare "null"
  | flag b => bare (if b then "true" else "false")
  | number n => bare (toString n)
  | text s => quoted s
  | list items => .sequence none (nodes items)
  | record entries => .mapping none (entryNodes entries)

def nodes : List Tree → List Yaml.Node
  | [] => []
  | t :: rest => t.node :: nodes rest

def entryNodes : List (String × Tree) → List (Yaml.Node × Yaml.Node)
  | [] => []
  | (name, t) :: rest => (quoted name, t.node) :: entryNodes rest

end

/-- Reads a tree as the root of a document. -/
def decode {α : Type} (d : Yaml.Decoder α) (t : Tree) : Except Yaml.Fault α :=
  d ⟨[], [], t.node⟩

end Tree

def Tls.tree (t : Tls) : Tree :=
  .record [("ca_cert_path", .optional t.caPath), ("cert_path", .optional t.certPath),
    ("key_path", .optional t.keyPath), ("insecure_skip_verify", .flag t.skipVerify)]

def Sasl.tree (s : Sasl) : Tree :=
  .record [("mechanism", .text s.mechanism.name), ("username", .text s.username),
    ("password", .text s.password)]

def Readiness.tree (r : Readiness) : Tree :=
  .record [("attempts", .number r.attempts.toNat), ("interval_ms", .number r.interval.toNat),
    ("metadata_timeout_ms", .number r.metadataTimeout.toNat)]

def ClusterConfig.tree (c : ClusterConfig) : Tree :=
  .record [("launcher", .text c.launcher.name), ("broker_count", .number c.brokerCount.toInt),
    ("bootstrap_servers", .list (c.servers.map .text)),
    ("security_protocol", .text c.protocol.name),
    ("tls", c.tls.elim .nothing Tls.tree), ("sasl", c.sasl.elim .nothing Sasl.tree),
    ("schema_registry_url", .optional c.registryUrl), ("readiness", c.readiness.tree)]

def TopicDefaults.tree (t : TopicDefaults) : Tree :=
  .record [("num_partitions", .number t.partitions.toInt),
    ("replication_factor", .number t.replication.toInt),
    ("operation_timeout_ms", .number t.timeout.toNat), ("config", .texts t.config)]

def SeedConfig.tree (s : SeedConfig) : Tree :=
  .record [("linger_ms", .number s.linger.toNat),
    ("queue_full_backoff_ms", .number s.backOff.toNat),
    ("poll_interval_ms", .number s.poll.toNat), ("default_message_count", .number s.count.toNat)]

def Logging.tree (l : Logging) : Tree :=
  .record [("level", .text l.level), ("json", .flag l.json)]

def Config.tree (c : Config) : Tree :=
  .record [("cluster", c.cluster.tree), ("client", .record [("overrides", .texts c.overrides)]),
    ("topic", c.topic.tree), ("seed", c.seed.tree), ("logging", c.logging.tree)]

end TestCluster
