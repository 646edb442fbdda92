import TestCluster.Config.Error

namespace TestCluster

open Yaml.Decode
open Yaml (Decoder)

/-- A name that is no launcher's is a fault of the section it stands in. -/
def LauncherKind.decode : Decoder LauncherKind := fun p => do
  let name ← Yaml.Decode.text p
  match ofName? name with
  | some kind => pure kind
  | none => p.failOutside (.refused (ConfigError.unknownLauncherText name))

def SecurityProtocol.decode : Decoder SecurityProtocol :=
  Yaml.Decode.choice (all.map fun p => (p.name, p))

def SaslMechanism.decode : Decoder SaslMechanism :=
  Yaml.Decode.choice (all.map fun m => (m.name, m))

def Tls.fields : List (Member Tls) :=
  [field "ca_cert_path" (optional filePath) fun t x => { t with caPath := x },
    field "cert_path" (optional filePath) fun t x => { t with certPath := x },
    field "key_path" (optional filePath) fun t x => { t with keyPath := x },
    field "insecure_skip_verify" flag fun t x => { t with skipVerify := x }]

def Sasl.fields : List (Member Sasl) :=
  [field "mechanism" SaslMechanism.decode fun s x => { s with mechanism := x },
    requiredField "username" text fun s x => { s with username := x },
    requiredField "password" text fun s x => { s with password := x }]

def Readiness.fields : List (Member Readiness) :=
  [field "attempts" uint32 fun r x => { r with attempts := x },
    field "interval_ms" uint64 fun r x => { r with interval := x },
    field "metadata_timeout_ms" uint64 fun r x => { r with metadataTimeout := x }]

def ClusterConfig.fields : List (Member ClusterConfig) :=
  [field "launcher" LauncherKind.decode fun c x => { c with launcher := x },
    field "broker_count" int32 fun c x => { c with brokerCount := x },
    field "bootstrap_servers" (list text) fun c x => { c with servers := x },
    field "security_protocol" SecurityProtocol.decode fun c x => { c with protocol := x },
    field "tls" (optional (record "ClientTlsConfig" Tls.fields {})) fun c x => { c with tls := x },
    field "sasl" (optional (record "ClientSaslConfig" Sasl.fields ⟨.plain, "", ""⟩))
      fun c x => { c with sasl := x },
    field "schema_registry_url" (optional text) fun c x => { c with registryUrl := x },
    field "readiness" (record "ReadinessConfig" Readiness.fields {})
      fun c x => { c with readiness := x }]

def overridesFields : List (Member Properties) :=
  [field "overrides" properties fun _ x => x]

def TopicDefaults.fields : List (Member TopicDefaults) :=
  [field "num_partitions" int32 fun t x => { t with partitions := x },
    field "replication_factor" int32 fun t x => { t with replication := x },
    field "operation_timeout_ms" uint64 fun t x => { t with timeout := x },
    field "config" properties fun t x => { t with config := x }]

def SeedConfig.fields : List (Member SeedConfig) :=
  [field "linger_ms" uint64 fun s x => { s with linger := x },
    field "queue_full_backoff_ms" uint64 fun s x => { s with backOff := x },
    field "poll_interval_ms" uint64 fun s x => { s with poll := x },
    field "default_message_count" size fun s x => { s with count := x }]

def Logging.fields : List (Member Logging) :=
  [field "level" text fun l x => { l with level := x },
    field "json" flag fun l x => { l with json := x }]

def Config.fields : List (Member Config) :=
  [field "cluster" (record "ClusterConfig" ClusterConfig.fields {})
      fun c x => { c with cluster := x },
    field "client" (record "ClientOverrides" overridesFields .empty)
      fun c x => { c with overrides := x },
    field "topic" (record "TopicDefaults" TopicDefaults.fields {}) fun c x => { c with topic := x },
    field "seed" (record "SeedConfig" SeedConfig.fields {}) fun c x => { c with seed := x },
    field "logging" (record "LoggingConfig" Logging.fields {}) fun c x => { c with logging := x }]

def Config.decode : Decoder Config :=
  record "FixtureConfig" Config.fields {}

end TestCluster
