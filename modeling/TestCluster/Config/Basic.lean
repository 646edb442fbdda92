import TestCluster.Properties

namespace TestCluster

inductive LauncherKind
  | mock
  | container
  | external
  deriving DecidableEq, Repr

namespace LauncherKind

def all : List LauncherKind :=
  [mock, container, external]

def name : LauncherKind → String
  | mock => "mock"
  | container => "container"
  | external => "external"

/-- Names are told apart without regard to the case of ASCII letters. -/
def ofName? (text : String) : Option LauncherKind :=
  all.find? fun kind => kind.name = text.map Char.toLower

end LauncherKind

inductive SecurityProtocol
  | plaintext
  | ssl
  | saslPlaintext
  | saslSsl
  deriving DecidableEq, Repr

namespace SecurityProtocol

def all : List SecurityProtocol :=
  [plaintext, ssl, saslPlaintext, saslSsl]

def name : SecurityProtocol → String
  | plaintext => "PLAINTEXT"
  | ssl => "SSL"
  | saslPlaintext => "SASL_PLAINTEXT"
  | saslSsl => "SASL_SSL"

def clientName : SecurityProtocol → String
  | plaintext => "plaintext"
  | ssl => "ssl"
  | saslPlaintext => "sasl_plaintext"
  | saslSsl => "sasl_ssl"

def usesTls : SecurityProtocol → Bool
  | ssl | saslSsl => true
  | plaintext | saslPlaintext => false

def usesSasl : SecurityProtocol → Bool
  | saslPlaintext | saslSsl => true
  | plaintext | ssl => false

end SecurityProtocol

inductive SaslMechanism
  | plain
  | scramSha256
  | scramSha512
  deriving DecidableEq, Repr

namespace SaslMechanism

def all : List SaslMechanism :=
  [plain, scramSha256, scramSha512]

def name : SaslMechanism → String
  | plain => "PLAIN"
  | scramSha256 => "SCRAM-SHA-256"
  | scramSha512 => "SCRAM-SHA-512"

end SaslMechanism

structure Tls where
  caPath : Option String := none
  certPath : Option String := none
  keyPath : Option String := none
  skipVerify : Bool := false
  deriving DecidableEq, Repr

/-- Credentials as they are configured, with references to variables. -/
structure Sasl where
  mechanism : SaslMechanism := .plain
  username : String
  password : String
  deriving DecidableEq, Repr

/-- All times are in milliseconds. -/
structure Readiness where
  attempts : UInt32 := 30
  interval : UInt64 := 1000
  metadataTimeout : UInt64 := 5000
  deriving DecidableEq, Repr

structure ClusterConfig where
  launcher : LauncherKind := .mock
  brokerCount : Int32 := 1
  servers : List String := []
  protocol : SecurityProtocol := .plaintext
  tls : Option Tls := none
  sasl : Option Sasl := none
  registryUrl : Option String := none
  readiness : Readiness := {}

structure TopicDefaults where
  partitions : Int32 := 1
  replication : Int32 := 1
  timeout : UInt64 := 10000
  config : Properties := .empty

structure SeedConfig where
  linger : UInt64 := 500
  backOff : UInt64 := 100
  poll : UInt64 := 0
  count : UInt64 := 100
  deriving DecidableEq, Repr

structure Logging where
  level : String := "info"
  json : Bool := false
  deriving DecidableEq, Repr

structure Config where
  cluster : ClusterConfig := {}
  overrides : Properties := .empty
  topic : TopicDefaults := {}
  seed : SeedConfig := {}
  logging : Logging := {}

end TestCluster
