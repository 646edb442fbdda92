import TestCluster.Config.Basic
import TestCluster.Yaml.Decode

namespace TestCluster

/-- Why a file gives no text. -/
inductive Unreadable
  | missing
  | directory
  | notDirectory
  | nameTooLong
  | nameWithNul
  | notText
  deriving DecidableEq, Repr

def Unreadable.message : Unreadable → String
  | missing => "No such file or directory (os error 2)"
  | directory => "Is a directory (os error 21)"
  | notDirectory => "Not a directory (os error 20)"
  | nameTooLong => "File name too long (os error 36)"
  | nameWithNul => "file name contained an unexpected NUL byte"
  | notText => "stream did not contain valid UTF-8"

inductive Malformed
  | text
  | manyDocuments
  | tree (fault : Yaml.Fault)
  deriving DecidableEq, Repr

def Malformed.message : Malformed → String
  | text => "the text is not well formed"
  | manyDocuments =>
    "deserializing from YAML containing more than one document is not supported"
  | tree fault => fault.message

inductive ConfigError
  | unreadable (path : String) (cause : Unreadable)
  | malformed (cause : Malformed)
  | unknownLauncher (name : String)
  | brokerCount (count : Int32)
  | noReadinessAttempts
  | unsupportedBrokerCount (launcher : String) (count : Int32)
  | noServers
  | noKeys
  | noRegistryUrl
  | registryUrl (url reason : String)
  deriving DecidableEq, Repr

namespace ConfigError

def unknownLauncherText (name : String) : String :=
  s!"unknown launcher '{name}', expected mock, container or external"

def message : ConfigError → String
  | unreadable path cause => s!"failed to read config file '{path}': {cause.message}"
  | malformed cause => s!"failed to parse config: {cause.message}"
  | unknownLauncher name => unknownLauncherText name
  | brokerCount count => s!"broker_count must be at least 1, got {count.toInt}"
  | noReadinessAttempts => "readiness.attempts must be at least 1"
  | unsupportedBrokerCount launcher count =>
    s!"launcher '{launcher}' supports exactly 1 broker, got {count.toInt}"
  | noServers => "external cluster requires at least one bootstrap server"
  | noKeys => "key source must contain at least one entry"
  | noRegistryUrl => "schema registry configuration is missing 'url'"
  | registryUrl url reason => s!"invalid schema registry url '{url}': {reason}"

/-- The text of the error beneath this one. -/
def cause? : ConfigError → Option String
  | unreadable _ cause => some cause.message
  | malformed cause => some cause.message
  | _ => none

end ConfigError

end TestCluster
