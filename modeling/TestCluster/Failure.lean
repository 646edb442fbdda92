import TestCluster.Client.Conflict
import TestCluster.Client.ErrorCode
import TestCluster.Config.Error

namespace TestCluster

inductive ClientError
  | unknownProperty (name text : String)
  | propertyText (name text : String)
  | conflict (cause : Client.Conflict)
  | production (code : ErrorCode)
  | mockCluster (code : ErrorCode)
  | adminOperation (code : ErrorCode)
  | adminCreation (reason : String)
  | metadataFetch (code : ErrorCode)
  | nulInName
  deriving DecidableEq, Repr

def ClientError.message : ClientError → String
  | unknownProperty name text =>
    s!"Client config error: No such configuration property: \"{name}\" {name} {text}"
  | propertyText name text =>
    s!"Client config error: Invalid value for configuration property \"{name}\" {name} {text}"
  | conflict cause => s!"Client creation error: {cause.message}"
  | production code => s!"Message production error: {code.message}"
  | mockCluster code => s!"Mock cluster error: {code.message}"
  | adminOperation code => s!"Admin operation error: {code.message}"
  | adminCreation reason => s!"Admin operation creation error: {reason}"
  | metadataFetch code => s!"Meta data fetch error: {code.message}"
  | nulInName => "FFI null error"

/-- The text of the error beneath this one. -/
def ClientError.cause? : ClientError → Option String
  | production code | mockCluster code | metadataFetch code => some code.message
  | _ => none

/-- What the container runtime fails with, and what lies beneath it, the nearest first. -/
structure ContainerError where
  text : String
  causes : List String := []
  deriving DecidableEq, Repr

inductive RegistryError
  | unreachable (url : String)
  | tooManyRedirects (url : String)
  | notHttp (url : String)
  | undecodable
  deriving DecidableEq, Repr

def RegistryError.message : RegistryError → String
  | unreachable url => s!"error sending request for url ({url})"
  | tooManyRedirects url => s!"error following redirect for url ({url})"
  | notHttp url => s!"builder error for url ({url})"
  | undecodable => "error decoding response body"

inductive Failure
  | config (error : ConfigError)
  | client (error : ClientError)
  | container (error : ContainerError)
  | notOperational (launcher : String) (attempts : UInt32) (expected : Nat)
  | topicRefused (topic : String) (code : ErrorCode)
  | registry (error : RegistryError)
  | registryStatus (status : Nat) (body : String)
  deriving DecidableEq, Repr

def Failure.message : Failure → String
  | config e => s!"configuration error: {e.message}"
  | client e => e.message
  | container e => s!"container error: {e.text}"
  | notOperational launcher attempts expected =>
    s!"cluster '{launcher}' not operational after {attempts} attempts (expected {expected} brokers)"
  | topicRefused topic code => s!"failed to create topic {topic}: {code.message}"
  | registry e => s!"schema registry request failed: {e.message}"
  | registryStatus status body => s!"schema registry returned HTTP {status}: {body}"

end TestCluster
