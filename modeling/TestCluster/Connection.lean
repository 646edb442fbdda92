import TestCluster.Config.Basic
import TestCluster.Text.Reference

namespace TestCluster

structure Connection where
  servers : String
  properties : Properties

def serversProperty : String := "bootstrap.servers"

namespace Connection

def plaintext (servers : String) : Connection :=
  ⟨servers, .empty⟩

/-- The servers come first, so that a property of their name replaces them. -/
def clientProperties (c : Connection) : Properties :=
  (Properties.empty.insert serversProperty c.servers).overlay c.properties.toList

end Connection

def expandText (env : Environment) (text : String) : String :=
  String.ofList (Text.Reference.expand env text.toList)

namespace Sasl

def usernameIn (s : Sasl) (env : Environment) : String :=
  expandText env s.username

def passwordIn (s : Sasl) (env : Environment) : String :=
  expandText env s.password

def properties (s : Sasl) (env : Environment) : List (String × String) :=
  [("sasl.mechanism", s.mechanism.name), ("sasl.username", s.usernameIn env),
    ("sasl.password", s.passwordIn env)]

end Sasl

def pathProperty (name : String) (path : Option String) : List (String × String) :=
  path.toList.map (name, ·)

def Tls.properties (t : Tls) : List (String × String) :=
  pathProperty "ssl.ca.location" t.caPath
    ++ pathProperty "ssl.certificate.location" t.certPath
    ++ pathProperty "ssl.key.location" t.keyPath
    ++ if t.skipVerify then [("enable.ssl.certificate.verification", "false")] else []

namespace ClusterConfig

variable (c : ClusterConfig)

/-- The settings that the protocol needs, and no others. -/
def securityList (env : Environment) : List (String × String) :=
  if c.protocol = .plaintext then []
  else
    [("security.protocol", c.protocol.clientName)]
      ++ (if c.protocol.usesTls then c.tls.elim [] Tls.properties else [])
      ++ (if c.protocol.usesSasl then c.sasl.elim [] (·.properties env) else [])

def securityProperties (env : Environment) : Properties :=
  .ofList (c.securityList env)

end ClusterConfig

end TestCluster
