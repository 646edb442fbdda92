import TestCluster.Config.Error

namespace TestCluster

/-- The first condition that a cluster description breaks. -/
def ClusterConfig.fault? (c : ClusterConfig) : Option ConfigError :=
  if c.brokerCount < 1 then some (.brokerCount c.brokerCount)
  else if c.readiness.attempts = 0 then some .noReadinessAttempts
  else match c.launcher with
    | .container =>
      if c.brokerCount ≠ 1 then
        some (.unsupportedBrokerCount LauncherKind.container.name c.brokerCount)
      else none
    | .external => if c.servers = [] then some .noServers else none
    | .mock => none

def ClusterConfig.validate (c : ClusterConfig) : Except ConfigError Unit :=
  c.fault?.elim (.ok ()) .error

def Config.validate (c : Config) : Except ConfigError Unit :=
  c.cluster.validate

end TestCluster
