import TestCluster.Platform

namespace TestCluster

namespace TopicRequest

def holdsNul (text : String) : Bool :=
  text.toList.contains '\x00'

def fault? (q : TopicRequest) : Option ClientError :=
  if holdsNul q.topic then some .nulInName
  else if q.spec.partitions < -1 ∨ 100000 < q.spec.partitions then
    some (.adminCreation
      "num_partitions out of expected range 1..100000 or -1 for broker default")
  else if q.spec.replication < -1 ∨ 10000 < q.spec.replication then
    some (.adminCreation "replication_factor out of expected range -1..10000")
  else if q.spec.config.toList.any fun (name, text) => holdsNul name || holdsNul text then
    some .nulInName
  else if q.timeout < 0 ∨ 3600000 < q.timeout then
    some (.adminCreation
      "Invalid value type for \"request_timeout\": expecting integer in range 0..3600000")
  else none

end TopicRequest

def Platform.requestTopic {w : Type} (p : Platform w) (admin : Client) (topic : String)
    (spec : TopicSpec) (timeout : UInt64) : Hook w := fun world =>
  let q : TopicRequest := ⟨topic, spec, clientWait timeout⟩
  match q.fault? with
  | some e => ⟨.error (.client e), [], world⟩
  | none =>
    let (answer, world) := p.createTopic admin.properties q world
    let result := match answer with
      | none => .error (.client (.adminOperation .timedOut))
      | some code => if code = .success then .ok () else .error (.topicRefused topic code)
    ⟨result, [], world⟩

end TestCluster
