import TestCluster.Config.Fields
import TestCluster.Proofs.Config.Section

namespace TestCluster

open Yaml Yaml.Decode

section Values

variable {α : Type}

theorem faithful_text (expected : String) : Faithful .leaf (textFor expected) Tree.text :=
  faithful_leaf fun _ _ => textFor_of_spells expected

theorem faithful_flag : Faithful .leaf flag Tree.flag :=
  faithful_leaf fun _ _ => flag_of_spells

theorem faithful_int32 : Faithful .leaf int32 fun n => .number n.toInt :=
  faithful_leaf fun _ _ => int32_of_spells

theorem faithful_uint32 : Faithful .leaf uint32 fun n => .number n.toNat :=
  faithful_leaf fun _ _ => uint32_of_spells

theorem faithful_uint64 : Faithful .leaf uint64 fun n => .number n.toNat :=
  faithful_leaf fun _ _ => uint64_of_spells

theorem faithful_size : Faithful .leaf size fun n => .number n.toNat :=
  faithful_leaf fun _ _ => size_of_spells

theorem faithful_optional_text (expected : String) :
    Faithful .leaf (optional (textFor expected)) Tree.optional :=
  faithful_leaf fun _ _ => optional_text_of_spells expected

theorem faithful_list_text : Faithful .leaf (list text) fun ts => .list (ts.map .text) :=
  faithful_leaf fun _ _ => list_of_spells fun _ _ => textFor_of_spells "a string"

theorem faithful_choice {choices : List (String × α)} {name : α → String}
    (h : ∀ a, choices.lookup (name a) = some a) :
    Faithful .leaf (choice choices) fun a => .text (name a) :=
  faithful_leaf fun _ a hs => choice_of_spells hs (h a)

theorem faithful_protocol :
    Faithful .leaf SecurityProtocol.decode fun p => .text p.name :=
  faithful_choice fun p => by cases p <;> decide

theorem faithful_mechanism : Faithful .leaf SaslMechanism.decode fun m => .text m.name :=
  faithful_choice fun m => by cases m <;> decide

theorem ofName?_name (kind : LauncherKind) : LauncherKind.ofName? kind.name = some kind := by
  cases kind <;> decide +kernel

theorem faithful_launcher : Faithful .leaf LauncherKind.decode fun kind => .text kind.name := by
  refine faithful_leaf fun p kind h => ?_
  unfold LauncherKind.decode
  have htext : text p = .ok kind.name := textFor_of_spells _ h
  rw [htext, ok_bind, ofName?_name]
  rfl

def Tree.words : Tree → String
  | text s => s
  | _ => ""

/-- Writing texts loses nothing, so what was rearranged is what is written of a rearrangement. -/
theorem exists_map_of_perm {texts : List (String × String)} {es : List (String × Tree)}
    (h : (texts.map fun e => (e.1, Tree.text e.2)).Perm es) :
    ∃ texts' : List (String × String),
      es = texts'.map (fun e => (e.1, Tree.text e.2)) ∧ texts'.Perm texts := by
  refine ⟨es.map fun e => (e.1, e.2.words), ?_, ?_⟩
  · rw [List.map_map, eq_comm]
    refine (List.map_congr_left fun e he => ?_).trans (List.map_id es)
    obtain ⟨x, _, rfl⟩ := List.mem_map.mp (h.mem_iff.mpr he)
    rfl
  · have hback := (h.map fun e => (e.1, e.2.words)).symm
    rw [List.map_map] at hback
    exact hback.trans (List.Perm.of_eq (List.map_id' texts))

theorem faithful_properties : Faithful .texts properties Tree.texts := by
  refine ⟨fun _ => .texts (List.Perm.refl _), fun p t hv q hs => ?_⟩
  cases hv with
  | texts hperm =>
    obtain ⟨l, rfl, hl⟩ := exists_map_of_perm hperm
    cases hs with
    | texts hs => rw [properties_of_spells hs, Properties.ofList_of_perm hl]

theorem faithful_optional {ms : Shape.Members} {d : Decoder α} {entries : α → List (String × Tree)}
    (h : Faithful (.record ms) d fun a => .record (entries a)) :
    Faithful (.record ms) (optional d) fun o => o.elim .nothing fun a => .record (entries a) := by
  refine ⟨fun o => ?_, fun o t hv p hs => ?_⟩
  · cases o with
    | none => exact .absent
    | some a => exact h.variant a
  · cases o with
    | none =>
      cases hv
      generalize hn : p.node = n at hs
      cases hs with
      | absent hs => exact optional_of_nothing (by rw [hn]; exact hs)
    | some a =>
      have hd := h.reads a t hv p hs
      cases hv
      generalize hn : p.node = n at hs
      cases hs with
      | record => rw [optional_of_mapping hn, hd]; rfl

end Values

def Shape.standard (ms : Shape.Members) : Tree :=
  .record (ms.filterMap fun (name, _, d) => d.map (name, ·))

namespace Tls

def members : Shape.Members :=
  [("ca_cert_path", .leaf, some .nothing), ("cert_path", .leaf, some .nothing),
    ("key_path", .leaf, some .nothing), ("insecure_skip_verify", .leaf, some (.flag false))]

def slots : List (Slot Tls) :=
  [.of "ca_cert_path" (faithful_optional_text "path string") caPath
      (fun t x => { t with caPath := x }) (fun _ _ => rfl) fun _ => rfl,
    .of "cert_path" (faithful_optional_text "path string") certPath
      (fun t x => { t with certPath := x }) (fun _ _ => rfl) fun _ => rfl,
    .of "key_path" (faithful_optional_text "path string") keyPath
      (fun t x => { t with keyPath := x }) (fun _ _ => rfl) fun _ => rfl,
    .of "insecure_skip_verify" faithful_flag skipVerify
      (fun t x => { t with skipVerify := x }) (fun _ _ => rfl) fun _ => rfl]

theorem complete : Complete slots :=
  ⟨by decide, by simp [slots, Slot.Apart, Slot.of], by simp [slots, Slot.of]⟩

theorem faithful : Faithful (.record members) (Yaml.Decode.record "ClientTlsConfig" fields {})
    tree :=
  faithful_record complete {} "ClientTlsConfig"

end Tls

namespace Sasl

def members : Shape.Members :=
  [("mechanism", .leaf, some (.text "PLAIN")), ("username", .leaf, none), ("password", .leaf, none)]

def slots : List (Slot Sasl) :=
  [.of "mechanism" faithful_mechanism mechanism (fun s x => { s with mechanism := x })
      (fun _ _ => rfl) fun _ => rfl,
    { Slot.of "username" (faithful_text "a string") username (fun s x => { s with username := x })
        (fun _ _ => rfl) fun _ => rfl with required := true },
    { Slot.of "password" (faithful_text "a string") password (fun s x => { s with password := x })
        (fun _ _ => rfl) fun _ => rfl with required := true }]

theorem complete : Complete slots :=
  ⟨by decide, by simp [slots, Slot.Apart, Slot.of], by simp [slots, Slot.of]⟩

theorem faithful : Faithful (.record members)
    (Yaml.Decode.record "ClientSaslConfig" fields ⟨.plain, "", ""⟩) tree :=
  faithful_record complete ⟨.plain, "", ""⟩ "ClientSaslConfig"

end Sasl

namespace Readiness

def members : Shape.Members :=
  [("attempts", .leaf, some (.number 30)), ("interval_ms", .leaf, some (.number 1000)),
    ("metadata_timeout_ms", .leaf, some (.number 5000))]

def slots : List (Slot Readiness) :=
  [.of "attempts" faithful_uint32 attempts (fun r x => { r with attempts := x })
      (fun _ _ => rfl) fun _ => rfl,
    .of "interval_ms" faithful_uint64 interval (fun r x => { r with interval := x })
      (fun _ _ => rfl) fun _ => rfl,
    .of "metadata_timeout_ms" faithful_uint64 metadataTimeout
      (fun r x => { r with metadataTimeout := x }) (fun _ _ => rfl) fun _ => rfl]

theorem complete : Complete slots :=
  ⟨by decide, by simp [slots, Slot.Apart, Slot.of], by simp [slots, Slot.of]⟩

theorem faithful : Faithful (.record members) (Yaml.Decode.record "ReadinessConfig" fields {})
    tree :=
  faithful_record complete {} "ReadinessConfig"

end Readiness

namespace ClusterConfig

def members : Shape.Members :=
  [("launcher", .leaf, some (.text "mock")), ("broker_count", .leaf, some (.number 1)),
    ("bootstrap_servers", .leaf, some (.list [])),
    ("security_protocol", .leaf, some (.text "PLAINTEXT")),
    ("tls", .record Tls.members, some .nothing), ("sasl", .record Sasl.members, some .nothing),
    ("schema_registry_url", .leaf, some .nothing),
    ("readiness", .record Readiness.members, some (Shape.standard Readiness.members))]

def slots : List (Slot ClusterConfig) :=
  [.of "launcher" faithful_launcher launcher (fun c x => { c with launcher := x })
      (fun _ _ => rfl) fun _ => rfl,
    .of "broker_count" faithful_int32 brokerCount (fun c x => { c with brokerCount := x })
      (fun _ _ => rfl) fun _ => rfl,
    .of "bootstrap_servers" faithful_list_text servers (fun c x => { c with servers := x })
      (fun _ _ => rfl) fun _ => rfl,
    .of "security_protocol" faithful_protocol protocol (fun c x => { c with protocol := x })
      (fun _ _ => rfl) fun _ => rfl,
    .of "tls" (faithful_optional Tls.faithful) tls (fun c x => { c with tls := x })
      (fun _ _ => rfl) fun _ => rfl,
    .of "sasl" (faithful_optional Sasl.faithful) sasl (fun c x => { c with sasl := x })
      (fun _ _ => rfl) fun _ => rfl,
    .of "schema_registry_url" (faithful_optional_text "a string") registryUrl
      (fun c x => { c with registryUrl := x }) (fun _ _ => rfl) fun _ => rfl,
    .of "readiness" Readiness.faithful readiness (fun c x => { c with readiness := x })
      (fun _ _ => rfl) fun _ => rfl]

theorem complete : Complete slots :=
  ⟨by decide, by simp [slots, Slot.Apart, Slot.of], by simp [slots, Slot.of]⟩

theorem faithful : Faithful (.record members) (Yaml.Decode.record "ClusterConfig" fields {})
    tree :=
  faithful_record complete {} "ClusterConfig"

end ClusterConfig

namespace Properties

def members : Shape.Members :=
  [("overrides", .texts, some (.record []))]

def slots : List (Slot Properties) :=
  [.of "overrides" faithful_properties (fun p => p) (fun _ x => x) (fun _ _ => rfl) fun _ => rfl]

theorem complete : Complete slots :=
  ⟨by decide, by simp [slots], by simp [slots, Slot.of]⟩

theorem faithful : Faithful (.record members)
    (Yaml.Decode.record "ClientOverrides" overridesFields .empty)
    fun p => .record [("overrides", .texts p)] :=
  faithful_record complete .empty "ClientOverrides"

end Properties

namespace TopicDefaults

def members : Shape.Members :=
  [("num_partitions", .leaf, some (.number 1)), ("replication_factor", .leaf, some (.number 1)),
    ("operation_timeout_ms", .leaf, some (.number 10000)), ("config", .texts, some (.record []))]

def slots : List (Slot TopicDefaults) :=
  [.of "num_partitions" faithful_int32 partitions (fun t x => { t with partitions := x })
      (fun _ _ => rfl) fun _ => rfl,
    .of "replication_factor" faithful_int32 replication (fun t x => { t with replication := x })
      (fun _ _ => rfl) fun _ => rfl,
    .of "operation_timeout_ms" faithful_uint64 timeout (fun t x => { t with timeout := x })
      (fun _ _ => rfl) fun _ => rfl,
    .of "config" faithful_properties config (fun t x => { t with config := x })
      (fun _ _ => rfl) fun _ => rfl]

theorem complete : Complete slots :=
  ⟨by decide, by simp [slots, Slot.Apart, Slot.of], by simp [slots, Slot.of]⟩

theorem faithful : Faithful (.record members) (Yaml.Decode.record "TopicDefaults" fields {})
    tree :=
  faithful_record complete {} "TopicDefaults"

end TopicDefaults

namespace SeedConfig

def members : Shape.Members :=
  [("linger_ms", .leaf, some (.number 500)), ("queue_full_backoff_ms", .leaf, some (.number 100)),
    ("poll_interval_ms", .leaf, some (.number 0)),
    ("default_message_count", .leaf, some (.number 100))]

def slots : List (Slot SeedConfig) :=
  [.of "linger_ms" faithful_uint64 linger (fun s x => { s with linger := x })
      (fun _ _ => rfl) fun _ => rfl,
    .of "queue_full_backoff_ms" faithful_uint64 backOff (fun s x => { s with backOff := x })
      (fun _ _ => rfl) fun _ => rfl,
    .of "poll_interval_ms" faithful_uint64 poll (fun s x => { s with poll := x })
      (fun _ _ => rfl) fun _ => rfl,
    .of "default_message_count" faithful_size count (fun s x => { s with count := x })
      (fun _ _ => rfl) fun _ => rfl]

theorem complete : Complete slots :=
  ⟨by decide, by simp [slots, Slot.Apart, Slot.of], by simp [slots, Slot.of]⟩

theorem faithful : Faithful (.record members) (Yaml.Decode.record "SeedConfig" fields {}) tree :=
  faithful_record complete {} "SeedConfig"

end SeedConfig

namespace Logging

def members : Shape.Members :=
  [("level", .leaf, some (.text "info")), ("json", .leaf, some (.flag false))]

def slots : List (Slot Logging) :=
  [.of "level" (faithful_text "a string") level (fun l x => { l with level := x })
      (fun _ _ => rfl) fun _ => rfl,
    .of "json" faithful_flag json (fun l x => { l with json := x }) (fun _ _ => rfl) fun _ => rfl]

theorem complete : Complete slots :=
  ⟨by decide, by simp [slots, Slot.Apart, Slot.of], by simp [slots, Slot.of]⟩

theorem faithful : Faithful (.record members) (Yaml.Decode.record "LoggingConfig" fields {})
    tree :=
  faithful_record complete {} "LoggingConfig"

end Logging

namespace Config

def members : Shape.Members :=
  [("cluster", .record ClusterConfig.members, some (Shape.standard ClusterConfig.members)),
    ("client", .record Properties.members, some (Shape.standard Properties.members)),
    ("topic", .record TopicDefaults.members, some (Shape.standard TopicDefaults.members)),
    ("seed", .record SeedConfig.members, some (Shape.standard SeedConfig.members)),
    ("logging", .record Logging.members, some (Shape.standard Logging.members))]

def shape : Shape :=
  .record members

def slots : List (Slot Config) :=
  [.of "cluster" ClusterConfig.faithful cluster (fun c x => { c with cluster := x })
      (fun _ _ => rfl) fun _ => rfl,
    .of "client" Properties.faithful overrides (fun c x => { c with overrides := x })
      (fun _ _ => rfl) fun _ => rfl,
    .of "topic" TopicDefaults.faithful topic (fun c x => { c with topic := x })
      (fun _ _ => rfl) fun _ => rfl,
    .of "seed" SeedConfig.faithful seed (fun c x => { c with seed := x })
      (fun _ _ => rfl) fun _ => rfl,
    .of "logging" Logging.faithful logging (fun c x => { c with logging := x })
      (fun _ _ => rfl) fun _ => rfl]

theorem complete : Complete slots :=
  ⟨by decide, by simp [slots, Slot.Apart, Slot.of], by simp [slots, Slot.of]⟩

theorem faithful : Faithful shape decode tree :=
  faithful_record complete {} "FixtureConfig"

end Config

end TestCluster
