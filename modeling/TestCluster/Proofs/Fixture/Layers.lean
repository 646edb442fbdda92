import TestCluster.Mock.Brokers
import TestCluster.Proofs.Acting
import TestCluster.Proofs.Properties

namespace TestCluster

namespace Fixture

open Act Properties

variable {w : Type} (f : Fixture w)

/-- What a call can ask a fixture for with overrides of its own. -/
inductive Setup
  | client
  | consumer (group : String)
  | registry (url : String)

def Setup.properties : Setup → Overrides → Properties
  | client, overrides => f.clientProperties overrides
  | consumer group, overrides => f.consumerProperties group overrides
  | registry url, overrides => registryProperties url overrides

def connecting : List (List (String × String)) :=
  [[("bootstrap.servers", f.servers)], f.launcher.connection.properties.toList]

def Setup.base : Setup → List (List (String × String))
  | client => f.connecting ++ [f.config.overrides.toList]
  | consumer group =>
    f.connecting ++ [[("group.id", group), ("auto.offset.reset", "earliest")],
      f.config.overrides.toList]
  | registry url => [[("url", url)]]

/-- The configured waiting time of the seeding producer comes after the configured overrides. -/
def seederLayers : List (List (String × String)) :=
  f.connecting ++
    [f.config.overrides.toList, [("linger.ms", toString f.config.seed.linger.toNat)]]

def setupOf (kind : Client.Kind) (s : Session w) : Setup :=
  if kind.consumes then .consumer (f.platform.suffix s.drawn) else .client

variable {f}

theorem Setup.properties_eq (x : Setup) (overrides : Overrides) :
    x.properties f overrides = ofLayers (x.base f ++ [overrides]) := by
  cases x <;> rfl

theorem seederProperties_eq : f.seederProperties = ofLayers f.seederLayers := rfl

theorem Setup.overlay (x : Setup) (first second : Overrides) :
    x.properties f (first ++ second) = (x.properties f first).overlay second := by
  cases x <;> exact overlay_append _ first second

theorem Setup.of_perm (x : Setup) {overrides overrides' : Overrides}
    (h : overrides.Perm overrides') (hnodup : (overrides.map (·.1)).Nodup) :
    x.properties f overrides = x.properties f overrides' := by
  cases x <;> exact overlay_of_perm h hnodup

theorem client_on (kind : Client.Kind) (overrides : Overrides) (s : Session w) :
    (f.client kind overrides).on s =
      (f.platform.makeClient! kind ((f.setupOf kind s).properties f overrides)).on
        { s with drawn := s.drawn + if kind.consumes then 1 else 0 } := by
  unfold client setupOf
  cases kind.consumes with
  | true => exact on_bind_ok (f.platform.on_drawSuffix s)
  | false => rfl

theorem properties_of_ofProperties {p : Properties} {r : Registry}
    (h : Registry.ofProperties p = .ok r) : r.properties = p := by
  unfold Registry.ofProperties at h
  split at h
  · cases h
  · dsimp only at h
    split at h
    · cases h
    · cases h
      rfl

theorem registry_layered (overrides : Overrides) :
    match f.launcher.registryUrl with
    | none => f.registry overrides = .ok none
    | some url =>
      f.registry overrides = ((some <$> Registry.ofProperties
        ((Setup.registry url).properties f overrides)).mapError .config) ∧
      f.registry overrides ≠ .ok none ∧
      ∀ r, f.registry overrides = .ok (some r) →
        r.properties = (Setup.registry url).properties f overrides := by
  unfold Fixture.registry
  cases f.launcher.registryUrl with
  | none => rfl
  | some url =>
    refine ⟨rfl, ?_⟩
    dsimp only
    cases hread : Registry.ofProperties (registryProperties url overrides) with
    | error e => exact ⟨nofun, nofun⟩
    | ok found =>
      refine ⟨nofun, fun r hr => ?_⟩
      cases hr
      exact properties_of_ofProperties hread

variable (f) in
/-- The last layer that sets a property counts, for every client. The waiting time of the seeding
producer is its own setting, which no configured override changes. -/
theorem layers_last_wins :
    (∀ (x : Setup) (overrides : Overrides),
      (x.properties f overrides).Layered (x.base f ++ [overrides]) ∧
      (∀ overrides', overrides.Perm overrides' → (overrides.map (·.1)).Nodup →
        x.properties f overrides = x.properties f overrides') ∧
      ∀ more, x.properties f (overrides ++ more) = (x.properties f overrides).overlay more) ∧
    f.seederProperties.Layered f.seederLayers ∧
    (∀ kind overrides s, (f.client kind overrides).on s =
      (f.platform.makeClient! kind ((f.setupOf kind s).properties f overrides)).on
        { s with drawn := s.drawn + if kind.consumes then 1 else 0 }) ∧
    ∀ overrides,
      match f.launcher.registryUrl with
      | none => f.registry overrides = .ok none
      | some url =>
        f.registry overrides = ((some <$> Registry.ofProperties
          ((Setup.registry url).properties f overrides)).mapError .config) ∧
        f.registry overrides ≠ .ok none ∧
        ∀ r, f.registry overrides = .ok (some r) →
          r.properties = (Setup.registry url).properties f overrides := by
  refine ⟨fun x overrides => ⟨?_, fun _ => x.of_perm, x.overlay overrides⟩, ?_,
    fun kind overrides s => f.client_on kind overrides s, fun overrides => ?_⟩
  · rw [x.properties_eq]
    exact layered_ofLayers _
  · rw [seederProperties_eq]
    exact layered_ofLayers _
  · exact f.registry_layered overrides

/-- A fixture whose configuration gives all clients a waiting time that is no number. -/
def lingering : Fixture Brokers where
  platform := Brokers.platform
  launcher := ⟨"scripted", 1, .plaintext "127.0.0.1:1", none, fun _ b => ⟨.ok (), [], b⟩,
    fun _ _ _ _ b => ⟨.ok (), [], b⟩, fun _ b => ⟨.ok (), [], b⟩⟩
  config := { overrides := .ofList [("linger.ms", "abc")] }

/-- A configured override is no later layer than the waiting time of the seeding producer. -/
theorem seeder_of_lingering :
    lastText? (lingering.connecting ++
      [[("linger.ms", toString lingering.config.seed.linger.toNat)],
        lingering.config.overrides.toList]) "linger.ms" = some "abc" ∧
    lingering.seederProperties.get? "linger.ms" = some "500" := by
  decide +kernel

end Fixture

end TestCluster
