import TestCluster.Cli.Run
import TestCluster.Mock.Brokers
import TestCluster.Proofs.Acting

namespace TestCluster

namespace ClusterConfig

/-- What a cluster has to be like to be launched. -/
structure Launchable (c : ClusterConfig) : Prop where
  brokers : 1 ≤ c.brokerCount.toInt
  attempts : 1 ≤ c.readiness.attempts.toNat
  container : c.launcher = .container → c.brokerCount.toInt = 1
  external : c.launcher = .external → c.servers ≠ []

variable (c : ClusterConfig)

/-- The conditions in the order in which they count, each with what is said when it is broken. -/
def conditions : List (Bool × ConfigError) :=
  [(1 ≤ c.brokerCount.toInt, .brokerCount c.brokerCount),
    (1 ≤ c.readiness.attempts.toNat, .noReadinessAttempts),
    (c.launcher = .container → c.brokerCount.toInt = 1,
      .unsupportedBrokerCount "container" c.brokerCount),
    (c.launcher = .external → c.servers ≠ [], .noServers)]

def firstBroken? : Option ConfigError :=
  (c.conditions.find? fun condition => !condition.1).map (·.2)

theorem brokerCount_lt_one_iff : c.brokerCount < 1 ↔ ¬1 ≤ c.brokerCount.toInt := by
  rw [Int32.lt_iff_toInt_lt, Int.not_le]
  rfl

theorem attempts_eq_zero_iff :
    c.readiness.attempts = 0 ↔ ¬1 ≤ c.readiness.attempts.toNat := by
  rw [← UInt32.toNat_inj]
  simp

theorem brokerCount_ne_one_iff : c.brokerCount ≠ 1 ↔ ¬c.brokerCount.toInt = 1 := by
  rw [ne_eq, ← Int32.toInt_inj]
  rfl

theorem fault?_eq_firstBroken? : c.fault? = c.firstBroken? := by
  unfold fault? firstBroken? conditions
  simp only [brokerCount_lt_one_iff, attempts_eq_zero_iff, brokerCount_ne_one_iff]
  by_cases hbrokers : 1 ≤ c.brokerCount.toInt
  · by_cases hattempts : 1 ≤ c.readiness.attempts.toNat
    · cases hl : c.launcher with
      | mock => simp [hbrokers, hattempts]
      | container =>
        by_cases hone : c.brokerCount.toInt = 1 <;>
          simp [hbrokers, hattempts, hone, LauncherKind.name]
      | external => by_cases hservers : c.servers = [] <;> simp [hbrokers, hattempts, hservers]
    · simp [hbrokers, hattempts]
  · simp [hbrokers]

theorem firstBroken?_eq_none_iff : c.firstBroken? = none ↔ c.Launchable := by
  have hparts : c.firstBroken? = none ↔ 1 ≤ c.brokerCount.toInt ∧ 1 ≤ c.readiness.attempts.toNat ∧
      (c.launcher = .container → c.brokerCount.toInt = 1) ∧
      (c.launcher = .external → c.servers ≠ []) := by
    simp only [firstBroken?, conditions, Option.map_eq_none_iff, List.find?_eq_none,
      List.forall_mem_cons]
    simp [Decidable.imp_iff_not_or, Nat.one_le_iff_ne_zero]
  rw [hparts]
  exact ⟨fun ⟨hb, ha, hc, he⟩ => ⟨hb, ha, hc, he⟩, fun h => ⟨h.1, h.2, h.3, h.4⟩⟩

theorem validate_eq : c.validate = c.firstBroken?.elim (.ok ()) .error := by
  rw [validate, fault?_eq_firstBroken?]

theorem validate_eq_error_iff (e : ConfigError) :
    c.validate = .error e ↔ c.firstBroken? = some e := by
  rw [validate_eq]
  cases c.firstBroken? <;> simp

theorem validate_eq_ok_iff : c.validate = .ok () ↔ c.Launchable := by
  rw [validate_eq, ← firstBroken?_eq_none_iff]
  cases c.firstBroken? <;> simp

end ClusterConfig

section

variable {α β ε ε' : Type}

theorem bind_eq_ok_iff {x : Except ε α} {f : α → Except ε β} {b : β} :
    (x >>= f) = .ok b ↔ ∃ a, x = .ok a ∧ f a = .ok b := by
  cases x <;> simp [bind, Except.bind]

theorem bind_eq_error_iff {x : Except ε α} {f : α → Except ε β} {e : ε} :
    (x >>= f) = .error e ↔ x = .error e ∨ ∃ a, x = .ok a ∧ f a = .error e := by
  cases x <;> simp [bind, Except.bind]

end

namespace Config

/-- The ways in which a configuration comes in. -/
inductive Admitted (env : Environment) (files : Files) : Config → Prop
  | text {c : Config} (text : String) (h : ofText text = .ok c) : Admitted env files c
  | file {c : Config} (path : String) (h : ofFile files path = .ok c) : Admitted env files c
  | environment {c : Config} (h : ofEnvironment env files = .ok c) : Admitted env files c
  | arguments {c : Config} (a : Cli.Arguments) (h : a.configuration env files = .ok c) :
    Admitted env files c

theorem validate_bind {α : Type} (c : Config) (f : Unit → Except ConfigError α) :
    (c.validate >>= f) = c.cluster.firstBroken?.elim (f ()) .error := by
  have hvalidate : c.validate = c.cluster.firstBroken?.elim (.ok ()) .error :=
    c.cluster.validate_eq
  rw [hvalidate]
  cases c.cluster.firstBroken? <;> rfl

theorem ofText_of_read {text : String} {c : Config} (h : read text = .ok c) :
    ofText text = c.cluster.firstBroken?.elim (.ok c) .error := by
  unfold ofText
  rw [h]
  exact c.validate_bind fun _ => pure c

theorem launchable_of_validate {c : Config} (h : c.validate = .ok ()) : c.cluster.Launchable :=
  c.cluster.validate_eq_ok_iff.mp h

theorem launchable_of_ofText {text : String} {c : Config} (h : ofText text = .ok c) :
    c.cluster.Launchable := by
  unfold ofText at h
  obtain ⟨c', -, h⟩ := bind_eq_ok_iff.mp h
  obtain ⟨⟨⟩, hvalid, h⟩ := bind_eq_ok_iff.mp h
  cases h
  exact launchable_of_validate hvalid

theorem launchable_of_ofFile {files : Files} {path : String} {c : Config}
    (h : ofFile files path = .ok c) : c.cluster.Launchable := by
  unfold ofFile at h
  obtain ⟨text, -, h⟩ := bind_eq_ok_iff.mp h
  exact launchable_of_ofText h

theorem launchable_standard : (ClusterConfig.Launchable {}) :=
  (ClusterConfig.validate_eq_ok_iff {}).mp rfl

theorem launchable_of_ofEnvironment {env : Environment} {files : Files} {c : Config}
    (h : ofEnvironment env files = .ok c) : c.cluster.Launchable := by
  unfold ofEnvironment at h
  split at h
  · split at h
    · cases h
      exact launchable_standard
    · exact launchable_of_ofFile h
  · cases h
    exact launchable_standard

theorem launchable_of_configuration {env : Environment} {files : Files} {a : Cli.Arguments}
    {c : Config} (h : a.configuration env files = .ok c) : c.cluster.Launchable := by
  unfold Cli.Arguments.configuration at h
  obtain ⟨chosen, hchosen, h⟩ := bind_eq_ok_iff.mp h
  cases hl : a.launcher with
  | none =>
    rw [hl] at h
    cases h
    unfold Cli.Arguments.chosen at hchosen
    split at hchosen
    · exact launchable_of_ofFile hchosen
    · exact launchable_of_ofEnvironment hchosen
  | some kind =>
    rw [hl] at h
    obtain ⟨⟨⟩, hvalid, h⟩ := bind_eq_ok_iff.mp h
    cases h
    exact launchable_of_validate hvalid

theorem Admitted.launchable {env : Environment} {files : Files} {c : Config}
    (h : Admitted env files c) : c.cluster.Launchable := by
  cases h with
  | text text h => exact launchable_of_ofText h
  | file path h => exact launchable_of_ofFile h
  | environment h => exact launchable_of_ofEnvironment h
  | arguments a h => exact launchable_of_configuration h

end Config

namespace Launcher

open Act

variable {w : Type} (p : Platform w) (env : Environment) (c : ClusterConfig)

theorem launch_of_invalid {e : ConfigError} (h : c.validate = .error e) (s : Session w) :
    (launch p env c).on s = (.error (.config e), s) := by
  unfold launch
  rw [h]
  exact on_bind_error (on_ofExcept _ s)

/-- What comes of a valid description. The brokers inside and a container can fail to start; a
cluster outside is there already. -/
inductive Brings (p : Platform w) (env : Environment) (c : ClusterConfig) (world : w) :
    Except Failure (Launcher w) → Prop
  | mock {m : MockCluster w} {later : w} (h : c.launcher = .mock)
    (start : p.startMock c.brokerCount world = (.ok m, later)) :
    Brings p env c world (.ok (mock p c.brokerCount m))
  | noMock {e : ClientError} {later : w} (h : c.launcher = .mock)
    (start : p.startMock c.brokerCount world = (.error e, later)) :
    Brings p env c world (.error (.client e))
  | container {m : Container w} {n : UInt16} {later last : w} (h : c.launcher = .container)
    (start : p.startContainer world = (.ok m, later)) (port : m.hostPort later = (.ok n, last)) :
    Brings p env c world (.ok (container p m n))
  | noContainer {e : ContainerError} {later : w} (h : c.launcher = .container)
    (start : p.startContainer world = (.error e, later)) :
    Brings p env c world (.error (.container e))
  | noPort {m : Container w} {e : ContainerError} {later last : w} (h : c.launcher = .container)
    (start : p.startContainer world = (.ok m, later)) (port : m.hostPort later = (.error e, last)) :
    Brings p env c world (.error (.container e))
  | external {x : ExternalCluster} (h : c.launcher = .external)
    (hx : ExternalCluster.ofConfig env c = .ok x) : Brings p env c world (.ok (external p x))

theorem startMock_on (count : Int32) (s : Session w) :
    (startMock p count).on s = match p.startMock count s.world with
      | (.error e, world) => (.error (.client e), { s with world := world })
      | (.ok m, world) => (.ok (mock p count m), { s with
          world := world, notes := s.notes ++ [.event (.mockStarted count.toInt m.servers)] }) := by
  unfold startMock
  rw [on_bind, on_onWorld]
  cases p.startMock count s.world with
  | mk r world => cases r <;> rfl

theorem startContainer_on (s : Session w) :
    (startContainer p).on s = match p.startContainer s.world with
      | (.error e, world) => (.error (.container e), { s with world := world })
      | (.ok m, world) => match m.hostPort world with
        | (.error e, world) => (.error (.container e), { s with world := world })
        | (.ok port, world) => (.ok (container p m port), { s with
            world := world
            notes := s.notes ++ [.event (.containerStarted m.id (containerServers port))] }) := by
  unfold startContainer
  rw [on_bind, on_onWorld]
  cases p.startContainer s.world with
  | mk r world =>
    cases r with
    | error e => rfl
    | ok m =>
      dsimp only
      rw [on_bind, on_onWorld]
      cases m.hostPort world with
      | mk r world => cases r <;> rfl

theorem startMock_brings {c : ClusterConfig} (h : c.launcher = .mock) (s : Session w) :
    Brings p env c s.world ((startMock p c.brokerCount).on s).1 := by
  rw [startMock_on]
  cases hm : p.startMock c.brokerCount s.world with
  | mk r later =>
    cases r with
    | error e => exact .noMock h hm
    | ok m => exact .mock h hm

theorem startContainer_brings {c : ClusterConfig} (h : c.launcher = .container) (s : Session w) :
    Brings p env c s.world ((startContainer p).on s).1 := by
  rw [startContainer_on]
  cases hm : p.startContainer s.world with
  | mk r later =>
    cases r with
    | error e => exact .noContainer h hm
    | ok m =>
      dsimp only
      cases hport : m.hostPort later with
      | mk r last =>
        cases r with
        | error e => exact .noPort h hm hport
        | ok n => exact .container h hm hport

theorem on_launched (a : Act w (Launcher w)) (s : Session w) :
    ((do
      let l ← a
      emit (.launched l.name l.brokers l.connection.servers)
      pure l : Act w (Launcher w)).on s).1 = (a.on s).1 := by
  rw [on_bind]
  cases a.on s with
  | mk r t => cases r <;> rfl

theorem launch_of_valid (h : c.validate = .ok ()) (s : Session w) :
    Brings p env c s.world ((launch p env c).on s).1 := by
  have hcheck : (ofExcept (c.validate.mapError Failure.config)).on s = (.ok (), s) := by
    rw [h]
    rfl
  unfold launch
  rw [on_bind_ok hcheck]
  cases hl : c.launcher with
  | mock => exact (on_launched (startMock p c.brokerCount) s).symm ▸ startMock_brings p env hl s
  | container => exact (on_launched (startContainer p) s).symm ▸ startContainer_brings p env hl s
  | external =>
    have hservers := (c.validate_eq_ok_iff.mp h).external hl
    obtain ⟨x, hx⟩ : ∃ x, ExternalCluster.ofConfig env c = .ok x := by
      simp [ExternalCluster.ofConfig, hservers]
    rw [hx]
    exact .external hl hx

theorem wait_probes (r : Readiness) (h : 1 ≤ r.attempts.toNat) (name : String) (expected : Nat)
    (probe : w → Probe × w) (world : w) :
    ∃ later, (r.wait name expected probe world).remarks =
      .event (Readiness.report name expected 1 (probe world).1) :: later := by
  obtain ⟨n, hn⟩ := Nat.exists_eq_add_of_le' h
  rw [Readiness.wait, hn, Readiness.waitFrom]
  split <;> exact ⟨_, rfl⟩

/-- A launcher has as many brokers as its description says, at least one, and looks for that many
when it is waited for. -/
structure Fits (p : Platform w) (c : ClusterConfig) (l : Launcher w) : Prop where
  brokers : (l.brokers : Int) = c.brokerCount.toInt
  expects : 1 ≤ l.brokers
  probes : ∀ world, ∃ later, (l.wait c.readiness world).remarks =
    .event (Readiness.report l.name l.brokers 1
      (p.probe l.connection c.readiness.metadataTimeout world).1) :: later

theorem fits_of_brokers {p : Platform w} {c : ClusterConfig} {l : Launcher w}
    (h : c.Launchable) (hbrokers : (l.brokers : Int) = c.brokerCount.toInt)
    (hwait : l.wait = p.waitForBrokers l.name l.connection l.brokers) : Fits p c l := by
  have hpositive := h.brokers
  refine ⟨hbrokers, by omega, fun world => ?_⟩
  rw [hwait]
  exact wait_probes c.readiness h.attempts l.name l.brokers _ world

theorem fits_mock (h : c.Launchable) (m : MockCluster w) : Fits p c (mock p c.brokerCount m) :=
  fits_of_brokers h (Int.toNat_of_nonneg (Int.le_of_lt h.brokers)) rfl

theorem fits_container (h : c.Launchable) (hl : c.launcher = .container) (m : Container w)
    (port : UInt16) : Fits p c (container p m port) :=
  fits_of_brokers h (h.container hl).symm rfl

theorem ofConfig_of_servers (h : c.Launchable) (hservers : c.servers ≠ []) :
    ∃ x, ExternalCluster.ofConfig env c = .ok x ∧ Fits p c (external p x) := by
  have hnonneg : 0 ≤ c.brokerCount.toInt := Int.le_of_lt h.brokers
  refine ⟨_, if_neg hservers, fits_of_brokers h ?_ rfl⟩
  change ((if 0 ≤ c.brokerCount.toInt then c.brokerCount.toInt.toNat else 1 : Nat) : Int) = _
  rw [if_pos hnonneg, Int.toNat_of_nonneg hnonneg]

theorem Brings.fits {p : Platform w} {env : Environment} {c : ClusterConfig} {world : w}
    {l : Launcher w} (h : Brings p env c world (.ok l)) (hc : c.Launchable) : Fits p c l := by
  cases h with
  | mock hl start => exact fits_mock p c hc _
  | container hl start port => exact fits_container p c hc hl _ _
  | external hl hx =>
    obtain ⟨x, hx', hfits⟩ := ofConfig_of_servers p env c hc (hc.external hl)
    rw [hx] at hx'
    cases hx'
    exact hfits

theorem Brings.ne_config {p : Platform w} {env : Environment} {c : ClusterConfig} {world : w}
    {e : Failure} (h : Brings p env c world (.error e)) (fault : ConfigError) :
    e ≠ .config fault := by
  cases h <;> simp

/-- Only descriptions that keep all conditions get in, and only those are launched; any other fails
with the first condition that it breaks and starts nothing. -/
theorem launch_launchable (p : Platform w) (env : Environment) (files : Files) :
    (∀ c, Config.Admitted env files c → c.cluster.Launchable) ∧
    (∀ text c, Config.read text = .ok c →
      Config.ofText text = c.cluster.firstBroken?.elim (.ok c) .error) ∧
    (∀ c : ClusterConfig, (c.validate = .ok () ↔ c.Launchable) ∧
      ∀ e, c.validate = .error e ↔ c.firstBroken? = some e) ∧
    (∀ (c : ClusterConfig) (e : ConfigError) (s : Session w),
      (((launch p env c).on s).1 = .error (.config e) ↔ c.validate = .error e) ∧
      (c.validate = .error e → ((launch p env c).on s).2 = s)) ∧
    ∀ c : ClusterConfig, c.validate = .ok () →
      (c.launcher = .external → c.servers ≠ []) ∧
      (c.servers ≠ [] → ∃ x, ExternalCluster.ofConfig env c = .ok x ∧ Fits p c (external p x)) ∧
      (∀ m, Fits p c (mock p c.brokerCount m)) ∧
      (c.launcher = .container → ∀ m port, Fits p c (container p m port)) ∧
      ∀ s, Brings p env c s.world ((launch p env c).on s).1 ∧
        ∀ l t, (launch p env c).on s = (.ok l, t) → Fits p c l := by
  refine ⟨fun c => Config.Admitted.launchable, fun _ _ => Config.ofText_of_read,
    fun c => ⟨c.validate_eq_ok_iff, c.validate_eq_error_iff⟩, fun c e s => ⟨⟨?_, ?_⟩, ?_⟩, ?_⟩
  · intro h
    cases hv : c.validate with
    | error e' =>
      rw [launch_of_invalid p env c hv] at h
      cases h
      rfl
    | ok x =>
      have hbrings := launch_of_valid p env c hv s
      rw [h] at hbrings
      exact absurd rfl (hbrings.ne_config e)
  · intro hv
    rw [launch_of_invalid p env c hv]
  · intro hv
    rw [launch_of_invalid p env c hv]
  · intro c hv
    have hc := c.validate_eq_ok_iff.mp hv
    have hbrings := launch_of_valid p env c hv
    refine ⟨hc.external, ofConfig_of_servers p env c hc, fits_mock p c hc, fits_container p c hc,
      fun s => ⟨hbrings s, ?_⟩⟩
    intro l t hl
    have hbrought := hbrings s
    rw [hl] at hbrought
    exact hbrought.fits hc

def elsewhere : ClusterConfig where
  launcher := .external
  brokerCount := 2
  servers := ["b1:9092", "b2:9092"]

def contained : ClusterConfig where
  launcher := .container

/-- A runtime with a container for the one broker. -/
def docked : Platform Brokers :=
  { Brokers.platform with
    startContainer := fun b => (.ok {
      id := "c0ffee"
      hostPort := fun b => (.ok 49153, { b with addresses := [containerServers 49153] })
      remove := fun b => (none, { b with addresses := [] })
      stop := fun b => (none, { b with addresses := [] }) }, b) }

/-- Two conditions are broken at once. -/
def brokerless : ClusterConfig where
  launcher := .container
  brokerCount := 0
  readiness := { attempts := 0 }

theorem launch_elsewhere :
    Config.Admitted (fun _ => none) (fun _ => .error .missing) {} ∧
    elsewhere.validate = .ok () ∧
    (∃ l t, (launch Brokers.platform (fun _ => none) elsewhere).on { world := {} } = (.ok l, t) ∧
      l.brokers = 2) ∧
    contained.validate = .ok () ∧
    (∃ l t, (launch docked (fun _ => none) contained).on { world := {} } = (.ok l, t) ∧
      l.brokers = 1 ∧ l.connection = .plaintext "127.0.0.1:49153") ∧
    brokerless.firstBroken? = some (.brokerCount 0) ∧
    ((launch Brokers.platform (fun _ => none) brokerless).on { world := {} }).1 =
      .error (.config (.brokerCount 0)) := by
  obtain ⟨-, -, hvalidate, hinvalid, hvalid⟩ :=
    launch_launchable Brokers.platform (fun _ => none) fun _ => .error .missing
  obtain ⟨-, -, -, -, hfits⟩ := hvalid elsewhere rfl
  obtain ⟨-, -, -, -, hvalidDocked⟩ :=
    launch_launchable docked (fun _ => none) fun _ => .error .missing
  obtain ⟨-, -, -, -, hfitsDocked⟩ := hvalidDocked contained rfl
  have hbroken : brokerless.firstBroken? = some (.brokerCount 0) := rfl
  refine ⟨.environment rfl, rfl, ⟨_, _, rfl, ?_⟩, rfl, ⟨_, _, rfl, ?_, rfl⟩, hbroken, ?_⟩
  · exact Int.ofNat_inj.mp ((hfits { world := {} }).2 _ _ rfl).brokers
  · exact Int.ofNat_inj.mp ((hfitsDocked { world := {} }).2 _ _ rfl).brokers
  · exact (hinvalid brokerless _ _).1.mpr ((hvalidate brokerless).2 _ |>.mpr hbroken)

/-- The description that is used when nothing is said is valid, but names no server outside. -/
theorem ofConfig_standard :
    ClusterConfig.validate {} = .ok () ∧
      ExternalCluster.ofConfig (fun _ => none) {} = .error .noServers :=
  ⟨rfl, rfl⟩

end Launcher

end TestCluster
