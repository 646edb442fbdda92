import TestCluster.Proofs.Cluster.Launch

namespace TestCluster

theorem ClusterConfig.firstBroken?_eq_some_iff {c : ClusterConfig}
    (hbrokers : 1 ≤ c.brokerCount.toInt) (hattempts : 1 ≤ c.readiness.attempts.toNat)
    (e : ConfigError) :
    c.firstBroken? = some e ↔
      (c.launcher = .container ∧ c.brokerCount.toInt ≠ 1 ∧
        e = .unsupportedBrokerCount "container" c.brokerCount) ∨
      (c.launcher = .external ∧ c.servers = [] ∧ e = .noServers) := by
  unfold firstBroken? conditions
  cases hl : c.launcher with
  | mock => simp [hbrokers, hattempts]
  | container =>
    by_cases hone : c.brokerCount.toInt = 1 <;> simp [hbrokers, hattempts, hone, eq_comm]
  | external => by_cases hservers : c.servers = [] <;> simp [hbrokers, hattempts, hservers, eq_comm]

namespace Config

def under (c : Config) (kind : LauncherKind) : Config :=
  { c with cluster := { c.cluster with launcher := kind } }

def checked (c : Config) : Except ConfigError Config :=
  c.cluster.firstBroken?.elim (.ok c) .error

theorem checked_eq_ok_iff (c c' : Config) :
    c.checked = .ok c' ↔ c.cluster.Launchable ∧ c' = c := by
  unfold checked
  rw [← c.cluster.firstBroken?_eq_none_iff]
  cases c.cluster.firstBroken? <;> simp [eq_comm]

theorem checked_eq_error_iff (c : Config) (e : ConfigError) :
    c.checked = .error e ↔ c.cluster.firstBroken? = some e := by
  unfold checked
  cases c.cluster.firstBroken? <;> simp

/-- What a file says, valid or not. -/
def parse (files : Files) (path : String) : Except ConfigError Config := do
  (read (← (readText files path).mapError (.unreadable path))).mapError .malformed

theorem ofFile_eq (files : Files) (path : String) :
    ofFile files path = parse files path >>= checked := by
  unfold ofFile parse
  rw [bind_assoc]
  congr 1
  funext text
  unfold ofText
  congr 1
  funext c
  exact c.validate_bind _

end Config

namespace Cli.Arguments

variable (env : Environment) (files : Files) (a : Arguments)

def parsed : Except ConfigError Config :=
  match a.config, env Config.pathVariable with
  | some path, _ => Config.parse files path
  | none, some path => if path = "" then .ok {} else Config.parse files path
  | none, none => .ok {}

theorem chosen_eq : a.chosen env files = a.parsed env files >>= Config.checked := by
  have hstandard : Config.checked {} = .ok {} :=
    (Config.checked_eq_ok_iff {} {}).mpr ⟨Config.launchable_standard, rfl⟩
  unfold chosen parsed Config.ofEnvironment
  cases a.config with
  | some path => exact Config.ofFile_eq files path
  | none =>
    cases env Config.pathVariable with
    | none => exact hstandard.symm
    | some path =>
      dsimp only
      split
      · exact hstandard.symm
      · exact Config.ofFile_eq files path

variable {env files a}

/-- The conditions are looked at twice, with the file's launcher and with the other one. -/
theorem configuration_eq {kind : LauncherKind} (h : a.launcher = some kind) :
    a.configuration env files =
      a.parsed env files >>= Config.checked >>= fun c => (c.under kind).checked := by
  unfold configuration
  rw [chosen_eq, h]
  congr 1
  funext c
  exact (c.under kind).validate_bind _

theorem configuration_eq_ok_iff {kind : LauncherKind} (h : a.launcher = some kind) (c : Config) :
    a.configuration env files = .ok c ↔ ∃ d, a.parsed env files = .ok d ∧ d.cluster.Launchable ∧
      (d.under kind).cluster.Launchable ∧ c = d.under kind := by
  rw [configuration_eq h]
  simp only [bind_eq_ok_iff, Config.checked_eq_ok_iff]
  constructor
  · rintro ⟨d, ⟨_, hd, hown, rfl⟩, hunder, rfl⟩
    exact ⟨d, hd, hown, hunder, rfl⟩
  · rintro ⟨d, hd, hown, hunder, rfl⟩
    exact ⟨d, ⟨d, hd, hown, rfl⟩, hunder, rfl⟩

theorem configuration_eq_error_iff {kind : LauncherKind} (h : a.launcher = some kind)
    (e : ConfigError) :
    a.configuration env files = .error e ↔
      a.parsed env files = .error e ∨ ∃ d, a.parsed env files = .ok d ∧
        (d.cluster.firstBroken? = some e ∨
          d.cluster.Launchable ∧ (d.under kind).cluster.firstBroken? = some e) := by
  rw [configuration_eq h]
  simp only [bind_eq_error_iff, bind_eq_ok_iff, Config.checked_eq_ok_iff,
    Config.checked_eq_error_iff]
  constructor
  · rintro ((hparsed | ⟨d, hd, hown⟩) | ⟨d, ⟨_, hd, hown, rfl⟩, hunder⟩)
    · exact .inl hparsed
    · exact .inr ⟨d, hd, .inl hown⟩
    · exact .inr ⟨d, hd, .inr ⟨hown, hunder⟩⟩
  · rintro (hparsed | ⟨d, hd, hown | ⟨hown, hunder⟩⟩)
    · exact .inl (.inl hparsed)
    · exact .inl (.inr ⟨d, hd, hown⟩)
    · exact .inr ⟨d, ⟨d, hd, hown, rfl⟩, hunder⟩

theorem configuration_eq_error_iff_of_under {kind : LauncherKind} (h : a.launcher = some kind)
    {d : Config} (hd : a.parsed env files = .ok d) (hunder : (d.under kind).cluster.Launchable)
    (e : ConfigError) :
    a.configuration env files = .error e ↔ d.cluster.firstBroken? = some e := by
  have hnone := (d.under kind).cluster.firstBroken?_eq_none_iff.mpr hunder
  rw [configuration_eq_error_iff h, hd]
  constructor
  · rintro (hparsed | ⟨_, ⟨⟩, hown | ⟨-, hbroken⟩⟩)
    · cases hparsed
    · exact hown
    · rw [hnone] at hbroken
      cases hbroken
  · exact fun hown => .inr ⟨d, rfl, .inl hown⟩

/-- A configuration comes of a file and a launcher among the arguments exactly if the file is valid
with its own launcher and with the other one, and it is what the file says with the other launcher.
A file that would be valid with the other launcher is refused only for what its own one needs. -/
theorem configuration_under (env : Environment) (files : Files) (a : Arguments)
    (kind : LauncherKind) (h : a.launcher = some kind) :
    (∀ c, a.configuration env files = .ok c ↔ ∃ d, a.parsed env files = .ok d ∧
      d.cluster.Launchable ∧ (d.under kind).cluster.Launchable ∧ c = d.under kind) ∧
    (∀ e, a.configuration env files = .error e ↔
      a.parsed env files = .error e ∨ ∃ d, a.parsed env files = .ok d ∧
        (d.cluster.firstBroken? = some e ∨
          d.cluster.Launchable ∧ (d.under kind).cluster.firstBroken? = some e)) ∧
    ∀ d, a.parsed env files = .ok d → (d.under kind).cluster.Launchable →
      ∀ e, a.configuration env files = .error e ↔
        (d.cluster.launcher = .container ∧ d.cluster.brokerCount.toInt ≠ 1 ∧
          e = .unsupportedBrokerCount "container" d.cluster.brokerCount) ∨
        (d.cluster.launcher = .external ∧ d.cluster.servers = [] ∧ e = .noServers) := by
  refine ⟨configuration_eq_ok_iff h, configuration_eq_error_iff h, ?_⟩
  intro d hd hunder e
  -- Neither the brokers nor the attempts depend on the launcher.
  have hbrokers : 1 ≤ d.cluster.brokerCount.toInt := hunder.brokers
  have hattempts : 1 ≤ d.cluster.readiness.attempts.toNat := hunder.attempts
  rw [configuration_eq_error_iff_of_under h hd hunder,
    ClusterConfig.firstBroken?_eq_some_iff hbrokers hattempts]

def naming (kind : LauncherKind) : Arguments where
  config := some "cluster.yaml"
  launcher := some kind

def everywhere (text : String) : Files :=
  fun _ => .ok (Utf8.encode text.toList)

/-- A container, with a server that it has no use for. -/
def contained : Files :=
  everywhere "cluster: {launcher: container, bootstrap_servers: [b:9092]}"

def serverless : Files :=
  everywhere "cluster: {launcher: external}"

theorem exists_of_any (x : Except ConfigError Config) (p : Config → Bool)
    (h : x.toOption.any p = true) : ∃ d, x = .ok d ∧ p d = true := by
  cases x with
  | error e => cases h
  | ok d => exact ⟨d, rfl, h⟩

theorem configuration_of_contained :
    (naming .external).launcher = some .external ∧
    ∃ c, (naming .external).configuration (fun _ => none) contained = .ok c ∧
      c.cluster.launcher = .external ∧ c.cluster.servers = ["b:9092"] := by
  have hkind : (naming .external).launcher = some .external := rfl
  obtain ⟨hok, -⟩ :=
    configuration_under (fun _ => none) contained (naming .external) .external hkind
  obtain ⟨d, hd, hparts⟩ := exists_of_any ((naming .external).parsed (fun _ => none) contained)
    (fun d => d.cluster.firstBroken? = none ∧ (d.under .external).cluster.firstBroken? = none ∧
      d.cluster.servers = ["b:9092"]) (by decide +kernel)
  obtain ⟨hown, hunder, hservers⟩ := of_decide_eq_true hparts
  refine ⟨hkind, d.under .external, (hok _).mpr ⟨d, hd, ?_, ?_, rfl⟩, rfl, hservers⟩
  · exact d.cluster.firstBroken?_eq_none_iff.mp hown
  · exact (d.under .external).cluster.firstBroken?_eq_none_iff.mp hunder

/-- A file is refused for its launcher although another one is to be used, with which the file would
be valid. -/
theorem configuration_of_serverless :
    (∃ d, (naming .mock).parsed (fun _ => none) serverless = .ok d ∧
      (d.under .mock).cluster.Launchable) ∧
    (naming .mock).configuration (fun _ => none) serverless = .error .noServers := by
  have hkind : (naming .mock).launcher = some .mock := rfl
  obtain ⟨d, hd, hparts⟩ := exists_of_any ((naming .mock).parsed (fun _ => none) serverless)
    (fun d => d.cluster.firstBroken? = some .noServers ∧
      (d.under .mock).cluster.firstBroken? = none)
    (by decide +kernel)
  obtain ⟨hown, hunder⟩ := of_decide_eq_true hparts
  have hlaunchable := (d.under .mock).cluster.firstBroken?_eq_none_iff.mp hunder
  exact ⟨⟨d, hd, hlaunchable⟩,
    (configuration_eq_error_iff_of_under hkind hd hlaunchable .noServers).mpr hown⟩

end Cli.Arguments

end TestCluster
