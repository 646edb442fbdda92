import Mathlib.Data.List.Induction
import TestCluster.Mock.Builder
import TestCluster.Proofs.Cluster.Launch
import TestCluster.Proofs.Fixture.Lifecycle
import TestCluster.Proofs.Properties

namespace TestCluster

namespace Properties

variable (p : Properties)

theorem insert_comm {first second : String} (h : first ≠ second) (text other : String) :
    (p.insert first text).insert second other = (p.insert second other).insert first text := by
  apply ext_get?
  intro name
  rw [get?_insert, get?_insert, get?_insert, get?_insert]
  by_cases hname : name = first
  · rw [if_neg (hname ▸ h), if_pos hname, if_pos hname]
  · rw [if_neg hname, if_neg hname]

theorem insert_insert (name text later : String) :
    (p.insert name text).insert name later = p.insert name later := by
  apply ext_get?
  intro other
  rw [get?_insert, get?_insert, get?_insert]
  split <;> rfl

end Properties

namespace MockBuilder

inductive Part
  | brokerCount
  | override (name : String)
  | messageCount
  deriving DecidableEq, Repr

namespace Step

def part : Step → Part
  | brokerCount _ => .brokerCount
  | override name _ => .override name
  | messageCount _ => .messageCount

def brokerCount? : Step → Option Int32
  | brokerCount n => some n
  | _ => none

def override? (name : String) : Step → Option String
  | override other text => if name = other then some text else none
  | _ => none

def messageCount? : Step → Option UInt64
  | messageCount n => some n
  | _ => none

end Step

def last? {α : Type} (given : Step → Option α) (steps : List Step) : Option α :=
  (steps.filterMap given).getLast?

theorem last?_concat {α : Type} (given : Step → Option α) (steps : List Step) (step : Step) :
    last? given (steps ++ [step]) = (given step).or (last? given steps) := by
  unfold last?
  rw [List.filterMap_append, List.getLast?_append]
  cases h : given step <;> simp [h]

/-- A builder that has what was given last, and is like a new one in all that is not given. -/
structure Reflects (b : MockBuilder) (steps : List Step) : Prop where
  started : b.brokerCount = b.config.cluster.brokerCount
  brokerCount : b.config.cluster.brokerCount = (last? Step.brokerCount? steps).getD 1
  override : ∀ name, b.config.overrides.get? name = last? (Step.override? name) steps
  messageCount : b.config.seed.count =
    (last? Step.messageCount? steps).getD standard.config.seed.count
  rest : b.config = { standard.config with
    cluster := { standard.config.cluster with brokerCount := b.config.cluster.brokerCount }
    overrides := b.config.overrides
    seed := { standard.config.seed with count := b.config.seed.count } }

theorem reflects_standard : standard.Reflects [] :=
  ⟨rfl, rfl, fun _ => rfl, rfl, rfl⟩

theorem Reflects.apply {b : MockBuilder} {steps : List Step} (h : b.Reflects steps) (step : Step) :
    (b.apply step).Reflects (steps ++ [step]) := by
  have hrest := h.rest
  constructor
  case started =>
    cases step with
    | brokerCount n => rfl
    | override name text => exact h.started
    | messageCount n => exact h.started
  case brokerCount =>
    rw [last?_concat]
    cases step with
    | brokerCount n => rfl
    | override name text => exact h.brokerCount
    | messageCount n => exact h.brokerCount
  case override =>
    intro name
    rw [last?_concat, ← h.override]
    cases step with
    | brokerCount n => rfl
    | override other text =>
      change (b.config.overrides.insert other text).get? name = _
      rw [Properties.get?_insert, Step.override?]
      split <;> rfl
    | messageCount n => rfl
  case messageCount =>
    rw [last?_concat]
    cases step with
    | brokerCount n => exact h.messageCount
    | override name text => exact h.messageCount
    | messageCount n => rfl
  case rest =>
    cases step with
    | brokerCount n =>
      simp only [MockBuilder.apply, withBrokerCount]
      rw [hrest]
    | override name text =>
      simp only [MockBuilder.apply, withOverride]
      rw [hrest]
    | messageCount n =>
      simp only [MockBuilder.apply, withMessageCount]
      rw [hrest]

theorem reflects_ofSteps (steps : List Step) : (ofSteps steps).Reflects steps := by
  induction steps using List.reverseRecOn with
  | nil => exact reflects_standard
  | append_singleton steps step ih =>
    have hofSteps : ofSteps (steps ++ [step]) = (ofSteps steps).apply step := by
      rw [ofSteps, List.foldl_append]
      rfl
    rw [hofSteps]
    exact ih.apply step

theorem Reflects.launchable {b : MockBuilder} {steps : List Step} (h : b.Reflects steps)
    (hpositive : 0 < b.config.cluster.brokerCount.toInt) : b.config.cluster.Launchable := by
  have hattempts : b.config.cluster.readiness.attempts = 30 := by
    rw [h.rest]
    rfl
  have hlauncher : b.config.cluster.launcher = .mock := by
    rw [h.rest]
    rfl
  refine ⟨hpositive, ?_, ?_, ?_⟩
  · rw [hattempts]
    decide
  · rw [hlauncher]
    exact nofun
  · rw [hlauncher]
    exact nofun

section

variable (b : MockBuilder) {s t : Step}

theorem apply_comm (h : s.part ≠ t.part) : (b.apply s).apply t = (b.apply t).apply s := by
  cases s with
  | override name text =>
    cases t with
    | override other later =>
      have hne : name ≠ other := fun heq => h (congrArg Part.override heq)
      simp only [apply, withOverride, b.config.overrides.insert_comm hne]
    | brokerCount n => rfl
    | messageCount n => rfl
  | brokerCount n =>
    cases t with
    | brokerCount m => exact absurd rfl h
    | override name text => rfl
    | messageCount m => rfl
  | messageCount n =>
    cases t with
    | messageCount m => exact absurd rfl h
    | override name text => rfl
    | brokerCount m => rfl

theorem apply_apply (h : s.part = t.part) : (b.apply s).apply t = b.apply t := by
  cases s with
  | override name text =>
    cases t with
    | override other later =>
      obtain rfl : name = other := Part.override.inj h
      simp only [apply, withOverride, b.config.overrides.insert_insert]
    | _ => cases h
  | brokerCount n =>
    cases t with
    | brokerCount m => rfl
    | _ => cases h
  | messageCount n =>
    cases t with
    | messageCount m => rfl
    | _ => cases h

/-- A step counts no more once another one sets the same, whatever comes between them. -/
theorem foldl_apply_between (h : s.part = t.part) (between : List Step) :
    (between ++ [t]).foldl apply (b.apply s) = (between ++ [t]).foldl apply b := by
  induction between generalizing b with
  | nil => exact b.apply_apply h
  | cons u between ih =>
    rw [List.cons_append, List.foldl_cons, List.foldl_cons]
    by_cases hu : s.part = u.part
    · rw [b.apply_apply hu]
    · rw [b.apply_comm hu, ih]

end

section

variable {s t : Step} (before after : List Step)

theorem ofSteps_comm (h : s.part ≠ t.part) :
    ofSteps (before ++ s :: t :: after) = ofSteps (before ++ t :: s :: after) := by
  simp only [ofSteps, List.foldl_append, List.foldl_cons, apply_comm _ h]

theorem ofSteps_between (h : s.part = t.part) (between : List Step) :
    ofSteps (before ++ s :: between ++ t :: after) = ofSteps (before ++ between ++ t :: after) := by
  have hbetween := foldl_apply_between (before.foldl apply standard) h between
  simp only [List.foldl_append, List.foldl_cons, List.foldl_nil] at hbetween
  simp only [ofSteps, List.foldl_append, List.foldl_cons, hbetween]

end

open Act

variable {w : Type} (b : MockBuilder) (p : Platform w)

def launcher (m : MockCluster w) : Launcher w :=
  .mock p b.config.cluster.brokerCount m

/-- What comes of building. The brokers are started as the configuration says, and the fixture is
there when they are. -/
inductive Builds (s : Session w) : Except Failure (Fixture w) → Prop
  | unstarted {e : ClientError} {world : w}
      (start : p.startMock b.config.cluster.brokerCount s.world = (.error e, world)) :
      Builds s (.error (.client e))
  | unready {m : MockCluster w} {e : Failure} {world : w}
      (start : p.startMock b.config.cluster.brokerCount s.world = (.ok m, world))
      (wait : ((b.launcher p m).wait b.config.cluster.readiness world).result = .error e) :
      Builds s (.error e)
  | ready {m : MockCluster w} {world : w}
      (start : p.startMock b.config.cluster.brokerCount s.world = (.ok m, world))
      (wait : ((b.launcher p m).wait b.config.cluster.readiness world).result = .ok ()) :
      Builds s (.ok ⟨p, b.launcher p m, b.config⟩)

theorem builds_of_started (h : b.brokerCount = b.config.cluster.brokerCount) (s : Session w) :
    b.Builds p s ((b.build p).on s).1 := by
  have hstart := Launcher.startMock_on p b.config.cluster.brokerCount s
  unfold build
  rw [h]
  cases hm : p.startMock b.config.cluster.brokerCount s.world with
  | mk found world =>
    rw [hm] at hstart
    cases found with
    | error e =>
      rw [on_bind_error hstart]
      exact .unstarted hm
    | ok m =>
      rw [on_bind_ok hstart]
      let f : Fixture w := ⟨p, b.launcher p m, b.config⟩
      cases hw : ((b.launcher p m).wait b.config.cluster.readiness world).result with
      | error e =>
        obtain ⟨t, ht, -⟩ := Fixture.withLauncher_on_error (f := f) (s := { s with
          world := world, notes := s.notes ++ [.event (.mockStarted _ m.servers)] }) hw
        exact ht ▸ .unready hm hw
      | ok x =>
        obtain ⟨hup, -⟩ := Fixture.withLauncher_on_ok (f := f) (s := { s with
          world := world, notes := s.notes ++ [.event (.mockStarted _ m.servers)] }) hw
        exact hup ▸ .ready hm hw

/-- Steps settle a builder by the last of them for each part. Those for different parts can be
swapped, and one counts no more when another for the same part comes later. The brokers are started
as the configuration says, and where it says so of any, that many are reported and waited for. -/
theorem ofSteps_settled (steps : List Step) :
    (ofSteps steps).Reflects steps ∧
    (∀ (w : Type) (p : Platform w) (s : Session w),
      (ofSteps steps).Builds p s (((ofSteps steps).build p).on s).1) ∧
    (∀ (w : Type) (p : Platform w) (m : MockCluster w),
      0 < (ofSteps steps).config.cluster.brokerCount.toInt →
      Launcher.Fits p (ofSteps steps).config.cluster ((ofSteps steps).launcher p m) ∧
        ((ofSteps steps).launcher p m).wait = p.waitForBrokers LauncherKind.mock.name
          (.plaintext m.servers) ((ofSteps steps).launcher p m).brokers) ∧
    (∀ (before after : List Step) (s t : Step), s.part ≠ t.part →
      ofSteps (before ++ s :: t :: after) = ofSteps (before ++ t :: s :: after)) ∧
    ∀ (before between after : List Step) (s t : Step), s.part = t.part →
      ofSteps (before ++ s :: between ++ t :: after) =
        ofSteps (before ++ between ++ t :: after) := by
  have hreflects := reflects_ofSteps steps
  refine ⟨hreflects, ?_, ?_, ?_, ?_⟩
  · exact fun w p s => builds_of_started _ p hreflects.started s
  · intro w p m hpositive
    exact ⟨Launcher.fits_mock p _ (hreflects.launchable hpositive) m, rfl⟩
  · exact fun before after s t h => ofSteps_comm before after h
  · exact fun before between after s t h => ofSteps_between before after h between

end MockBuilder

end TestCluster
