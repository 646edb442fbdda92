import TestCluster.Proofs.Cli.Course

namespace TestCluster.Cli.Plan

open Act

variable {w : Type}

/-- A cluster that does not come up is stopped, and its failure is reported whatever comes of the
stop. When topics do not get ready it is stopped too, but a stop that fails is what is reported. -/
theorem reported_after_stop (f : Fixture w) (plan : Plan) (meanwhile : w → w) (s : Session w) :
    (∀ e, (f.launcher.wait f.config.cluster.readiness s.world).result = .error e →
      ∃ t, (Fixture.withLauncher f.platform f.launcher f.config).on s = (.error e, t) ∧
        t.log = s.log ++ [.waited f.config.cluster.readiness, .stopped true]) ∧
    ∀ e v, (plan.prepare f).on s = (.error e, v) →
      ∃ t, (plan.serve f meanwhile).on s =
          (match (f.launcher.stop true v.world).result with
            | .ok _ => .error e
            | .error e' => .error e', t) ∧
        t.log = v.log ++ [.stopped true] := by
  constructor
  · intro e hwait
    obtain ⟨t, ht, hlog, _⟩ := Fixture.withLauncher_on_error hwait
    exact ⟨t, ht, hlog⟩
  · intro e v hprepare
    refine ⟨f.stopped v, ?_, Fixture.log_stopped v⟩
    rw [serve_on_failure hprepare]
    cases (f.launcher.stop true v.world).result <;> rfl

def noSuchContainer : ContainerError where
  text := "failed to remove a container: no such container"

def gone : Container Brokers where
  id := "c0ffee"
  hostPort := fun b => (.ok 49153, b)
  remove := fun b => (some noSuchContainer, b)
  stop := fun b => (some noSuchContainer, b)

/-- Its container is gone, so it can neither create a topic nor be stopped. -/
def brittle : Fixture Brokers where
  platform := Brokers.platform
  launcher := .container Brokers.platform gone 49153
  config := { cluster := { launcher := .container } }

def orders : Plan :=
  ⟨{}, ["orders-"], none⟩

/-- The failure of the stop hides that of the topic. -/
theorem serve_of_brittle :
    ((orders.prepare brittle).on { world := {} }).1 =
        .error (.client (.adminOperation .timedOut)) ∧
      ((orders.serve brittle id).on { world := {} }).1 =
        .error (.container noSuchContainer) := by
  decide +kernel

end TestCluster.Cli.Plan
