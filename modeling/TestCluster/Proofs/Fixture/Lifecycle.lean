import TestCluster.Mock.Brokers
import TestCluster.Proofs.Acting

namespace TestCluster

def Note.askedName? : Note → Option String
  | .asked name .. => some name
  | _ => none

namespace Fixture

open Act

variable {w : Type}

/-- What a program can ask of a fixture that is up. -/
inductive Operation (w : Type)
  | servers
  | clientProperties (overrides : Overrides)
  | client (kind : Client.Kind) (overrides : Overrides)
  | admin
  | createTopic (starting : String) (spec : Option TopicSpec)
  | seedTopic (topic : String) (seed : Option Seed)
  | registry (overrides : Overrides)
  /-- The clients that were handed out are used, or the world moves on by itself. -/
  | meanwhile (change : w → w)

inductive Reply
  | text (s : String)
  | properties (p : Properties)
  | client (c : Client)
  | count (n : Nat)
  | registry (r : Option Registry)
  | nothing

inductive Ending
  | left
  | stop
  | stopWith (cleanup : Bool)

def Operation.perform (f : Fixture w) : Operation w → Act w Reply
  | .servers => pure (.text f.servers)
  | .clientProperties overrides => pure (.properties (f.clientProperties overrides))
  | .client kind overrides => do return .client (← f.client kind overrides)
  | .admin => do return .client (← f.admin)
  | .createTopic starting spec => do return .text (← f.createTopic starting spec)
  | .seedTopic topic seed => do return .count (← f.seedTopic topic seed)
  | .registry overrides => do return .registry (← Act.ofExcept (f.registry overrides))
  | .meanwhile change => do
    onWorld fun world => ((), change world)
    return .nothing

def Ending.perform (f : Fixture w) : Ending → Act w Unit
  | left => pure ()
  | stop => f.stop
  | stopWith cleanup => f.stopWith cleanup

/-- An operation that fails does not keep later ones from being tried. -/
def performAll (f : Fixture w) : List (Operation w) → Act w (List (Except Failure Reply))
  | [] => pure []
  | op :: ops => do
    let reply ← attempt (op.perform f)
    let later ← performAll f ops
    return reply :: later

variable (f : Fixture w)

/-- A whole run: a fixture of these parts comes up, is worked with, and goes down if it is told
to. -/
def lifecycle (ops : List (Operation w)) (ending : Ending) :
    Act w (List (Except Failure Reply)) := do
  let f ← withLauncher f.platform f.launcher f.config
  let replies ← f.performAll ops
  ending.perform f
  return replies

def up (s : Session w) : Session w :=
  ((withLauncher f.platform f.launcher f.config).on s).2

def after (ops : List (Operation w)) (s : Session w) : Session w :=
  ((f.performAll ops).on s).2

/-- The operations with the sessions they meet. -/
def moments : List (Operation w) → Session w → List (Operation w × Session w)
  | [], _ => []
  | op :: ops, s => (op, s) :: moments ops ((op.perform f).on s).2

def adminFrom (s : Session w) : Except ClientError Client × w :=
  match s.admin.slot with
  | some client => (.ok client, s.world)
  | none => match f.platform.makeClient .admin (f.clientProperties []) s.world with
    | (some e, world) => (.error e, world)
    | (none, world) => (.ok ⟨s.made, .admin, f.clientProperties []⟩, world)

def freshName (s : Session w) (starting : String) : String :=
  starting ++ f.platform.suffix s.drawn

def specOfRequest (spec : Option TopicSpec) : TopicSpec :=
  spec.getD ⟨f.config.topic.partitions, f.config.topic.replication, f.config.topic.config⟩

/-- The call on the launcher that an operation makes: one for every topic, if there is an admin
client to ask with. -/
def request? (s : Session w) : Operation w → Option Note
  | .createTopic starting spec => match (f.adminFrom s).1 with
    | .ok _ => some (.asked (f.freshName s starting) (f.specOfRequest spec) f.config.topic.timeout)
    | .error _ => none
  | _ => none

def requests (ops : List (Operation w)) (s : Session w) : List Note :=
  (f.moments ops s).filterMap fun (op, t) => f.request? t op

def names (ops : List (Operation w)) (s : Session w) : List String :=
  (f.requests ops s).filterMap Note.askedName?

/-- The suffixes from one drawing to before another are of one length and all different. -/
def SuffixesApart (first last : Nat) : Prop :=
  ∀ i j, first ≤ i → i < j → j < last →
    (f.platform.suffix i).length = (f.platform.suffix j).length ∧
      f.platform.suffix i ≠ f.platform.suffix j

def topicReply (s : Session w) (starting : String) (spec : Option TopicSpec) :
    Except Failure String :=
  match f.adminFrom s with
  | (.error e, _) => .error (.client e)
  | (.ok admin, world) =>
    (f.launcher.createTopic admin (f.freshName s starting) (f.specOfRequest spec)
      f.config.topic.timeout world).result.map fun _ => f.freshName s starting

def replies (ops : List (Operation w)) (s : Session w) : List (Except Failure Reply) :=
  (f.moments ops s).map fun
    | (.createTopic starting spec, t) => (f.topicReply t starting spec).map .text
    | (op, t) => ((op.perform f).on t).1

def Ending.calls : Ending → List Note
  | left => []
  | stop => [.stopped true]
  | stopWith cleanup => [.stopped cleanup]

def Ending.outcome (f : Fixture w) : Ending → w → Except Failure Unit
  | left, _ => .ok ()
  | stop, world => (f.launcher.stop true world).result
  | stopWith cleanup, world => (f.launcher.stop cleanup world).result

variable {f}

theorem wait_on (s : Session w) :
    ∃ t, f.wait.on s = ((f.launcher.wait f.config.cluster.readiness s.world).result, t) ∧
      t.log = s.log ++ [.waited f.config.cluster.readiness] ∧
      t.world = (f.launcher.wait f.config.cluster.readiness s.world).world ∧ t.drawn = s.drawn :=
  on_noted_hook rfl _ s

theorem shutDown_on (cleanup : Bool) (s : Session w) :
    ∃ t, (f.shutDown cleanup).on s = ((f.launcher.stop cleanup s.world).result, t) ∧
      t.log = s.log ++ [.stopped cleanup] ∧
      t.world = (f.launcher.stop cleanup s.world).world ∧ t.drawn = s.drawn :=
  on_noted_hook rfl _ s

theorem log_emit (e : Event) (s : Session w) : ((emit e).on s).2.log = s.log :=
  (keeps_emit e).log s

theorem stopWith_on (cleanup : Bool) (s : Session w) :
    ∃ t, (f.stopWith cleanup).on s = ((f.launcher.stop cleanup s.world).result, t) ∧
      t.log = s.log ++ [.stopped cleanup] ∧ t.drawn = s.drawn := by
  unfold stopWith
  rw [on_bind_ok (on_modify _ s), on_bind_ok (on_emit _ _)]
  obtain ⟨t, ht, hlog, _, hdrawn⟩ := f.shutDown_on cleanup
    ((emit (.stopping f.launcher.name cleanup)).on
      { s with admin := s.admin.take.2, seeder := s.seeder.take.2 }).2
  refine ⟨t, ht, ?_, hdrawn⟩
  rw [hlog, log_emit]
  rfl

theorem withLauncher_on_ok {s : Session w}
    (hw : (f.launcher.wait f.config.cluster.readiness s.world).result = .ok ()) :
    (withLauncher f.platform f.launcher f.config).on s = (.ok f, f.up s) ∧
      (f.up s).log = s.log ++ [.waited f.config.cluster.readiness] ∧
      (f.up s).world = (f.launcher.wait f.config.cluster.readiness s.world).world ∧
      (f.up s).drawn = s.drawn := by
  obtain ⟨t, ht, hlog, hworld, hdrawn⟩ := f.wait_on s
  rw [hw] at ht
  have hready : f.ready.on s =
      (.ok (), ((emit (.fixtureReady f.launcher.name f.servers)).on t).2) := by
    unfold ready
    rw [on_bind_ok (on_attempt f.wait s), ht]
    rfl
  have hup : (withLauncher f.platform f.launcher f.config).on s = (.ok f, _) :=
    on_bind_ok hready
  unfold up
  rw [hup]
  exact ⟨rfl, (log_emit _ t).trans hlog, hworld, hdrawn⟩

theorem withLauncher_on_error {s : Session w} {e : Failure}
    (hw : (f.launcher.wait f.config.cluster.readiness s.world).result = .error e) :
    ∃ t, (withLauncher f.platform f.launcher f.config).on s = (.error e, t) ∧
      t.log = s.log ++ [.waited f.config.cluster.readiness, .stopped true] ∧
      t.world = (f.launcher.stop true
        (f.launcher.wait f.config.cluster.readiness s.world).world).world := by
  obtain ⟨t, ht, hlog, hworld, _⟩ := f.wait_on s
  obtain ⟨u, hu, hlog', hworld', _⟩ := f.shutDown_on true t
  rw [hw] at ht
  rw [hlog, List.append_assoc] at hlog'
  rw [hworld] at hworld'
  have hready : ∃ v, f.ready.on s = (.error e, v) ∧ v.log = u.log ∧ v.world = u.world := by
    unfold ready
    rw [on_bind_ok (on_attempt f.wait s), ht]
    dsimp only
    rw [on_bind_ok (on_attempt (f.shutDown true) t), hu]
    cases (f.launcher.stop true t.world).result with
    | ok x => exact ⟨u, rfl, rfl, rfl⟩
    | error e' => exact ⟨_, rfl, log_emit (.cleanupFailed e'.message) u, rfl⟩
  obtain ⟨v, hv, hlogV, hworldV⟩ := hready
  exact ⟨v, on_bind_error hv, hlogV.trans hlog', hworldV.trans hworld'⟩

theorem makeAdmin_on (s : Session w) :
    f.makeAdmin.on s = (f.platform.makeClient! .admin (f.clientProperties [])).on
      { s with notes := s.notes ++ [.event .creatingAdmin] } :=
  on_bind_ok (on_emit _ s)

theorem admin_on (s : Session w) :
    ∃ t, f.admin.on s = ((f.adminFrom s).1.mapError .client, t) ∧ t.world = (f.adminFrom s).2 ∧
      t.log = s.log ∧ s.drawn ≤ t.drawn := by
  have hlog := f.keeps_admin.log s
  have hdrawn := f.keeps_admin.drawn s
  suffices h : (f.admin.on s).1 = (f.adminFrom s).1.mapError .client ∧
      (f.admin.on s).2.world = (f.adminFrom s).2 from
    ⟨_, Prod.ext h.1 rfl, h.2, hlog, hdrawn⟩
  unfold admin adminFrom
  rw [on_bind_ok (on_get s)]
  cases hslot : s.admin.slot with
  | some client =>
    rw [on_bind_ok (use_on_some hslot f.makeAdmin s)]
    exact ⟨rfl, rfl⟩
  | none =>
    have huse := use_on_none hslot f.makeAdmin s
    rw [makeAdmin_on, Platform.on_makeClient!] at huse
    cases hm : f.platform.makeClient .admin (f.clientProperties []) s.world with
    | mk failure world =>
      rw [hm] at huse
      cases failure with
      | none =>
        rw [on_bind_ok huse]
        exact ⟨rfl, rfl⟩
      | some e =>
        rw [on_bind_ok huse]
        exact ⟨rfl, rfl⟩

theorem confirm_on (h : Hook w) {n : Note} (hn : n.isHookCall = true) (e : Event) (name : String)
    (s : Session w) :
    ∃ t, (do note n; hook h; emit e; pure name : Act w String).on s =
        ((h s.world).result.map fun _ => name, t) ∧ t.log = s.log ++ [n] ∧ t.drawn = s.drawn := by
  obtain ⟨t, ht, hlog, _, hdrawn⟩ := on_noted_hook hn h s
  rw [on_bind_ok (on_note n s)] at ht ⊢
  cases hr : (h s.world).result with
  | error e' =>
    rw [hr] at ht
    exact ⟨t, on_bind_error ht, hlog, hdrawn⟩
  | ok x =>
    rw [hr] at ht
    rw [on_bind_ok ht, on_bind_ok (on_emit e t)]
    exact ⟨_, rfl, (log_emit e t).trans hlog, hdrawn⟩

theorem createTopic_on (starting : String) (spec : Option TopicSpec) (s : Session w) :
    ∃ t, (f.createTopic starting spec).on s = (f.topicReply s starting spec, t) ∧
      t.log = s.log ++ (f.request? s (.createTopic starting spec)).toList ∧ s.drawn < t.drawn := by
  let s' : Session w := { s with drawn := s.drawn + 1 }
  have hfrom : f.adminFrom s' = f.adminFrom s := rfl
  obtain ⟨t, ht, hworld, hlog, hdrawn⟩ := f.admin_on s'
  rw [hfrom] at ht hworld
  have hlt : s.drawn < t.drawn := hdrawn
  unfold createTopic topicReply request?
  rw [on_bind_ok (f.platform.on_drawSuffix s)]
  cases hadmin : f.adminFrom s with
  | mk found world =>
    rw [hadmin] at ht hworld
    cases found with
    | error e =>
      rw [on_bind_error ht]
      exact ⟨t, rfl, by rw [hlog]; exact (List.append_nil _).symm, hlt⟩
    | ok admin =>
      rw [on_bind_ok ht]
      obtain ⟨u, hu, hlog', hdrawn'⟩ := confirm_on
        (f.launcher.createTopic admin (f.freshName s starting) (f.specOfRequest spec)
          f.config.topic.timeout)
        (n := .asked (f.freshName s starting) (f.specOfRequest spec) f.config.topic.timeout) rfl
        (.topicCreated (f.freshName s starting) (f.specOfRequest spec).partitions.toInt
          (f.specOfRequest spec).replication.toInt) (f.freshName s starting) t
      rw [hworld] at hu
      exact ⟨u, hu, by rw [hlog', hlog]; rfl, by rw [hdrawn']; exact hlt⟩

theorem perform_on (op : Operation w) (s : Session w) :
    ((op.perform f).on s).2.log = s.log ++ (f.request? s op).toList ∧
      s.drawn ≤ ((op.perform f).on s).2.drawn := by
  have hkeeps : Keeps (op.perform f) → f.request? s op = none →
      ((op.perform f).on s).2.log = s.log ++ (f.request? s op).toList ∧
        s.drawn ≤ ((op.perform f).on s).2.drawn := by
    intro hk hr
    rw [hk.log, hr]
    exact ⟨(List.append_nil _).symm, hk.drawn s⟩
  cases op with
  | servers => exact hkeeps (keeps_pure _) rfl
  | clientProperties overrides => exact hkeeps (keeps_pure _) rfl
  | client kind overrides =>
    exact hkeeps ((f.keeps_client kind overrides).bind fun _ => keeps_pure _) rfl
  | admin => exact hkeeps (f.keeps_admin.bind fun _ => keeps_pure _) rfl
  | createTopic starting spec =>
    obtain ⟨t, ht, hlog, hdrawn⟩ := f.createTopic_on starting spec s
    simp only [Operation.perform]
    rw [on_bind, ht]
    cases f.topicReply s starting spec <;> exact ⟨hlog, Nat.le_of_lt hdrawn⟩
  | seedTopic topic seed =>
    exact hkeeps ((f.keeps_seedTopic topic seed).bind fun _ => keeps_pure _) rfl
  | registry overrides => exact hkeeps ((keeps_ofExcept _).bind fun _ => keeps_pure _) rfl
  | meanwhile change => exact hkeeps ((keeps_onWorld _).bind fun _ => keeps_pure _) rfl

theorem requests_cons (op : Operation w) (ops : List (Operation w)) (s : Session w) :
    f.requests (op :: ops) s =
      (f.request? s op).toList ++ f.requests ops ((op.perform f).on s).2 := by
  unfold requests
  rw [moments, List.filterMap_cons]
  dsimp only
  cases f.request? s op <;> rfl

theorem replies_cons (op : Operation w) (ops : List (Operation w)) (s : Session w) :
    f.replies (op :: ops) s =
      ((op.perform f).on s).1 :: f.replies ops ((op.perform f).on s).2 := by
  unfold replies
  rw [moments, List.map_cons]
  congr 1
  cases op with
  | createTopic starting spec =>
    obtain ⟨t, ht, _, _⟩ := f.createTopic_on starting spec s
    simp only [Operation.perform]
    rw [on_bind, ht]
    cases f.topicReply s starting spec <;> rfl
  | _ => rfl

theorem performAll_on (ops : List (Operation w)) (s : Session w) :
    (f.performAll ops).on s = (.ok (f.replies ops s), f.after ops s) ∧
      (f.after ops s).log = s.log ++ f.requests ops s ∧ s.drawn ≤ (f.after ops s).drawn := by
  unfold after
  induction ops generalizing s with
  | nil => exact ⟨rfl, (List.append_nil _).symm, Nat.le_refl _⟩
  | cons op ops ih =>
    obtain ⟨hlog, hdrawn⟩ := f.perform_on op s
    obtain ⟨hon, hlog', hdrawn'⟩ := ih ((op.perform f).on s).2
    rw [performAll, on_bind_ok (on_attempt _ s), on_bind_ok hon, replies_cons, requests_cons]
    refine ⟨rfl, ?_, Nat.le_trans hdrawn hdrawn'⟩
    rw [← List.append_assoc, ← hlog]
    exact hlog'

theorem after_cons (op : Operation w) (ops : List (Operation w)) (s : Session w) :
    f.after (op :: ops) s = f.after ops ((op.perform f).on s).2 := by
  have hlater := (f.performAll_on ops ((op.perform f).on s).2).1
  rw [after, performAll, on_bind_ok (on_attempt _ s), on_bind_ok hlater]
  rfl

/-- What a name starts with cannot make up for a difference in suffixes of one length. -/
theorem append_suffix_ne {a b x y : String} (hlen : x.length = y.length) (hne : x ≠ y) :
    a ++ x ≠ b ++ y := by
  intro h
  have hlist := congrArg String.toList h
  rw [String.toList_append, String.toList_append] at hlist
  have hlen' : x.toList.length = y.toList.length := by
    rw [String.length_toList, String.length_toList, hlen]
  exact hne (String.toList_inj.mp (List.append_inj_right' hlist hlen'))

theorem SuffixesApart.mono {first first' last last' : Nat} (h : f.SuffixesApart first last)
    (hfirst : first ≤ first') (hlast : last' ≤ last) : f.SuffixesApart first' last' :=
  fun i j hi hij hj => h i j (Nat.le_trans hfirst hi) hij (Nat.lt_of_lt_of_le hj hlast)

theorem names_cons_none {op : Operation w} {s : Session w} (h : f.request? s op = none)
    (ops : List (Operation w)) :
    f.names (op :: ops) s = f.names ops ((op.perform f).on s).2 := by
  unfold names
  rw [requests_cons, h]
  rfl

theorem names_cons_some {op : Operation w} {s : Session w} {n : Note}
    (h : f.request? s op = some n) (ops : List (Operation w)) :
    ∃ starting, f.names (op :: ops) s =
        (starting ++ f.platform.suffix s.drawn) :: f.names ops ((op.perform f).on s).2 ∧
      s.drawn < ((op.perform f).on s).2.drawn := by
  cases op with
  | createTopic starting spec =>
    refine ⟨starting, ?_, ?_⟩
    · unfold names
      rw [requests_cons, h]
      unfold request? at h
      cases hadmin : (f.adminFrom s).1 with
      | error e =>
        rw [hadmin] at h
        contradiction
      | ok admin =>
        rw [hadmin, Option.some.injEq] at h
        subst h
        rfl
    · obtain ⟨t, ht, _, hdrawn⟩ := f.createTopic_on starting spec s
      simp only [Operation.perform]
      rw [on_bind, ht]
      cases f.topicReply s starting spec <;> exact hdrawn
  | _ => exact nomatch h

theorem exists_suffix_of_mem {ops : List (Operation w)} {s : Session w} {name : String}
    (h : name ∈ f.names ops s) :
    ∃ starting i, name = starting ++ f.platform.suffix i ∧ s.drawn ≤ i ∧
      i < (f.after ops s).drawn := by
  induction ops generalizing s with
  | nil => exact absurd h List.not_mem_nil
  | cons op ops ih =>
    have hstep := (f.perform_on op s).2
    have hrest := (f.performAll_on ops ((op.perform f).on s).2).2.2
    rw [after_cons]
    have hlater : name ∈ f.names ops ((op.perform f).on s).2 →
        ∃ starting i, name = starting ++ f.platform.suffix i ∧ s.drawn ≤ i ∧
          i < (f.after ops ((op.perform f).on s).2).drawn := by
      intro hmem
      obtain ⟨starting, i, hname, hi, hlast⟩ := ih hmem
      exact ⟨starting, i, hname, Nat.le_trans hstep hi, hlast⟩
    cases hr : f.request? s op with
    | none =>
      rw [names_cons_none hr] at h
      exact hlater h
    | some n =>
      obtain ⟨starting, hnames, hdrawn⟩ := names_cons_some hr ops
      rw [hnames] at h
      obtain rfl | hmem := List.mem_cons.mp h
      · exact ⟨starting, s.drawn, rfl, Nat.le_refl _, Nat.lt_of_lt_of_le hdrawn hrest⟩
      · exact hlater hmem

theorem nodup_names {ops : List (Operation w)} {s : Session w}
    (hapart : f.SuffixesApart s.drawn (f.after ops s).drawn) :
    (f.names ops s).Nodup := by
  induction ops generalizing s with
  | nil => exact List.nodup_nil
  | cons op ops ih =>
    have hstep := (f.perform_on op s).2
    rw [after_cons] at hapart
    have hlater := ih (hapart.mono hstep (Nat.le_refl _))
    cases hr : f.request? s op with
    | none =>
      rw [names_cons_none hr]
      exact hlater
    | some n =>
      obtain ⟨starting, hnames, hdrawn⟩ := names_cons_some hr ops
      rw [hnames, List.nodup_cons]
      refine ⟨fun hmem => ?_, hlater⟩
      obtain ⟨starting', i, hname, hi, hlast⟩ := exists_suffix_of_mem hmem
      obtain ⟨hlen, hne⟩ := hapart s.drawn i (Nat.le_refl _) (Nat.lt_of_lt_of_le hdrawn hi) hlast
      exact append_suffix_ne hlen hne hname

theorem ending_on (ending : Ending) (s : Session w) :
    ∃ t, (ending.perform f).on s = (ending.outcome f s.world, t) ∧
      t.log = s.log ++ ending.calls ∧ t.drawn = s.drawn := by
  cases ending with
  | left => exact ⟨s, rfl, (List.append_nil _).symm, rfl⟩
  | stop => exact f.stopWith_on true s
  | stopWith cleanup => exact f.stopWith_on cleanup s

/-- A launcher is waited for once. If that fails it is stopped, and nothing else is done. Otherwise
it hears of every topic that can be asked for, in order, and of the end, if there is one. -/
theorem lifecycle_log (f : Fixture w) (ops : List (Operation w)) (ending : Ending)
    (s : Session w) :
    match (f.launcher.wait f.config.cluster.readiness s.world).result with
    | .error e => ∃ t, (f.lifecycle ops ending).on s = (.error e, t) ∧
      t.log = s.log ++ [.waited f.config.cluster.readiness, .stopped true] ∧
      t.world = (f.launcher.stop true
        (f.launcher.wait f.config.cluster.readiness s.world).world).world
    | .ok _ => ∃ t, (f.lifecycle ops ending).on s =
        ((ending.outcome f (f.after ops (f.up s)).world).map fun _ => f.replies ops (f.up s), t) ∧
      (f.up s).world = (f.launcher.wait f.config.cluster.readiness s.world).world ∧
      t.log = s.log ++
        .waited f.config.cluster.readiness :: (f.requests ops (f.up s) ++ ending.calls) ∧
      (f.SuffixesApart s.drawn t.drawn → (f.names ops (f.up s)).Nodup) := by
  unfold lifecycle
  cases hw : (f.launcher.wait f.config.cluster.readiness s.world).result with
  | error e =>
    obtain ⟨t, ht, hlog, hworld⟩ := withLauncher_on_error hw
    exact ⟨t, on_bind_error ht, hlog, hworld⟩
  | ok x =>
    obtain ⟨hup, hlogUp, hworld, hdrawnUp⟩ := withLauncher_on_ok hw
    obtain ⟨hops, hlogOps, _⟩ := f.performAll_on ops (f.up s)
    obtain ⟨t, ht, hlog, hdrawn⟩ := f.ending_on ending (f.after ops (f.up s))
    rw [hlogOps, hlogUp, List.append_assoc, List.append_assoc] at hlog
    refine ⟨t, ?_, hworld, hlog, fun hapart => nodup_names ?_⟩
    · rw [on_bind_ok hup, on_bind_ok hops, on_bind, ht]
      cases ending.outcome f (f.after ops (f.up s)).world <;> rfl
    · rw [hdrawnUp, ← hdrawn]
      exact hapart

/-- A fixture whose launcher is done at once with whatever it is told. -/
def obliging : Fixture Brokers where
  platform := Brokers.platform
  launcher := ⟨"obliging", 1, .plaintext "localhost:9092", none, fun _ b => ⟨.ok (), [], b⟩,
    fun _ _ _ _ b => ⟨.ok (), [], b⟩, fun _ b => ⟨.ok (), [], b⟩⟩
  config := {}

theorem lifecycle_of_two_topics :
    obliging.SuffixesApart 0 2 ∧
      (obliging.names [.createTopic "orders-" none, .createTopic "orders" none]
        (obliging.up { world := {} })).Nodup := by
  obtain ⟨t, ht, _, _, hnodup⟩ := obliging.lifecycle_log
    [.createTopic "orders-" none, .createTopic "orders" none] .stop { world := {} }
  have hapart : obliging.SuffixesApart 0 2 := by
    intro i j _ hij hj
    obtain ⟨rfl, rfl⟩ : i = 0 ∧ j = 1 := by omega
    decide +kernel
  have hdrawn : t.drawn = 2 := by
    rw [← congrArg (fun run => run.2.drawn) ht]
    decide +kernel
  refine ⟨hapart, hnodup ?_⟩
  rw [hdrawn]
  exact hapart

end Fixture

end TestCluster
