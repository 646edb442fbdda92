import TestCluster.Cli.Run
import TestCluster.Proofs.Delivery.Orderly
import TestCluster.Proofs.Fixture.Clients

namespace TestCluster

open Act

variable {w : Type}

def Note.isShown : Note → Bool
  | .waited _ | .asked .. | .stopped _ | .printed _ => true
  | _ => false

theorem Note.apart_isShown : Apart isShown :=
  ⟨fun _ => rfl, fun _ => rfl⟩

def Session.shown (s : Session w) : List Note :=
  s.noted Note.isShown

def Session.add (notes : List Note) (s : Session w) : Session w :=
  { s with notes := s.notes ++ notes }

def Session.delivered (o : Delivery.Outcome w ClientError) (s : Session w) : Session w :=
  { s with world := o.state, notes := s.notes ++ (o.notes.filterMap (·.event?)).map Note.event }

/-- Nothing has been made since, and what was shared is given up. -/
structure Session.Rests (s t : Session w) : Prop where
  made : t.made = s.made
  drawn : t.drawn = s.drawn
  admin : t.admin = .empty
  seeder : t.seeder = .empty

theorem Session.shown_add (notes : List Note) (s : Session w) :
    (s.add notes).shown = s.shown ++ notes.filter Note.isShown :=
  List.filter_append ..

theorem Seed.records_numbered (n : Nat) :
    (numbered n).records = (List.range n).map fun i => ⟨numberedValue i, none, none⟩ := by
  apply List.ext_getElem?
  intro i
  rw [getElem?_records]
  simp [record?, numbered, unkeyed, keyAt, headersAt, Function.comp_def]

namespace Fixture

variable {f : Fixture w}

theorem on_forM_emit (es : List Event) (s : Session w) :
    (es.forM emit : Act w Unit).on s = (.ok (), s.add (es.map Note.event)) := by
  induction es generalizing s with
  | nil =>
    simp only [Session.add, List.map_nil, List.append_nil]
    rfl
  | cons e es ih =>
    apply (on_bind_ok (on_emit e s)).trans
    rw [ih]
    simp [Session.add]

theorem deliver_on (client : Client) (d : Delivery) (s : Session w) :
    let o := d.run (f.platform.producer client.properties) s.world
    (f.deliver client d).on s = (o.result.mapError .client, s.delivered o) := by
  intro o
  unfold deliver
  rw [on_bind_ok (on_onWorld _ s), on_bind_ok (on_forM_emit _ _), on_ofExcept]
  rfl

theorem shown_delivered (o : Delivery.Outcome w ClientError) (s : Session w) :
    (s.delivered o).shown = s.shown := by
  have hnone : ((o.notes.filterMap (·.event?)).map Note.event).filter Note.isShown = [] := by
    rw [List.filter_eq_nil_iff]
    intro n hn
    obtain ⟨e, -, rfl⟩ := List.mem_map.mp hn
    simp [Note.isShown]
  simp only [Session.shown, Session.noted, Session.delivered, List.filter_append, hnone,
    List.append_nil]

theorem shown_client (role : Role) (s : Session w) :
    ((role.client f).on s).2.shown = s.shown :=
  Role.silent_client Note.apart_isShown rfl s

theorem confirm_on_shown (topic : String) (spec : TopicSpec) (admin : Client) (s : Session w) :
    ((f.confirm topic spec admin).on s).2.shown =
      s.shown ++ [.asked topic spec f.config.topic.timeout] := by
  have hrest : Silent Note.isShown (do
      hook (f.launcher.createTopic admin topic spec f.config.topic.timeout)
      emit (.topicCreated topic spec.partitions.toInt spec.replication.toInt)
      pure topic) := by
    apply (silent_hook Note.apart_isShown _).bind
    intro _
    exact (silent_note rfl).bind fun _ => silent_pure _
  rw [confirm, on_bind_ok (on_note _ s)]
  exact (hrest _).trans (noted_note _ s)

theorem createTopic_on_shown (starting : String) (spec : Option TopicSpec) (s : Session w) :
    ∃ t, (f.createTopic starting spec).on s = (f.topicReply s starting spec, t) ∧
      t.shown = s.shown ++ (f.request? s (.createTopic starting spec)).toList := by
  obtain ⟨t, ht, -⟩ := f.createTopic_on starting spec s
  refine ⟨t, ht, ?_⟩
  let s' : Session w := { s with drawn := s.drawn + 1 }
  have hfrom : f.adminFrom s' = f.adminFrom s := rfl
  have hshown : (f.admin.on s').2.shown = s.shown := shown_client .admin s'
  obtain ⟨u, hu, -⟩ := f.admin_on s'
  rw [hfrom] at hu
  rw [hu] at hshown
  rw [createTopic_eq] at ht
  unfold request?
  cases hadmin : (f.adminFrom s).1 with
  | error e =>
    rw [hadmin] at hu
    rw [on_bind_error hu] at ht
    obtain rfl : u = t := congrArg Prod.snd ht
    exact hshown.trans (List.append_nil _).symm
  | ok admin =>
    rw [hadmin] at hu
    rw [on_bind_ok hu] at ht
    have hconfirm := confirm_on_shown (f := f) (f.freshName s starting) (f.specOr spec) admin u
    rw [ht, hshown] at hconfirm
    exact hconfirm

def asking (topic : String) (spec : Option TopicSpec) : Note :=
  .asked topic (f.specOr spec) f.config.topic.timeout

theorem topicReply_eq_ok {starting topic : String} {spec : Option TopicSpec} {s : Session w}
    (h : f.topicReply s starting spec = .ok topic) :
    topic = f.freshName s starting ∧
      f.request? s (.createTopic starting spec) = some (f.asking topic spec) := by
  unfold topicReply at h
  unfold request?
  cases hadmin : f.adminFrom s with
  | mk found world =>
    rw [hadmin] at h
    cases found with
    | error e => cases h
    | ok admin =>
      dsimp only at h ⊢
      generalize (f.launcher.createTopic admin (f.freshName s starting) (f.specOfRequest spec)
        f.config.topic.timeout world).result = result at h
      cases result <;> cases h
      exact ⟨rfl, rfl⟩

theorem createTopic_on_ok {starting topic : String} {spec : Option TopicSpec} {s t : Session w}
    (h : (f.createTopic starting spec).on s = (.ok topic, t)) :
    topic = f.freshName s starting ∧ t.shown = s.shown ++ [f.asking topic spec] := by
  obtain ⟨t', ht, hshown⟩ := createTopic_on_shown (f := f) starting spec s
  rw [h] at ht
  obtain ⟨hreply, rfl⟩ := Prod.mk.inj ht
  obtain ⟨hname, hrequest⟩ := topicReply_eq_ok hreply.symm
  rw [hrequest] at hshown
  exact ⟨hname, hshown⟩

theorem createTopic_on_error {starting : String} {spec : Option TopicSpec} {s t : Session w}
    {e : Failure} (h : (f.createTopic starting spec).on s = (.error e, t)) :
    t.shown = s.shown ∨ t.shown = s.shown ++ [f.asking (f.freshName s starting) spec] := by
  obtain ⟨t', ht, hshown⟩ := createTopic_on_shown (f := f) starting spec s
  rw [h] at ht
  obtain ⟨-, rfl⟩ := Prod.mk.inj ht
  unfold request? at hshown
  cases hadmin : (f.adminFrom s).1 with
  | error e =>
    rw [hadmin] at hshown
    exact .inl (hshown.trans (List.append_nil _))
  | ok admin =>
    rw [hadmin] at hshown
    exact .inr hshown

def stopped (f : Fixture w) (s : Session w) : Session w :=
  { s with
    world := (f.launcher.stop true s.world).world
    admin := .empty
    seeder := .empty
    notes := s.notes ++ [.event (.stopping f.launcher.name true), .stopped true] ++
      (f.launcher.stop true s.world).remarks.map Remark.note }

theorem stop_on (s : Session w) :
    f.stop.on s = ((f.launcher.stop true s.world).result, f.stopped s) := by
  unfold stop stopWith shutDown
  rw [on_bind_ok (on_modify _ s), on_bind_ok (on_emit _ _), on_bind_ok (on_note _ _), on_hook]
  simp [stopped, Shared.take, Shared.empty]

theorem noted_stopped {q : Note → Bool} (hq : Note.Apart q) (s : Session w) :
    (f.stopped s).noted q = s.noted q ++ [.stopped true].filter q := by
  have hhook := silent_hook hq (f.launcher.stop true)
    (s.add [.event (.stopping f.launcher.name true), .stopped true])
  rw [on_hook] at hhook
  refine hhook.trans ?_
  simp only [Session.noted, Session.add, List.filter_append, List.filter_cons, hq.event]
  rfl

theorem shown_stopped (s : Session w) : (f.stopped s).shown = s.shown ++ [.stopped true] :=
  noted_stopped Note.apart_isShown s

theorem log_stopped (s : Session w) : (f.stopped s).log = s.log ++ [.stopped true] :=
  noted_stopped Note.apart_isHookCall s

end Fixture

namespace Cli.Plan

variable (plan : Plan) (f : Fixture w)

/-- The program from when its cluster is up. The world may change before the end is asked for. -/
def serve (meanwhile : w → w) : Act w Unit := do
  plan.settle f
  onWorld fun world => ((), meanwhile world)
  finish f

def filling (topic : String) (n : Nat) (client : Client) (world : w) :
    Delivery.Outcome w ClientError :=
  (⟨topic, .numbered n, f.pacing⟩ : Delivery).run (f.platform.producer client.properties) world

/-- How a topic that is there gets its messages. -/
inductive Fills (topic : String) (s : Session w) : Except Failure Unit → Session w → Prop
  | empty (count : plan.seed = none) : Fills topic s (.ok ()) s
  | unsent {n : UInt64} {e : Failure} {t : Session w} (count : plan.seed = some n)
      (seeder : f.seeder.on s = (.error e, t)) : Fills topic s (.error e) t
  | undelivered {n : UInt64} {c : Client} {t : Session w} {e : ClientError}
      (count : plan.seed = some n) (seeder : f.seeder.on s = (.ok c, t))
      (failed : (filling f topic n.toNat c t.world).result = .error e) :
      Fills topic s (.error (.client e)) (t.delivered (filling f topic n.toNat c t.world))
  | delivered {n : UInt64} {c : Client} {t : Session w} (count : plan.seed = some n)
      (seeder : f.seeder.on s = (.ok c, t))
      (succeeded : (filling f topic n.toNat c t.world).result = .ok n.toNat)
      (all : Delivery.takenRecords (Delivery.callsOf (filling f topic n.toNat c t.world).notes) =
        (List.range n.toNat).map fun i => ⟨Seed.numberedValue i, none, none⟩) :
      Fills topic s (.ok ()) ((t.delivered (filling f topic n.toNat c t.world)).add
        [.event (.topicSeeded topic n.toNat)])

/-- How topics get ready, one after the other: the names of those that do, and what goes wrong with
the one after them, if anything does. -/
inductive Course : List String → Session w → List String → Option Failure → Session w → Prop
  | finished (s : Session w) : Course [] s [] none s
  | uncreated {starting : String} {later : List String} {s t : Session w} {e : Failure}
      (created : (f.createTopic starting none).on s = (.error e, t)) :
      Course (starting :: later) s [] (some e) t
  | unfilled {starting topic : String} {later : List String} {s t u : Session w} {e : Failure}
      (created : (f.createTopic starting none).on s = (.ok topic, t))
      (filled : Fills plan f topic t (.error e) u) : Course (starting :: later) s [] (some e) u
  | ready {starting topic : String} {later names : List String} {s t u v : Session w}
      {failure : Option Failure}
      (created : (f.createTopic starting none).on s = (.ok topic, t))
      (filled : Fills plan f topic t (.ok ()) u)
      (rest : Course later (u.add [.printed topic]) names failure v) :
      Course (starting :: later) s (topic :: names) failure v

variable {plan f}

variable (plan f) in
theorem exists_fills (topic : String) (s : Session w) :
    ∃ r t, Fills plan f topic s r t ∧ (plan.seedTopic f topic).on s = (r, t) := by
  unfold seedTopic
  cases hseed : plan.seed with
  | none => exact ⟨.ok (), s, .empty hseed, rfl⟩
  | some n =>
    cases hseeder : f.seeder.on s with
    | mk found t =>
      cases found with
      | error e =>
        refine ⟨.error e, t, .unsent hseed hseeder, ?_⟩
        exact on_bind_error (on_bind_error hseeder)
      | ok c =>
        have hsent : (f.seedTopic topic (some (.numbered n.toNat))).on s =
            ((filling f topic n.toNat c t.world).result.mapError .client,
              t.delivered (filling f topic n.toNat c t.world)) :=
          (on_bind_ok hseeder).trans (Fixture.deliver_on c _ t)
        cases hresult : (filling f topic n.toNat c t.world).result with
        | error e =>
          rw [hresult] at hsent
          exact ⟨_, _, .undelivered hseed hseeder hresult, on_bind_error hsent⟩
        | ok m =>
          obtain ⟨hsize, htaken⟩ := Delivery.run_taken _ _ _ hresult
          have hm : m = n.toNat := by
            rw [hsize]
            simp [Seed.size, Seed.numbered, Seed.unkeyed]
          subst hm
          rw [Seed.records_numbered] at htaken
          rw [hresult] at hsent
          exact ⟨_, _, .delivered hseed hseeder hresult htaken, on_bind_ok hsent⟩

variable (plan f) in
/-- Every program has such a course, by induction on the topics that are left. -/
theorem exists_course (topics : List String) (s : Session w) :
    ∃ names failure t, Course plan f topics s names failure t ∧
      (topics.forM (plan.prepareTopic f)).on s = (failure.elim (.ok ()) .error, t) := by
  induction topics generalizing s with
  | nil => exact ⟨[], none, s, .finished s, rfl⟩
  | cons starting later ih =>
    cases hcreated : (f.createTopic starting none).on s with
    | mk created t =>
      cases created with
      | error e =>
        refine ⟨[], some e, t, .uncreated hcreated, ?_⟩
        exact on_bind_error (on_bind_error hcreated)
      | ok topic =>
        obtain ⟨r, u, hfills, hseeded⟩ := exists_fills plan f topic t
        cases r with
        | error e =>
          refine ⟨[], some e, u, .unfilled hcreated hfills, ?_⟩
          exact on_bind_error ((on_bind_ok hcreated).trans (on_bind_error hseeded))
        | ok x =>
          obtain ⟨names, failure, v, hcourse, hlater⟩ := ih (u.add [.printed topic])
          refine ⟨topic :: names, failure, v, .ready hcreated hfills hcourse, ?_⟩
          have hready : (plan.prepareTopic f starting).on s = (.ok (), u.add [.printed topic]) :=
            (on_bind_ok hcreated).trans (on_bind_ok hseeded)
          exact (on_bind_ok hready).trans hlater

theorem Fills.shown {topic : String} {s t : Session w} {r : Except Failure Unit}
    (h : Fills plan f topic s r t) : t.shown = s.shown := by
  have hseeder := Fixture.shown_client (f := f) .seeder s
  cases h with
  | empty count => rfl
  | unsent count seeder =>
    change (f.seeder.on s).2.shown = s.shown at hseeder
    rwa [seeder] at hseeder
  | undelivered count seeder failed =>
    change (f.seeder.on s).2.shown = s.shown at hseeder
    rw [seeder] at hseeder
    exact (Fixture.shown_delivered _ _).trans hseeder
  | delivered count seeder succeeded all =>
    change (f.seeder.on s).2.shown = s.shown at hseeder
    rw [seeder] at hseeder
    rw [Session.shown_add, Fixture.shown_delivered, hseeder]
    exact List.append_nil _

theorem Course.names {topics : List String} {s v : Session w} {names : List String}
    {failure : Option Failure} (h : Course plan f topics s names failure v) :
    List.Forall₂ (fun name starting => ∃ i, name = starting ++ f.platform.suffix i) names
      (topics.take names.length) ∧ (failure = none ↔ names.length = topics.length) := by
  induction h with
  | finished s => exact ⟨.nil, by simp⟩
  | uncreated created => exact ⟨.nil, by simp⟩
  | unfilled created filled => exact ⟨.nil, by simp⟩
  | ready created filled rest ih =>
    obtain ⟨hnames, hlength⟩ := ih
    exact ⟨.cons ⟨_, (Fixture.createTopic_on_ok created).1⟩ hnames, by simpa using hlength⟩

def readied (f : Fixture w) (name : String) : List Note :=
  [f.asking name none, .printed name]

theorem Course.shown {topics : List String} {s v : Session w} {names : List String}
    {failure : Option Failure} (h : Course plan f topics s names failure v) :
    ∃ tried, v.shown = s.shown ++ names.flatMap (readied f) ++ tried ∧
      (tried = [] ∨ failure ≠ none ∧ ∃ name, tried = [f.asking name none]) := by
  induction h with
  | finished s => exact ⟨[], by simp, .inl rfl⟩
  | uncreated created =>
    obtain h | h := Fixture.createTopic_on_error created
    · exact ⟨[], by simpa using h, .inl rfl⟩
    · exact ⟨_, by simpa using h, .inr ⟨nofun, _, rfl⟩⟩
  | unfilled created filled =>
    have h := filled.shown.trans (Fixture.createTopic_on_ok created).2
    exact ⟨_, by simpa using h, .inr ⟨nofun, _, rfl⟩⟩
  | @ready _ topic _ names _ _ _ _ _ created filled rest ih =>
    obtain ⟨tried, hshown, htried⟩ := ih
    have h := filled.shown.trans (Fixture.createTopic_on_ok created).2
    refine ⟨tried, ?_, htried⟩
    have hprinted : [Note.printed topic].filter Note.isShown = [.printed topic] := rfl
    rw [hshown, Session.shown_add, h, hprinted]
    simp [readied]

theorem finish_on (s : Session w) :
    ∃ t, (finish f).on s = ((f.launcher.stop true s.world).result, t) ∧
      t.shown = s.shown ++ [.stopped true] ∧ t.world = (f.launcher.stop true s.world).world ∧
      s.Rests t := by
  let s' := s.add [.event .shutdown]
  have hstop : f.stop.on s' = ((f.launcher.stop true s.world).result, f.stopped s') := f.stop_on s'
  have hshown : s'.shown = s.shown := (Session.shown_add _ s).trans (List.append_nil _)
  have hstopped : (f.stopped s').shown = s.shown ++ [.stopped true] := by
    rw [Fixture.shown_stopped, hshown]
  unfold finish
  rw [on_bind_ok (on_emit _ s)]
  cases hresult : (f.launcher.stop true s.world).result with
  | error e =>
    rw [hresult] at hstop
    exact ⟨_, on_bind_error hstop, hstopped, rfl, ⟨rfl, rfl, rfl, rfl⟩⟩
  | ok x =>
    rw [hresult] at hstop
    refine ⟨(f.stopped s').add [.event .finished], on_bind_ok hstop, ?_, rfl, ⟨rfl, rfl, rfl, rfl⟩⟩
    rw [Session.shown_add, hstopped]
    exact List.append_nil _

theorem serve_on_finished {s v : Session w} (h : (plan.prepare f).on s = (.ok (), v))
    (meanwhile : w → w) :
    ∃ t, (plan.serve f meanwhile).on s = ((f.launcher.stop true (meanwhile v.world)).result, t) ∧
      t.shown = v.shown ++ [.printed f.servers, .stopped true] ∧
      t.world = (f.launcher.stop true (meanwhile v.world)).world ∧ v.Rests t := by
  let u := v.add [.printed f.servers, .event (.waiting f.servers)]
  have hsettle : (plan.settle f).on s = (.ok (), u) := by
    unfold settle
    rw [on_bind_ok (on_attempt _ s), h, on_bind_ok (on_note _ v), on_emit]
    simp [u, Session.add]
  obtain ⟨t, ht, hshown, hworld, hrests⟩ :=
    finish_on (f := f) { u with world := meanwhile u.world }
  have hu : Session.shown { u with world := meanwhile u.world } = v.shown ++ [.printed f.servers] :=
    Session.shown_add _ v
  refine ⟨t, ?_, ?_, hworld, ⟨hrests.made, hrests.drawn, hrests.admin, hrests.seeder⟩⟩
  · rw [serve, on_bind_ok hsettle, on_bind_ok (on_onWorld _ u)]
    exact ht
  · rw [hshown, hu]
    simp

theorem serve_on_failure {s v : Session w} {e : Failure}
    (h : (plan.prepare f).on s = (.error e, v)) (meanwhile : w → w) :
    (plan.serve f meanwhile).on s =
      ((f.launcher.stop true v.world).result.bind fun _ => .error e, f.stopped v) := by
  have hsettle : (plan.settle f).on s =
      ((f.launcher.stop true v.world).result.bind fun _ => .error e, f.stopped v) := by
    unfold settle
    rw [on_bind_ok (on_attempt _ s), h, on_bind, f.stop_on]
    cases (f.launcher.stop true v.world).result <;> rfl
  -- `settle` has stopped the cluster, and it fails, so that `finish` is never reached.
  unfold serve
  rw [on_bind, hsettle]
  cases (f.launcher.stop true v.world).result <;> rfl

theorem run_on (plan : Plan) (p : Platform w) (env : Environment) (s : Session w) :
    (plan.run p env).on s =
      match (Fixture.start p env plan.config).on (s.add [.event (.started version
        plan.config.cluster.launcher.name plan.config.cluster.brokerCount.toInt)]) with
      | (.ok f, t) => (plan.serve f id).on t
      | (.error e, t) => (.error e, t) := by
  have hemit (e : Event) : (emit e).on s = (.ok (), s.add [.event e]) := rfl
  unfold run «begin»
  rw [on_bind_assoc, on_bind_ok (hemit _), on_bind_assoc, on_bind]
  generalize (Fixture.start p env plan.config).on _ = started
  obtain ⟨result, t⟩ := started
  cases result with
  | error e => rfl
  | ok f => exact on_bind_assoc _ _ _ t

/-- From the time when its cluster is up, a program gets its topics ready in order, until all are or
one is not. It prints the servers only in the one case, and stops the cluster once in both. -/
theorem serve_course (plan : Plan) (p : Platform w) (env : Environment) (f : Fixture w)
    (meanwhile : w → w) (s : Session w) :
    ((plan.run p env).on s =
      match (Fixture.start p env plan.config).on (s.add [.event (.started version
        plan.config.cluster.launcher.name plan.config.cluster.brokerCount.toInt)]) with
      | (.ok f, t) => (plan.serve f id).on t
      | (.error e, t) => (.error e, t)) ∧
    ∃ names failure v result t,
      Course plan f plan.topics s names failure v ∧
      List.Forall₂ (fun name starting => ∃ i, name = starting ++ f.platform.suffix i) names
        (plan.topics.take names.length) ∧
      (failure = none ↔ names.length = plan.topics.length) ∧
      (plan.serve f meanwhile).on s = (result, t) ∧ v.Rests t ∧
      match failure with
      | none =>
        result = (f.launcher.stop true (meanwhile v.world)).result ∧
        t.world = (f.launcher.stop true (meanwhile v.world)).world ∧
        t.shown = s.shown ++ names.flatMap (readied f) ++ [.printed f.servers, .stopped true]
      | some e =>
        result = (f.launcher.stop true v.world).result.bind (fun _ => .error e) ∧
        t.world = (f.launcher.stop true v.world).world ∧
        ∃ tried, (tried = [] ∨ ∃ name, tried = [f.asking name none]) ∧
          t.shown = s.shown ++ names.flatMap (readied f) ++ tried ++ [.stopped true] := by
  refine ⟨run_on plan p env s, ?_⟩
  obtain ⟨names, failure, v, hcourse, hprepare⟩ := exists_course plan f plan.topics s
  obtain ⟨hnames, hlength⟩ := hcourse.names
  obtain ⟨tried, hshown, htried⟩ := hcourse.shown
  cases failure with
  | none =>
    obtain ⟨t, ht, hshownT, hworld, hrests⟩ := serve_on_finished hprepare meanwhile
    -- Only a topic that does not get ready is asked for and not printed.
    obtain rfl : tried = [] := htried.resolve_right fun h => h.1 rfl
    rw [List.append_nil] at hshown
    refine ⟨names, none, v, _, t, hcourse, hnames, hlength, ht, hrests, rfl, hworld, ?_⟩
    rw [hshownT, hshown]
  | some e =>
    have hserve := serve_on_failure hprepare meanwhile
    have hrests : v.Rests (f.stopped v) := ⟨rfl, rfl, rfl, rfl⟩
    refine ⟨names, some e, v, _, _, hcourse, hnames, hlength, hserve, hrests, rfl, rfl, tried,
      htried.imp_right And.right, ?_⟩
    rw [Fixture.shown_stopped, hshown]

end Cli.Plan

end TestCluster
