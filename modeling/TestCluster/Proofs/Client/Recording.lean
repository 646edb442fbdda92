import Mathlib.Data.List.Forall2
import TestCluster.Proofs.Client.Sending
import TestCluster.Proofs.Delivery.Simulation
import TestCluster.Proofs.Recorder.Script

namespace TestCluster

variable {σ τ δ : Type}

/-- A handle that keeps the messages it is offered, and answers the one after `i` others with
`answer i`. -/
structure Handle.Keeps (k : Handle τ δ) (kept : τ → List Message) (answer : Nat → Answer δ)
    (flushed : Option δ) : Prop where
  answer : ∀ t topic x, (k.offer t topic x).1 = answer (kept t).length
  offer : ∀ t topic x, kept (k.offer t topic x).2 = kept t ++ [⟨topic, x⟩]
  service : ∀ t ms, kept (k.service t ms) = kept t
  flushed : ∀ t, (k.flush t).1 = flushed
  flush : ∀ t, kept (k.flush t).2 = kept t

/-- The answer of a handle in the place of a client whose send ends like this. -/
inductive Answer.StandsFor (f : ClientError → δ) : Option ClientError → Answer δ → Prop
  | accepted : StandsFor f none .taken
  | full : StandsFor f (some (.production .queueFull)) .queueFull
  | failed (e : ClientError) (h : e ≠ .production .queueFull) :
      StandsFor f (some e) (.refused (f e))

theorem Answer.StandsFor.eq_map {f : ClientError → δ} {o : Option ClientError} {a : Answer δ}
    (h : StandsFor f o a) : a = (Answer.ofSend o).map f := by
  cases h with
  | accepted => rfl
  | full => rfl
  | failed e h =>
    rw [Answer.ofSend, if_neg h]
    rfl

section

variable {p : Producer σ} {sent : σ → List Submission} {outcome : Nat → Option ClientError}
  {flushed : Option ClientError}

abbrev Carried (sent : σ → List Submission) (kept : τ → List Message) (s : σ) (t : τ) : Prop :=
  List.Forall₂ Submission.Carries (sent s) (kept t)

theorem forall₂_carries_append {ms : List Submission} {bs : List Message}
    (h : List.Forall₂ Submission.Carries ms bs) (topic : String) (x : Record) :
    List.Forall₂ Submission.Carries (ms ++ [.ofRecord topic x]) (bs ++ [⟨topic, x⟩]) :=
  List.rel_append h (.cons (Submission.carries_ofRecord topic x) .nil)

theorem carried_unique {ms : List Submission} {bs cs : List Message}
    (hb : List.Forall₂ Submission.Carries ms bs) (hc : List.Forall₂ Submission.Carries ms cs) :
    bs = cs := by
  have hunique : Relator.RightUnique Submission.Carries := fun _ _ _ => Submission.Carries.unique
  exact hunique.forall₂ hb hc

theorem Handle.Keeps.mimics (hp : p.Follows sent outcome flushed) {f : ClientError → δ}
    {k : Handle τ δ} {kept : τ → List Message} {answer : Nat → Answer δ}
    (hk : k.Keeps kept answer (flushed.map f))
    (ha : ∀ i, Answer.StandsFor f (outcome i) (answer i)) :
    k.Mimics p.handle f (fun _ => Carried sent kept) (Carried sent kept) := by
  have hserved {s t} (h : Carried sent kept s t) (ms : Nat) :
      Carried sent kept (p.handle.service s ms) (k.service t ms) := by
    change List.Forall₂ _ (sent (p.poll s ms)) _
    rwa [hp.poll, hk.service]
  refine ⟨id, ?_, hserved, hserved, ?_⟩
  · intro _ s t h topic x
    obtain ⟨hanswer, hsent⟩ := hp.offer s topic x
    have hoffered : Carried sent kept (p.handle.offer s topic x).2 (k.offer t topic x).2 := by
      unfold Carried
      rw [hsent, hk.offer]
      exact forall₂_carries_append h topic x
    refine ⟨?_, hoffered, fun _ => hoffered⟩
    rw [hk.answer, hanswer, ← h.length_eq]
    exact (ha _).eq_map
  · intro _ s t h
    refine ⟨?_, ?_⟩
    · rw [hk.flushed]
      exact congrArg (Option.map f) (hp.flushed s).symm
    · change List.Forall₂ _ (sent (p.flush s).2) _
      rwa [hp.flush, hk.flush]

/-- The answers to the `m` offers after the first `n`. -/
def Answer.ahead (f : ClientError → String) (outcome : Nat → Option ClientError) (n m : Nat) :
    List (Answer String) :=
  (List.range' n m).map fun i => (Answer.ofSend (outcome i)).map f

namespace Recorder

def messages (r : Recorder) : List Message :=
  r.attempts.map (·.1)

theorem messages_offer (r : Recorder) (topic : String) (x : Record) :
    (r.offer topic x).2.messages = r.messages ++ [⟨topic, x⟩] := by
  have hcalls : (r.afterAnswer r.answer).calls = r.calls := by
    cases r.answer <;> rfl
  simp [messages, attempts, offer, record, hcalls]

theorem messages_service (r : Recorder) (ms : Nat) : (r.service ms).messages = r.messages := by
  simp [messages, attempts, service, record]

theorem messages_flush (r : Recorder) : r.flush.2.messages = r.messages := by
  simp [messages, attempts, flush, record]

theorem carried_offer (hp : p.Follows sent outcome flushed) {s : σ} {r : Recorder}
    (h : Carried sent messages s r) (topic : String) (x : Record) :
    Carried sent messages (p.handle.offer s topic x).2 (r.offer topic x).2 := by
  unfold Carried
  rw [(hp.offer s topic x).2, messages_offer]
  exact forall₂_carries_append h topic x

theorem flushFailure_offer (r : Recorder) (topic : String) (x : Record) :
    (r.offer topic x).2.flushFailure = r.flushFailure := by
  unfold offer afterAnswer
  cases r.answer <;> rfl

/-- A recorder whose script goes on as the client's sends do, for `n` more offers at least. -/
structure Keeping (f : ClientError → String) (sent : σ → List Submission)
    (outcome : Nat → Option ClientError) (flushed : Option ClientError) (n : Nat) (s : σ)
    (r : Recorder) : Prop where
  messages : Carried sent messages s r
  flushFailure : r.flushFailure = flushed.map f
  gives : ∃ m, n ≤ m ∧ Gives (Answer.ahead f outcome (sent s).length m) r

theorem Keeping.offer {f : ClientError → String} {n : Nat} {s : σ} {r : Recorder}
    (hp : p.Follows sent outcome flushed) (h : Keeping f sent outcome flushed (n + 1) s r)
    (topic : String) (x : Record) :
    r.answer = (p.handle.offer s topic x).1.map f ∧
      ((∀ e, (p.handle.offer s topic x).1 ≠ .refused e) →
        Keeping f sent outcome flushed n (p.handle.offer s topic x).2 (r.offer topic x).2) := by
  obtain ⟨hanswer, hsent⟩ := hp.offer s topic x
  obtain ⟨m, hm, hgives⟩ := h.gives
  obtain ⟨m, rfl⟩ : ∃ l, m = l + 1 := ⟨m - 1, by omega⟩
  rw [Answer.ahead, List.range'_succ, List.map_cons, Gives, ← hanswer] at hgives
  obtain ⟨hnow, hlater⟩ := hgives
  refine ⟨hnow, fun hfree => ⟨carried_offer hp h.messages topic x, ?_, m, by omega, ?_⟩⟩
  · rw [← h.flushFailure]
    exact r.flushFailure_offer topic x
  · rw [hsent, List.length_append]
    change Gives _ ((r.afterAnswer r.answer).record _)
    rw [gives_record, hnow]
    exact hlater (Answer.map_ne_refused hfree)

theorem mimics (hp : p.Follows sent outcome flushed) (f : ClientError → String) :
    handle.toHandle.Mimics p.handle f (Keeping f sent outcome flushed)
      (Carried sent messages) := by
  have hserved {s : σ} {r : Recorder} (h : Carried sent messages s r) (ms : Nat) :
      Carried sent messages (p.handle.service s ms) (r.service ms) := by
    change List.Forall₂ _ (sent (p.poll s ms)) _
    rwa [hp.poll, messages_service]
  refine ⟨Keeping.messages, ?_, ?_, hserved, ?_⟩
  · intro n s r h topic x
    obtain ⟨hanswer, hkeeping⟩ := h.offer hp topic x
    exact ⟨hanswer, carried_offer hp h.messages topic x, hkeeping⟩
  · intro n s r h ms
    obtain ⟨m, hm, hgives⟩ := h.gives
    refine ⟨hserved h.messages ms, h.flushFailure, m, by omega, ?_⟩
    change Gives (Answer.ahead f outcome (sent (p.poll s ms)).length m) (r.record _)
    rwa [gives_record, hp.poll]
  · intro n s r h
    refine ⟨?_, ?_⟩
    · change r.flushFailure = _
      rw [h.flushFailure]
      exact congrArg (Option.map f) (hp.flushed s).symm
    · change List.Forall₂ _ (sent (p.flush s).2) _
      rw [hp.flush]
      exact r.messages_flush ▸ h.messages

theorem exists_keeping (outcome : Nat → Option ClientError) (flushed : Option ClientError) {s : σ}
    (hs : sent s = []) (f : ClientError → String) (n : Nat) :
    ∃ r : Recorder, r.calls = [] ∧ r.taken = 0 ∧ Keeping f sent outcome flushed n s r := by
  let answers := Answer.ahead f outcome 0 n
  obtain ⟨hcalls, htaken, hfailure⟩ := script_fresh (flushed.map f) answers 0
  refine ⟨script (flushed.map f) 0 answers, hcalls, htaken, ?_, hfailure, n, Nat.le_refl n, ?_⟩
  · have hnone : (script (flushed.map f) 0 answers).messages = [] := by
      rw [messages, attempts, hcalls]
      rfl
    rw [Carried, hs, hnone]
    exact .nil
  · rw [hs]
    exact gives_script _ (flushed.map f) answers htaken (fun _ => rfl) fun _ => rfl

end Recorder

end

namespace Delivery

/-- However its sends end, a delivery submits the same messages to a client and to any handle that
keeps them and answers in the client's place. It makes the same calls at every moment, offers the
same records again and comes to the same end, but for how an error is written. For as many calls as
wanted, a recorder can be scripted to be such a handle. Only a full queue is worth another try, and
any other error is what the delivery ends with. -/
theorem sends_as_recorded (d : Delivery) {p : Producer σ} {sent : σ → List Submission}
    {outcome : Nat → Option ClientError} {flushed : Option ClientError}
    (hp : p.Follows sent outcome flushed) {s : σ} (hs : sent s = []) {f : ClientError → δ}
    {k : Handle τ δ} {kept : τ → List Message} {answer : Nat → Answer δ}
    (hk : k.Keeps kept answer (flushed.map f))
    (ha : ∀ i, Answer.StandsFor f (outcome i) (answer i)) {t : τ} (ht : kept t = []) (n : Nat) :
    let sending := d.advance p.handle n (.live d.first) s
    let keeping := d.advance k n (.live d.first) t
    sending.Alike f (Carried sent kept) keeping ∧
    (∀ g : ClientError → String, ∃ r : Recorder, r.calls = [] ∧ r.taken = 0 ∧
      let recording := d.advance Recorder.handle.toHandle n (.live d.first) r
      sending.Alike g (Carried sent Recorder.messages) recording ∧
        recording.state.messages = kept keeping.state ∧
        ∀ result, sending.stage = .done result → d.run Recorder.handle r =
          ⟨d.announcement :: recording.notes, result.mapError g, recording.state⟩) ∧
    d.Sends outcome flushed (sent sending.state) sending.stage
      (d.advance p.handle (n + 1) (.live d.first) s).stage := by
  intro sending keeping
  have hstart : Carried sent kept s t := by
    rw [Carried, hs, ht]
    exact .nil
  have hkeeping : sending.Alike f (Carried sent kept) keeping :=
    d.advance_first_alike (hk.mimics hp ha) hstart
  refine ⟨hkeeping, ?_, d.sends_advance hp hs n⟩
  intro g
  obtain ⟨r, hcalls, htaken, hr⟩ := Recorder.exists_keeping outcome flushed hs g n
  have hrecording := d.advance_first_alike (Recorder.mimics hp g) hr
  refine ⟨r, hcalls, htaken, hrecording, carried_unique hrecording.states hkeeping.states, ?_⟩
  intro result hdone
  apply d.run_of_advance (n := n)
  have hstage := hrecording.stage
  rw [hdone] at hstage
  exact congrArg (Progress.mk _ · _) hstage

def sender (outcome : Nat → Option ClientError) (flushed : Option ClientError) :
    Producer (List Submission) where
  send := fun ms m => (outcome ms.length, ms ++ [m])
  poll := fun ms _ => ms
  flush := fun ms => (flushed, ms)

def keeper (answer : Nat → Answer δ) (flushed : Option δ) : Handle (List Message) δ where
  offer := fun bs topic x => (answer bs.length, bs ++ [⟨topic, x⟩])
  service := fun bs _ => bs
  flush := fun bs => (flushed, bs)

def stubborn (i : Nat) : Option ClientError :=
  if i = 0 then some (.production .queueFull)
  else if i = 2 then some (.production .messageTooLarge)
  else none

def stubbornAnswer (i : Nat) : Answer String :=
  if i = 0 then .queueFull else if i = 2 then .refused "too large" else .taken

def twice : Delivery :=
  ⟨"t", ⟨[[1], [2]], [some []], some [[("h", [1]), ("h", [])]], by decide⟩, ⟨0, 100⟩⟩

theorem sends_as_recorded_of_stubborn :
    let sending := twice.advance (sender stubborn none).handle 12 (.live twice.first) []
    List.Forall₂ Submission.Carries sending.state
      [⟨"t", ⟨[1], some [], some [("h", [1]), ("h", [])]⟩⟩,
        ⟨"t", ⟨[1], some [], some [("h", [1]), ("h", [])]⟩⟩, ⟨"t", ⟨[2], some [], none⟩⟩] ∧
    sending.stage = .done (.error (.production .messageTooLarge)) := by
  have hsender : (sender stubborn none).Follows id stubborn none :=
    ⟨fun _ _ => rfl, fun _ _ => rfl, fun _ _ => rfl, fun _ => rfl, fun _ => rfl⟩
  have hkeeper : (keeper stubbornAnswer none).Keeps id stubbornAnswer
      (Option.map (fun _ : ClientError => "too large") none) :=
    ⟨fun _ _ _ => rfl, fun _ _ _ => rfl, fun _ _ => rfl, fun _ => rfl, fun _ => rfl⟩
  have hanswer : ∀ i, Answer.StandsFor (fun _ => "too large") (stubborn i) (stubbornAnswer i) := by
    intro i
    unfold stubborn stubbornAnswer
    split
    · exact .full
    · split
      · exact .failed _ (by decide)
      · exact .accepted
  obtain ⟨halike, -⟩ := twice.sends_as_recorded hsender rfl hkeeper hanswer rfl 12
  exact ⟨halike.states, rfl⟩

end Delivery

end TestCluster
