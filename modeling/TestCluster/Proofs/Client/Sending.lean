import Mathlib.Data.Nat.Count
import TestCluster.Client.Producer
import TestCluster.Proofs.Delivery.Orderly
import TestCluster.Recorder

namespace TestCluster

namespace Submission

/-- A submission that is a message in all its parts. No key is not an empty key, and the headers are
in the same order, each with its value. -/
structure Carries (m : Submission) (b : Message) : Prop where
  topic : m.topic = b.topic
  value : m.value = some b.record.value
  key : m.key = b.record.key
  headers : m.headers = b.record.headers.map (·.map fun (name, value) => ⟨name, some value⟩)

theorem headersOf_eq (headers : HeaderSet) :
    headersOf headers = headers.map fun (name, value) => ⟨name, some value⟩ := by
  unfold headersOf
  rw [List.foldl_append_eq_append, List.nil_append, ← List.flatMap_def, List.map_eq_flatMap]

theorem carries_ofRecord (topic : String) (x : Record) : (ofRecord topic x).Carries ⟨topic, x⟩ := by
  obtain ⟨value, key, headers⟩ := x
  cases key <;> cases headers <;> constructor <;> simp [ofRecord, headersOf_eq]

theorem Carries.unique {m : Submission} {b c : Message} (hb : m.Carries b) (hc : m.Carries c) :
    b = c := by
  obtain ⟨topic, value, key, headers⟩ := b
  obtain ⟨topic', value', key', headers'⟩ := c
  have htopic : topic = topic' := hb.topic.symm.trans hc.topic
  have hvalue : value = value' := Option.some.inj (hb.value.symm.trans hc.value)
  have hkey : key = key' := hb.key.symm.trans hc.key
  have hinj : Function.Injective fun h : String × Bytes => (⟨h.1, some h.2⟩ : Header) := by
    rintro ⟨name, bytes⟩ ⟨name', bytes'⟩ h
    cases h
    rfl
  have hheaders : headers = headers' :=
    Option.map_injective (List.map_injective_iff.mpr hinj) (hb.headers.symm.trans hc.headers)
  rw [htopic, hvalue, hkey, hheaders]

end Submission

variable {σ τ : Type}

/-- A client that is known to have been sent the messages `sent`. The send after `i` others ends
with `outcome i`, whatever is sent, and serving the client does nothing to that. -/
structure Producer.Follows (p : Producer σ) (sent : σ → List Submission)
    (outcome : Nat → Option ClientError) (flushed : Option ClientError) : Prop where
  outcome : ∀ s m, (p.send s m).1 = outcome (sent s).length
  send : ∀ s m, sent (p.send s m).2 = sent s ++ [m]
  poll : ∀ s ms, sent (p.poll s ms) = sent s
  flushed : ∀ s, (p.flush s).1 = flushed
  flush : ∀ s, sent (p.flush s).2 = sent s

theorem Producer.Follows.offer {p : Producer σ} {sent : σ → List Submission}
    {outcome : Nat → Option ClientError} {flushed : Option ClientError}
    (hp : p.Follows sent outcome flushed) (s : σ) (topic : String) (x : Record) :
    (p.handle.offer s topic x).1 = .ofSend (outcome (sent s).length) ∧
      sent (p.handle.offer s topic x).2 = sent s ++ [.ofRecord topic x] :=
  ⟨congrArg Answer.ofSend (hp.outcome s _), hp.send s _⟩

namespace Producer

def accepted (outcome : Nat → Option ClientError) (n : Nat) : Nat :=
  n.count (outcome · = none)

/-- None of the first `n` sends fails, unless the queue is full. -/
def Unfailed (outcome : Nat → Option ClientError) (n : Nat) : Prop :=
  ∀ i < n, ∀ e, outcome i = some e → e = .production .queueFull

variable {outcome : Nat → Option ClientError} {n : Nat}

theorem accepted_succ_of_none (h : outcome n = none) :
    accepted outcome (n + 1) = accepted outcome n + 1 := by
  unfold accepted
  rw [Nat.count_succ, if_pos h]

theorem accepted_succ_of_some {e : ClientError} (h : outcome n = some e) :
    accepted outcome (n + 1) = accepted outcome n := by
  unfold accepted
  rw [Nat.count_succ, if_neg (by simp [h]), Nat.add_zero]

theorem Unfailed.succ (h : Unfailed outcome n)
    (hn : ∀ e, outcome n = some e → e = .production .queueFull) : Unfailed outcome (n + 1) := by
  intro i hi
  obtain hlt | rfl := Nat.lt_succ_iff_lt_or_eq.mp hi
  · exact h i hlt
  · exact hn

end Producer

namespace Delivery

open Producer

variable (d : Delivery) {p : Producer σ} {sent : σ → List Submission}
  {outcome : Nat → Option ClientError} {flushed : Option ClientError} {s : σ}

/-- Where a delivery is after `n` sends. -/
inductive Standing (outcome : Nat → Option ClientError) (flushed : Option ClientError) :
    Nat → Stage ClientError → Prop
  | underway {n : Nat} {p : Phase ClientError} (hp : ∀ e, p ≠ .afterRefused e)
      (hn : Unfailed outcome n) (hle : accepted outcome n ≤ d.seed.size)
      (hdue : p.due = d.seed.records.drop (accepted outcome n)) :
      Standing outcome flushed n (.live p)
  | failing {n : Nat} {e : ClientError} (hn : Unfailed outcome n) (he : outcome n = some e)
      (hne : e ≠ .production .queueFull) :
      Standing outcome flushed (n + 1) (.live (.afterRefused e))
  | failed {n : Nat} {e : ClientError} (hn : Unfailed outcome n) (he : outcome n = some e)
      (hne : e ≠ .production .queueFull) :
      Standing outcome flushed (n + 1) (.done (.error e))
  | flushed {n : Nat} (hn : Unfailed outcome n) (hall : accepted outcome n = d.seed.size) :
      Standing outcome flushed n (.done (flushed.elim (.ok d.seed.size) .error))

def Sent (outcome : Nat → Option ClientError) (ms : List Submission) : Prop :=
  ∀ i < ms.length,
    ms[i]? = (d.seed.record? (accepted outcome i)).map (.ofRecord d.topic)

theorem Sent.append {d : Delivery} {ms : List Submission} (h : d.Sent outcome ms) {x : Record}
    (hx : d.seed.record? (accepted outcome ms.length) = some x) :
    d.Sent outcome (ms ++ [.ofRecord d.topic x]) := by
  intro i hi
  rw [List.length_append, List.length_singleton] at hi
  obtain hlt | rfl := Nat.lt_succ_iff_lt_or_eq.mp hi
  · rw [List.getElem?_append_left hlt]
    exact h i hlt
  · rw [List.getElem?_concat_length, hx]
    rfl

theorem due_cons {x : Record} {rest : List Record} {a : Nat}
    (h : x :: rest = d.seed.records.drop a) :
    d.seed.record? a = some x ∧ rest = d.seed.records.drop (a + 1) ∧ a + 1 ≤ d.seed.size := by
  have hx : d.seed.records[a]? = some x := by
    have hhead := congrArg (·[0]?) h
    rw [List.getElem?_drop] at hhead
    exact hhead.symm
  refine ⟨?_, ?_, ?_⟩
  · rw [← d.seed.getElem?_records, hx]
  · rw [← List.tail_drop, ← h, List.tail_cons]
  · rw [← d.seed.length_records]
    exact (List.getElem?_eq_some_iff.mp hx).1

theorem standing_offer (hp : p.Follows sent outcome flushed) {x : Record} {rest : List Record}
    (hn : Unfailed outcome (sent s).length)
    (hdue : x :: rest = d.seed.records.drop (accepted outcome (sent s).length)) :
    d.Standing outcome flushed ((sent s).length + 1)
      (d.step p.handle s (.offer x rest)).stage := by
  obtain ⟨-, hrest, hlt⟩ := d.due_cons hdue
  have hanswer := (hp.offer s d.topic x).1
  cases ho : outcome (sent s).length with
  | none =>
    have hstage : (d.step p.handle s (.offer x rest)).stage = .live (.afterTaken rest) := by
      simp only [step, hanswer, ho, Answer.ofSend]
    have hcount := accepted_succ_of_none ho
    rw [hstage]
    refine .underway (by simp) (hn.succ (by simp [ho])) ?_ ?_
    · rwa [hcount]
    · rwa [hcount]
  | some e =>
    by_cases he : e = .production .queueFull
    · have hstage : (d.step p.handle s (.offer x rest)).stage = .live (.afterFull x rest) := by
        simp only [step, hanswer, ho, Answer.ofSend, if_pos he]
      have hcount := accepted_succ_of_some ho
      rw [hstage]
      refine .underway (by simp) (hn.succ ?_) ?_ ?_
      · rintro e' he'
        rw [ho] at he'
        cases he'
        exact he
      · rw [hcount]
        omega
      · rw [hcount]
        exact hdue
    · have hstage : (d.step p.handle s (.offer x rest)).stage = .live (.afterRefused e) := by
        simp only [step, hanswer, ho, Answer.ofSend, if_neg he]
      rw [hstage]
      exact .failing hn ho he

theorem standing_flush (hp : p.Follows sent outcome flushed)
    (hn : Unfailed outcome (sent s).length)
    (hall : accepted outcome (sent s).length = d.seed.size) :
    sent (d.step p.handle s .flush).state = sent s ∧
      d.Standing outcome flushed (sent s).length (d.step p.handle s .flush).stage := by
  have hfailure : (p.handle.flush s).1 = flushed := hp.flushed s
  rw [step_flush_state, step_flush_stage, hfailure]
  exact ⟨hp.flush s, .flushed hn hall⟩

theorem standing_step (hp : p.Follows sent outcome flushed) {q : Phase ClientError} {n : Nat}
    (hlen : (sent s).length = n) (hms : d.Sent outcome (sent s))
    (hq : d.Standing outcome flushed n (.live q)) :
    d.Sent outcome (sent (d.step p.handle s q).state) ∧
      d.Standing outcome flushed (sent (d.step p.handle s q).state).length
        (d.step p.handle s q).stage := by
  have hserved (ms : Nat) : sent (p.handle.service s ms) = sent s := hp.poll s ms
  cases hq with
  | failing hn he hne =>
    simp only [step, hserved, hlen]
    exact ⟨hms, .failed hn he hne⟩
  | underway hne hn hle hdue =>
    subst hlen
    cases q with
    | offer x rest =>
      have hsent : sent (d.step p.handle s (.offer x rest)).state = _ := (hp.offer s d.topic x).2
      rw [hsent]
      refine ⟨hms.append (d.due_cons hdue).1, ?_⟩
      rw [List.length_append]
      exact d.standing_offer hp hn hdue
    | afterTaken rest =>
      simp only [step, hserved]
      refine ⟨hms, .underway (ofRecords_ne rest) hn hle ?_⟩
      rwa [Phase.due_ofRecords]
    | afterFull x rest | backOff x rest =>
      simp only [step, hserved]
      exact ⟨hms, .underway (by simp) hn hle hdue⟩
    | afterRefused e => exact absurd rfl (hne e)
    | flush =>
      have hall : d.seed.size ≤ accepted outcome (sent s).length := by
        rw [← d.seed.length_records]
        exact List.drop_eq_nil_iff.mp hdue.symm
      obtain ⟨hkept, hstage⟩ := d.standing_flush hp hn (Nat.le_antisymm hle hall)
      rw [hkept]
      exact ⟨hms, hstage⟩

/-- Every call keeps it, so it holds at every moment. -/
theorem standing_advance (hp : p.Follows sent outcome flushed) (hs : sent s = []) (n : Nat) :
    d.Sent outcome (sent (d.advance p.handle n (.live d.first) s).state) ∧
      d.Standing outcome flushed (sent (d.advance p.handle n (.live d.first) s).state).length
        (d.advance p.handle n (.live d.first) s).stage := by
  refine d.advance_invariant p.handle
    (P := fun stage s => d.Sent outcome (sent s) ∧
      d.Standing outcome flushed (sent s).length stage) ?_ n ?_
  · intro q s ⟨hms, hq⟩
    exact d.standing_step hp rfl hms hq
  · rw [hs]
    refine ⟨fun i hi => absurd hi (Nat.not_lt_zero i), .underway (ofRecords_ne _) ?_ ?_ ?_⟩
    · exact fun i hi => absurd hi (Nat.not_lt_zero i)
    · exact Nat.zero_le _
    · exact Phase.due_ofRecords _

/-- What a client has been sent, and what comes of it, when its sends end with `outcome`. `next` is
the stage one call later. -/
structure Sends (outcome : Nat → Option ClientError) (flushed : Option ClientError)
    (ms : List Submission) (stage next : Stage ClientError) : Prop where
  carried : ∀ i m, ms[i]? = some m →
    ∃ x, d.seed.record? (accepted outcome i) = some x ∧ m.Carries ⟨d.topic, x⟩
  retried : ∀ i e, outcome i = some e → i + 1 < ms.length →
    e = .production .queueFull ∧ ms[i + 1]? = ms[i]?
  failed : ∀ i e, outcome i = some e → e ≠ .production .queueFull → i < ms.length →
    i + 1 = ms.length ∧ next = .done (.error e)
  ended : ∀ result, stage = .done result →
    (∃ i e, i + 1 = ms.length ∧ outcome i = some e ∧ e ≠ .production .queueFull ∧
      result = .error e) ∨
    Unfailed outcome ms.length ∧ accepted outcome ms.length = d.seed.size ∧
      result = flushed.elim (.ok d.seed.size) .error

theorem Sent.carried {d : Delivery} {ms : List Submission} (h : d.Sent outcome ms) {i : Nat}
    {m : Submission} (hm : ms[i]? = some m) :
    ∃ x, d.seed.record? (accepted outcome i) = some x ∧ m.Carries ⟨d.topic, x⟩ := by
  rw [h i (List.getElem?_eq_some_iff.mp hm).1] at hm
  obtain ⟨x, hx, rfl⟩ := Option.map_eq_some_iff.mp hm
  exact ⟨x, hx, Submission.carries_ofRecord d.topic x⟩

theorem Standing.queueFull {d : Delivery} {n i : Nat} {stage : Stage ClientError}
    (h : d.Standing outcome flushed n stage) {e : ClientError} (he : outcome i = some e)
    (hi : i + 1 < n) : e = .production .queueFull := by
  cases h with
  | underway _ hn | flushed hn => exact hn i (by omega) e he
  | failing hn | failed hn => exact hn i (by omega) e he

theorem Standing.failed_next {d : Delivery} {n i : Nat} {stage : Stage ClientError}
    (h : d.Standing outcome flushed n stage) {e : ClientError} (he : outcome i = some e)
    (hne : e ≠ .production .queueFull) (hi : i < n) (k : Handle τ ClientError) (t : τ) :
    i + 1 = n ∧ (d.advance k 1 stage t).stage = .done (.error e) := by
  have hlast {m : Nat} {e' : ClientError} (hm : Unfailed outcome m) (he' : outcome m = some e')
      (hi : i < m + 1) : i = m ∧ e = e' := by
    obtain hlt | rfl := Nat.lt_succ_iff_lt_or_eq.mp hi
    · exact absurd (hm i hlt e he) hne
    · exact ⟨rfl, Option.some.inj (he.symm.trans he')⟩
  cases h with
  | underway _ hn | flushed hn => exact absurd (hn i hi e he) hne
  | failing hn he' =>
    obtain ⟨rfl, rfl⟩ := hlast hn he' hi
    exact ⟨rfl, rfl⟩
  | failed hn he' =>
    obtain ⟨rfl, rfl⟩ := hlast hn he' hi
    exact ⟨rfl, rfl⟩

theorem sends_advance (hp : p.Follows sent outcome flushed) (hs : sent s = []) (n : Nat) :
    d.Sends outcome flushed (sent (d.advance p.handle n (.live d.first) s).state)
      (d.advance p.handle n (.live d.first) s).stage
      (d.advance p.handle (n + 1) (.live d.first) s).stage := by
  obtain ⟨hms, hstanding⟩ := d.standing_advance hp hs n
  refine ⟨fun i m hm => hms.carried hm, ?_, ?_, ?_⟩
  · intro i e he hi
    refine ⟨hstanding.queueFull he hi, ?_⟩
    rw [hms (i + 1) hi, hms i (by omega), accepted_succ_of_some he]
  · intro i e he hne hi
    rw [advance_add]
    exact hstanding.failed_next he hne hi p.handle _
  · intro result hdone
    rw [hdone] at hstanding
    generalize (sent (d.advance p.handle n (.live d.first) s).state).length = m at hstanding ⊢
    cases hstanding with
    | failed hn he hne => exact .inl ⟨_, _, rfl, he, hne, rfl⟩
    | flushed hn hall => exact .inr ⟨hn, hall, rfl⟩

end Delivery

end TestCluster
