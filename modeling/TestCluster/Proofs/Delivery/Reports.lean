import TestCluster.Proofs.Delivery.Attempt
import TestCluster.Proofs.Delivery.Share

namespace TestCluster

structure Report where
  level : Level
  message : String
  fields : List (String × FieldValue)
  deriving DecidableEq, Repr

def Event.report (e : Event) : Report :=
  ⟨e.level, e.message, e.fields⟩

namespace Delivery

variable {σ ε : Type}

def eventsOf (notes : List (Note ε)) : List Event :=
  notes.filterMap Note.event?

/-- The numbers of the records that meet a full queue, once for every time they do. -/
def rejectedNumbers (k : Nat) (cs : List (Call ε)) : List Nat :=
  (numbered k cs).filterMap fun (i, c) => if c.isRejected then some i else none

theorem rejectedNumbers_cons (k : Nat) (c : Call ε) (cs : List (Call ε)) :
    rejectedNumbers k (c :: cs) = (if c.isRejected then [k] else []) ++
      rejectedNumbers (k + c.takenRecord?.toList.length) cs := by
  unfold rejectedNumbers
  rw [numbered, List.filterMap_cons]
  dsimp only
  cases c.isRejected <;> rfl

theorem length_rejectedNumbers (k : Nat) (cs : List (Call ε)) :
    (rejectedNumbers k cs).length = cs.countP Call.isRejected := by
  induction cs generalizing k with
  | nil => rfl
  | cons c cs ih =>
    rw [rejectedNumbers_cons, List.length_append, ih, List.countP_cons, Nat.add_comm]
    cases c.isRejected <;> rfl

theorem exists_getElem?_of_mem_numbered {i k : Nat} {c : Call ε} {cs : List (Call ε)}
    (h : (i, c) ∈ numbered k cs) :
    ∃ j, cs[j]? = some c ∧ i = k + (takenRecords (cs.take j)).length := by
  induction cs generalizing k with
  | nil => cases h
  | cons c' cs ih =>
    obtain heq | hmem := List.mem_cons.mp h
    · cases heq
      exact ⟨0, rfl, rfl⟩
    · obtain ⟨j, hj, rfl⟩ := ih hmem
      refine ⟨j + 1, hj, ?_⟩
      rw [List.take_succ_cons, takenRecords_cons, List.length_append, Nat.add_assoc]

variable (d : Delivery) (h : Handle σ ε)

def retries (k : Nat) (cs : List (Call ε)) : List Event :=
  (rejectedNumbers k cs).map (.retrying d.topic)

/-- The event of a full queue comes after the handle has been served. Until then it is owed. -/
def owed : Stage ε → List Event
  | .live (.afterFull _ rest) => [.retrying d.topic (d.seed.size - (rest.length + 1))]
  | _ => []

def closing : Stage ε → List Event
  | .done (.ok _) => [.delivered d.topic d.seed.size]
  | _ => []

theorem retries_cons (k : Nat) (c : Call ε) (cs : List (Call ε)) :
    d.retries k (c :: cs) =
      d.retries k [c] ++ d.retries (k + c.takenRecord?.toList.length) cs := by
  simp only [retries, rejectedNumbers_cons k c, List.map_append]
  congr 1
  exact (List.append_nil _).symm

variable {p q : Phase ε} {s : σ} {k : Nat}

def Phase.Follows (p : Phase ε) (d : Delivery) (k : Nat) : Prop :=
  p.pending ≠ 0 → k + p.pending = d.seed.size

theorem follows_first : (d.first (ε := ε)).Follows d 0 := by
  intro hpending
  have hlength := d.seed.length_records
  unfold first at hpending ⊢
  cases hrecords : d.seed.records with
  | nil =>
    rw [hrecords] at hpending
    exact absurd rfl hpending
  | cons x rest =>
    rw [hrecords] at hlength
    simpa [Phase.ofRecords, Phase.pending] using hlength

theorem Phase.Follows.step (hp : p.Follows d k) (hq : (d.step h s p).stage = .live q) :
    q.Follows d (k + (d.callOf h s p).takenRecord?.toList.length) := by
  intro hpending
  cases p with
  | offer x rest =>
    have hk : k + (rest.length + 1) = d.seed.size := hp (Nat.succ_ne_zero _)
    simp only [Delivery.step] at hq
    simp only [callOf]
    split at hq
    case h_1 ha =>
      cases hq
      rw [ha]
      change k + 1 + rest.length = _
      omega
    case h_2 ha =>
      cases hq
      rw [ha]
      exact hk
    case h_3 e ha =>
      cases hq
      exact absurd rfl hpending
  | afterTaken rest =>
    cases hq
    cases rest with
    | nil => exact absurd rfl hpending
    | cons x rest => exact hp (Nat.succ_ne_zero _)
  | afterFull x rest | backOff x rest =>
    cases hq
    exact hp (Nat.succ_ne_zero _)
  | afterRefused e => cases hq
  | flush =>
    simp only [Delivery.step] at hq
    split at hq <;> cases hq

/-- One call. What it reports or owes is what was owed before and what the call itself calls for. -/
theorem events_step (hp : p.Follows d k) :
    eventsOf (d.step h s p).notes ++ d.owed (d.step h s p).stage =
      d.owed (.live p) ++ d.retries k [d.callOf h s p] ++ d.closing (d.step h s p).stage := by
  cases p with
  | offer x rest =>
    have hk : k + (rest.length + 1) = d.seed.size := hp (Nat.succ_ne_zero _)
    simp only [step, callOf]
    cases (h.offer s d.topic x).1 with
    | queueFull =>
      have hindex : d.seed.size - (rest.length + 1) = k := by omega
      simp only [owed, hindex]
      rfl
    | taken => rfl
    | refused e => rfl
  | afterTaken rest => cases rest <;> rfl
  | flush =>
    simp only [step, callOf]
    split <;> rename_i hf <;> rw [hf] <;> rfl
  | _ => rfl

theorem events_advance (n : Nat) (hp : p.Follows d k) :
    eventsOf (d.advance h n (.live p) s).notes ++ d.owed (d.advance h n (.live p) s).stage =
      d.owed (.live p) ++ d.retries k (callsOf (d.advance h n (.live p) s).notes) ++
        d.closing (d.advance h n (.live p) s).stage := by
  induction n generalizing p s k with
  | zero => simp [advance, eventsOf, callsOf, retries, rejectedNumbers, numbered, closing]
  | succ n ih =>
    have hstep := d.events_step h (s := s) hp
    have hevents (later : List (Note ε)) : eventsOf ((d.step h s p).notes ++ later) =
        eventsOf (d.step h s p).notes ++ eventsOf later := List.filterMap_append
    rw [callsOf_advance_succ, advance_succ, retries_cons]
    simp only [Progress.after, hevents]
    cases hs : (d.step h s p).stage with
    | done r =>
      rw [hs] at hstep
      simp only [advance_done]
      have hnone : eventsOf ([] : List (Note ε)) = [] := rfl
      have hcalls : d.retries (k + (d.callOf h s p).takenRecord?.toList.length)
          (callsOf ([] : List (Note ε))) = [] := rfl
      rw [hnone, hcalls, List.append_nil, List.append_nil, hstep]
    | live q =>
      rw [hs] at hstep
      have hlater := ih (s := (d.step h s p).state) (hp.step d h hs)
      have hclosing : d.closing (.live q) = [] := rfl
      rw [hclosing, List.append_nil] at hstep
      rw [List.append_assoc, hlater, ← List.append_assoc, ← List.append_assoc, hstep]
      simp only [List.append_assoc]

theorem events_run (h : FairHandle σ ε) (s : σ) :
    eventsOf (d.run h s).notes =
      .delivering d.topic d.seed.size :: d.retries 0 (callsOf (d.run h s).notes) ++
        d.closing (.done (d.run h s).result : Stage ε) := by
  obtain ⟨n, hn⟩ := d.exists_advance_conclude h d.first s
  have hevents := d.events_advance h.toHandle n (s := s) (d.follows_first (ε := ε))
  have hfirst : d.owed (.live d.first : Stage ε) = [] := by
    unfold first
    cases d.seed.records <;> rfl
  rw [hn, hfirst, List.nil_append] at hevents
  change _ :: eventsOf (d.conclude h d.first s).notes = _
  rw [List.cons_append]
  exact congrArg _ ((List.append_nil _).symm.trans hevents)

def extent : List (String × FieldValue) :=
  [("topic", .text d.topic), ("num_messages", .number d.seed.size)]

/-- The reports of a run on a recorder can be told from what the recorder has kept of it. There is
one for the start, one for every offer that meets a full queue, in order and with the number of the
record, and one for the end exactly if the run succeeds. -/
theorem run_reports (d : Delivery) (r : Recorder) :
    ∃ cs : List (Call String),
      (d.run Recorder.handle r).state.calls = r.calls ++ cs ∧
      (eventsOf (d.run Recorder.handle r).notes).map Event.report =
        ⟨.info, "producing messages", d.extent⟩ ::
          (rejectedNumbers 0 cs).map (fun i => ⟨.debug, "producer queue full, retrying",
            [("topic", .text d.topic), ("index", .number i)]⟩) ++
          (match (d.run Recorder.handle r).result with
            | .ok _ => [⟨.info, "finished producing messages", d.extent⟩]
            | .error _ => []) ∧
      (rejectedNumbers 0 cs).length = cs.countP Call.isRejected ∧
      ∀ i topic x a, (i, Call.offer topic x a) ∈ numbered 0 cs →
        topic = d.topic ∧ d.seed.record? i = some x := by
  refine ⟨callsOf (d.run Recorder.handle r).notes, d.calls_run r, ?_,
    length_rejectedNumbers 0 _, ?_⟩
  · rw [d.events_run, List.cons_append, List.map_cons, List.map_append, retries, List.map_map,
      List.cons_append]
    congr 2
    cases (d.run Recorder.handle r).result <;> rfl
  · intro i topic x a hmem
    obtain ⟨n, hcalls, -⟩ := d.exists_advance_run r
    rw [hcalls] at hmem
    obtain ⟨j, hj, rfl⟩ := exists_getElem?_of_mem_numbered hmem
    obtain ⟨horderly, -, -⟩ := d.advance_orderly Recorder.handle.toHandle n r
    have hoffered := horderly.offered j topic x a hj
    rwa [d.seed.getElem?_records, ← Nat.zero_add (takenRecords _).length] at hoffered

end Delivery

end TestCluster
