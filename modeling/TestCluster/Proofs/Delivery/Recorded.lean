import TestCluster.Proofs.Delivery.Advance
import TestCluster.Recorder

namespace TestCluster

namespace Delivery

variable {ε : Type} (d : Delivery)

def rejection (x : Record) : List (Call ε) :=
  [.offer d.topic x .queueFull, .service d.pacing.poll, .service d.pacing.backOff]

def answered (x : Record) (a : Answer ε) : List (Call ε) :=
  [.offer d.topic x a, .service d.pacing.poll]

/-- The calls for one record, which is rejected `times` times first. -/
def turn (times : Nat) (x : Record) (a : Answer ε) : List (Call ε) :=
  (List.replicate times (d.rejection x)).flatten ++ d.answered x a

def takenTurns (times : Nat → Nat) (m : Nat) : List (Call ε) :=
  (d.seed.records.take m).zipIdx.flatMap fun (x, i) => d.turn (times i) x .taken

def rejectionNotes (i : Nat) (x : Record) : List (Note ε) :=
  [.call (.offer d.topic x .queueFull), .call (.service d.pacing.poll),
    .event (.retrying d.topic i), .call (.service d.pacing.backOff)]

def answeredNotes (x : Record) (a : Answer ε) : List (Note ε) :=
  [.call (.offer d.topic x a), .call (.service d.pacing.poll)]

def turnNotes (i times : Nat) (x : Record) (a : Answer ε) : List (Note ε) :=
  (List.replicate times (d.rejectionNotes i x)).flatten ++ d.answeredNotes x a

def takenNotes (times : Nat → Nat) (k : Nat) (xs : List Record) : List (Note ε) :=
  (xs.zipIdx k).flatMap fun (x, i) => d.turnNotes i (times i) x .taken

theorem calls_rejectionNotes (i : Nat) (x : Record) :
    (d.rejectionNotes (ε := ε) i x).filterMap Note.call? = d.rejection x := rfl

theorem calls_turnNotes (i times : Nat) (x : Record) (a : Answer ε) :
    (d.turnNotes i times x a).filterMap Note.call? = d.turn times x a := by
  have ha : (d.answeredNotes x a).filterMap Note.call? = d.answered x a := rfl
  simp only [turnNotes, turn, List.filterMap_append, List.filterMap_flatten, List.map_replicate,
    calls_rejectionNotes, ha]

theorem calls_takenNotes (times : Nat → Nat) (m : Nat) :
    (d.takenNotes (ε := ε) times 0 (d.seed.records.take m)).filterMap Note.call? =
      d.takenTurns times m := by
  simp only [takenNotes, takenTurns, List.filterMap_flatMap, calls_turnNotes]

section

variable {σ : Type} {h : Handle σ ε} {s : σ} {x : Record}

/-- A full queue costs an offer and two services, after which the same record is due again. -/
theorem advance_of_queueFull (rest : List Record) (ha : (h.offer s d.topic x).1 = .queueFull) :
    d.advance h 3 (.live (.offer x rest)) s =
      ⟨d.rejectionNotes (d.seed.size - (rest.length + 1)) x, .live (.offer x rest),
        h.service (h.service (h.offer s d.topic x).2 d.pacing.poll) d.pacing.backOff⟩ := by
  have hs : d.step h s (.offer x rest) =
      ⟨[.call (.offer d.topic x .queueFull)], .live (.afterFull x rest),
        (h.offer s d.topic x).2⟩ := by
    simp only [step, ha]
  rw [advance_succ, hs]
  rfl

theorem advance_of_taken (rest : List Record) (ha : (h.offer s d.topic x).1 = .taken) :
    d.advance h 2 (.live (.offer x rest)) s =
      ⟨d.answeredNotes x .taken, .live (.ofRecords rest),
        h.service (h.offer s d.topic x).2 d.pacing.poll⟩ := by
  have hs : d.step h s (.offer x rest) =
      ⟨[.call (.offer d.topic x .taken)], .live (.afterTaken rest), (h.offer s d.topic x).2⟩ := by
    simp only [step, ha]
  rw [advance_succ, hs]
  rfl

theorem advance_of_refused (rest : List Record) {e : ε}
    (ha : (h.offer s d.topic x).1 = .refused e) :
    d.advance h 2 (.live (.offer x rest)) s =
      ⟨d.answeredNotes x (.refused e), .done (.error e),
        h.service (h.offer s d.topic x).2 d.pacing.poll⟩ := by
  have hs : d.step h s (.offer x rest) =
      ⟨[.call (.offer d.topic x (.refused e))], .live (.afterRefused e),
        (h.offer s d.topic x).2⟩ := by
    simp only [step, ha]
  rw [advance_succ, hs]
  rfl

end

end Delivery

namespace Recorder

open Delivery

variable (r : Recorder)

def firstRefusal? (n : Nat) : Option Nat :=
  (List.range n).find? fun i => (r.refusalAt? (r.taken + i)).isSome

/-- How often the record after the next `i` is rejected before it is taken or refused. -/
def fullsAhead (i : Nat) : Nat :=
  r.fullsAt (r.taken + i)

/-- What `s` has in common with `r` once it has taken `taken` more records and no rejection is
left at the next `visited` positions. -/
structure Served (r s : Recorder) (taken visited : Nat) : Prop where
  taken_eq : s.taken = r.taken + taken
  fulls : ∀ p, s.fullsAt p = if r.taken ≤ p ∧ p < r.taken + visited then 0 else r.fullsAt p
  refusals : s.refusals = r.refusals
  flushFailure : s.flushFailure = r.flushFailure

variable {r}

theorem firstRefusal?_eq_none_iff {n : Nat} :
    r.firstRefusal? n = none ↔ ∀ i < n, r.refusalAt? (r.taken + i) = none := by
  simp [firstRefusal?]

theorem Served.trans {s u : Recorder} {m n v w : Nat} (hs : Served r s m v) (hu : Served s u n w)
    (hmv : m ≤ v) (hvw : v ≤ m + w) : Served r u (m + n) (m + w) := by
  have ht := hs.taken_eq
  refine ⟨?_, ?_, hu.refusals.trans hs.refusals, hu.flushFailure.trans hs.flushFailure⟩
  · rw [hu.taken_eq, ht]
    omega
  · intro p
    rw [hu.fulls, hs.fulls, ht]
    by_cases hp : r.taken + m ≤ p ∧ p < r.taken + m + w
    · rw [if_pos hp, if_pos (by omega)]
    · rw [if_neg hp]
      by_cases hq : r.taken ≤ p ∧ p < r.taken + v
      · rw [if_pos hq, if_pos (by omega)]
      · rw [if_neg hq, if_neg (by omega)]

theorem Served.used_up {s : Recorder} (hs : Served r s 0 1) :
    s.taken = r.taken ∧ s.fullsAt s.taken = 0 := by
  have htaken : s.taken = r.taken := hs.taken_eq
  refine ⟨htaken, ?_⟩
  rw [hs.fulls, htaken, if_pos (by omega)]

theorem Served.refusalAt? {s : Recorder} {m v : Nat} (hs : Served r s m v) (p : Nat) :
    s.refusalAt? p = r.refusalAt? p := by
  unfold Recorder.refusalAt?
  rw [hs.refusals]

theorem served_of_fulls_eq {u : Recorder} {m : Nat} (h : r.fullsAt r.taken = 0)
    (htaken : u.taken = r.taken + m) (hfulls : u.fulls = r.fulls)
    (hrefusals : u.refusals = r.refusals) (hflush : u.flushFailure = r.flushFailure) :
    Served r u m 1 := by
  refine ⟨htaken, ?_, hrefusals, hflush⟩
  intro p
  have hp : u.fullsAt p = r.fullsAt p := by
    unfold fullsAt
    rw [hfulls]
  split
  · have hpr : p = r.taken := by omega
    rw [hp, hpr, h]
  · exact hp

variable (r)

theorem answer_of_fulls (h : 0 < r.fullsAt r.taken) : r.answer = .queueFull := by
  unfold answer
  rw [if_pos h]

theorem answer_of_refusal {e : String} (h : r.fullsAt r.taken = 0)
    (he : r.refusalAt? r.taken = some e) : r.answer = .refused e := by
  unfold answer
  rw [if_neg (by omega), he]

theorem answer_of_free (h : r.fullsAt r.taken = 0) (hn : r.refusalAt? r.taken = none) :
    r.answer = .taken := by
  unfold answer
  rw [if_neg (by omega), hn]

theorem offer_of_fulls (topic : String) (x : Record) (h : 0 < r.fullsAt r.taken) :
    r.offer topic x = (.queueFull,
      (r.scriptFulls r.taken (r.fullsAt r.taken - 1)).record (.offer topic x .queueFull)) := by
  unfold offer
  rw [answer_of_fulls r h]
  rfl

theorem offer_of_refusal (topic : String) (x : Record) {e : String} (h : r.fullsAt r.taken = 0)
    (he : r.refusalAt? r.taken = some e) :
    r.offer topic x = (.refused e, r.record (.offer topic x (.refused e))) := by
  unfold offer
  rw [answer_of_refusal r h he]
  rfl

theorem offer_of_free (topic : String) (x : Record) (h : r.fullsAt r.taken = 0)
    (hn : r.refusalAt? r.taken = none) :
    r.offer topic x =
      (.taken, { r with taken := r.taken + 1 }.record (.offer topic x .taken)) := by
  unfold offer
  rw [answer_of_free r h hn]
  rfl

end Recorder

namespace Delivery

open Recorder

variable (d : Delivery) (r : Recorder)

theorem advance_rejection (x : Record) (rest : List Record) (h : 0 < r.fullsAt r.taken) :
    ∃ s : Recorder, d.advance handle.toHandle 3 (.live (.offer x rest)) r =
        ⟨d.rejectionNotes (d.seed.size - (rest.length + 1)) x, .live (.offer x rest), s⟩ ∧
      s.taken = r.taken ∧ s.refusals = r.refusals ∧ s.flushFailure = r.flushFailure ∧
      ∀ p, s.fullsAt p = if p = r.taken then r.fullsAt r.taken - 1 else r.fullsAt p := by
  have ho := offer_of_fulls r d.topic x h
  have ha : (handle.toHandle.offer r d.topic x).1 = .queueFull := by
    simp only [handle, ho]
  refine ⟨_, d.advance_of_queueFull rest ha, ?_⟩
  simp only [handle, ho]
  exact ⟨rfl, rfl, rfl, fun p => r.fullsAt_scriptFulls r.taken _ p⟩

theorem advance_rejections (x : Record) (rest : List Record) (q : Nat)
    (hq : r.fullsAt r.taken = q) :
    ∃ s, d.advance handle.toHandle (3 * q) (.live (.offer x rest)) r =
        ⟨(List.replicate q (d.rejectionNotes (d.seed.size - (rest.length + 1)) x)).flatten,
          .live (.offer x rest), s⟩ ∧ Served r s 0 1 := by
  induction q generalizing r with
  | zero =>
    refine ⟨r, rfl, rfl, ?_, rfl, rfl⟩
    intro p
    split
    · have hp : p = r.taken := by omega
      rw [hp, hq]
    · rfl
  | succ q ih =>
    obtain ⟨s, hs, htaken, hrefusals, hflush, hfulls⟩ := d.advance_rejection r x rest (by omega)
    have hs' : s.fullsAt s.taken = q := by
      rw [hfulls, htaken, if_pos rfl]
      omega
    obtain ⟨u, hu, hserved⟩ := ih s hs'
    refine ⟨u, ?_, ?_, ?_, hserved.refusals.trans hrefusals, hserved.flushFailure.trans hflush⟩
    · have hn : 3 * (q + 1) = 3 + 3 * q := by omega
      rw [hn, advance_trans d _ hs hu, List.replicate_succ, List.flatten_cons]
    · rw [hserved.taken_eq, htaken]
    · intro p
      rw [hserved.fulls, hfulls, htaken]
      split
      · rfl
      · rw [if_neg (by omega)]

theorem advance_turn_taken (x : Record) (rest : List Record)
    (hn : r.refusalAt? r.taken = none) :
    ∃ n s, d.advance handle.toHandle n (.live (.offer x rest)) r =
        ⟨d.turnNotes (d.seed.size - (rest.length + 1)) (r.fullsAt r.taken) x .taken,
          .live (.ofRecords rest), s⟩ ∧ Served r s 1 1 := by
  obtain ⟨s, hs, hserved⟩ := d.advance_rejections r x rest _ rfl
  obtain ⟨htaken, hfulls⟩ := hserved.used_up
  have ho := offer_of_free s d.topic x hfulls (by rw [hserved.refusalAt?, htaken, hn])
  let u := (s.offer d.topic x).2.service d.pacing.poll
  have ha : (handle.toHandle.offer s d.topic x).1 = .taken := by
    simp only [handle, ho]
  have hu : d.advance handle.toHandle 2 (.live (.offer x rest)) s =
      ⟨d.answeredNotes x .taken, .live (.ofRecords rest), u⟩ := d.advance_of_taken rest ha
  have hsu : Served s u 1 1 := by
    simp only [u, ho]
    exact served_of_fulls_eq hfulls rfl rfl rfl rfl
  exact ⟨_, u, advance_trans d _ hs hu, hserved.trans hsu (by omega) (by omega)⟩

theorem advance_turn_refused (x : Record) (rest : List Record) {e : String}
    (he : r.refusalAt? r.taken = some e) :
    ∃ n s, d.advance handle.toHandle n (.live (.offer x rest)) r =
        ⟨d.turnNotes (d.seed.size - (rest.length + 1)) (r.fullsAt r.taken) x (.refused e),
          .done (.error e), s⟩ ∧ Served r s 0 1 := by
  obtain ⟨s, hs, hserved⟩ := d.advance_rejections r x rest _ rfl
  obtain ⟨htaken, hfulls⟩ := hserved.used_up
  have ho := offer_of_refusal s d.topic x hfulls (by rw [hserved.refusalAt?, htaken, he])
  let u := (s.offer d.topic x).2.service d.pacing.poll
  have ha : (handle.toHandle.offer s d.topic x).1 = .refused e := by
    simp only [handle, ho]
  have hu : d.advance handle.toHandle 2 (.live (.offer x rest)) s =
      ⟨d.answeredNotes x (.refused e), .done (.error e), u⟩ := d.advance_of_refused rest ha
  have hsu : Served s u 0 1 := by
    simp only [u, ho]
    exact served_of_fulls_eq hfulls rfl rfl rfl rfl
  exact ⟨_, u, advance_trans d _ hs hu, hserved.trans hsu (by omega) (by omega)⟩

theorem takenNotes_congr {f g : Nat → Nat} {k : Nat} (xs : List Record)
    (h : ∀ i, k ≤ i → f i = g i) :
    d.takenNotes (ε := String) f k xs = d.takenNotes g k xs := by
  induction xs generalizing k with
  | nil => rfl
  | cons x xs ih =>
    have hk := ih (k := k + 1) fun i hi => h i (by omega)
    simp only [takenNotes, List.zipIdx_cons, List.flatMap_cons, h k (Nat.le_refl k)] at hk ⊢
    rw [hk]

/-- `a` is where the delivery began and `k` counts the records it has got rid of since then. -/
theorem advance_taken (a k : Nat) (pre post : List Record) (hk : r.taken = a + k)
    (hsize : d.seed.size = k + (pre ++ post).length)
    (hn : ∀ i, k ≤ i → i < k + pre.length → r.refusalAt? (a + i) = none) :
    ∃ n s, d.advance handle.toHandle n (.live (.ofRecords (pre ++ post))) r =
        ⟨d.takenNotes (fun i => r.fullsAt (a + i)) k pre, .live (.ofRecords post), s⟩ ∧
      Served r s pre.length pre.length := by
  induction pre generalizing r k with
  | nil => exact ⟨0, r, rfl, rfl, fun p => (if_neg (by simp)).symm, rfl, rfl⟩
  | cons x pre ih =>
    have hlen : (x :: pre ++ post).length = (pre ++ post).length + 1 := rfl
    have hnone : r.refusalAt? r.taken = none := by
      rw [hk]
      exact hn k (Nat.le_refl k) (by simp)
    obtain ⟨m, s, hs, hserved⟩ := d.advance_turn_taken r x (pre ++ post) hnone
    have hindex : d.seed.size - ((pre ++ post).length + 1) = k := by omega
    rw [hindex, hk] at hs
    have hlater : ∀ i, k + 1 ≤ i → i < k + 1 + pre.length → s.refusalAt? (a + i) = none := by
      intro i hi hlt
      rw [hserved.refusalAt?]
      exact hn i (by omega) (by simp; omega)
    obtain ⟨n, u, hu, hserved'⟩ := ih s (k + 1) (by rw [hserved.taken_eq]; omega) (by omega) hlater
    have hnotes : d.takenNotes (ε := String) (fun i => s.fullsAt (a + i)) (k + 1) pre =
        d.takenNotes (fun i => r.fullsAt (a + i)) (k + 1) pre := by
      apply takenNotes_congr
      intro i hi
      rw [hserved.fulls, if_neg (by omega)]
    rw [hnotes] at hu
    refine ⟨m + n, u, advance_trans d _ hs hu, ?_⟩
    have ht := hserved.trans hserved' (by omega) (by omega)
    rw [Nat.add_comm 1] at ht
    exact ht

def flushNotes (failure : Option String) : List (Note String) :=
  match failure with
  | some e => [.call (.flush (some e))]
  | none => [.call (.flush none), .event (.delivered d.topic d.seed.size)]

theorem advance_flush :
    d.advance handle.toHandle 1 (.live .flush) r =
      ⟨d.flushNotes r.flushFailure, .done (r.flushFailure.elim (.ok d.seed.size) .error),
        r.flush.2⟩ := by
  rw [advance_one]
  cases hf : r.flushFailure <;> simp [step, handle, Recorder.flush, hf, flushNotes]

theorem advance_of_no_refusal (hn : r.firstRefusal? d.seed.size = none) :
    ∃ n s, d.advance handle.toHandle n (.live d.first) r =
        ⟨d.takenNotes r.fullsAhead 0 d.seed.records ++
            d.flushNotes r.flushFailure,
          .done (r.flushFailure.elim (.ok d.seed.size) .error), s⟩ ∧
      Served r s d.seed.size d.seed.size := by
  have hfree : ∀ i, 0 ≤ i → i < 0 + d.seed.records.length → r.refusalAt? (r.taken + i) = none := by
    intro i _ hi
    rw [Nat.zero_add, d.seed.length_records] at hi
    have h := List.find?_eq_none.mp hn i (List.mem_range.mpr hi)
    simpa using h
  obtain ⟨n, s, hs, hserved⟩ := d.advance_taken r r.taken 0 d.seed.records [] rfl
    (by simp [d.seed.length_records]) hfree
  rw [List.append_nil] at hs
  have hf := d.advance_flush s
  rw [hserved.flushFailure] at hf
  rw [d.seed.length_records] at hserved
  refine ⟨_, s.flush.2, advance_trans d _ hs hf, ?_⟩
  exact ⟨hserved.taken_eq, hserved.fulls, hserved.refusals, hserved.flushFailure⟩

theorem advance_of_refusal {j : Nat} (hj : r.firstRefusal? d.seed.size = some j) :
    ∃ x e, d.seed.record? j = some x ∧ r.refusalAt? (r.taken + j) = some e ∧
      ∃ n s, d.advance handle.toHandle n (.live d.first) r =
          ⟨d.takenNotes r.fullsAhead 0 (d.seed.records.take j) ++
              d.turnNotes j (r.fullsAhead j) x (.refused e),
            .done (.error e), s⟩ ∧
        Served r s j (j + 1) := by
  obtain ⟨hsome, hlt, hfirst⟩ := List.find?_range_eq_some.mp hj
  obtain ⟨e, he⟩ := Option.isSome_iff_exists.mp hsome
  rw [List.mem_range, ← d.seed.length_records] at hlt
  have hfree : ∀ i, 0 ≤ i → i < 0 + (d.seed.records.take j).length →
      r.refusalAt? (r.taken + i) = none := by
    intro i _ hi
    rw [List.length_take] at hi
    have h := hfirst i (by omega)
    simpa using h
  obtain ⟨m, s, hs, hserved⟩ := d.advance_taken r r.taken 0 (d.seed.records.take j)
    (d.seed.records.drop j) rfl (by simp [d.seed.length_records]) hfree
  have hlen : (d.seed.records.take j).length = j := by
    rw [List.length_take]
    omega
  rw [hlen] at hserved
  rw [List.take_append_drop, List.drop_eq_getElem_cons hlt] at hs
  have he' : s.refusalAt? s.taken = some e := by
    rw [hserved.refusalAt?, hserved.taken_eq, he]
  obtain ⟨n, u, hu, hserved'⟩ := d.advance_turn_refused s d.seed.records[j]
    (d.seed.records.drop (j + 1)) he'
  have hindex : d.seed.size - ((d.seed.records.drop (j + 1)).length + 1) = j := by
    rw [List.length_drop, d.seed.length_records] at *
    omega
  have hfulls : s.fullsAt s.taken = r.fullsAhead j := by
    unfold fullsAhead
    rw [hserved.fulls, hserved.taken_eq, if_neg (by omega)]
  rw [hindex, hfulls] at hu
  refine ⟨d.seed.records[j], e, ?_, he, m + n, u, advance_trans d _ hs hu, ?_⟩
  · rw [← d.seed.getElem?_records, List.getElem?_eq_getElem hlt]
  · exact hserved.trans hserved' (Nat.le_refl j) (Nat.le_add_right j 1)

theorem calls_step (p : Phase String) :
    (d.step handle.toHandle r p).state.calls =
      r.calls ++ (d.step handle.toHandle r p).notes.filterMap Note.call? := by
  cases p with
  | offer x rest =>
    have hc : ∀ a, (r.afterAnswer a).calls = r.calls := by
      intro a
      cases a <;> rfl
    simp [step, handle, Recorder.offer, Recorder.record, hc, Note.call?]
  | flush => cases hf : r.flushFailure <;>
      simp [step, handle, Recorder.flush, Recorder.record, hf, Note.call?]
  | _ => rfl

theorem calls_advance (n : Nat) (stage : Stage String) :
    (d.advance handle.toHandle n stage r).state.calls =
      r.calls ++ (d.advance handle.toHandle n stage r).notes.filterMap Note.call? := by
  induction n generalizing stage r with
  | zero => simp [advance]
  | succ n ih =>
    cases stage with
    | done res => simp [advance]
    | live p =>
      rw [advance_succ]
      simp only [Progress.after, ih, d.calls_step r p, List.filterMap_append, List.append_assoc]

theorem run_of_no_refusal (hn : r.firstRefusal? d.seed.size = none) :
    (∃ n notes, d.advance handle.toHandle n (.live d.first) r =
      ⟨notes, .done (d.run handle r).result, (d.run handle r).state⟩) ∧
    (d.run handle r).result = r.flushFailure.elim (.ok d.seed.size) .error ∧
    (d.run handle r).state.calls =
      r.calls ++ d.takenTurns r.fullsAhead d.seed.size ++ [.flush r.flushFailure] ∧
    Served r (d.run handle r).state d.seed.size d.seed.size := by
  obtain ⟨n, s, hs, hserved⟩ := d.advance_of_no_refusal r hn
  have hcalls := d.calls_advance r n (.live d.first)
  have hall : d.seed.records = d.seed.records.take d.seed.size := by
    rw [← d.seed.length_records, List.take_length]
  have hflush : (d.flushNotes r.flushFailure).filterMap Note.call? = [.flush r.flushFailure] := by
    cases r.flushFailure <;> rfl
  rw [hs, List.filterMap_append, hflush, hall, calls_takenNotes, ← List.append_assoc] at hcalls
  rw [run_of_advance d handle hs]
  exact ⟨⟨n, _, hs⟩, rfl, hcalls, hserved⟩

theorem run_of_refusal {j : Nat} (hj : r.firstRefusal? d.seed.size = some j) :
    (∃ n notes, d.advance handle.toHandle n (.live d.first) r =
      ⟨notes, .done (d.run handle r).result, (d.run handle r).state⟩) ∧
    ∃ x e, d.seed.record? j = some x ∧ r.refusalAt? (r.taken + j) = some e ∧
      (d.run handle r).result = .error e ∧
      (d.run handle r).state.calls =
        r.calls ++ d.takenTurns r.fullsAhead j ++ d.turn (r.fullsAhead j) x (.refused e) ∧
      Served r (d.run handle r).state j (j + 1) := by
  obtain ⟨x, e, hx, he, n, s, hs, hserved⟩ := d.advance_of_refusal r hj
  have hcalls := d.calls_advance r n (.live d.first)
  rw [hs, List.filterMap_append, calls_takenNotes, calls_turnNotes, ← List.append_assoc] at hcalls
  rw [run_of_advance d handle hs]
  exact ⟨⟨n, _, hs⟩, x, e, hx, he, rfl, hcalls, hserved⟩

/-- A run on a recorder ends. It takes the records before the first refused position in order, each
after the rejections left for it, and flushes only when there is no such position. -/
theorem run_recorder (d : Delivery) (r : Recorder) :
    (∃ n notes, d.advance handle.toHandle n (.live d.first) r =
      ⟨notes, .done (d.run handle r).result, (d.run handle r).state⟩) ∧
    match r.firstRefusal? d.seed.size with
    | none =>
      (d.run handle r).result = r.flushFailure.elim (.ok d.seed.size) .error ∧
      (d.run handle r).state.calls =
        r.calls ++ d.takenTurns r.fullsAhead d.seed.size ++ [.flush r.flushFailure] ∧
      Served r (d.run handle r).state d.seed.size d.seed.size
    | some j => ∃ x e, d.seed.record? j = some x ∧ r.refusalAt? (r.taken + j) = some e ∧
      (d.run handle r).result = .error e ∧
      (d.run handle r).state.calls =
        r.calls ++ d.takenTurns r.fullsAhead j ++ d.turn (r.fullsAhead j) x (.refused e) ∧
      Served r (d.run handle r).state j (j + 1) := by
  cases hj : r.firstRefusal? d.seed.size with
  | none => exact d.run_of_no_refusal r hj
  | some j => exact d.run_of_refusal r hj

end Delivery

end TestCluster
