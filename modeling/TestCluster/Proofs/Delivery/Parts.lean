import TestCluster.Proofs.Delivery.Recorded

namespace TestCluster

namespace Seed

variable (s : Seed)

def withValues (values : List Bytes) : Seed :=
  { s with values := values }

/-- Keys and headers both start anew after `n` records. -/
structure Aligned (n : Nat) : Prop where
  keys : s.keys.length ∣ n
  headers : ∀ sets, s.headers = some sets → sets.length + 1 ∣ n

variable {s} {n : Nat}

theorem Aligned.keyAt_add (h : s.Aligned n) (i : Nat) : s.keyAt (n + i) = s.keyAt i := by
  obtain ⟨c, rfl⟩ := h.keys
  simp [keyAt, keySlot]

theorem Aligned.headersAt_add (h : s.Aligned n) (i : Nat) :
    s.headersAt (n + i) = s.headersAt i := by
  cases hs : s.headers with
  | none => simp [headersAt, hs]
  | some sets =>
    obtain ⟨c, rfl⟩ := h.headers sets hs
    simp [headersAt, hs]

theorem size_withValues (values : List Bytes) : (s.withValues values).size = values.length := rfl

theorem Aligned.records_append {first : List Bytes} (h : s.Aligned first.length)
    (later : List Bytes) :
    (s.withValues (first ++ later)).records =
      (s.withValues first).records ++ (s.withValues later).records := by
  have hkeys (values : List Bytes) (i : Nat) : (s.withValues values).keyAt i = s.keyAt i := rfl
  have hheaders (values : List Bytes) (i : Nat) :
      (s.withValues values).headersAt i = s.headersAt i := rfl
  have hvalues (values : List Bytes) : (s.withValues values).values = values := rfl
  simp only [records, hkeys, hheaders, hvalues, List.zipIdx_append, List.map_append]
  congr 1
  rw [List.zipIdx_eq_map_add]
  simp [Function.comp_def, h.keyAt_add, h.headersAt_add]

end Seed

namespace Delivery

open Recorder

variable {ε : Type} (d : Delivery)

def withValues (values : List Bytes) : Delivery :=
  { d with seed := d.seed.withValues values }

theorem takenTurns_withValues (values : List Bytes) (times : Nat → Nat) :
    (d.withValues values).takenTurns (ε := ε) times values.length =
      (d.seed.withValues values).records.zipIdx.flatMap fun p => d.turn (times p.2) p.1 .taken := by
  have hall : (d.withValues values).seed.records.take values.length =
      (d.seed.withValues values).records := by
    rw [← Seed.size_withValues (s := d.seed) values, ← Seed.length_records]
    exact List.take_length
  simp only [takenTurns, hall]
  rfl

theorem takenTurns_append {first : List Bytes} (h : d.seed.Aligned first.length)
    (later : List Bytes) (times : Nat → Nat) :
    (d.withValues (first ++ later)).takenTurns (ε := ε) times (first ++ later).length =
      (d.withValues first).takenTurns times first.length ++
        (d.withValues later).takenTurns (fun i => times (first.length + i)) later.length := by
  have hlen : (d.seed.withValues first).records.length = first.length := Seed.length_records _
  simp only [takenTurns_withValues, h.records_append, List.zipIdx_append, List.flatMap_append,
    hlen]
  congr 1
  rw [List.zipIdx_eq_map_add]
  simp [List.flatMap_map]

theorem Served.fullsAhead_eq {r s : Recorder} {n : Nat} (h : Served r s n n) :
    s.fullsAhead = fun i => r.fullsAhead (n + i) := by
  funext i
  have hpast : ¬(r.taken ≤ r.taken + n + i ∧ r.taken + n + i < r.taken + n) := by omega
  rw [Recorder.fullsAhead, h.taken_eq, h.fulls, if_neg hpast, Nat.add_assoc]
  rfl

/-- Two deliveries in a row do what one delivery of all their values does, but for the flush
between them. -/
theorem run_in_parts (d : Delivery) (first later : List Bytes) (r : Recorder)
    (haligned : d.seed.Aligned first.length)
    (hfree : ∀ i < first.length + later.length, r.refusalAt? (r.taken + i) = none)
    (hflush : r.flushFailure = none) :
    let begun := (d.withValues first).run handle r
    let ended := (d.withValues later).run handle begun.state
    let whole := (d.withValues (first ++ later)).run handle r
    begun.result = .ok first.length ∧ ended.result = .ok later.length ∧
    whole.result = .ok (first.length + later.length) ∧
    ended.state.accepted = whole.state.accepted ∧
    ended.state.attempts = whole.state.attempts ∧
    ∃ before after : List (Call String),
      before = (d.withValues first).takenTurns r.fullsAhead first.length ∧
      after = (d.withValues later).takenTurns (fun i => r.fullsAhead (first.length + i))
        later.length ∧
      ended.state.calls = r.calls ++ before ++ [.flush none] ++ after ++ [.flush none] ∧
      whole.state.calls = r.calls ++ before ++ after ++ [.flush none] ∧
      ended.state.taken = whole.state.taken ∧
      ∀ p, ended.state.fullsAt p = whole.state.fullsAt p := by
  intro begun ended whole
  have hsize (values : List Bytes) : (d.withValues values).seed.size = values.length := rfl
  obtain ⟨-, hbegun, hcalls, hserved⟩ := (d.withValues first).run_of_no_refusal r
    (firstRefusal?_eq_none_iff.mpr fun i hi => hfree i (by rw [hsize] at hi; omega))
  have hfree' : ∀ i < (d.withValues later).seed.size,
      begun.state.refusalAt? (begun.state.taken + i) = none := by
    intro i hi
    rw [hsize] at hi
    rw [hserved.refusalAt?, hserved.taken_eq, Nat.add_assoc]
    exact hfree _ (by rw [hsize]; omega)
  obtain ⟨-, hended, hcalls', hserved'⟩ := (d.withValues later).run_of_no_refusal begun.state
    (firstRefusal?_eq_none_iff.mpr hfree')
  obtain ⟨-, hwhole, hcallsW, hservedW⟩ := (d.withValues (first ++ later)).run_of_no_refusal r
    (firstRefusal?_eq_none_iff.mpr fun i hi =>
      hfree i (by rwa [hsize, List.length_append] at hi))
  rw [hserved.flushFailure, hflush] at hended hcalls'
  rw [hflush] at hbegun hcalls hwhole hcallsW
  rw [hsize] at hbegun hcalls hserved hended hcalls' hserved' hwhole hcallsW hservedW
  rw [hcalls, Served.fullsAhead_eq hserved] at hcalls'
  rw [d.takenTurns_append haligned, ← List.append_assoc] at hcallsW
  rw [List.length_append] at hwhole hservedW
  have hattempts : ended.state.attempts = whole.state.attempts := by
    simp [attempts, ended, whole, hcalls', hcallsW]
  have htrans := hserved.trans hserved' (Nat.le_refl _) (Nat.le_add_right _ _)
  refine ⟨hbegun, hended, hwhole, ?_, hattempts, _, _, rfl, rfl, hcalls', hcallsW, ?_, ?_⟩
  · simp [accepted, hattempts]
  · rw [htrans.taken_eq, hservedW.taken_eq]
  · intro p
    rw [htrans.fulls, hservedW.fulls]

/-- Two keys and two sets of headers, so that all starts anew after six records. -/
def sixAndOne : Delivery :=
  ⟨"t", ⟨[], [none, some [7]], some [[("h", [1])], []], by decide⟩, ⟨0, 100⟩⟩

/-- A recorder that has taken a record, and rejects the second and the seventh after it. -/
def scripted : Recorder :=
  (((Recorder.empty.offer "s" ⟨[0], none, none⟩).2.scriptFulls 2 2).scriptFulls 7 1).scriptRefusal 8
    "late"

theorem run_in_parts_of_sixAndOne :
    sixAndOne.seed.Aligned 6 ∧ (∀ i < 7, scripted.refusalAt? (scripted.taken + i) = none) ∧
    scripted.flushFailure = none ∧
    ((sixAndOne.withValues [[6]]).run handle
        ((sixAndOne.withValues [[0], [1], [2], [3], [4], [5]]).run handle
          scripted).state).state.attempts =
      ((sixAndOne.withValues [[0], [1], [2], [3], [4], [5], [6]]).run handle
        scripted).state.attempts := by
  have haligned : sixAndOne.seed.Aligned 6 := by
    refine ⟨by decide, ?_⟩
    rintro sets hsets
    cases hsets
    decide
  have hfree : ∀ i < 7, scripted.refusalAt? (scripted.taken + i) = none := by decide
  obtain ⟨-, -, -, -, hattempts, -⟩ := sixAndOne.run_in_parts [[0], [1], [2], [3], [4], [5]] [[6]]
    scripted haligned hfree rfl
  exact ⟨haligned, hfree, rfl, hattempts⟩

end Delivery

end TestCluster
