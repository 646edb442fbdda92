import TestCluster.Proofs.Delivery.Orderly
import TestCluster.Proofs.Delivery.Recorded
import TestCluster.Proofs.Seed.Share

namespace TestCluster

namespace Delivery

open Recorder

def Call.takenMessage? {ε : Type} : Call ε → Option Message
  | .offer topic x .taken => some ⟨topic, x⟩
  | _ => none

theorem takenMessages_eq {ε : Type} {topic : String} {cs : List (Call ε)}
    (h : ∀ t x a, Call.offer t x a ∈ cs → t = topic) :
    cs.filterMap Call.takenMessage? = (takenRecords cs).map (⟨topic, ·⟩) := by
  rw [takenRecords, List.map_filterMap]
  apply List.filterMap_congr
  intro c hc
  cases c with
  | offer t x a =>
    rw [h t x a hc]
    cases a <;> rfl
  | _ => rfl

variable (d : Delivery) (r : Recorder)

theorem accepted_eq_filterMap : r.accepted = r.calls.filterMap Call.takenMessage? := by
  unfold accepted attempts
  rw [List.filterMap_filterMap]
  congr 1
  funext c
  cases c with
  | offer topic x a => cases a <;> rfl
  | _ => rfl

theorem exists_advance_run : ∃ n,
    callsOf (d.run handle r).notes =
        callsOf (d.advance handle.toHandle n (.live d.first) r).notes ∧
      (d.run handle r).state = (d.advance handle.toHandle n (.live d.first) r).state := by
  obtain ⟨n, hn⟩ := d.exists_advance_conclude handle d.first r
  refine ⟨n, ?_, ?_⟩
  · rw [hn]
    rfl
  · rw [hn]
    rfl

theorem calls_run :
    (d.run handle r).state.calls = r.calls ++ callsOf (d.run handle r).notes := by
  obtain ⟨n, hcalls, hstate⟩ := d.exists_advance_run r
  rw [hcalls, hstate]
  exact d.calls_advance r n _

theorem topic_of_mem_run {topic : String} {x : Record} {a : Answer String}
    (h : .offer topic x a ∈ callsOf (d.run handle r).notes) : topic = d.topic := by
  obtain ⟨n, hcalls, -⟩ := d.exists_advance_run r
  rw [hcalls] at h
  obtain ⟨i, hi⟩ := List.mem_iff_getElem?.mp h
  exact ((d.orderly_advance handle.toHandle n r d.first (ofRecords_ne _)).offered i _ _ _ hi).1

def messages : List Message :=
  d.seed.records.map (⟨d.topic, ·⟩)

theorem accepted_run {n : Nat} (h : (d.run handle r).result = .ok n) :
    n = d.seed.size ∧ (d.run handle r).state.accepted = r.accepted ++ d.messages := by
  obtain ⟨hn, htaken⟩ := d.run_taken handle r h
  refine ⟨hn, ?_⟩
  rw [accepted_eq_filterMap, accepted_eq_filterMap, calls_run, List.filterMap_append,
    takenMessages_eq fun _ _ _ hc => d.topic_of_mem_run r hc, htaken, messages]

/-- Whatever a recorder rejects, a delivery that succeeds adds the same messages to what the
recorder has accepted. They carry the values of the seed and share its keys and header sets
evenly. -/
theorem run_shares (d : Delivery) :
    ∃ brought : List Message,
      (∀ r n, (d.run handle r).result = .ok n →
        n = d.seed.size ∧ (d.run handle r).state.accepted = r.accepted ++ brought) ∧
      (∀ r, (∀ i < d.seed.size, r.refusalAt? (r.taken + i) = none) → r.flushFailure = none →
        (d.run handle r).result = .ok d.seed.size) ∧
      brought.length = d.seed.size ∧
      (∀ m ∈ brought, m.topic = d.topic) ∧
      d.seed.Shares (brought.map (·.record)) := by
  have hrecords : d.messages.map (·.record) = d.seed.records := by
    simp [messages, Function.comp_def]
  refine ⟨d.messages, fun r n h => d.accepted_run r h, ?_, ?_, ?_, ?_⟩
  · intro r hfree hflush
    have hresult := (d.run_of_no_refusal r (Recorder.firstRefusal?_eq_none_iff.mpr hfree)).2.1
    rwa [hflush] at hresult
  · rw [← d.seed.length_records, messages, List.length_map]
  · intro m hm
    obtain ⟨x, -, rfl⟩ := List.mem_map.mp hm
    rfl
  · rw [hrecords]
    exact d.seed.shares_records

end Delivery

end TestCluster
