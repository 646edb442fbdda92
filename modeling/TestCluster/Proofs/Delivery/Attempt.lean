import TestCluster.Proofs.Delivery.Orderly
import TestCluster.Proofs.Delivery.Recorded

namespace TestCluster.Delivery

variable {σ ε : Type}

def Call.isOffer : Call ε → Bool
  | .offer .. => true
  | _ => false

def Call.isRejected : Call ε → Bool
  | .offer _ _ .queueFull => true
  | _ => false

/-- Calls with the number of records that are taken before each, `k` of them before the first. -/
def numbered (k : Nat) : List (Call ε) → List (Nat × Call ε)
  | [] => []
  | c :: cs => (k, c) :: numbered (k + c.takenRecord?.toList.length) cs

/-- How often the record after `i` others meets a full queue. -/
def rejectionsOf (i k : Nat) (cs : List (Call ε)) : Nat :=
  (numbered k cs).countP fun (j, c) => j = i && c.isRejected

theorem takenRecords_append (cs later : List (Call ε)) :
    takenRecords (cs ++ later) = takenRecords cs ++ takenRecords later :=
  List.filterMap_append

theorem numbered_append (k : Nat) (cs later : List (Call ε)) :
    numbered k (cs ++ later) = numbered k cs ++ numbered (k + (takenRecords cs).length) later := by
  induction cs generalizing k with
  | nil => rfl
  | cons c cs ih =>
    have hk : k + c.takenRecord?.toList.length + (takenRecords cs).length =
        k + (takenRecords (c :: cs)).length := by
      rw [takenRecords_cons, List.length_append]
      omega
    rw [List.cons_append, numbered, numbered, ih, hk, List.cons_append]

theorem length_numbered (k : Nat) (cs : List (Call ε)) : (numbered k cs).length = cs.length := by
  induction cs generalizing k with
  | nil => rfl
  | cons c cs ih => simp [numbered, ih]

theorem mem_of_mem_numbered {i k : Nat} {c : Call ε} {cs : List (Call ε)}
    (h : (i, c) ∈ numbered k cs) : c ∈ cs := by
  induction cs generalizing k with
  | nil => cases h
  | cons c' cs ih =>
    obtain heq | hmem := List.mem_cons.mp h
    · cases heq
      exact List.mem_cons_self
    · exact List.mem_cons_of_mem _ (ih hmem)

theorem le_of_mem_numbered {i k : Nat} {c : Call ε} {cs : List (Call ε)}
    (h : (i, c) ∈ numbered k cs) : k ≤ i ∧ i ≤ k + (takenRecords cs).length := by
  induction cs generalizing k with
  | nil => cases h
  | cons c' cs ih =>
    rw [takenRecords_cons, List.length_append]
    obtain heq | hmem := List.mem_cons.mp h
    · cases heq
      omega
    · have := ih hmem
      omega

theorem rejectionsOf_append (i k : Nat) (cs later : List (Call ε)) :
    rejectionsOf i k (cs ++ later) =
      rejectionsOf i k cs + rejectionsOf i (k + (takenRecords cs).length) later := by
  unfold rejectionsOf
  rw [numbered_append, List.countP_append]

variable (d : Delivery)

theorem takenRecords_rejections (n : Nat) (x : Record) :
    takenRecords (List.replicate n (d.rejection x : List (Call ε))).flatten = [] := by
  induction n with
  | zero => rfl
  | succ n ih =>
    rw [List.replicate_succ, List.flatten_cons, takenRecords_append, ih]
    rfl

theorem offers_rejections (n : Nat) (x : Record) :
    (List.replicate n (d.rejection x : List (Call ε))).flatten.countP Call.isOffer = n := by
  induction n with
  | zero => rfl
  | succ n ih =>
    have hone : (d.rejection x : List (Call ε)).countP Call.isOffer = 1 := rfl
    rw [List.replicate_succ, List.flatten_cons, List.countP_append, ih, hone, Nat.add_comm]

variable (h : Handle σ ε)

def callsFrom (p : Phase ε) (s : σ) (m : Nat) : List (Call ε) :=
  callsOf (d.advance h m (.live p) s).notes

theorem callsFrom_add {m : Nat} {p q : Phase ε} {s t : σ} {notes : List (Note ε)}
    (hm : d.advance h m (.live p) s = ⟨notes, .live q, t⟩) (n : Nat) :
    d.callsFrom h p s (m + n) = callsOf notes ++ d.callsFrom h q t n := by
  unfold callsFrom
  rw [advance_add, hm]
  exact List.filterMap_append

theorem callsFrom_prefix (p : Phase ε) (s : σ) {m n : Nat} (hmn : m ≤ n) :
    d.callsFrom h p s m <+: d.callsFrom h p s n := by
  obtain ⟨k, rfl⟩ := Nat.exists_eq_add_of_le hmn
  unfold callsFrom
  rw [advance_add]
  exact ⟨_, List.filterMap_append.symm⟩

theorem callsFrom_of_done {p : Phase ε} {s : σ} {m n : Nat} (hmn : m ≤ n) {r : Except ε Nat}
    (hm : (d.advance h m (.live p) s).stage = .done r) :
    d.callsFrom h p s n = d.callsFrom h p s m := by
  obtain ⟨k, rfl⟩ := Nat.exists_eq_add_of_le hmn
  unfold callsFrom
  rw [advance_add, hm, advance_done]
  simp [Progress.after]

end TestCluster.Delivery
