import TestCluster.Delivery

namespace TestCluster.Delivery

variable {σ ε : Type} (d : Delivery)

def Progress.after (notes : List (Note ε)) (p : Progress σ ε) : Progress σ ε :=
  { p with notes := notes ++ p.notes }

theorem advance_done (h : Handle σ ε) (n : Nat) (r : Except ε Nat) (s : σ) :
    d.advance h n (.done r) s = ⟨[], .done r, s⟩ := by
  cases n <;> rfl

theorem advance_succ (h : Handle σ ε) (n : Nat) (p : Phase ε) (s : σ) :
    d.advance h (n + 1) (.live p) s =
      (d.advance h n (d.step h s p).stage (d.step h s p).state).after (d.step h s p).notes := rfl

theorem advance_one (h : Handle σ ε) (p : Phase ε) (s : σ) :
    d.advance h 1 (.live p) s = d.step h s p := by
  rw [advance_succ]
  simp [advance, Progress.after]

theorem step_flush_stage (h : Handle σ ε) (s : σ) : (d.step h s .flush).stage =
    .done ((h.flush s).1.elim (.ok d.seed.size) .error) := by
  simp only [step]
  split <;> rename_i hf <;> rw [hf] <;> rfl

theorem step_flush_state (h : Handle σ ε) (s : σ) :
    (d.step h s .flush).state = (h.flush s).2 := by
  simp only [step]
  split <;> rename_i hf <;> rw [hf]

theorem advance_invariant (h : Handle σ ε) {P : Stage ε → σ → Prop}
    (hstep : ∀ p s, P (.live p) s → P (d.step h s p).stage (d.step h s p).state) (n : Nat)
    {stage : Stage ε} {s : σ} (hs : P stage s) :
    P (d.advance h n stage s).stage (d.advance h n stage s).state := by
  induction n generalizing stage s with
  | zero => exact hs
  | succ n ih =>
    cases stage with
    | done r => exact hs
    | live p => exact ih (hstep p s hs)

theorem advance_add (h : Handle σ ε) (m n : Nat) (stage : Stage ε) (s : σ) :
    d.advance h (m + n) stage s =
      (d.advance h n (d.advance h m stage s).stage (d.advance h m stage s).state).after
        (d.advance h m stage s).notes := by
  induction m generalizing stage s with
  | zero => simp [advance, Progress.after]
  | succ m ih =>
    cases stage with
    | done r => simp only [advance_done, Progress.after, List.nil_append]
    | live p =>
      have hm : m + 1 + n = m + n + 1 := by omega
      rw [hm, advance_succ, advance_succ, ih]
      simp only [Progress.after, List.append_assoc]

theorem advance_trans (h : Handle σ ε) {m n : Nat} {p q : Phase ε} {stage : Stage ε}
    {s t u : σ} {before later : List (Note ε)}
    (hm : d.advance h m (.live p) s = ⟨before, .live q, t⟩)
    (hn : d.advance h n (.live q) t = ⟨later, stage, u⟩) :
    d.advance h (m + n) (.live p) s = ⟨before ++ later, stage, u⟩ := by
  rw [advance_add, hm, hn]
  rfl

theorem advance_of_done (h : Handle σ ε) {m n : Nat} (hmn : m ≤ n) {p : Phase ε}
    {r : Except ε Nat} {s t : σ} {notes : List (Note ε)}
    (hm : d.advance h m (.live p) s = ⟨notes, .done r, t⟩) :
    d.advance h n (.live p) s = ⟨notes, .done r, t⟩ := by
  obtain ⟨k, rfl⟩ := Nat.exists_eq_add_of_le hmn
  rw [advance_add, hm, advance_done]
  simp [Progress.after]

variable (h : FairHandle σ ε)

theorem conclude_done {p : Phase ε} {s : σ} {r : Except ε Nat}
    (hr : (d.step h.toHandle s p).stage = .done r) :
    d.conclude h p s = ⟨(d.step h.toHandle s p).notes, r, (d.step h.toHandle s p).state⟩ := by
  rw [conclude]
  split
  · rename_i r' hr'
    rw [hr] at hr'
    cases hr'
    rfl
  · rename_i q hq
    rw [hr] at hq
    cases hq

theorem conclude_live {p q : Phase ε} {s : σ} (hq : (d.step h.toHandle s p).stage = .live q) :
    d.conclude h p s =
      { d.conclude h q (d.step h.toHandle s p).state with
        notes := (d.step h.toHandle s p).notes ++
          (d.conclude h q (d.step h.toHandle s p).state).notes } := by
  rw [conclude]
  split
  · rename_i r hr
    rw [hq] at hr
    cases hr
  · rename_i q' hq'
    rw [hq] at hq'
    cases hq'
    rfl

/-- The measure of `step_decreases` makes the run come to its end. -/
theorem exists_advance_conclude (p : Phase ε) (s : σ) :
    ∃ n, d.advance h.toHandle n (.live p) s =
      ⟨(d.conclude h p s).notes, .done (d.conclude h p s).result, (d.conclude h p s).state⟩ := by
  induction p, s using conclude.induct d h with
  | case1 p s r hr =>
    refine ⟨1, ?_⟩
    rw [conclude_done d h hr, advance_one, ← hr]
  | case2 p s q hq ih =>
    obtain ⟨n, hn⟩ := ih
    refine ⟨n + 1, ?_⟩
    rw [conclude_live d h hq, advance_succ, hq, hn]
    rfl

theorem conclude_of_advance {n : Nat} {p : Phase ε} {s t : σ} {notes : List (Note ε)}
    {r : Except ε Nat} (hn : d.advance h.toHandle n (.live p) s = ⟨notes, .done r, t⟩) :
    d.conclude h p s = ⟨notes, r, t⟩ := by
  obtain ⟨m, hm⟩ := exists_advance_conclude d h p s
  have hn' := advance_of_done d h.toHandle (Nat.le_max_left n m) hn
  have hm' := advance_of_done d h.toHandle (Nat.le_max_right n m) hm
  rw [hn'] at hm'
  obtain ⟨rfl, hr, rfl⟩ := Progress.mk.inj hm'
  cases hr
  rfl

theorem run_of_advance {n : Nat} {s t : σ} {notes : List (Note ε)} {r : Except ε Nat}
    (hn : d.advance h.toHandle n (.live d.first) s = ⟨notes, .done r, t⟩) :
    d.run h s = ⟨d.announcement :: notes, r, t⟩ := by
  unfold run
  rw [conclude_of_advance d h hn]

end TestCluster.Delivery
