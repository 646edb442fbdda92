import Mathlib.Algebra.BigOperators.Intervals
import TestCluster.Proofs.Delivery.Attempt

namespace TestCluster.Delivery

variable {σ ε : Type} (d : Delivery) (h : Handle σ ε)

theorem rejectionsOf_rejection (k : Nat) (x : Record) (cs : List (Call ε)) :
    rejectionsOf k k (d.rejection x ++ cs) = rejectionsOf k k cs + 1 := by
  have hone : rejectionsOf k k (d.rejection x : List (Call ε)) = 1 := by
    simp [rejectionsOf, rejection, numbered, Call.isRejected, Call.takenRecord?]
  have hnone : takenRecords (d.rejection x : List (Call ε)) = [] := rfl
  rw [rejectionsOf_append, hone, hnone, Nat.add_comm]
  rfl

theorem advance_turn (x : Record) (rest : List Record) (k b : Nat) (s : σ)
    (hb : ∀ m, rejectionsOf k k (d.callsFrom h (.offer x rest) s m) ≤ b) :
    ∃ m notes stage t, d.advance h m (.live (.offer x rest)) s = ⟨notes, stage, t⟩ ∧
      (callsOf notes).countP Call.isOffer ≤ b + 1 ∧
      ((∃ r, stage = .done r) ∨
        stage = .live (.ofRecords rest) ∧ (takenRecords (callsOf notes)).length = 1) := by
  induction b using Nat.strong_induction_on generalizing s with
  | h b ih =>
    cases ha : (h.offer s d.topic x).1 with
    | taken =>
      exact ⟨2, _, _, _, d.advance_of_taken rest ha, Nat.le_add_left 1 b, .inr ⟨rfl, rfl⟩⟩
    | refused e =>
      exact ⟨2, _, _, _, d.advance_of_refused rest ha, Nat.le_add_left 1 b, .inl ⟨_, rfl⟩⟩
    | queueFull =>
      obtain ⟨t, ht⟩ : ∃ t, d.advance h 3 (.live (.offer x rest)) s =
          ⟨d.rejectionNotes (d.seed.size - (rest.length + 1)) x, .live (.offer x rest), t⟩ :=
        ⟨_, d.advance_of_queueFull rest ha⟩
      have hleft : ∀ m, rejectionsOf k k (d.callsFrom h (.offer x rest) t m) + 1 ≤ b := by
        intro m
        have hm := hb (3 + m)
        rw [d.callsFrom_add h ht] at hm
        exact (d.rejectionsOf_rejection k x _).ge.trans hm
      have hpos := hleft 0
      obtain ⟨m, notes, stage, u, hm, hoffers, hstage⟩ :=
        ih (b - 1) (by omega) t fun m => Nat.le_sub_one_of_lt (hleft m)
      have hcalls : callsOf (d.rejectionNotes (d.seed.size - (rest.length + 1)) x ++ notes) =
          d.rejection x ++ callsOf notes := List.filterMap_append
      refine ⟨3 + m, _, stage, u, d.advance_trans h ht hm, ?_, ?_⟩
      · have hone : (d.rejection x : List (Call ε)).countP Call.isOffer = 1 := rfl
        rw [hcalls, List.countP_append, hone]
        omega
      · have hnone : takenRecords (d.rejection x : List (Call ε)) = [] := rfl
        rw [hcalls, takenRecords_append, hnone]
        exact hstage

/-- Induction on the records. What is left of the run after the first one is a run of its own, in
which one record more is taken before. -/
theorem advance_ends (xs : List Record) (k : Nat) (q : Nat → Nat) (s : σ)
    (hq : ∀ m i, i < xs.length →
      rejectionsOf (k + i) k (d.callsFrom h (.ofRecords xs) s m) ≤ q (k + i)) :
    ∃ m r, (d.advance h m (.live (.ofRecords xs)) s).stage = .done r ∧
      (d.callsFrom h (.ofRecords xs) s m).countP Call.isOffer ≤
        ∑ i ∈ Finset.range xs.length, (q (k + i) + 1) := by
  induction xs generalizing k s with
  | nil =>
    have hflush : ∃ r, (d.advance h 1 (.live .flush) s).stage = .done r := by
      rw [advance_one]
      simp only [step]
      split
      · exact ⟨_, rfl⟩
      · exact ⟨_, rfl⟩
    obtain ⟨r, hr⟩ := hflush
    have hcalls : d.callsFrom h .flush s 1 = [d.callOf h s .flush] := by
      unfold callsFrom
      rw [advance_one, callsOf_step]
    refine ⟨1, r, hr, ?_⟩
    change (d.callsFrom h .flush s 1).countP Call.isOffer ≤ _
    rw [hcalls]
    exact Nat.zero_le _
  | cons x rest ih =>
    obtain ⟨m, notes, stage, t, hm, hoffers, hstage⟩ :=
      d.advance_turn h x rest k (q k) s fun m => hq m 0 (Nat.succ_pos _)
    rw [List.length_cons, Finset.sum_range_succ']
    change ∃ m r, (d.advance h m (.live (.offer x rest)) s).stage = .done r ∧
      (d.callsFrom h (.offer x rest) s m).countP Call.isOffer ≤ _ + (q k + 1)
    obtain ⟨r, rfl⟩ | ⟨rfl, htaken⟩ := hstage
    · refine ⟨m, r, by rw [hm], ?_⟩
      simp only [callsFrom, hm]
      omega
    · have hcalls := d.callsFrom_add h hm
      have hlater : ∀ m i, i < rest.length →
          rejectionsOf (k + 1 + i) (k + 1) (d.callsFrom h (.ofRecords rest) t m) ≤
            q (k + 1 + i) := by
        intro n i hi
        have hn := hq (m + n) (i + 1) (by simpa using hi)
        have hindex : k + (i + 1) = k + 1 + i := by omega
        change rejectionsOf _ _ (d.callsFrom h (.offer x rest) s (m + n)) ≤ _ at hn
        rw [hcalls, rejectionsOf_append, htaken, hindex] at hn
        omega
      obtain ⟨n, r, hr, hsum⟩ := ih (k + 1) t hlater
      have hsums : ∑ i ∈ Finset.range rest.length, (q (k + (i + 1)) + 1) =
          ∑ i ∈ Finset.range rest.length, (q (k + 1 + i) + 1) := by
        apply Finset.sum_congr rfl
        intro i _
        rw [Nat.add_right_comm, Nat.add_assoc]
      refine ⟨m + n, r, ?_, ?_⟩
      · rw [advance_add, hm]
        exact hr
      · rw [hcalls, List.countP_append, hsums]
        omega

theorem exists_first_offer {i k m : Nat} {c : Call ε} (p : Phase ε) (s : σ)
    (hmem : (i, c) ∈ numbered k (d.callsFrom h p s m)) (hc : c.isOffer = true) :
    ∃ n x rest t notes, d.advance h n (.live p) s = ⟨notes, .live (.offer x rest), t⟩ ∧
      k + (takenRecords (callsOf notes)).length = i ∧
      ∀ c, (i, c) ∈ numbered k (callsOf notes) → c.isOffer = false := by
  induction m generalizing p s k with
  | zero => cases hmem
  | succ m ih =>
    unfold callsFrom at hmem
    rw [callsOf_advance_succ] at hmem
    by_cases hfirst : k = i ∧ (d.callOf h s p).isOffer = true
    · obtain ⟨rfl, hoffer⟩ := hfirst
      cases p with
      | offer x rest => exact ⟨0, x, rest, s, [], rfl, rfl, fun c hc => by cases hc⟩
      | _ => cases hoffer
    · have hlater : (i, c) ∈ numbered (k + (d.callOf h s p).takenRecord?.toList.length)
          (callsOf (d.advance h m (d.step h s p).stage (d.step h s p).state).notes) := by
        obtain heq | hmem := List.mem_cons.mp hmem
        · cases heq
          exact absurd ⟨rfl, hc⟩ hfirst
        · exact hmem
      cases hs : (d.step h s p).stage with
      | done r =>
        rw [hs, advance_done] at hlater
        cases hlater
      | live q =>
        rw [hs] at hlater
        obtain ⟨n, x, rest, t, notes, hn, htaken, hno⟩ := ih q _ hlater
        have hcalls : callsOf ((d.step h s p).notes ++ notes) =
            d.callOf h s p :: callsOf notes := by
          unfold callsOf
          rw [List.filterMap_append]
          exact congrArg (· ++ _) (d.callsOf_step h s p)
        refine ⟨n + 1, x, rest, t, (d.step h s p).notes ++ notes, ?_, ?_, ?_⟩
        · rw [advance_succ, hs, hn]
          rfl
        · rw [hcalls, takenRecords_cons, List.length_append]
          omega
        · intro c' hc'
          rw [hcalls] at hc'
          obtain heq | hmem := List.mem_cons.mp hc'
          · cases heq
            exact Bool.eq_false_iff.mpr fun hoffer => hfirst ⟨rfl, hoffer⟩
          · exact hno c' hmem

theorem advance_rejected (k : Nat) (x : Record) (rest : List Record) (s : σ)
    (hfull : ∀ m c, (k, c) ∈ numbered k (d.callsFrom h (.offer x rest) s m) →
      c.isOffer = true → c.isRejected = true) (n : Nat) :
    ∃ t, d.advance h (3 * n) (.live (.offer x rest)) s =
      ⟨(List.replicate n (d.rejectionNotes (d.seed.size - (rest.length + 1)) x)).flatten,
        .live (.offer x rest), t⟩ := by
  induction n generalizing s with
  | zero => exact ⟨s, rfl⟩
  | succ n ih =>
    have ha : (h.offer s d.topic x).1 = .queueFull := by
      have hone := hfull 1 (d.callOf h s (.offer x rest)) (by
        unfold callsFrom
        rw [advance_one, callsOf_step]
        exact List.mem_cons_self) rfl
      cases ha : (h.offer s d.topic x).1 with
      | queueFull => rfl
      | _ => simp [callOf, ha, Call.isRejected] at hone
    obtain ⟨t, ht⟩ : ∃ t, d.advance h 3 (.live (.offer x rest)) s =
        ⟨d.rejectionNotes (d.seed.size - (rest.length + 1)) x, .live (.offer x rest), t⟩ :=
      ⟨_, d.advance_of_queueFull rest ha⟩
    obtain ⟨u, hu⟩ := ih t fun m c hc => by
      apply hfull (3 + m) c
      rw [d.callsFrom_add h ht, numbered_append]
      exact List.mem_append_right _ hc
    have hn : 3 * (n + 1) = 3 + 3 * n := by omega
    exact ⟨u, by rw [hn, d.advance_trans h ht hu, List.replicate_succ, List.flatten_cons]⟩

section

variable {d h} {k n : Nat} {x : Record} {rest : List Record} {s t : σ} {notes : List (Note ε)}
  (hn : d.advance h n (.live d.first) s = ⟨notes, .live (.offer x rest), t⟩)

include hn

theorem record?_of_due : d.seed.record? (takenRecords (callsOf notes)).length = some x := by
  obtain ⟨horderly, -, -⟩ := d.advance_orderly h (n + 1) s
  obtain ⟨-, -, hlength⟩ := d.advance_orderly h n s
  have hlen : (callsOf notes).length = n := by
    rw [hn] at hlength
    exact hlength _ rfl
  have hcalls : d.callsFrom h d.first s (n + 1) =
      callsOf notes ++ [d.callOf h t (.offer x rest)] := by
    rw [d.callsFrom_add h hn]
    unfold callsFrom
    rw [advance_one, callsOf_step]
  have hlast := horderly.offered n d.topic x (h.offer t d.topic x).1 (by
    change (d.callsFrom h d.first s (n + 1))[n]? = _
    rw [hcalls, List.getElem?_append_right (by omega), hlen, Nat.sub_self]
    rfl)
  have htake : (callsOf (d.advance h (n + 1) (.live d.first) s).notes).take n = callsOf notes := by
    change (d.callsFrom h d.first s (n + 1)).take n = _
    rw [hcalls, List.take_append_of_le_length (by omega), ← hlen, List.take_length]
  rw [htake, d.seed.getElem?_records] at hlast
  exact hlast.2

variable (hfull : ∀ m c, (k, c) ∈ numbered k (d.callsFrom h (.offer x rest) t m) →
    c.isOffer = true → c.isRejected = true)

include hfull

theorem callsFrom_rejected (times : Nat) :
    d.callsFrom h d.first s (n + 3 * times) =
      callsOf notes ++ (List.replicate times (d.rejection x)).flatten := by
  obtain ⟨u, hu⟩ := d.advance_rejected h k x rest t hfull times
  rw [d.callsFrom_add h hn]
  unfold callsFrom
  rw [hu]
  simp only [callsOf, List.filterMap_flatten, List.map_replicate, calls_rejectionNotes]

theorem taken_rejected (m : Nat) :
    (takenRecords (d.callsFrom h d.first s m)).length ≤ (takenRecords (callsOf notes)).length := by
  have hprefix := (d.callsFrom_prefix h d.first s (show m ≤ n + 3 * m by omega)).filterMap
    Call.takenRecord?
  rw [callsFrom_rejected hn hfull] at hprefix
  change takenRecords _ <+: takenRecords _ at hprefix
  rw [takenRecords_append, takenRecords_rejections, List.append_nil] at hprefix
  exact hprefix.length_le

theorem not_done_rejected (m : Nat) (r : Except ε Nat) :
    (d.advance h m (.live d.first) s).stage ≠ .done r := by
  intro hdone
  obtain ⟨u, hu⟩ := d.advance_rejected h k x rest t hfull m
  have hlater : (d.advance h (m + (n + 2 * m)) (.live d.first) s).stage = .done r := by
    rw [advance_add, hdone, advance_done]
    rfl
  have hsum : m + (n + 2 * m) = n + 3 * m := by omega
  rw [hsum, d.advance_trans h hn hu] at hlater
  cases hlater

theorem not_flush_rejected (m : Nat) (failure : Option ε) :
    .flush failure ∉ d.callsFrom h d.first s m := by
  intro hmem
  obtain ⟨i, hi⟩ := List.mem_iff_getElem?.mp hmem
  obtain ⟨horderly, -, -⟩ := d.advance_orderly h m s
  have hall : takenRecords (d.callsFrom h d.first s m) = d.seed.records :=
    (horderly.flushed i failure hi).2
  have hle := taken_rejected hn hfull m
  have hrecord := record?_of_due hn
  rw [← d.seed.getElem?_records] at hrecord
  have hlt := (List.getElem?_eq_some_iff.mp hrecord).1
  rw [hall] at hle
  omega

end

/-- Whether a run ends depends on the handle alone. If every record is rejected only so often, the
run ends after that many offers and one more for each. A record that is rejected whenever it is
offered is all that is offered from then on, without end and without a flush. -/
theorem advance_ends_or_repeats (d : Delivery) (h : Handle σ ε) (s : σ) :
    (∀ q : Nat → Nat,
      (∀ m i, i < d.seed.size → rejectionsOf i 0 (d.callsFrom h d.first s m) ≤ q i) →
      ∃ m r, (d.advance h m (.live d.first) s).stage = .done r ∧
        (d.callsFrom h d.first s m).countP Call.isOffer ≤
          ∑ i ∈ Finset.range d.seed.size, (q i + 1)) ∧
    ∀ k,
      (∃ m c, (k, c) ∈ numbered 0 (d.callsFrom h d.first s m) ∧ c.isOffer = true) →
      (∀ m c, (k, c) ∈ numbered 0 (d.callsFrom h d.first s m) →
        c.isOffer = true → c.isRejected = true) →
      (∃ n x, d.seed.record? k = some x ∧
        (∀ c, (k, c) ∈ numbered 0 (d.callsFrom h d.first s n) → c.isOffer = false) ∧
        ∀ times, d.callsFrom h d.first s (n + 3 * times) =
          d.callsFrom h d.first s n ++ (List.replicate times (d.rejection x)).flatten) ∧
      (∀ times, ∃ m, times ≤ (d.callsFrom h d.first s m).countP Call.isOffer) ∧
      ∀ m, (∀ r, (d.advance h m (.live d.first) s).stage ≠ .done r) ∧
        (∀ failure, .flush failure ∉ d.callsFrom h d.first s m) ∧
        ∀ i c, (i, c) ∈ numbered 0 (d.callsFrom h d.first s m) → i ≤ k := by
  refine ⟨?_, ?_⟩
  · intro q hq
    have hends := d.advance_ends h d.seed.records 0 q s
    simp only [Nat.zero_add, d.seed.length_records] at hends
    exact hends hq
  · rintro k ⟨m₀, c₀, hmem, hoffer⟩ hfull
    obtain ⟨n, x, rest, t, notes, hn, htaken, hno⟩ :=
      d.exists_first_offer h d.first s hmem hoffer
    rw [Nat.zero_add] at htaken
    have hnotes : d.callsFrom h d.first s n = callsOf notes := by
      unfold callsFrom
      rw [hn]
    have hlater : ∀ m c, (k, c) ∈ numbered k (d.callsFrom h (.offer x rest) t m) →
        c.isOffer = true → c.isRejected = true := by
      intro m c hc
      apply hfull (n + m) c
      rw [d.callsFrom_add h hn, numbered_append, Nat.zero_add, htaken]
      exact List.mem_append_right _ hc
    have hrepeat := callsFrom_rejected hn hlater
    refine ⟨⟨n, x, ?_, ?_, ?_⟩, ?_, ?_⟩
    · rw [← htaken]
      exact record?_of_due hn
    · rw [hnotes]
      exact hno
    · rw [hnotes]
      exact hrepeat
    · intro times
      refine ⟨n + 3 * times, ?_⟩
      rw [hrepeat, List.countP_append, offers_rejections]
      exact Nat.le_add_left _ _
    · intro m
      refine ⟨not_done_rejected hn hlater m, not_flush_rejected hn hlater m, ?_⟩
      intro i c hc
      have hi := (le_of_mem_numbered hc).2
      have hle := taken_rejected hn hlater m
      omega

/-- A handle that rejects as many more offers as its state says, or all of them. -/
def busy : Handle (Option Nat) Unit where
  offer s _ _ :=
    match s with
    | none => (.queueFull, none)
    | some 0 => (.taken, some 0)
    | some (n + 1) => (.queueFull, some n)
  service s _ := s
  flush s := (none, s)

def twoValues : Delivery :=
  ⟨"t", .unkeyed [[1], [2]], ⟨0, 100⟩⟩

theorem rejected_of_busy {cs : List (Call Unit)} {t : Option Nat} (h : busy.Answers none cs t) :
    ∀ c ∈ cs, c.isOffer = true → c.isRejected = true := by
  generalize hs : (none : Option Nat) = s at h
  induction h with
  | nil => simp
  | offer topic x later ih =>
    subst hs
    exact List.forall_mem_cons.mpr ⟨fun _ => rfl, ih rfl⟩
  | service ms later ih =>
    subst hs
    exact List.forall_mem_cons.mpr ⟨nofun, ih rfl⟩
  | flush later ih =>
    subst hs
    exact List.forall_mem_cons.mpr ⟨nofun, ih rfl⟩

theorem rejectionsOf_busy (m i : Nat) (hi : i < 2) :
    rejectionsOf i 0 (twoValues.callsFrom busy twoValues.first (some 2) m) ≤
      if i = 0 then 2 else 0 := by
  have hsmall : ∀ m < 12, ∀ i < 2,
      rejectionsOf i 0 (twoValues.callsFrom busy twoValues.first (some 2) m) ≤
        if i = 0 then 2 else 0 := by decide
  by_cases hm : m < 12
  · exact hsmall m hm i hi
  · have hdone : (twoValues.advance busy 11 (.live twoValues.first) (some 2)).stage =
        .done (.ok 2) := rfl
    rw [twoValues.callsFrom_of_done busy (show 11 ≤ m by omega) hdone]
    exact hsmall 11 (by decide) i hi

theorem ends_or_repeats_of_busy :
    (∃ m r, (twoValues.advance busy m (.live twoValues.first) (some 2)).stage = .done r ∧
      (twoValues.callsFrom busy twoValues.first (some 2) m).countP Call.isOffer ≤ 4) ∧
    ∀ m r, (twoValues.advance busy m (.live twoValues.first) none).stage ≠ .done r := by
  obtain ⟨hends, -⟩ := advance_ends_or_repeats twoValues busy (some 2)
  obtain ⟨-, hrepeats⟩ := advance_ends_or_repeats twoValues busy none
  refine ⟨hends (fun i => if i = 0 then 2 else 0) rejectionsOf_busy, ?_⟩
  have hreached : ∃ m c, (0, c) ∈ numbered 0 (twoValues.callsFrom busy twoValues.first none m) ∧
      c.isOffer = true :=
    ⟨1, .offer "t" ⟨[1], none, none⟩ .queueFull, List.mem_cons_self, rfl⟩
  have hfull : ∀ m c, (0, c) ∈ numbered 0 (twoValues.callsFrom busy twoValues.first none m) →
      c.isOffer = true → c.isRejected = true := by
    intro m c hc
    exact rejected_of_busy (twoValues.answers_advance busy m _ none) c (mem_of_mem_numbered hc)
  exact fun m => ((hrepeats 0 hreached hfull).2.2 m).1

end TestCluster.Delivery
