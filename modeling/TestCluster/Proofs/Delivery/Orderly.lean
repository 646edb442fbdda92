import TestCluster.Proofs.Delivery.Advance

namespace TestCluster

/-- From `s` on the handle gives the answers in the calls, and is left in the last state. -/
inductive Handle.Answers {σ ε : Type} (h : Handle σ ε) : σ → List (Delivery.Call ε) → σ → Prop
  | nil (s : σ) : Answers h s [] s
  | offer {s t : σ} {cs : List (Delivery.Call ε)} (topic : String) (x : Record)
      (later : Answers h (h.offer s topic x).2 cs t) :
      Answers h s (.offer topic x (h.offer s topic x).1 :: cs) t
  | service {s t : σ} {cs : List (Delivery.Call ε)} (ms : Nat)
      (later : Answers h (h.service s ms) cs t) : Answers h s (.service ms :: cs) t
  | flush {s t : σ} {cs : List (Delivery.Call ε)} (later : Answers h (h.flush s).2 cs t) :
      Answers h s (.flush (h.flush s).1 :: cs) t

namespace Delivery

variable {σ ε : Type}

def callsOf (notes : List (Note ε)) : List (Call ε) :=
  notes.filterMap Note.call?

def Call.takenRecord? : Call ε → Option Record
  | .offer _ x .taken => some x
  | _ => none

def takenRecords (cs : List (Call ε)) : List Record :=
  cs.filterMap Call.takenRecord?

/-- The order that a delivery keeps while the records `due` are still to be taken. -/
structure Orderly (d : Delivery) (due : List Record) (cs : List (Call ε)) (stage : Stage ε) :
    Prop where
  taken : takenRecords cs <+: due
  offered : ∀ i topic x a, cs[i]? = some (.offer topic x a) →
    topic = d.topic ∧ due[(takenRecords (cs.take i)).length]? = some x
  polled : ∀ i topic x a c, cs[i]? = some (.offer topic x a) → cs[i + 1]? = some c →
    c = .service d.pacing.poll
  backedOff : ∀ i topic x a c, cs[i]? = some (.offer topic x a) → cs[i + 2]? = some c →
    (c = .service d.pacing.backOff ↔ a = .queueFull)
  flushed : ∀ i failure, cs[i]? = some (.flush failure) →
    i + 1 = cs.length ∧ takenRecords cs = due
  refused : ∀ i topic x e, cs[i]? = some (.offer topic x (.refused e)) →
    cs.length ≤ i + 2 ∧ ∀ result, stage = .done result → result = .error e
  flushFailed : ∀ (i : Nat) e, cs[i]? = some (.flush (some e)) → stage = .done (.error e)
  delivered : ∀ result, stage = .done result →
    (∀ topic x e, Call.offer topic x (.refused e) ∉ cs) → (∀ e, Call.flush (some e) ∉ cs) →
    result = .ok d.seed.size

section

variable {d : Delivery} {due later : List Record} {c : Call ε} {cs : List (Call ε)}
  {stage : Stage ε}

theorem takenRecords_cons (c : Call ε) (cs : List (Call ε)) :
    takenRecords (c :: cs) = c.takenRecord?.toList ++ takenRecords cs := by
  unfold takenRecords
  cases hc : c.takenRecord? with
  | none => rw [List.filterMap_cons_none hc]; rfl
  | some x => rw [List.filterMap_cons_some hc]; rfl

theorem Orderly.nil (p : Phase ε) : Orderly d due ([] : List (Call ε)) (.live p) := by
  constructor <;> simp [takenRecords]

/-- The order is kept by a call before the others that is no flush and meets no refusal, if what it
asks for comes right after it. -/
theorem Orderly.cons (h : Orderly d later cs stage) (hdue : due = c.takenRecord?.toList ++ later)
    (hoffer : ∀ topic x a, c = .offer topic x a →
      topic = d.topic ∧ due[0]? = some x ∧ (∀ e, a ≠ .refused e) ∧
      (∀ c', cs[0]? = some c' → c' = .service d.pacing.poll) ∧
      ∀ c', cs[1]? = some c' → (c' = .service d.pacing.backOff ↔ a = .queueFull))
    (hflush : ∀ failure, c ≠ .flush failure) : Orderly d due (c :: cs) stage := by
  refine ⟨?_, ?_, ?_, ?_, ?_, ?_, ?_, ?_⟩
  · rw [takenRecords_cons, hdue]
    exact (List.prefix_append_right_inj _).mpr h.taken
  · intro i topic x a hi
    cases i with
    | zero =>
      obtain ⟨htopic, hx, -⟩ := hoffer topic x a (Option.some.inj hi)
      exact ⟨htopic, hx⟩
    | succ i =>
      obtain ⟨htopic, hx⟩ := h.offered i topic x a hi
      rw [List.take_succ_cons, takenRecords_cons, List.length_append, hdue,
        List.getElem?_append_right (Nat.le_add_right _ _), Nat.add_sub_cancel_left]
      exact ⟨htopic, hx⟩
  · intro i topic x a c' hi hc
    cases i with
    | zero => exact (hoffer topic x a (Option.some.inj hi)).2.2.2.1 c' hc
    | succ i => exact h.polled i topic x a c' hi hc
  · intro i topic x a c' hi hc
    cases i with
    | zero => exact (hoffer topic x a (Option.some.inj hi)).2.2.2.2 c' hc
    | succ i => exact h.backedOff i topic x a c' hi hc
  · intro i failure hi
    cases i with
    | zero => exact absurd (Option.some.inj hi) (hflush failure)
    | succ i =>
      obtain ⟨hlen, hall⟩ := h.flushed i failure hi
      rw [List.length_cons, takenRecords_cons, hlen, hall, hdue]
      exact ⟨rfl, rfl⟩
  · intro i topic x e hi
    cases i with
    | zero => exact absurd rfl ((hoffer topic x _ (Option.some.inj hi)).2.2.1 e)
    | succ i =>
      obtain ⟨hlen, hresult⟩ := h.refused i topic x e hi
      rw [List.length_cons]
      exact ⟨by omega, hresult⟩
  · intro i e hi
    cases i with
    | zero => exact absurd (Option.some.inj hi) (hflush _)
    | succ i => exact h.flushFailed i e hi
  · intro result hdone hr hf
    exact h.delivered result hdone (fun topic x e hm => hr topic x e (List.mem_cons_of_mem _ hm))
      (fun e hm => hf e (List.mem_cons_of_mem _ hm))

theorem Orderly.cons_offer {x : Record} {rest : List Record} {a : Answer ε}
    (h : Orderly d later cs stage)
    (hdue : x :: rest = (Call.offer d.topic x a).takenRecord?.toList ++ later)
    (ha : ∀ e, a ≠ .refused e)
    (hpoll : ∀ c', cs[0]? = some c' → c' = .service d.pacing.poll)
    (hbackOff : ∀ c', cs[1]? = some c' → (c' = .service d.pacing.backOff ↔ a = .queueFull)) :
    Orderly d (x :: rest) (.offer d.topic x a :: cs) stage := by
  refine h.cons hdue ?_ fun _ => nofun
  intro topic y b hc
  cases hc
  exact ⟨rfl, rfl, ha, hpoll, hbackOff⟩

theorem Orderly.cons_service (h : Orderly d due cs stage) (ms : Nat) :
    Orderly d due (.service ms :: cs) stage :=
  h.cons rfl (fun _ _ _ => nofun) fun _ => nofun

theorem Orderly.of_refused {x : Record} {rest : List Record} {e : ε}
    (hcs : cs <+: [.service d.pacing.poll])
    (hstage : ∀ result, stage = .done result → result = .error e) :
    Orderly d (x :: rest) (.offer d.topic x (.refused e) :: cs) stage := by
  have hlen : cs.length ≤ 1 := hcs.length_le
  have hservice : ∀ {i : Nat} {c}, cs[i]? = some c → c = .service d.pacing.poll := by
    intro i c hi
    have hmem := hcs.subset (List.mem_of_getElem? hi)
    exact List.mem_singleton.mp hmem
  have htaken : takenRecords (.offer d.topic x (.refused e) :: cs) = [] := by
    rw [takenRecords_cons]
    exact List.filterMap_eq_nil_iff.mpr fun c hc => by
      rw [List.mem_singleton.mp (hcs.subset hc)]
      rfl
  refine ⟨htaken ▸ List.nil_prefix, ?_, ?_, ?_, ?_, ?_, ?_, ?_⟩
  · intro i topic y a hi
    cases i with
    | zero => cases hi; exact ⟨rfl, rfl⟩
    | succ i => cases hservice hi
  · intro i topic y a c hi hc
    cases i with
    | zero => exact hservice hc
    | succ i => cases hservice hi
  · intro i topic y a c hi hc
    have hi' := (List.getElem?_eq_some_iff.mp hc).1
    rw [List.length_cons] at hi'
    omega
  · intro i failure hi
    cases i with
    | zero => cases hi
    | succ i => cases hservice hi
  · intro i topic y e' hi
    cases i with
    | zero => cases hi; exact ⟨by rw [List.length_cons]; omega, hstage⟩
    | succ i => cases hservice hi
  · intro i e' hi
    cases i with
    | zero => cases hi
    | succ i => cases hservice hi
  · intro result _ hr _
    exact absurd List.mem_cons_self (hr d.topic x e)

theorem Orderly.of_flush (failure : Option ε) :
    Orderly d [] [.flush failure] (.done (failure.elim (.ok d.seed.size) .error)) := by
  have hflush : ∀ {i : Nat} {c : Call ε}, [Call.flush failure][i]? = some c →
      i = 0 ∧ c = .flush failure := by
    intro i c hi
    cases i with
    | zero => exact ⟨rfl, (Option.some.inj hi).symm⟩
    | succ i => cases hi
  refine ⟨List.prefix_rfl, ?_, ?_, ?_, ?_, ?_, ?_, ?_⟩
  · intro i topic x a hi
    cases (hflush hi).2
  · intro i topic x a c hi
    cases (hflush hi).2
  · intro i topic x a c hi
    cases (hflush hi).2
  · intro i f hi
    obtain ⟨rfl, -⟩ := hflush hi
    exact ⟨rfl, rfl⟩
  · intro i topic x e hi
    cases (hflush hi).2
  · intro i e hi
    obtain ⟨rfl, he⟩ := hflush hi
    cases he
    rfl
  · intro result hdone _ hf
    cases failure with
    | none => cases hdone; rfl
    | some e => exact absurd (List.mem_singleton.mpr rfl) (hf e)

end

variable (d : Delivery) (h : Handle σ ε)

def callOf (s : σ) : Phase ε → Call ε
  | .offer x _ => .offer d.topic x (h.offer s d.topic x).1
  | .afterTaken _ | .afterFull .. | .afterRefused _ => .service d.pacing.poll
  | .backOff .. => .service d.pacing.backOff
  | .flush => .flush (h.flush s).1

theorem callsOf_step (s : σ) (p : Phase ε) : callsOf (d.step h s p).notes = [d.callOf h s p] := by
  cases p with
  | flush =>
    simp only [step, callOf]
    split <;> rename_i hf <;> rw [hf] <;> rfl
  | _ => rfl

theorem callsOf_advance_succ (n : Nat) (s : σ) (p : Phase ε) :
    callsOf (d.advance h (n + 1) (.live p) s).notes =
      d.callOf h s p ::
        callsOf (d.advance h n (d.step h s p).stage (d.step h s p).state).notes := by
  rw [advance_succ]
  change callsOf (_ ++ _) = _
  unfold callsOf
  rw [List.filterMap_append]
  exact congrArg (· ++ _) (d.callsOf_step h s p)

theorem getElem?_zero_callsOf {n : Nat} {s : σ} {p : Phase ε} {c : Call ε}
    (hc : (callsOf (d.advance h n (.live p) s).notes)[0]? = some c) : c = d.callOf h s p := by
  cases n with
  | zero => cases hc
  | succ n =>
    rw [callsOf_advance_succ] at hc
    exact (Option.some.inj hc).symm

theorem getElem?_one_callsOf {n : Nat} {s : σ} {p : Phase ε} {c : Call ε}
    (hc : (callsOf (d.advance h n (.live p) s).notes)[1]? = some c) :
    ∃ q, (d.step h s p).stage = .live q ∧ c = d.callOf h (d.step h s p).state q := by
  cases n with
  | zero => cases hc
  | succ n =>
    rw [callsOf_advance_succ, List.getElem?_cons_succ] at hc
    cases hs : (d.step h s p).stage with
    | live q =>
      rw [hs] at hc
      exact ⟨q, rfl, d.getElem?_zero_callsOf h hc⟩
    | done r =>
      rw [hs, advance_done] at hc
      cases hc

def Phase.due : Phase ε → List Record
  | .offer x rest | .afterFull x rest | .backOff x rest => x :: rest
  | .afterTaken rest => rest
  | .afterRefused _ | .flush => []

theorem Phase.due_ofRecords (xs : List Record) : (Phase.ofRecords (ε := ε) xs).due = xs := by
  cases xs <;> rfl

theorem callOf_ofRecords_ne (s : σ) (xs : List Record) (ms : Nat) :
    d.callOf h s (.ofRecords xs) ≠ .service ms := by
  cases xs <;> exact nofun

theorem ofRecords_ne (xs : List Record) (e : ε) : Phase.ofRecords xs ≠ .afterRefused e := by
  cases xs <;> exact nofun

theorem orderly_offer_refused (n : Nat) (s : σ) (x : Record) (rest : List Record) (e : ε) :
    Orderly d (x :: rest) (.offer d.topic x (.refused e) ::
        callsOf (d.advance h n (.live (.afterRefused e)) s).notes)
      (d.advance h n (.live (.afterRefused e)) s).stage := by
  cases n with
  | zero => exact .of_refused List.nil_prefix nofun
  | succ n =>
    rw [callsOf_advance_succ, advance_succ]
    simp only [step, advance_done, Progress.after]
    apply Orderly.of_refused List.prefix_rfl
    intro result hdone
    exact (Stage.done.inj hdone).symm

/-- Induction on the number of calls. A refusal is left out, since its offer lies before. -/
theorem orderly_advance (n : Nat) (s : σ) (p : Phase ε) (hp : ∀ e, p ≠ .afterRefused e) :
    Orderly d p.due (callsOf (d.advance h n (.live p) s).notes)
      (d.advance h n (.live p) s).stage := by
  induction n generalizing s p with
  | zero => exact .nil p
  | succ n ih =>
    rw [callsOf_advance_succ, advance_succ]
    change Orderly d _ _ (d.advance h n _ _).stage
    cases p with
    | offer x rest =>
      cases ha : (h.offer s d.topic x).1 with
      | taken =>
        have hstage : (d.step h s (.offer x rest)).stage = .live (.afterTaken rest) := by
          simp only [step, ha]
        have hlater := ih (d.step h s (.offer x rest)).state (.afterTaken rest) (by simp)
        rw [hstage]
        simp only [callOf, ha]
        refine hlater.cons_offer rfl (by simp) (fun c hc => d.getElem?_zero_callsOf h hc) ?_
        intro c hc
        obtain ⟨q, hq, rfl⟩ := d.getElem?_one_callsOf h hc
        cases hq
        have hne := d.callOf_ofRecords_ne h
          (d.step h (d.step h s (.offer x rest)).state (.afterTaken rest)).state rest
          d.pacing.backOff
        simp [hne]
      | queueFull =>
        have hstage : (d.step h s (.offer x rest)).stage = .live (.afterFull x rest) := by
          simp only [step, ha]
        have hlater := ih (d.step h s (.offer x rest)).state (.afterFull x rest) (by simp)
        rw [hstage]
        simp only [callOf, ha]
        refine hlater.cons_offer rfl (by simp) (fun c hc => d.getElem?_zero_callsOf h hc) ?_
        intro c hc
        obtain ⟨q, hq, rfl⟩ := d.getElem?_one_callsOf h hc
        cases hq
        exact ⟨fun _ => rfl, fun _ => rfl⟩
      | refused e =>
        have hstage : (d.step h s (.offer x rest)).stage = .live (.afterRefused e) := by
          simp only [step, ha]
        rw [hstage]
        simp only [callOf, ha]
        exact d.orderly_offer_refused h n _ x rest e
    | afterTaken rest =>
      have hrest := ih (h.service s d.pacing.poll) (.ofRecords rest) (ofRecords_ne rest)
      rw [Phase.due_ofRecords] at hrest
      exact hrest.cons_service _
    | afterFull x rest =>
      exact (ih _ (.backOff x rest) (by simp)).cons_service _
    | backOff x rest =>
      exact (ih _ (.offer x rest) (by simp)).cons_service _
    | afterRefused e => exact absurd rfl (hp e)
    | flush =>
      have hstage : (d.step h s .flush).stage =
          .done ((h.flush s).1.elim (.ok d.seed.size) .error) := by
        simp only [step]
        split <;> rename_i hf <;> rw [hf] <;> rfl
      rw [hstage, advance_done]
      exact .of_flush _

theorem answers_step {s t : σ} {p : Phase ε} {cs : List (Call ε)}
    (hlater : h.Answers (d.step h s p).state cs t) : h.Answers s (d.callOf h s p :: cs) t := by
  cases p with
  | offer x rest => exact .offer d.topic x hlater
  | flush =>
    have hstate : (d.step h s .flush).state = (h.flush s).2 := by
      simp only [step]
      split <;> rename_i hf <;> rw [hf]
    rw [hstate] at hlater
    exact .flush hlater
  | _ => exact .service _ hlater

theorem answers_advance (n : Nat) (stage : Stage ε) (s : σ) :
    h.Answers s (callsOf (d.advance h n stage s).notes) (d.advance h n stage s).state := by
  induction n generalizing stage s with
  | zero => exact .nil s
  | succ n ih =>
    cases stage with
    | done r => exact .nil s
    | live p =>
      rw [callsOf_advance_succ]
      exact d.answers_step h (ih _ _)

theorem length_callsOf_of_live {n : Nat} {p q : Phase ε} {s : σ}
    (hq : (d.advance h n (.live p) s).stage = .live q) :
    (callsOf (d.advance h n (.live p) s).notes).length = n := by
  induction n generalizing p s with
  | zero => rfl
  | succ n ih =>
    rw [callsOf_advance_succ, List.length_cons]
    change (d.advance h n (d.step h s p).stage (d.step h s p).state).stage = .live q at hq
    cases hs : (d.step h s p).stage with
    | done r =>
      rw [hs, advance_done] at hq
      cases hq
    | live p' =>
      rw [hs] at hq
      rw [ih hq]

/-- What is due is what the call at hand takes, and what is due after it. A refusal is left out,
since nothing is due any more. -/
theorem due_step {p q : Phase ε} {s : σ} (hq : (d.step h s p).stage = .live q)
    (hne : ∀ e, q ≠ .afterRefused e) :
    p.due = (d.callOf h s p).takenRecord?.toList ++ q.due := by
  cases p with
  | offer x rest =>
    simp only [step] at hq
    simp only [callOf]
    split at hq
    case h_1 ha =>
      cases hq
      rw [ha]
      rfl
    case h_2 ha =>
      cases hq
      rw [ha]
      rfl
    case h_3 e ha =>
      cases hq
      exact absurd rfl (hne e)
  | afterTaken rest =>
    cases hq
    exact (Phase.due_ofRecords rest).symm
  | afterFull x rest =>
    cases hq
    rfl
  | backOff x rest =>
    cases hq
    rfl
  | afterRefused e => cases hq
  | flush =>
    simp only [step] at hq
    split at hq <;> cases hq

theorem conclude_afterRefused (h : FairHandle σ ε) (s : σ) (e : ε) :
    (d.conclude h (.afterRefused e) s).result = .error e := by
  rw [conclude_done d h rfl]

theorem conclude_taken (h : FairHandle σ ε) (p : Phase ε) (s : σ) {n : Nat}
    (hn : (d.conclude h p s).result = .ok n) :
    n = d.seed.size ∧ takenRecords (callsOf (d.conclude h p s).notes) = p.due := by
  induction p, s using conclude.induct d h with
  | case1 p s r hr =>
    rw [conclude_done d h hr] at hn ⊢
    subst hn
    cases p with
    | offer x rest =>
      simp only [step] at hr
      split at hr <;> cases hr
    | flush =>
      simp only [step] at hr
      dsimp only
      rw [callsOf_step]
      split at hr <;> cases hr
      exact ⟨rfl, rfl⟩
    | _ => cases hr
  | case2 p s q hq ih =>
    rw [conclude_live d h hq] at hn ⊢
    obtain ⟨hsize, hlater⟩ := ih hn
    refine ⟨hsize, ?_⟩
    have hcalls (notes : List (Note ε)) : callsOf ((d.step h.toHandle s p).notes ++ notes) =
        d.callOf h.toHandle s p :: callsOf notes := by
      unfold callsOf
      rw [List.filterMap_append]
      exact congrArg (· ++ _) (d.callsOf_step h.toHandle s p)
    have hne : ∀ e, q ≠ .afterRefused e := by
      rintro e rfl
      cases (conclude_afterRefused d h _ e).symm.trans hn
    rw [hcalls, takenRecords_cons, hlater, d.due_step h.toHandle hq hne]

/-- A delivery that succeeds has brought every record of its seed, once and in order. -/
theorem run_taken (h : FairHandle σ ε) (s : σ) {n : Nat} (hn : (d.run h s).result = .ok n) :
    n = d.seed.size ∧ takenRecords (callsOf (d.run h s).notes) = d.seed.records := by
  have htaken := d.conclude_taken h d.first s hn
  rw [first, Phase.due_ofRecords] at htaken
  exact htaken

/-- At every moment of a run, finished or not, its calls are in order and are the ones that the
handle answered. -/
theorem advance_orderly (d : Delivery) (h : Handle σ ε) (n : Nat) (s : σ) :
    Orderly d d.seed.records (callsOf (d.advance h n (.live d.first) s).notes)
        (d.advance h n (.live d.first) s).stage ∧
      h.Answers s (callsOf (d.advance h n (.live d.first) s).notes)
        (d.advance h n (.live d.first) s).state ∧
      ∀ p, (d.advance h n (.live d.first) s).stage = .live p →
        (callsOf (d.advance h n (.live d.first) s).notes).length = n := by
  have ho := d.orderly_advance h n s d.first (ofRecords_ne _)
  have hfirst : (d.first (ε := ε)).due = d.seed.records := Phase.due_ofRecords _
  rw [hfirst] at ho
  exact ⟨ho, d.answers_advance h n _ s, fun p hp => d.length_callsOf_of_live h hp⟩

end Delivery

end TestCluster
