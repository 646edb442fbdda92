import TestCluster.Proofs.Delivery.Attempt

namespace TestCluster.Recorder

open Delivery

/-- What is done with a recorder at once. -/
inductive Move
  | scriptFulls (position times : Nat)
  | scriptRefusal (position : Nat) (error : String)
  | scriptFlushFailure (error : String)
  | offer (topic : String) (x : Record)
  | service (ms : Nat)
  | flush
  deriving DecidableEq

def Move.on (r : Recorder) : Move → Recorder
  | scriptFulls position times => r.scriptFulls position times
  | scriptRefusal position error => r.scriptRefusal position error
  | scriptFlushFailure error => r.scriptFlushFailure error
  | offer topic x => (r.offer topic x).2
  | service ms => r.service ms
  | flush => r.flush.2

def after (r : Recorder) (moves : List Move) : Recorder :=
  moves.foldl Move.on r

/-- A recorder is also used by deliveries. -/
inductive Use
  | move (m : Move)
  | deliver (d : Delivery)

def Use.on (r : Recorder) : Use → Recorder
  | move m => m.on r
  | deliver d => (d.run handle r).state

def Move.ofCall : Call String → Move
  | .offer topic x _ => offer topic x
  | .service ms => service ms
  | .flush _ => flush

def Use.moves (r : Recorder) : Use → List Move
  | move m => [m]
  | deliver d => (callsOf (d.run handle r).notes).map Move.ofCall

def movesOf (r : Recorder) : List Use → List Move
  | [] => []
  | u :: us => u.moves r ++ movesOf (u.on r) us

variable (r : Recorder)

theorem after_append (before later : List Move) :
    r.after (before ++ later) = (r.after before).after later :=
  List.foldl_append

theorem after_of_answers {cs : List (Call String)} {s : Recorder}
    (h : handle.toHandle.Answers r cs s) : r.after (cs.map Move.ofCall) = s := by
  induction h with
  | nil s => rfl
  | offer topic x later ih => exact ih
  | service ms later ih => exact ih
  | flush later ih => exact ih

theorem after_moves (u : Use) : r.after (u.moves r) = u.on r := by
  cases u with
  | move m => rfl
  | deliver d =>
    obtain ⟨n, hn⟩ := exists_advance_conclude d handle d.first r
    have hanswers := d.answers_advance handle.toHandle n (.live d.first) r
    rw [hn] at hanswers
    exact r.after_of_answers hanswers

theorem after_movesOf (us : List Use) : r.after (movesOf r us) = us.foldl Use.on r := by
  induction us generalizing r with
  | nil => rfl
  | cons u us ih => rw [movesOf, after_append, after_moves, ih, List.foldl_cons]

section

variable (topic : String) (x : Record)

theorem calls_offer : (r.offer topic x).2.calls = r.calls ++ [.offer topic x r.answer] := by
  unfold offer afterAnswer
  cases r.answer <;> rfl

theorem taken_offer :
    (r.offer topic x).2.taken =
      r.taken + (Call.offer (ε := String) topic x r.answer).takenRecord?.toList.length := by
  unfold offer afterAnswer
  cases r.answer <;> rfl

end

theorem prefix_calls (m : Move) : r.calls <+: (m.on r).calls := by
  cases m with
  | offer topic x =>
    simp only [Move.on, calls_offer]
    exact List.prefix_append _ _
  | service ms | flush => exact List.prefix_append _ _
  | _ => exact List.prefix_rfl

theorem prefix_calls_after (moves : List Move) : r.calls <+: (r.after moves).calls := by
  induction moves generalizing r with
  | nil => exact List.prefix_rfl
  | cons m moves ih => exact (r.prefix_calls m).trans (ih (m.on r))

def Counts (r : Recorder) : Prop :=
  r.taken = (takenRecords r.calls).length

theorem Counts.on {r : Recorder} (h : r.Counts) (m : Move) : (m.on r).Counts := by
  unfold Counts at *
  cases m with
  | offer topic x =>
    simp only [Move.on, taken_offer, calls_offer, takenRecords_append, List.length_append, h]
    rfl
  | service ms | flush =>
    change r.taken = (takenRecords (r.calls ++ [_])).length
    rw [takenRecords_append, List.length_append]
    exact h
  | _ => exact h

theorem Counts.after {r : Recorder} (h : r.Counts) (moves : List Move) :
    (r.after moves).Counts := by
  induction moves generalizing r with
  | nil => exact h
  | cons m moves ih => exact ih (h.on m)

theorem length_accepted : r.accepted.length = (takenRecords r.calls).length := by
  unfold accepted attempts
  induction r.calls with
  | nil => rfl
  | cons c cs ih =>
    rw [takenRecords_cons, List.length_append, ← ih]
    cases c with
    | offer topic x a =>
      cases a with
      | taken =>
        simp [Call.takenRecord?]
        omega
      | _ => simp [Call.takenRecord?]
    | _ => simp [Call.takenRecord?]

theorem accepted_eq :
    r.accepted = (r.attempts.filter (·.2 = .taken)).map (·.1) := by
  unfold accepted
  induction r.attempts with
  | nil => rfl
  | cons a rest ih =>
    by_cases h : a.2 = .taken <;> simp [h, ih]

def Move.isFlush : Move → Bool
  | flush => true
  | _ => false

theorem flushCount_on (m : Move) :
    (m.on r).flushCount = r.flushCount + if m.isFlush then 1 else 0 := by
  unfold flushCount
  cases m with
  | offer topic x => simp [Move.on, calls_offer, Move.isFlush]
  | _ => simp [Move.on, Move.isFlush, service, flush, record, scriptFulls, scriptRefusal,
      scriptFlushFailure]

theorem flushCount_after (moves : List Move) :
    (r.after moves).flushCount = r.flushCount + moves.countP Move.isFlush := by
  induction moves generalizing r with
  | nil => rfl
  | cons m moves ih =>
    have h := ih (m.on r)
    rw [flushCount_on] at h
    rw [List.countP_cons]
    change ((m.on r).after moves).flushCount = _
    omega

/-- How often the position `p` is rejected in the calls from `start` on. -/
def rejectionsSince (start p : Nat) (cs : List (Call String)) : Nat :=
  ((numbered 0 cs).drop start).countP fun (i, c) => i = p && c.isRejected

theorem rejectionsSince_append {start p : Nat} {cs : List (Call String)}
    (h : start ≤ cs.length) (c : Call String) :
    rejectionsSince start p (cs ++ [c]) = rejectionsSince start p cs +
      if (takenRecords cs).length = p ∧ c.isRejected = true then 1 else 0 := by
  have hdrop : start ≤ (numbered 0 cs).length := by rwa [length_numbered]
  unfold rejectionsSince
  rw [numbered_append, List.drop_append_of_le_length hdrop, List.countP_append]
  simp [numbered]

theorem answer_eq_queueFull_iff : r.answer = .queueFull ↔ 0 < r.fullsAt r.taken := by
  unfold answer
  split
  · simp [*]
  · split <;> simp [*]

/-- A rejection is paid for by the position where it happens. -/
theorem fullsAt_offer_add (topic : String) (x : Record) (p : Nat) :
    (r.offer topic x).2.fullsAt p + (if r.taken = p ∧ r.answer = .queueFull then 1 else 0) =
      r.fullsAt p := by
  by_cases hfull : r.answer = .queueFull
  · have hpos := r.answer_eq_queueFull_iff.mp hfull
    have hafter : (r.offer topic x).2.fullsAt p =
        if p = r.taken then r.fullsAt r.taken - 1 else r.fullsAt p := by
      rw [r.offer_of_fulls topic x hpos]
      exact r.fullsAt_scriptFulls r.taken _ p
    by_cases hp : p = r.taken
    · subst hp
      simp [hafter, hfull]
      omega
    · have hp' : r.taken ≠ p := fun h => hp h.symm
      simp [hafter, hp, hp']
  · have hafter : (r.offer topic x).2.fullsAt p = r.fullsAt p := by
      unfold offer afterAnswer
      cases ha : r.answer with
      | queueFull => exact absurd ha hfull
      | _ => rfl
    simp [hafter, hfull]

theorem fullsAt_on {r : Recorder} (hcounts : r.Counts) {start p : Nat}
    (hstart : start ≤ r.calls.length) {m : Move} (hm : ∀ t, m ≠ .scriptFulls p t) :
    (m.on r).fullsAt p + rejectionsSince start p (m.on r).calls =
      r.fullsAt p + rejectionsSince start p r.calls := by
  cases m with
  | scriptFulls q t =>
    have hne : p ≠ q := fun h => hm t (h ▸ rfl)
    have hfulls := r.fullsAt_scriptFulls q t p
    rw [if_neg hne] at hfulls
    simp only [Move.on, hfulls]
    rfl
  | offer topic x =>
    have hpaid := r.fullsAt_offer_add topic x p
    have hrejected : (Call.offer topic x r.answer).isRejected = true ↔ r.answer = .queueFull := by
      cases r.answer <;> simp [Call.isRejected]
    have hposition : (takenRecords r.calls).length = r.taken := hcounts.symm
    simp only [Move.on, calls_offer, rejectionsSince_append hstart, hrejected, hposition]
    omega
  | service ms | flush =>
    change r.fullsAt p + rejectionsSince start p (r.calls ++ [_]) = _
    rw [rejectionsSince_append hstart]
    simp [Call.isRejected]
  | _ => rfl

theorem fullsAt_after {r : Recorder} (hcounts : r.Counts) {start p : Nat}
    (hstart : start ≤ r.calls.length) {moves : List Move} (hm : ∀ t, .scriptFulls p t ∉ moves) :
    (r.after moves).fullsAt p + rejectionsSince start p (r.after moves).calls =
      r.fullsAt p + rejectionsSince start p r.calls := by
  induction moves generalizing r with
  | nil => rfl
  | cons m moves ih =>
    have hne : ∀ t, m ≠ .scriptFulls p t := fun t h => hm t (h ▸ List.mem_cons_self)
    have hlater := ih (hcounts.on m) (Nat.le_trans hstart (r.prefix_calls m).length_le)
      fun t h => hm t (List.mem_cons_of_mem m h)
    exact hlater.trans (fullsAt_on hcounts hstart hne)

def errorsAt (p : Nat) (moves : List Move) : List String :=
  moves.filterMap fun
    | .scriptRefusal q error => if q = p then some error else none
    | _ => none

theorem refusalAt?_after (p : Nat) (moves : List Move) :
    (r.after moves).refusalAt? p = (errorsAt p moves).getLast?.or (r.refusalAt? p) := by
  induction moves generalizing r with
  | nil => rfl
  | cons m moves ih =>
    have hlater := ih (m.on r)
    change ((m.on r).after moves).refusalAt? p = _
    rw [hlater]
    cases m with
    | scriptRefusal q error =>
      have hq := r.refusalAt?_scriptRefusal q error p
      by_cases h : q = p
      · subst h
        rw [if_pos rfl] at hq
        simp [errorsAt, Move.on, hq, List.getLast?_cons]
      · have h' : p ≠ q := fun he => h he.symm
        rw [if_neg h'] at hq
        simp [errorsAt, Move.on, hq, h]
    | offer topic x =>
      have hq : (r.offer topic x).2.refusalAt? p = r.refusalAt? p := by
        unfold offer afterAnswer
        cases r.answer <;> rfl
      simp [errorsAt, Move.on, hq]
    | _ => rfl

theorem taken_on_le {r : Recorder} {p : Nat} (hle : r.taken ≤ p)
    (hrefused : (r.refusalAt? p).isSome = true) (m : Move) : (m.on r).taken ≤ p := by
  cases m with
  | offer topic x =>
    simp only [Move.on, taken_offer]
    cases ha : r.answer with
    | taken =>
      have hne : r.taken ≠ p := by
        rintro rfl
        obtain ⟨e, he⟩ := Option.isSome_iff_exists.mp hrefused
        unfold answer at ha
        simp only [he] at ha
        split at ha <;> cases ha
      simp only [Call.takenRecord?, Option.toList, List.length_singleton]
      omega
    | _ => simpa [Call.takenRecord?] using hle
  | _ => exact hle

theorem refusalAt?_isSome_on {r : Recorder} {p : Nat} (h : (r.refusalAt? p).isSome = true)
    (m : Move) : ((m.on r).refusalAt? p).isSome = true := by
  have hafter := r.refusalAt?_after p [m]
  change (m.on r).refusalAt? p = _ at hafter
  rw [hafter, Option.isSome_or, h, Bool.or_true]

theorem taken_after_le {r : Recorder} {p : Nat} (hle : r.taken ≤ p)
    (hrefused : (r.refusalAt? p).isSome = true) (moves : List Move) :
    (r.after moves).taken ≤ p := by
  induction moves generalizing r with
  | nil => exact hle
  | cons m moves ih => exact ih (taken_on_le hle hrefused m) (refusalAt?_isSome_on hrefused m)

/-- What a recorder that has seen these moves from the start on can be relied on for. -/
structure Account (moves : List Move) : Prop where
  grown : ∀ before later, moves = before ++ later →
    (empty.after before).calls <+: (empty.after moves).calls
  taken_eq : (empty.after moves).taken = (takenRecords (empty.after moves).calls).length
  accepted_length : (empty.after moves).accepted.length = (empty.after moves).taken
  accepted_eq : (empty.after moves).accepted =
    ((empty.after moves).attempts.filter (·.2 = .taken)).map (·.1)
  flushed : (empty.after moves).flushCount = moves.countP Move.isFlush
  rejected : ∀ before p t later, moves = before ++ .scriptFulls p t :: later →
    (∀ u, .scriptFulls p u ∉ later) →
    (empty.after moves).fullsAt p +
      rejectionsSince (empty.after before).calls.length p (empty.after moves).calls = t
  halted : ∀ before p error later, moves = before ++ .scriptRefusal p error :: later →
    (empty.after before).taken ≤ p → (empty.after moves).taken ≤ p
  refused : ∀ before p error later topic x rest,
    moves = before ++ .scriptRefusal p error :: later ++ .offer topic x :: rest →
    (empty.after (before ++ .scriptRefusal p error :: later)).taken = p →
    (empty.after (before ++ .scriptRefusal p error :: later)).fullsAt p = 0 →
    ∃ e, (errorsAt p (.scriptRefusal p error :: later)).getLast? = some e ∧
      ((empty.after (before ++ .scriptRefusal p error :: later)).offer topic x).1 = .refused e

theorem counts_empty : empty.Counts := rfl

theorem account (moves : List Move) : Account moves where
  grown := by
    rintro before later rfl
    rw [after_append]
    exact prefix_calls_after _ later
  taken_eq := counts_empty.after moves
  accepted_length := by
    rw [length_accepted]
    exact (counts_empty.after moves).symm
  accepted_eq := accepted_eq _
  flushed := by
    rw [flushCount_after]
    exact Nat.zero_add _
  rejected := by
    rintro before p t later rfl hlater
    let r := empty.after before
    have hcounts : (r.scriptFulls p t).Counts := counts_empty.after before
    have hscript := r.fullsAt_scriptFulls p t p
    have hsince : rejectionsSince r.calls.length p r.calls = 0 := by
      unfold rejectionsSince
      rw [List.drop_eq_nil_of_le (Nat.le_of_eq (length_numbered 0 r.calls))]
      rfl
    have hstart : r.calls.length ≤ (r.scriptFulls p t).calls.length := Nat.le_refl _
    have h := fullsAt_after hcounts hstart hlater
    rw [if_pos rfl] at hscript
    rw [hscript] at h
    rw [after_append]
    exact h.trans (congrArg (t + ·) hsince)
  halted := by
    rintro before p error later rfl hle
    have hscript := (empty.after before).refusalAt?_scriptRefusal p error p
    rw [if_pos rfl] at hscript
    rw [after_append]
    exact taken_after_le (r := (empty.after before).scriptRefusal p error) hle
      (by rw [hscript]; rfl) later
  refused := by
    rintro before p error later topic x rest - htaken hfulls
    have hlast : (errorsAt p (.scriptRefusal p error :: later)).getLast? =
        some ((errorsAt p later).getLast?.getD error) := by
      simp [errorsAt, List.getLast?_cons]
    have hrefusal := (empty.after before).refusalAt?_after p (.scriptRefusal p error :: later)
    rw [← after_append, hlast, Option.some_or] at hrefusal
    generalize empty.after (before ++ .scriptRefusal p error :: later) = s at *
    refine ⟨_, hlast, ?_⟩
    rw [s.offer_of_refusal topic x (by rw [htaken, hfulls]) (by rw [htaken, hrefusal])]

/-- Any uses in any order come down to moves, and what a recorder knows after them adds up. -/
theorem uses_accounted (us : List Use) :
    us.foldl Use.on empty = empty.after (movesOf empty us) ∧ Account (movesOf empty us) :=
  ⟨(after_movesOf empty us).symm, account (movesOf empty us)⟩

end TestCluster.Recorder
