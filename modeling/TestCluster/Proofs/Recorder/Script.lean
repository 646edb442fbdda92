import TestCluster.Proofs.Delivery.Recorded

namespace TestCluster.Recorder

/-- The next offers are answered like this, up to the first that is refused. -/
def Gives : List (Answer String) → Recorder → Prop
  | [], _ => True
  | a :: later, r =>
    r.answer = a ∧ ((∀ e, a ≠ .refused e) → Gives later (r.afterAnswer a))

variable (r : Recorder)

theorem gives_record (answers : List (Answer String)) (c : Delivery.Call String) :
    Gives answers (r.record c) ↔ Gives answers r := by
  induction answers generalizing r with
  | nil => exact Iff.rfl
  | cons a later ih =>
    have hanswer : (r.record c).answer = r.answer := rfl
    have hafter : (r.record c).afterAnswer a = (r.afterAnswer a).record c := by
      cases a <;> rfl
    rw [Gives, Gives, hanswer, hafter, ih]

/-- The script that makes the offers after `p` records that are taken be answered like this. -/
def script (failure : Option String) : Nat → List (Answer String) → Recorder
  | _, [] => { empty with flushFailure := failure }
  | p, .taken :: later => script failure (p + 1) later
  | p, .queueFull :: later =>
    (script failure p later).scriptFulls p ((script failure p later).fullsAt p + 1)
  | p, .refused e :: _ => { empty with flushFailure := failure }.scriptRefusal p e

variable (failure : Option String) (answers : List (Answer String))

theorem script_before {p q : Nat} (hq : q < p) :
    (script failure p answers).fullsAt q = 0 ∧
      (script failure p answers).refusalAt? q = none := by
  induction answers generalizing p with
  | nil => exact ⟨rfl, rfl⟩
  | cons a later ih =>
    have hne : q ≠ p := by omega
    cases a with
    | taken => exact ih (by omega)
    | queueFull =>
      obtain ⟨hfulls, hrefusal⟩ := ih hq
      refine ⟨?_, hrefusal⟩
      rw [script, fullsAt_scriptFulls, if_neg hne, hfulls]
    | refused e =>
      refine ⟨rfl, ?_⟩
      rw [script, refusalAt?_scriptRefusal, if_neg hne]
      rfl

/-- Induction on the answers. Of the script, only what it says of each position counts, since full
queues that have been met are taken out of it. -/
theorem gives_script {p : Nat} (htaken : r.taken = p)
    (hfulls : ∀ q, r.fullsAt q = (script failure p answers).fullsAt q)
    (hrefusal : ∀ q, r.refusalAt? q = (script failure p answers).refusalAt? q) :
    Gives answers r := by
  induction answers generalizing p r with
  | nil => trivial
  | cons a later ih =>
    cases a with
    | taken =>
      obtain ⟨hnone, hfree⟩ := script_before failure later (Nat.lt_add_one p)
      refine ⟨answer_of_free r ?_ ?_, fun _ => ?_⟩
      · rw [hfulls, htaken]
        exact hnone
      · rw [hrefusal, htaken]
        exact hfree
      · exact ih (r.afterAnswer .taken) (congrArg (· + 1) htaken) hfulls hrefusal
    | queueFull =>
      have hleft : r.fullsAt p = (script failure p later).fullsAt p + 1 := by
        rw [hfulls, script, fullsAt_scriptFulls, if_pos rfl]
      refine ⟨answer_of_fulls r (by rw [htaken, hleft]; omega), fun _ => ?_⟩
      refine ih (r.afterAnswer .queueFull) htaken ?_ hrefusal
      intro q
      simp only [afterAnswer, fullsAt_scriptFulls, htaken]
      split
      case isTrue hq => rw [hq, hleft, Nat.add_sub_cancel]
      case isFalse hq => rw [hfulls, script, fullsAt_scriptFulls, if_neg hq]
    | refused e =>
      refine ⟨answer_of_refusal r ?_ ?_, fun hne => absurd rfl (hne e)⟩
      · rw [hfulls]
        rfl
      · rw [hrefusal, htaken, script, refusalAt?_scriptRefusal, if_pos rfl]

theorem script_fresh (p : Nat) :
    (script failure p answers).calls = [] ∧ (script failure p answers).taken = 0 ∧
      (script failure p answers).flushFailure = failure := by
  induction answers generalizing p with
  | nil => exact ⟨rfl, rfl, rfl⟩
  | cons a later ih =>
    cases a with
    | taken => exact ih (p + 1)
    | queueFull => exact ih p
    | refused e => exact ⟨rfl, rfl, rfl⟩

end TestCluster.Recorder
