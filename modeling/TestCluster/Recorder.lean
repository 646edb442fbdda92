import TestCluster.Delivery

namespace TestCluster

structure Message where
  topic : String
  record : Record
  deriving DecidableEq, Repr

/-- A handle without a cluster: it keeps every call and turns away or refuses the positions it
is told to. A position counts the records taken before. -/
structure Recorder where
  calls : List (Delivery.Call String)
  taken : Nat
  fulls : List (Nat × Nat)
  refusals : List (Nat × String)
  flushFailure : Option String

namespace Recorder

def empty : Recorder :=
  ⟨[], 0, [], [], none⟩

variable (r : Recorder)

def assign {α : Type} (script : List (Nat × α)) (position : Nat) (a : α) : List (Nat × α) :=
  (position, a) :: script.filter (·.1 ≠ position)

def fullsAt (position : Nat) : Nat :=
  (r.fulls.lookup position).getD 0

def refusalAt? (position : Nat) : Option String :=
  r.refusals.lookup position

def scriptFulls (position times : Nat) : Recorder :=
  { r with fulls := assign r.fulls position times }

def scriptRefusal (position : Nat) (error : String) : Recorder :=
  { r with refusals := assign r.refusals position error }

def scriptFlushFailure (error : String) : Recorder :=
  { r with flushFailure := some error }

def record (c : Delivery.Call String) : Recorder :=
  { r with calls := r.calls ++ [c] }

/-- A script of full queues comes before a script of refusals. -/
def answer : Answer String :=
  if 0 < r.fullsAt r.taken then .queueFull
  else match r.refusalAt? r.taken with
    | some error => .refused error
    | none => .taken

def afterAnswer : Answer String → Recorder
  | .queueFull => r.scriptFulls r.taken (r.fullsAt r.taken - 1)
  | .taken => { r with taken := r.taken + 1 }
  | .refused _ => r

def offer (topic : String) (x : Record) : Answer String × Recorder :=
  (r.answer, (r.afterAnswer r.answer).record (.offer topic x r.answer))

def service (ms : Nat) : Recorder :=
  r.record (.service ms)

def flush : Option String × Recorder :=
  (r.flushFailure, r.record (.flush r.flushFailure))

theorem lookup_assign {α : Type} (script : List (Nat × α)) (p q : Nat) (a : α) :
    (assign script p a).lookup q = if q = p then some a else script.lookup q := by
  have hfilter : q ≠ p → (script.filter (·.1 ≠ p)).lookup q = script.lookup q := by
    intro hq
    induction script with
    | nil => rfl
    | cons e rest ih =>
      obtain ⟨k, v⟩ := e
      grind
  by_cases hq : q = p
  · simp [assign, hq]
  · have hne : (q == p) = false := by simpa using hq
    simp only [assign, List.lookup_cons, hne, hq, if_false]
    exact hfilter hq

theorem fullsAt_scriptFulls (p t q : Nat) :
    (r.scriptFulls p t).fullsAt q = if q = p then t else r.fullsAt q := by
  unfold fullsAt scriptFulls
  rw [lookup_assign]
  split <;> rfl

theorem refusalAt?_scriptRefusal (p : Nat) (error : String) (q : Nat) :
    (r.scriptRefusal p error).refusalAt? q = if q = p then some error else r.refusalAt? q :=
  lookup_assign r.refusals p q error

theorem fullsAt_offer (topic : String) (x : Record) (h : (r.offer topic x).1 = .queueFull) :
    (r.offer topic x).2.fullsAt (r.offer topic x).2.taken < r.fullsAt r.taken := by
  have ha : r.answer = .queueFull := h
  have hpos : 0 < r.fullsAt r.taken := by
    unfold answer at ha
    split at ha
    · assumption
    · split at ha <;> cases ha
  have hf := r.fullsAt_scriptFulls r.taken (r.fullsAt r.taken - 1) r.taken
  simp only [if_pos] at hf
  change (r.afterAnswer r.answer).fullsAt (r.afterAnswer r.answer).taken < _
  rw [ha]
  change (r.scriptFulls r.taken (r.fullsAt r.taken - 1)).fullsAt r.taken < _
  omega

def handle : FairHandle Recorder String where
  offer := offer
  service := service
  flush := flush
  fullsLeft := fun r => r.fullsAt r.taken
  fullsLeft_offer := fullsAt_offer
  fullsLeft_service := fun _ _ => Nat.le_refl _

def attempts : List (Message × Answer String) :=
  r.calls.filterMap fun
    | .offer topic x a => some (⟨topic, x⟩, a)
    | _ => none

def accepted : List Message :=
  r.attempts.filterMap fun (m, a) => if a = .taken then some m else none

def flushCount : Nat :=
  r.calls.countP fun
    | .flush _ => true
    | _ => false

end Recorder

end TestCluster
