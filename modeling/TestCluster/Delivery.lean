import TestCluster.Event
import TestCluster.Seed

namespace TestCluster

/-- How a client answers an offered record. -/
inductive Answer (ε : Type)
  | taken
  | queueFull
  | refused (error : ε)
  deriving DecidableEq, Repr

/-- A client that takes records for asynchronous delivery. `σ` is all that its later answers
can depend on. -/
structure Handle (σ ε : Type) where
  offer : σ → String → Record → Answer ε × σ
  service : σ → Nat → σ
  flush : σ → Option ε × σ

/-- A handle that can turn a record away only so often before it takes or refuses it. -/
structure FairHandle (σ ε : Type) extends Handle σ ε where
  fullsLeft : σ → Nat
  fullsLeft_offer : ∀ s topic record,
    (offer s topic record).1 = .queueFull → fullsLeft (offer s topic record).2 < fullsLeft s
  fullsLeft_service : ∀ s ms, fullsLeft (service s ms) ≤ fullsLeft s

/-- How long the handle is served after every offer, and again after a full queue. -/
structure Pacing where
  poll : Nat
  backOff : Nat
  deriving DecidableEq, Repr

namespace Delivery

variable {σ ε : Type}

inductive Call (ε : Type)
  | offer (topic : String) (record : Record) (answer : Answer ε)
  | service (ms : Nat)
  | flush (failure : Option ε)
  deriving DecidableEq, Repr

inductive Note (ε : Type)
  | call (c : Call ε)
  | event (e : Event)
  deriving DecidableEq, Repr

def Note.call? : Note ε → Option (Call ε)
  | .call c => some c
  | .event _ => none

def Note.event? : Note ε → Option Event
  | .call _ => none
  | .event e => some e

/-- The call that is due, with the records that are still to be taken. -/
inductive Phase (ε : Type)
  | offer (record : Record) (rest : List Record)
  | afterTaken (rest : List Record)
  | afterFull (record : Record) (rest : List Record)
  | backOff (record : Record) (rest : List Record)
  | afterRefused (error : ε)
  | flush

inductive Stage (ε : Type)
  | live (phase : Phase ε)
  | done (result : Except ε Nat)

structure Progress (σ ε : Type) where
  notes : List (Note ε)
  stage : Stage ε
  state : σ

structure Outcome (σ ε : Type) where
  notes : List (Note ε)
  result : Except ε Nat
  state : σ

def Phase.ofRecords : List Record → Phase ε
  | [] => .flush
  | r :: rest => .offer r rest

def Phase.pending : Phase ε → Nat
  | .offer _ rest | .afterFull _ rest | .backOff _ rest => rest.length + 1
  | .afterTaken rest => rest.length
  | .afterRefused _ | .flush => 0

def Phase.rank : Phase ε → Nat
  | .afterTaken _ | .afterFull .. => 3
  | .backOff .. => 2
  | .offer .. | .afterRefused _ | .flush => 1

end Delivery

open Delivery

structure Delivery where
  topic : String
  seed : Seed
  pacing : Pacing

namespace Delivery

variable {σ ε : Type} (d : Delivery)

/-- One call on the handle and the events around it. -/
def step (h : Handle σ ε) (s : σ) : Phase ε → Progress σ ε
  | .offer r rest =>
    ⟨[.call (.offer d.topic r (h.offer s d.topic r).1)],
      match (h.offer s d.topic r).1 with
      | .taken => .live (.afterTaken rest)
      | .queueFull => .live (.afterFull r rest)
      | .refused e => .live (.afterRefused e),
      (h.offer s d.topic r).2⟩
  | .afterTaken rest =>
    ⟨[.call (.service d.pacing.poll)], .live (.ofRecords rest), h.service s d.pacing.poll⟩
  | .afterFull r rest =>
    ⟨[.call (.service d.pacing.poll), .event (.retrying d.topic (d.seed.size - (rest.length + 1)))],
      .live (.backOff r rest), h.service s d.pacing.poll⟩
  | .backOff r rest =>
    ⟨[.call (.service d.pacing.backOff)], .live (.offer r rest), h.service s d.pacing.backOff⟩
  | .afterRefused e =>
    ⟨[.call (.service d.pacing.poll)], .done (.error e), h.service s d.pacing.poll⟩
  | .flush =>
    match h.flush s with
    | (some e, s) => ⟨[.call (.flush (some e))], .done (.error e), s⟩
    | (none, s) =>
      ⟨[.call (.flush none), .event (.delivered d.topic d.seed.size)], .done (.ok d.seed.size), s⟩

def first : Phase ε :=
  .ofRecords d.seed.records

def announcement : Note ε :=
  .event (.delivering d.topic d.seed.size)

/-- The first `n` calls of a run, whether or not it has ended by then. -/
def advance (h : Handle σ ε) : Nat → Stage ε → σ → Progress σ ε
  | 0, stage, s => ⟨[], stage, s⟩
  | _ + 1, .done r, s => ⟨[], .done r, s⟩
  | n + 1, .live p, s =>
    let now := d.step h s p
    let later := advance h n now.stage now.state
    { later with notes := now.notes ++ later.notes }

theorem step_decreases (h : FairHandle σ ε) (s : σ) (p q : Phase ε)
    (hq : (d.step h.toHandle s p).stage = .live q) :
    Prod.Lex (· < ·) (Prod.Lex (· < ·) (· < ·))
      (q.pending, h.fullsLeft (d.step h.toHandle s p).state, q.rank)
      (p.pending, h.fullsLeft s, p.rank) := by
  have lower (m n : Nat) (i j : Nat) (hmn : m ≤ n) (hij : i < j) :
      Prod.Lex (· < ·) (· < ·) (m, i) (n, j) := by
    rcases Nat.lt_or_eq_of_le hmn with hlt | rfl
    · exact .left _ _ hlt
    · exact .right _ hij
  cases p with
  | offer r rest =>
    simp only [step] at hq ⊢
    split at hq
    · cases hq; exact .left _ _ (by simp [Phase.pending])
    · rename_i hfull
      cases hq
      exact .right _ (.left _ _ (h.fullsLeft_offer s _ _ hfull))
    · cases hq; exact .left _ _ (by simp [Phase.pending])
  | afterTaken rest =>
    cases hq
    cases rest <;> exact .right _ (lower _ _ _ _ (h.fullsLeft_service s _) (by simp [Phase.rank, Phase.ofRecords]))
  | afterFull r rest | backOff r rest =>
    cases hq
    exact .right _ (lower _ _ _ _ (h.fullsLeft_service s _) (by simp [Phase.rank]))
  | afterRefused e => cases hq
  | flush => simp only [step] at hq; split at hq <;> cases hq

/-- A run to its end. -/
def conclude (h : FairHandle σ ε) (p : Phase ε) (s : σ) : Outcome σ ε :=
  match _ : (d.step h.toHandle s p).stage with
  | .done r => ⟨(d.step h.toHandle s p).notes, r, (d.step h.toHandle s p).state⟩
  | .live q =>
    let later := conclude h q (d.step h.toHandle s p).state
    { later with notes := (d.step h.toHandle s p).notes ++ later.notes }
termination_by (p.pending, h.fullsLeft s, p.rank)
decreasing_by exact d.step_decreases h s p _ ‹_›

/-- Offer every record in order, each again until it is taken, then flush. -/
def run (h : FairHandle σ ε) (s : σ) : Outcome σ ε :=
  let outcome := d.conclude h d.first s
  { outcome with notes := d.announcement :: outcome.notes }

end Delivery

end TestCluster
