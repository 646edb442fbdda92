import Mathlib.Data.List.Induction
import TestCluster.Shared

namespace TestCluster.Shared

variable {ε α β γ : Type}

inductive Work (β : Type)
  | done (b : β)
  | step (rest : Work β)

namespace Work

def bind : Work β → (β → Work γ) → Work γ
  | done b, f => f b
  | step rest, f => step (rest.bind f)

instance : Monad Work where
  pure := done
  bind := bind

def steps : Nat → Work β → Work β
  | 0, work => work
  | n + 1, work => step (steps n work)

def length : Work β → Nat
  | done _ => 0
  | step rest => rest.length + 1

def result : Work β → β
  | done b => b
  | step rest => rest.result

theorem bind_steps (n : Nat) (work : Work β) (f : β → Work γ) :
    (steps n work).bind f = steps n (work.bind f) := by
  induction n with
  | zero => rfl
  | succ n ih => simp [steps, bind, ih]

theorem steps_step (n : Nat) (work : Work β) : steps n (step work) = steps (n + 1) work := by
  induction n with
  | zero => rfl
  | succ n ih => exact congrArg step ih

theorem length_steps (n : Nat) (work : Work β) : (steps n work).length = n + work.length := by
  induction n with
  | zero => simp [steps]
  | succ n ih =>
    rw [steps, length, ih]
    omega

theorem result_steps (n : Nat) (work : Work β) : (steps n work).result = work.result := by
  induction n with
  | zero => rfl
  | succ n ih => rw [steps, result, ih]

end Work

/-- What a caller asks for. What is to be made takes at least one step. -/
inductive Request (ε α : Type)
  | use (effort : Nat) (outcome : Except ε α)
  | take

inductive Reply (ε α : Type)
  | given (result : Except ε α)
  | taken (thing : Option α)

def Request.work (s : Shared α) : Request ε α → Work (Reply ε α × Shared α)
  | use effort outcome => do
    let (result, s) ← s.use (Work.steps (effort + 1) (.done outcome))
    return (.given result, s)
  | take => return (.taken s.take.1, s.take.2)

theorem work_of_empty (effort : Nat) (outcome : Except ε α) :
    (Request.use effort outcome).work ⟨none⟩ =
      .steps (effort + 1) (.done (.given outcome, ⟨outcome.toOption⟩)) := by
  change ((Work.steps (effort + 1) (.done outcome)).bind _).bind _ = _
  rw [Work.bind_steps, Work.bind_steps]
  cases outcome <;> rfl

/-- A request that has been served, with the steps that were spent on making something for it. -/
structure Served (ε α : Type) where
  caller : Nat
  request : Request ε α
  spent : Nat
  reply : Reply ε α

structure Visit (ε α : Type) where
  caller : Nat
  request : Request ε α
  spent : Nat
  work : Work (Reply ε α × Shared α)

/-- The callers that wait for the lock, and the one that has it. -/
structure Room (ε α : Type) where
  shared : Shared α
  waiting : Nat → Option (Request ε α)
  inside : Option (Visit ε α)
  served : List (Served ε α)

inductive Turn (ε α : Type)
  | ask (caller : Nat) (q : Request ε α)
  | enter (caller : Nat)
  | proceed

namespace Room

def opened : Room ε α :=
  ⟨.empty, fun _ => none, none, []⟩

variable (r : Room ε α)

def setWaiting (caller : Nat) (q : Option (Request ε α)) : Nat → Option (Request ε α) :=
  fun c => if c = caller then q else r.waiting c

/-- A caller whose request is not yet served asks for nothing else. -/
def isBusy (caller : Nat) : Bool :=
  (r.waiting caller).isSome || r.inside.any (·.caller = caller)

/-- Whoever has the lock goes on with its own work, and all others can do is wait. -/
def on : Turn ε α → Room ε α
  | .ask caller q =>
    if r.isBusy caller then r else { r with waiting := r.setWaiting caller (some q) }
  | .enter caller =>
    match r.inside, r.waiting caller with
    | none, some q => { r with
        waiting := r.setWaiting caller none, inside := some ⟨caller, q, 0, q.work r.shared⟩ }
    | _, _ => r
  | .proceed =>
    match r.inside with
    | none => r
    | some v =>
      match v.work with
      | .step rest => { r with inside := some { v with spent := v.spent + 1, work := rest } }
      | .done (reply, s) => { r with
          shared := s, inside := none,
          served := r.served ++ [⟨v.caller, v.request, v.spent, reply⟩] }

def after (turns : List (Turn ε α)) : Room ε α :=
  turns.foldl on opened

end Room

/-- Requests that are served one after the other, each at once, and what they leave. -/
inductive Sequence : Shared α → List (Served ε α) → Shared α → Prop
  | nil (s : Shared α) : Sequence s [] s
  | cons {s t : Shared α} {e : Served ε α} {es : List (Served ε α)}
      (spent : e.spent = (e.request.work s).length)
      (reply : e.reply = (e.request.work s).result.1)
      (later : Sequence (e.request.work s).result.2 es t) : Sequence s (e :: es) t

theorem Sequence.append {s t u : Shared α} {es fs : List (Served ε α)} (h : Sequence s es t)
    (h' : Sequence t fs u) : Sequence s (es ++ fs) u := by
  induction h with
  | nil s => exact h'
  | cons spent reply later ih => exact .cons spent reply (ih h')

theorem Sequence.split {s u : Shared α} {es fs : List (Served ε α)}
    (h : Sequence s (es ++ fs) u) : ∃ t, Sequence s es t ∧ Sequence t fs u := by
  induction es generalizing s with
  | nil => exact ⟨s, .nil s, h⟩
  | cons e es ih =>
    cases h with
    | cons spent reply later =>
      obtain ⟨t, hes, hfs⟩ := ih later
      exact ⟨t, .cons spent reply hes, hfs⟩

/-- Whoever is inside has done a part of the work that its request is on the thing as it is. -/
structure Room.Orderly (r : Room ε α) : Prop where
  sequence : Sequence .empty r.served r.shared
  underway : ∀ v, r.inside = some v → v.request.work r.shared = .steps v.spent v.work

theorem Room.Orderly.on {r : Room ε α} (h : r.Orderly) (turn : Turn ε α) : (r.on turn).Orderly := by
  cases turn with
  | ask caller q =>
    by_cases hbusy : r.isBusy caller = true
    · simpa [Room.on, hbusy] using h
    · simp only [Room.on, hbusy]
      exact ⟨h.sequence, h.underway⟩
  | enter caller =>
    simp only [Room.on]
    split
    · refine ⟨h.sequence, ?_⟩
      rintro v hv
      cases hv
      rfl
    · exact h
  | proceed =>
    cases hinside : r.inside with
    | none => simpa [Room.on, hinside] using h
    | some v =>
      have hwork := h.underway v hinside
      cases hv : v.work with
      | step rest =>
        rw [hv, Work.steps_step] at hwork
        simp only [Room.on, hinside, hv]
        refine ⟨h.sequence, ?_⟩
        rintro v' hv'
        cases hv'
        exact hwork
      | done outcome =>
        obtain ⟨reply, s⟩ := outcome
        rw [hv] at hwork
        simp only [Room.on, hinside, hv]
        refine ⟨h.sequence.append (.cons ?_ ?_ ?_), nofun⟩
        · simp [hwork, Work.length_steps, Work.length]
        · simp [hwork, Work.result_steps, Work.result]
        · simpa [hwork, Work.result_steps, Work.result] using Sequence.nil s

theorem Room.orderly_after (turns : List (Turn ε α)) : (Room.after turns).Orderly := by
  have hfrom (r : Room ε α) (h : r.Orderly) : (turns.foldl Room.on r).Orderly := by
    induction turns generalizing r with
    | nil => exact h
    | cons turn turns ih => exact ih (r.on turn) (h.on turn)
  exact hfrom opened ⟨.nil _, nofun⟩

def Served.made? (e : Served ε α) : Option α :=
  match e.request, e.spent with
  | .use _ (.ok a), _ + 1 => some a
  | _, _ => none

def Served.isTake (e : Served ε α) : Bool :=
  match e.request with
  | .take => true
  | .use .. => false

/-- The thing has been made, and nobody has taken it away since. -/
def Stored (es : List (Served ε α)) (a : α) : Prop :=
  ∃ before e later, es = before ++ e :: later ∧ e.made? = some a ∧
    ∀ e' ∈ later, e'.isTake = false

theorem not_stored_nil (a : α) : ¬Stored ([] : List (Served ε α)) a := by
  rintro ⟨before, e, later, h, -⟩
  simp at h

theorem stored_concat_iff {es : List (Served ε α)} {e : Served ε α} {a : α} :
    Stored (es ++ [e]) a ↔ e.made? = some a ∨ e.isTake = false ∧ Stored es a := by
  constructor
  · rintro ⟨before, e', later, h, hmade, hkept⟩
    obtain rfl | ⟨later, last, rfl⟩ := List.eq_nil_or_concat later
    · obtain ⟨-, rfl⟩ := List.append_singleton_inj.mp h
      exact .inl hmade
    · rw [List.concat_eq_append, ← List.cons_append, ← List.append_assoc] at h
      obtain ⟨rfl, rfl⟩ := List.append_singleton_inj.mp h
      refine .inr ⟨hkept e (by simp), before, e', later, rfl, hmade, fun x hx => hkept x ?_⟩
      simp [hx]
  · rintro (hmade | ⟨htake, before, e', later, rfl, hmade, hkept⟩)
    · exact ⟨es, e, [], rfl, hmade, by simp⟩
    · refine ⟨before, e', later ++ [e], by simp, hmade, ?_⟩
      intro x hx
      obtain hx | hx := List.mem_append.mp hx
      · exact hkept x hx
      · rw [List.mem_singleton.mp hx]
        exact htake

/-- How a request is served, as the slot is full or empty. -/
inductive Meets : Shared α → Served ε α → Shared α → Prop
  | found (caller effort : Nat) (outcome : Except ε α) (a : α) :
    Meets ⟨some a⟩ ⟨caller, .use effort outcome, 0, .given (.ok a)⟩ ⟨some a⟩
  | made (caller effort : Nat) (a : α) :
    Meets ⟨none⟩ ⟨caller, .use effort (.ok a), effort + 1, .given (.ok a)⟩ ⟨some a⟩
  | failed (caller effort : Nat) (error : ε) :
    Meets ⟨none⟩ ⟨caller, .use effort (.error error), effort + 1, .given (.error error)⟩ ⟨none⟩
  | taken (caller : Nat) (slot : Option α) :
    Meets ⟨slot⟩ ⟨caller, .take, 0, .taken slot⟩ ⟨none⟩

theorem Sequence.meets {s u : Shared α} {e : Served ε α} {es : List (Served ε α)}
    (h : Sequence s (e :: es) u) : ∃ t, Meets s e t ∧ Sequence t es u := by
  obtain ⟨caller, request, spent, reply⟩ := e
  obtain ⟨slot⟩ := s
  cases h with
  | cons hspent hreply later =>
    refine ⟨_, ?_, later⟩
    dsimp only at hspent hreply
    subst hspent hreply
    cases request with
    | take => exact .taken caller slot
    | use effort outcome =>
      cases slot with
      | some a => exact .found caller effort outcome a
      | none =>
        rw [work_of_empty, Work.length_steps, Work.result_steps]
        cases outcome with
        | ok a => exact .made caller effort a
        | error error => exact .failed caller effort error

theorem Sequence.slot_iff {es : List (Served ε α)} {t : Shared α} (h : Sequence .empty es t)
    (a : α) : t.slot = some a ↔ Stored es a := by
  -- From the end of the list: what is stored hangs on the last request first.
  induction es using List.reverseRecOn generalizing t a with
  | nil =>
    cases h
    simp [empty, not_stored_nil]
  | append_singleton es e ih =>
    obtain ⟨s, hes, he⟩ := h.split
    obtain ⟨t', hmeets, hnil⟩ := he.meets
    cases hnil
    rw [stored_concat_iff, ← ih hes]
    cases hmeets <;> simp [Served.made?, Served.isTake]

/-- A success fills the slot, so that there is one at most unless the thing is taken away. -/
theorem Sequence.length_made {s t : Shared α} {es : List (Served ε α)} (h : Sequence s es t)
    (hkept : ∀ e ∈ es, e.isTake = false) :
    s.slot.toList.length + (es.filterMap Served.made?).length = t.slot.toList.length := by
  induction es generalizing s with
  | nil =>
    cases h
    rfl
  | cons e es ih =>
    obtain ⟨u, hmeets, hlater⟩ := h.meets
    have hrest := ih hlater fun e' he' => hkept e' (List.mem_cons_of_mem e he')
    have he := hkept e List.mem_cons_self
    cases hmeets with
    | taken caller slot => cases he
    | found caller effort outcome a => simpa [Served.made?] using hrest
    | made caller effort a =>
      rw [List.filterMap_cons_some (f := Served.made?) rfl, List.length_cons, ← hrest]
      simp [Nat.add_comm]
    | failed caller effort error => simpa [Served.made?, List.filterMap_cons] using hrest

/-- What callers can rely on, whatever else is asked for between their requests. -/
structure MadeOnce (es : List (Served ε α)) : Prop where
  /-- Something is made for a request exactly when nothing is stored. -/
  ran : ∀ before e later effort outcome, es = before ++ e :: later →
    e.request = .use effort outcome → (0 < e.spent ↔ ∀ a, ¬Stored before a)
  own : ∀ e ∈ es, ∀ effort outcome, e.request = .use effort outcome → 0 < e.spent →
    e.spent = effort + 1 ∧ e.reply = .given outcome
  failed : ∀ before e later error, es = before ++ e :: later → e.reply = .given (.error error) →
    0 < e.spent ∧ (∃ effort, e.request = .use effort (.error error)) ∧
      ∀ a, ¬Stored (before ++ [e]) a
  found : ∀ before e later effort outcome a, es = before ++ e :: later →
    e.request = .use effort outcome → Stored before a → e.reply = .given (.ok a)
  taken : ∀ before e later, es = before ++ e :: later → e.request = .take →
    (∃ slot, e.reply = .taken slot ∧ ∀ a, slot = some a ↔ Stored before a) ∧
      ∀ a, ¬Stored (before ++ [e]) a
  once : ∀ before during later, es = before ++ during ++ later →
    (∀ e ∈ during, e.isTake = false) → (during.filterMap Served.made?).length ≤ 1

theorem Sequence.meets_at {before later : List (Served ε α)} {e : Served ε α} {u : Shared α}
    (h : Sequence .empty (before ++ e :: later) u) :
    ∃ s t, Meets s e t ∧ (∀ a, s.slot = some a ↔ Stored before a) ∧
      ∀ a, t.slot = some a ↔ Stored (before ++ [e]) a := by
  have h' : Sequence .empty (before ++ [e] ++ later) u := by simpa using h
  obtain ⟨t, hupto, -⟩ := h'.split
  obtain ⟨s, hbefore, he⟩ := hupto.split
  obtain ⟨t', hmeets, hnil⟩ := he.meets
  cases hnil
  exact ⟨s, t, hmeets, hbefore.slot_iff, hupto.slot_iff⟩

theorem Sequence.madeOnce {es : List (Served ε α)} {u : Shared α} (h : Sequence .empty es u) :
    MadeOnce es where
  ran := by
    rintro before e later effort outcome rfl he
    obtain ⟨s, t, hmeets, hs, -⟩ := h.meets_at
    cases hmeets with
    | taken caller slot => cases he
    | _ => simp [← hs]
  own := by
    intro e he effort outcome hrequest hspent
    obtain ⟨before, later, rfl⟩ := List.append_of_mem he
    obtain ⟨s, t, hmeets, -, -⟩ := h.meets_at
    cases hmeets <;> cases hrequest
    · simp at hspent
    · exact ⟨rfl, rfl⟩
    · exact ⟨rfl, rfl⟩
  failed := by
    rintro before e later error rfl hreply
    obtain ⟨s, t, hmeets, -, ht⟩ := h.meets_at
    cases hmeets <;> cases hreply
    simp [← ht]
  found := by
    rintro before e later effort outcome a rfl hrequest hstored
    obtain ⟨s, t, hmeets, hs, -⟩ := h.meets_at
    have hslot := (hs a).mpr hstored
    cases hmeets <;> cases hrequest <;> cases hslot
    rfl
  taken := by
    rintro before e later rfl hrequest
    obtain ⟨s, t, hmeets, hs, ht⟩ := h.meets_at
    cases hmeets <;> cases hrequest
    exact ⟨⟨_, rfl, hs⟩, by simp [← ht]⟩
  once := by
    rintro before during later rfl hkept
    obtain ⟨t, hupto, -⟩ := h.split
    obtain ⟨s, -, hduring⟩ := hupto.split
    have hlength := hduring.length_made hkept
    have hslot : t.slot.toList.length ≤ 1 := by cases t.slot <;> simp
    omega

end TestCluster.Shared
