import TestCluster.Fixture.Basic

namespace TestCluster

variable {w α β : Type}

def Note.isHookCall : Note → Bool
  | .waited _ | .asked .. | .stopped _ => true
  | _ => false

def Session.log (s : Session w) : List Note :=
  s.notes.filter Note.isHookCall

def Session.noted (q : Note → Bool) (s : Session w) : List Note :=
  s.notes.filter q

/-- A sort of notes that has nothing to do with events and sleeps. -/
structure Note.Apart (q : Note → Bool) : Prop where
  event : ∀ e, q (.event e) = false
  slept : ∀ ms, q (.slept ms) = false

theorem Note.apart_isHookCall : Apart isHookCall :=
  ⟨fun _ => rfl, fun _ => rfl⟩

namespace Act

def on (a : Act w α) (s : Session w) : Except Failure α × Session w :=
  a.run.run s

theorem on_bind (a : Act w α) (f : α → Act w β) (s : Session w) :
    (a >>= f).on s = match a.on s with
      | (.ok x, t) => (f x).on t
      | (.error e, t) => (.error e, t) := by
  change ExceptT.bindCont f (a.on s).1 (a.on s).2 = _
  cases h : a.on s with
  | mk x t => cases x <;> rfl

theorem on_bind_ok {a : Act w α} {f : α → Act w β} {s t : Session w} {x : α}
    (h : a.on s = (.ok x, t)) : (a >>= f).on s = (f x).on t := by
  rw [on_bind, h]

theorem on_bind_error {a : Act w α} {f : α → Act w β} {s t : Session w} {e : Failure}
    (h : a.on s = (.error e, t)) : (a >>= f).on s = (.error e, t) := by
  rw [on_bind, h]

theorem on_bind_assoc {γ : Type} (a : Act w α) (f : α → Act w β) (g : β → Act w γ)
    (s : Session w) : (a >>= f >>= g).on s = (a >>= fun x => f x >>= g).on s := by
  rw [on_bind, on_bind, on_bind]
  cases a.on s with
  | mk r t =>
    cases r with
    | ok x => exact (on_bind (f x) g t).symm
    | error e => rfl

theorem on_get (s : Session w) : (get : Act w (Session w)).on s = (.ok s, s) := rfl

theorem on_modify (f : Session w → Session w) (s : Session w) :
    (modify f : Act w Unit).on s = (.ok (), f s) := rfl

theorem on_modifyGet (f : Session w → α × Session w) (s : Session w) :
    (modifyGet f : Act w α).on s = (.ok (f s).1, (f s).2) := rfl

theorem on_note (n : Note) (s : Session w) :
    (note n).on s = (.ok (), { s with notes := s.notes ++ [n] }) := rfl

theorem on_emit (e : Event) (s : Session w) :
    (emit e).on s = (.ok (), { s with notes := s.notes ++ [.event e] }) := rfl

theorem on_onWorld (f : w → α × w) (s : Session w) :
    (onWorld f).on s = (.ok (f s.world).1, { s with world := (f s.world).2 }) := rfl

theorem on_ofExcept (r : Except Failure α) (s : Session w) : (ofExcept r).on s = (r, s) := by
  cases r <;> rfl

theorem on_attempt (a : Act w α) (s : Session w) :
    (attempt a).on s = (.ok (a.on s).1, (a.on s).2) := rfl

theorem on_hook (h : Hook w) (s : Session w) :
    (hook h).on s = ((h s.world).result, { s with
      world := (h s.world).world, notes := s.notes ++ (h s.world).remarks.map Remark.note }) := by
  unfold hook
  rw [on_bind, on_modifyGet]
  exact on_ofExcept _ _

section

def Silent (q : Note → Bool) (a : Act w α) : Prop :=
  ∀ s, (a.on s).2.noted q = s.noted q

variable {q : Note → Bool}

theorem silent_pure (x : α) : Silent q (pure x : Act w α) :=
  fun _ => rfl

theorem silent_throw (e : Failure) : Silent q (throw e : Act w α) :=
  fun _ => rfl

theorem Silent.bind {a : Act w α} {f : α → Act w β} (ha : Silent q a) (hf : ∀ x, Silent q (f x)) :
    Silent q (a >>= f) := by
  intro s
  rw [on_bind]
  have hs := ha s
  cases h : a.on s with
  | mk r t =>
    rw [h] at hs
    cases r with
    | ok x => exact (hf x t).trans hs
    | error e => exact hs

theorem silent_ofExcept (r : Except Failure α) : Silent q (ofExcept r : Act w α) := by
  cases r with
  | ok x => exact silent_pure x
  | error e => exact silent_throw e

theorem noted_note (n : Note) (s : Session w) :
    ((note n).on s).2.noted q = s.noted q ++ [n].filter q :=
  List.filter_append ..

theorem silent_note {n : Note} (hn : q n = false) : Silent q (note n : Act w Unit) := by
  intro s
  rw [noted_note]
  simp [hn]

theorem silent_onWorld (f : w → α × w) : Silent q (onWorld f) :=
  fun _ => rfl

theorem silent_hook (hq : Note.Apart q) (h : Hook w) : Silent q (hook h) := by
  intro s
  rw [on_hook]
  have hnone : ((h s.world).remarks.map Remark.note).filter q = [] := by
    rw [List.filter_eq_nil_iff]
    intro n hn
    obtain ⟨r, -, rfl⟩ := List.mem_map.mp hn
    cases r with
    | event e => simp [Remark.note, hq.event]
    | slept ms => simp [Remark.note, hq.slept]
  unfold Session.noted
  rw [List.filter_append, hnone, List.append_nil]

end

theorem log_note (n : Note) (s : Session w) :
    ((note n).on s).2.log = s.log ++ if n.isHookCall then [n] else [] := by
  apply (noted_note n s).trans
  cases hn : n.isHookCall <;> simp [hn, Session.noted, Session.log]

theorem log_hook (h : Hook w) (s : Session w) : ((hook h).on s).2.log = s.log :=
  silent_hook Note.apart_isHookCall h s

theorem on_noted_hook {n : Note} (hn : n.isHookCall = true) (h : Hook w) (s : Session w) :
    ∃ t : Session w, (do note n; hook h : Act w Unit).on s = ((h s.world).result, t) ∧
      t.log = s.log ++ [n] ∧ t.world = (h s.world).world ∧ t.drawn = s.drawn := by
  have hnote := log_note n s
  rw [hn] at hnote
  rw [on_bind_ok (on_note n s), on_hook]
  refine ⟨_, rfl, ?_, rfl, rfl⟩
  have hlog := log_hook h { s with notes := s.notes ++ [n] }
  rw [on_hook] at hlog
  exact hlog.trans hnote

/-- An act that calls no hook. It may draw suffixes. -/
structure Keeps (a : Act w α) : Prop where
  log : ∀ s, (a.on s).2.log = s.log
  drawn : ∀ s, s.drawn ≤ (a.on s).2.drawn

theorem keeps_pure (x : α) : Keeps (w := w) (pure x) :=
  ⟨fun _ => rfl, fun _ => Nat.le_refl _⟩

theorem keeps_throw (e : Failure) : Keeps (w := w) (α := α) (throw e) :=
  ⟨fun _ => rfl, fun _ => Nat.le_refl _⟩

theorem keeps_get : Keeps (get : Act w (Session w)) :=
  ⟨fun _ => rfl, fun _ => Nat.le_refl _⟩

theorem Keeps.bind {a : Act w α} {f : α → Act w β} (ha : Keeps a) (hf : ∀ x, Keeps (f x)) :
    Keeps (a >>= f) := by
  have hsilent : Silent Note.isHookCall (a >>= f) := Silent.bind ha.log fun x => (hf x).log
  refine ⟨hsilent, fun s => ?_⟩
  rw [on_bind]
  have hs := ha.drawn s
  cases h : a.on s with
  | mk r t =>
    rw [h] at hs
    cases r with
    | ok x => exact Nat.le_trans hs ((hf x).drawn t)
    | error e => exact hs

theorem Keeps.attempt {a : Act w α} (ha : Keeps a) : Keeps (attempt a) :=
  ⟨ha.log, ha.drawn⟩

theorem keeps_modify {f : Session w → Session w} (hn : ∀ s, (f s).notes = s.notes)
    (hd : ∀ s, s.drawn ≤ (f s).drawn) : Keeps (modify f : Act w Unit) := by
  refine ⟨fun s => ?_, hd⟩
  rw [on_modify]
  unfold Session.log
  rw [hn]

theorem keeps_modifyGet {f : Session w → α × Session w} (hn : ∀ s, (f s).2.notes = s.notes)
    (hd : ∀ s, s.drawn ≤ (f s).2.drawn) : Keeps (modifyGet f : Act w α) := by
  refine ⟨fun s => ?_, hd⟩
  rw [on_modifyGet]
  unfold Session.log
  rw [hn]

theorem keeps_note {n : Note} (hn : n.isHookCall = false) : Keeps (w := w) (note n) := by
  have hsilent : Silent Note.isHookCall (note n : Act w Unit) := silent_note hn
  exact ⟨hsilent, fun _ => Nat.le_refl _⟩

theorem keeps_emit (e : Event) : Keeps (w := w) (emit e) :=
  keeps_note rfl

theorem keeps_onWorld (f : w → α × w) : Keeps (onWorld f) :=
  ⟨fun _ => rfl, fun _ => Nat.le_refl _⟩

theorem keeps_ofExcept (r : Except Failure α) : Keeps (w := w) (ofExcept r) := by
  cases r with
  | ok x => exact keeps_pure x
  | error e => exact keeps_throw e

theorem keeps_forM {f : α → Act w Unit} (hf : ∀ x, Keeps (f x)) (xs : List α) :
    Keeps (xs.forM f) := by
  induction xs with
  | nil => exact keeps_pure ()
  | cons x xs ih => exact (hf x).bind fun _ => ih

end Act

open Act

variable (p : Platform w)

theorem Platform.on_makeClient! (kind : Client.Kind) (properties : Properties) (s : Session w) :
    (p.makeClient! kind properties).on s =
      match p.makeClient kind properties s.world with
      | (some e, world) => (.error (.client e), { s with world := world })
      | (none, world) => (.ok ⟨s.made, kind, properties⟩,
          { s with world := world, made := s.made + 1, notes := s.notes ++ [.made kind] }) := by
  unfold makeClient!
  rw [on_bind, on_onWorld]
  cases p.makeClient kind properties s.world with
  | mk failure world => cases failure <;> rfl

theorem Platform.keeps_makeClient! (kind : Client.Kind) (properties : Properties) :
    Keeps (p.makeClient! kind properties) := by
  apply (keeps_onWorld _).bind
  intro failure
  cases failure with
  | some e => exact keeps_throw _
  | none =>
    apply (keeps_modifyGet (fun _ => rfl) fun _ => Nat.le_refl _).bind
    exact fun _ => (keeps_note rfl).bind fun _ => keeps_pure _

theorem Platform.on_drawSuffix (s : Session w) :
    p.drawSuffix.on s = (.ok (p.suffix s.drawn), { s with drawn := s.drawn + 1 }) := rfl

theorem Platform.keeps_drawSuffix : Keeps p.drawSuffix :=
  keeps_modifyGet (fun _ => rfl) fun s => Nat.le_add_right s.drawn 1

namespace Fixture

variable (f : Fixture w)

theorem keeps_client (kind : Client.Kind) (overrides : Overrides) :
    Keeps (f.client kind overrides) := by
  unfold client
  split
  · exact f.platform.keeps_drawSuffix.bind fun _ => f.platform.keeps_makeClient! _ _
  · exact f.platform.keeps_makeClient! _ _

theorem keeps_makeAdmin : Keeps f.makeAdmin :=
  (keeps_emit _).bind fun _ => f.platform.keeps_makeClient! _ _

theorem keeps_makeSeeder : Keeps f.makeSeeder :=
  (keeps_emit _).bind fun _ => f.platform.keeps_makeClient! _ _

theorem use_on_some {slot : Shared Client} {client : Client} (h : slot.slot = some client)
    (make : Act w Client) (s : Session w) :
    (slot.use (attempt make)).on s = (.ok (.ok client, slot), s) := by
  unfold Shared.use
  rw [h]
  rfl

theorem use_on_none {slot : Shared Client} (h : slot.slot = none) (make : Act w Client)
    (s : Session w) :
    (slot.use (attempt make)).on s = match make.on s with
      | (.ok client, t) => (.ok (.ok client, ⟨some client⟩), t)
      | (.error e, t) => (.ok (.error e, slot), t) := by
  unfold Shared.use
  rw [h]
  dsimp only
  rw [on_bind_ok (on_attempt make s)]
  cases hm : make.on s with
  | mk r t => cases r <;> rfl

theorem keeps_use (slot : Shared Client) {make : Act w Client} (hm : Keeps make) :
    Keeps (slot.use (attempt make)) := by
  unfold Shared.use
  split
  · exact keeps_pure _
  · apply hm.attempt.bind
    intro r
    cases r <;> exact keeps_pure _

theorem keeps_admin : Keeps f.admin := by
  apply keeps_get.bind
  intro s
  apply (keeps_use s.admin f.keeps_makeAdmin).bind
  rintro ⟨client, slot⟩
  apply Keeps.bind
  · exact keeps_modify (fun _ => rfl) fun _ => Nat.le_refl _
  · exact fun _ => keeps_ofExcept _

theorem keeps_seeder : Keeps f.seeder := by
  apply keeps_get.bind
  intro s
  apply (keeps_use s.seeder f.keeps_makeSeeder).bind
  rintro ⟨client, slot⟩
  apply Keeps.bind
  · exact keeps_modify (fun _ => rfl) fun _ => Nat.le_refl _
  · exact fun _ => keeps_ofExcept _

theorem keeps_deliver (client : Client) (d : Delivery) : Keeps (f.deliver client d) := by
  apply (keeps_onWorld _).bind
  intro outcome
  exact (keeps_forM keeps_emit _).bind fun _ => keeps_ofExcept _

theorem keeps_seedTopic (topic : String) (seed : Option Seed) : Keeps (f.seedTopic topic seed) :=
  f.keeps_seeder.bind fun client => f.keeps_deliver client _

end Fixture

end TestCluster
