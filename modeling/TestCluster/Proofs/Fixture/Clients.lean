import TestCluster.Proofs.Fixture.Lifecycle
import TestCluster.Proofs.Shared

namespace TestCluster

open Act

variable {w α β : Type}

def Note.isMade (kind : Client.Kind) : Note → Bool
  | .made kind' => kind' = kind
  | _ => false

theorem Note.apart_isMade (kind : Client.Kind) : Apart (isMade kind) :=
  ⟨fun _ => rfl, fun _ => rfl⟩

def Session.count (kind : Client.Kind) (s : Session w) : Nat :=
  (s.noted (Note.isMade kind)).length

inductive Role
  | admin
  | seeder
  deriving DecidableEq

namespace Role

variable (f : Fixture w)

def kind : Role → Client.Kind
  | admin => .admin
  | seeder => .producer

def properties : Role → Properties
  | admin => f.clientProperties []
  | seeder => f.seederProperties

def announcement : Role → Event
  | admin => .creatingAdmin
  | seeder => .creatingSeeder f.config.seed.linger.toNat

def make : Role → Act w Client
  | admin => f.makeAdmin
  | seeder => f.makeSeeder

/-- The client that is kept for a role, which is made if there is none yet. -/
def client : Role → Act w Client
  | admin => f.admin
  | seeder => f.seeder

def slot (s : Session w) : Role → Option Client
  | admin => s.admin.slot
  | seeder => s.seeder.slot

def fill (c : Option Client) (s : Session w) : Role → Session w
  | admin => { s with admin := ⟨c⟩ }
  | seeder => { s with seeder := ⟨c⟩ }

def fresh (s : Session w) (role : Role) : Client :=
  ⟨s.made, role.kind, role.properties f⟩

variable {f} {role : Role} {s : Session w}

theorem fill_slot (s : Session w) : role.fill (role.slot s) s = s := by
  cases role <;> rfl

theorem slot_fill (c : Option Client) (s : Session w) : role.slot (role.fill c s) = c := by
  cases role <;> rfl

theorem noted_fill (q : Note → Bool) (c : Option Client) (s : Session w) :
    (role.fill c s).noted q = s.noted q := by
  cases role <;> rfl

theorem make_on :
    (role.make f).on s =
      match f.platform.makeClient role.kind (role.properties f) s.world with
      | (some e, world) => (.error (.client e),
          { s with world := world, notes := s.notes ++ [.event (role.announcement f)] })
      | (none, world) => (.ok (role.fresh f s), { s with
          world := world, made := s.made + 1,
          notes := s.notes ++ [.event (role.announcement f)] ++ [.made role.kind] }) := by
  cases role with
  | admin => exact (on_bind_ok (on_emit _ s)).trans (f.platform.on_makeClient! _ _ _)
  | seeder => exact (on_bind_ok (on_emit _ s)).trans (f.platform.on_makeClient! _ _ _)

theorem client_of_full {c : Client} (h : role.slot s = some c) :
    (role.client f).on s = (.ok c, s) := by
  cases role with
  | admin => exact on_bind_ok (Fixture.use_on_some h f.makeAdmin s)
  | seeder => exact on_bind_ok (Fixture.use_on_some h f.makeSeeder s)

theorem client_of_empty (h : role.slot s = none) :
    (role.client f).on s = match (role.make f).on s with
      | (.ok c, t) => (.ok c, role.fill (some c) t)
      | (.error e, t) => (.error e, role.fill none t) := by
  have hempty : s = role.fill none s := by
    cases role <;> simp only [fill, ← h] <;> rfl
  rw [hempty]
  cases role with
  | admin =>
    have hnone : (admin.fill none s).admin.slot = none := rfl
    simp only [client, make, Fixture.admin]
    rw [on_bind_ok (on_get _), on_bind, Fixture.use_on_none hnone]
    cases f.makeAdmin.on (admin.fill none s) with
    | mk r t => cases r <;> rfl
  | seeder =>
    have hnone : (seeder.fill none s).seeder.slot = none := rfl
    simp only [client, make, Fixture.seeder]
    rw [on_bind_ok (on_get _), on_bind, Fixture.use_on_none hnone]
    cases f.makeSeeder.on (seeder.fill none s) with
    | mk r t => cases r <;> rfl

theorem client_of_made {world : w} (h : role.slot s = none)
    (hmake : f.platform.makeClient role.kind (role.properties f) s.world = (none, world)) :
    ∃ t, (role.client f).on s = (.ok (role.fresh f s), t) ∧
      role.slot t = some (role.fresh f s) ∧ t.count role.kind = s.count role.kind + 1 := by
  rw [client_of_empty h, make_on, hmake]
  refine ⟨_, rfl, slot_fill _ _, ?_⟩
  rw [Session.count, noted_fill]
  simp [Session.count, Session.noted, Note.isMade]

theorem client_of_failed {world : w} {e : ClientError} (h : role.slot s = none)
    (hmake : f.platform.makeClient role.kind (role.properties f) s.world = (some e, world)) :
    ∃ t, (role.client f).on s = (.error (.client e), t) ∧ role.slot t = none ∧ t.world = world ∧
      t.count role.kind = s.count role.kind := by
  rw [client_of_empty h, make_on, hmake]
  refine ⟨_, rfl, slot_fill _ _, ?_, ?_⟩
  · cases role <;> rfl
  · rw [Session.count, noted_fill]
    simp [Session.count, Session.noted, Note.isMade]

section

variable {q : Note → Bool}

theorem silent_make (hq : Note.Apart q) (hmade : q (.made role.kind) = false) :
    Silent q (role.make f) := by
  intro s
  rw [make_on]
  cases f.platform.makeClient role.kind (role.properties f) s.world with
  | mk failure world =>
    cases failure with
    | none => simp [Session.noted, hq.event, hmade]
    | some e => simp [Session.noted, hq.event]

theorem silent_client (hq : Note.Apart q) (hmade : q (.made role.kind) = false) :
    Silent q (role.client f) := by
  intro s
  have hmake : Silent q (role.make f) := silent_make hq hmade
  have hs := hmake s
  cases h : role.slot s with
  | some c => rw [client_of_full h]
  | none =>
    rw [client_of_empty h]
    cases hon : (role.make f).on s with
    | mk r t =>
      rw [hon] at hs
      cases r <;> exact (noted_fill ..).trans hs

end

/-- An act that has nothing to do with the client of a role: it neither makes one nor cares whether
there is one. -/
structure Spares (role : Role) (a : Act w α) : Prop where
  on_fill : ∀ c s, a.on (role.fill c s) = ((a.on s).1, role.fill c (a.on s).2)
  silent : Silent (Note.isMade role.kind) a

theorem Spares.slot {a : Act w α} (ha : Spares role a) (s : Session w) :
    role.slot (a.on s).2 = role.slot s := by
  have h := ha.on_fill (role.slot s) s
  rw [fill_slot] at h
  rw [h, slot_fill]

theorem Spares.count {a : Act w α} (ha : Spares role a) (s : Session w) :
    (a.on s).2.count role.kind = s.count role.kind :=
  congrArg List.length (ha.silent s)

theorem spares_pure (x : α) : Spares role (pure x : Act w α) :=
  ⟨fun _ _ => rfl, silent_pure x⟩

theorem Spares.bind {a : Act w α} {g : α → Act w β} (ha : Spares role a)
    (hg : ∀ x, Spares role (g x)) : Spares role (a >>= g) := by
  refine ⟨fun c s => ?_, ha.silent.bind fun x => (hg x).silent⟩
  rw [on_bind, on_bind, ha.on_fill c s]
  cases a.on s with
  | mk r t =>
    cases r with
    | ok x => exact (hg x).on_fill c t
    | error e => rfl

theorem spares_ofExcept (r : Except Failure α) : Spares role (Act.ofExcept r : Act w α) := by
  refine ⟨fun c s => ?_, silent_ofExcept r⟩
  rw [on_ofExcept, on_ofExcept]

theorem spares_note {n : Note} (hn : n.isMade role.kind = false) :
    Spares role (note n : Act w Unit) := by
  refine ⟨fun c s => ?_, silent_note hn⟩
  cases role <;> rfl

theorem spares_emit (e : Event) : Spares role (emit e : Act w Unit) :=
  spares_note rfl

theorem spares_onWorld (g : w → α × w) : Spares role (onWorld g) := by
  refine ⟨fun c s => ?_, silent_onWorld g⟩
  cases role <;> rfl

theorem spares_drawSuffix (p : Platform w) : Spares role p.drawSuffix := by
  refine ⟨fun c s => ?_, fun s => rfl⟩
  cases role <;> rfl

theorem spares_hook (h : Hook w) : Spares role (hook h) := by
  refine ⟨fun c s => ?_, silent_hook (Note.apart_isMade _) h⟩
  rw [on_hook, on_hook]
  cases role <;> rfl

theorem spares_forM {g : β → Act w Unit} (hg : ∀ x, Spares role (g x)) (xs : List β) :
    Spares role (xs.forM g) := by
  induction xs with
  | nil => exact spares_pure ()
  | cons x xs ih => exact (hg x).bind fun _ => ih

variable {other : Role}

theorem two_of_ne (hne : role ≠ other) :
    role = .admin ∧ other = .seeder ∨ role = .seeder ∧ other = .admin := by
  cases role with
  | admin => cases other with
    | admin => exact absurd rfl hne
    | seeder => exact .inl ⟨rfl, rfl⟩
  | seeder => cases other with
    | admin => exact .inr ⟨rfl, rfl⟩
    | seeder => exact absurd rfl hne

theorem isMade_of_ne (hne : role ≠ other) : (Note.made other.kind).isMade role.kind = false := by
  obtain ⟨rfl, rfl⟩ | ⟨rfl, rfl⟩ := two_of_ne hne <;> rfl

theorem slot_fill_of_ne (hne : role ≠ other) (c : Option Client) (s : Session w) :
    other.slot (role.fill c s) = other.slot s := by
  obtain ⟨rfl, rfl⟩ | ⟨rfl, rfl⟩ := two_of_ne hne <;> rfl

theorem fill_comm (hne : role ≠ other) (c d : Option Client) (s : Session w) :
    role.fill c (other.fill d s) = other.fill d (role.fill c s) := by
  obtain ⟨rfl, rfl⟩ | ⟨rfl, rfl⟩ := two_of_ne hne <;> rfl

theorem make_on_fill (c : Option Client) (s : Session w) :
    (other.make f).on (role.fill c s) =
      (((other.make f).on s).1, role.fill c ((other.make f).on s).2) := by
  rw [make_on, make_on]
  have hworld : (role.fill c s).world = s.world := by cases role <;> rfl
  rw [hworld]
  cases f.platform.makeClient other.kind (other.properties f) s.world with
  | mk failure world => cases failure <;> cases role <;> rfl

theorem spares_client (hne : role ≠ other) : Spares role (other.client f) := by
  refine ⟨fun c s => ?_, silent_client (Note.apart_isMade _) (isMade_of_ne hne)⟩
  have hslot := slot_fill_of_ne hne c s
  cases h : other.slot s with
  | some d => rw [client_of_full h, client_of_full (hslot.trans h)]
  | none =>
    rw [client_of_empty h, client_of_empty (hslot.trans h), make_on_fill]
    cases (other.make f).on s with
    | mk r t => cases r <;> simp [fill_comm hne]

end Role

namespace Fixture

/-- What needs the shared clients, and what may happen between such uses. -/
inductive Use (w : Type)
  | admin
  | createTopic (starting : String) (spec : Option TopicSpec)
  | seedTopic (topic : String) (seed : Option Seed)
  | meanwhile (change : w → w)

namespace Use

def operation : Use w → Operation w
  | admin => .admin
  | createTopic starting spec => .createTopic starting spec
  | seedTopic topic seed => .seedTopic topic seed
  | meanwhile change => .meanwhile change

def role? : Use w → Option Role
  | admin | createTopic .. => some .admin
  | seedTopic .. => some .seeder
  | meanwhile _ => none

def on (f : Fixture w) (u : Use w) (s : Session w) : Except Failure Reply × Session w :=
  (u.operation.perform f).on s

end Use

/-- How a use treats the client of a role. -/
inductive Treats (f : Fixture w) (role : Role) (u : Use w) (s : Session w) : Prop
  | spared (other : u.role? ≠ some role)
      (blind : ∀ c, u.on f (role.fill c s) = ((u.on f s).1, role.fill c (u.on f s).2))
      (count : (u.on f s).2.count role.kind = s.count role.kind)
  | found (needed : u.role? = some role) (c : Client) (full : role.slot s = some c)
      (given : u = .admin → (u.on f s).1 = .ok (.client c))
      (kept : role.slot (u.on f s).2 = some c)
      (count : (u.on f s).2.count role.kind = s.count role.kind)
  | made (needed : u.role? = some role) (empty : role.slot s = none)
      (success : (f.platform.makeClient role.kind (role.properties f) s.world).1 = none)
      (given : u = .admin → (u.on f s).1 = .ok (.client (role.fresh f s)))
      (kept : role.slot (u.on f s).2 = some (role.fresh f s))
      (count : (u.on f s).2.count role.kind = s.count role.kind + 1)
  | failed (needed : u.role? = some role) (empty : role.slot s = none) (e : ClientError)
      (failure : (f.platform.makeClient role.kind (role.properties f) s.world).1 = some e)
      (reply : (u.on f s).1 = .error (.client e))
      (world : (u.on f s).2.world =
        (f.platform.makeClient role.kind (role.properties f) s.world).2)
      (kept : role.slot (u.on f s).2 = none)
      (count : (u.on f s).2.count role.kind = s.count role.kind)

def confirm (f : Fixture w) (topic : String) (spec : TopicSpec) (admin : Client) :
    Act w String := do
  note (.asked topic spec f.config.topic.timeout)
  hook (f.launcher.createTopic admin topic spec f.config.topic.timeout)
  emit (.topicCreated topic spec.partitions.toInt spec.replication.toInt)
  pure topic

variable {f : Fixture w} {role : Role} {u : Use w} {s : Session w}

theorem createTopic_eq (starting : String) (spec : Option TopicSpec) (s : Session w) :
    (f.createTopic starting spec).on s =
      (f.admin >>= f.confirm (f.freshName s starting) (f.specOr spec)).on
        { s with drawn := s.drawn + 1 } :=
  on_bind_ok (f.platform.on_drawSuffix s)

theorem treats_of_needed (hu : u.role? = some role) {drawn : Nat} {rest : Client → Act w Reply}
    (hrest : ∀ c, role.Spares (rest c))
    (hon : u.on f s = (role.client f >>= rest).on { s with drawn := drawn })
    (hgiven : u = .admin → ∀ c t, (rest c).on t = (.ok (.client c), t)) :
    Treats f role u s := by
  have hslot : role.slot { s with drawn := drawn } = role.slot s := by cases role <;> rfl
  cases h : role.slot s with
  | some c =>
    have hon' := hon.trans (on_bind_ok (Role.client_of_full (hslot.trans h)))
    refine .found hu c h ?_ ?_ ?_
    · intro hadmin
      rw [hon', hgiven hadmin]
    · rw [hon', (hrest c).slot, hslot, h]
    · rw [hon']
      exact (hrest c).count _
  | none =>
    cases hmake : f.platform.makeClient role.kind (role.properties f) s.world with
    | mk failure world =>
      cases failure with
      | none =>
        obtain ⟨t, ht, hfilled, hcount⟩ := Role.client_of_made (hslot.trans h) hmake
        have hon' := hon.trans (on_bind_ok ht)
        refine .made hu h (congrArg Prod.fst hmake) ?_ ?_ ?_
        · intro hadmin
          rw [hon', hgiven hadmin]
          rfl
        · rw [hon', (hrest _).slot, hfilled]
          rfl
        · rw [hon', (hrest _).count, hcount]
          rfl
      | some e =>
        obtain ⟨t, ht, hempty, hworld, hcount⟩ := Role.client_of_failed (hslot.trans h) hmake
        have hon' := hon.trans (on_bind_error ht)
        refine .failed hu h e (congrArg Prod.fst hmake) ?_ ?_ ?_ ?_
        · rw [hon']
        · rw [hon', hworld, hmake]
        · rw [hon', hempty]
        · rw [hon', hcount]
          rfl

theorem spares_confirm (topic : String) (spec : TopicSpec) (admin : Client) :
    role.Spares (f.confirm topic spec admin) := by
  apply Role.Spares.bind
  · exact Role.spares_note rfl
  · intro _
    apply (Role.spares_hook _).bind
    intro _
    exact (Role.spares_emit _).bind fun _ => Role.spares_pure _

theorem spares_deliver (client : Client) (d : Delivery) : role.Spares (f.deliver client d) := by
  apply (Role.spares_onWorld _).bind
  intro outcome
  exact (Role.spares_forM Role.spares_emit _).bind fun _ => Role.spares_ofExcept _

theorem spares_of_not_needed (hu : u.role? ≠ some role) :
    role.Spares (u.operation.perform f) := by
  cases u with
  | admin =>
    have hne : role ≠ .admin := fun h => hu (congrArg some h.symm)
    exact (Role.spares_client hne).bind fun _ => Role.spares_pure _
  | createTopic starting spec =>
    have hne : role ≠ .admin := fun h => hu (congrArg some h.symm)
    apply Role.Spares.bind
    · apply (Role.spares_drawSuffix f.platform).bind
      intro suffix
      apply (Role.spares_client hne).bind
      exact spares_confirm _ _
    · exact fun _ => Role.spares_pure _
  | seedTopic topic seed =>
    have hne : role ≠ .seeder := fun h => hu (congrArg some h.symm)
    apply Role.Spares.bind
    · exact (Role.spares_client hne).bind fun client => spares_deliver client _
    · exact fun _ => Role.spares_pure _
  | meanwhile change => exact (Role.spares_onWorld _).bind fun _ => Role.spares_pure _

theorem treats (f : Fixture w) (role : Role) (u : Use w) (s : Session w) : Treats f role u s := by
  by_cases hu : u.role? = some role
  -- Whatever comes before the client is asked for changes no more than the names that are drawn.
  · cases u with
    | admin =>
      cases hu
      exact treats_of_needed rfl (fun _ => Role.spares_pure _) rfl fun _ _ _ => rfl
    | createTopic starting spec =>
      cases hu
      have hon : (Use.createTopic starting spec).on f s =
          (f.admin >>= fun admin => f.confirm (f.freshName s starting) (f.specOr spec) admin >>=
            fun topic => pure (.text topic)).on { s with drawn := s.drawn + 1 } := by
        rw [← on_bind_assoc, on_bind, ← createTopic_eq]
        exact on_bind _ _ s
      refine treats_of_needed rfl (fun admin => ?_) hon ?_
      · exact (spares_confirm _ _ admin).bind fun _ => Role.spares_pure _
      · intro h
        cases h
    | seedTopic topic seed =>
      cases hu
      have hon : (Use.seedTopic topic seed).on f s =
          (f.seeder >>= fun client => f.deliver client ⟨topic, f.seedOr seed, f.pacing⟩ >>=
            fun n => pure (.count n)).on { s with drawn := s.drawn } :=
        on_bind_assoc ..
      refine treats_of_needed rfl (fun client => ?_) hon ?_
      · exact (spares_deliver client _).bind fun _ => Role.spares_pure _
      · intro h
        cases h
    | meanwhile change => cases hu
  · have hspares : role.Spares (u.operation.perform f) := spares_of_not_needed hu
    exact .spared hu (fun c => hspares.on_fill c s) (hspares.count s)

def afterUses (f : Fixture w) (uses : List (Use w)) (s : Session w) : Session w :=
  f.after (uses.map Use.operation) s

theorem afterUses_cons (u : Use w) (uses : List (Use w)) (s : Session w) :
    f.afterUses (u :: uses) s = f.afterUses uses (u.on f s).2 :=
  after_cons u.operation (uses.map Use.operation) s

theorem Treats.kept (h : Treats f role u s) {c : Client} (hfull : role.slot s = some c) :
    role.slot (u.on f s).2 = some c := by
  cases h with
  | spared other blind count =>
    have hblind := blind (role.slot s)
    rw [Role.fill_slot] at hblind
    rw [hblind, Role.slot_fill, hfull]
  | found needed d full given kept count => rw [kept, ← full, hfull]
  | made needed empty => cases hfull.symm.trans empty
  | failed needed empty => cases hfull.symm.trans empty

/-- A client is made for an empty slot only, and fills it. -/
theorem Treats.balance (h : Treats f role u s) :
    (u.on f s).2.count role.kind + (role.slot s).toList.length =
      s.count role.kind + (role.slot (u.on f s).2).toList.length := by
  cases h with
  | spared other blind count =>
    have hblind := blind (role.slot s)
    rw [Role.fill_slot] at hblind
    rw [count, hblind, Role.slot_fill]
  | found needed c full given kept count => rw [count, full, kept]
  | made needed empty success given kept count =>
    rw [count, empty, kept]
    rfl
  | failed needed empty e failure reply world kept count => rw [count, empty, kept]

theorem balance_afterUses (role : Role) (uses : List (Use w)) (s : Session w) :
    (f.afterUses uses s).count role.kind + (role.slot s).toList.length =
      s.count role.kind + (role.slot (f.afterUses uses s)).toList.length := by
  induction uses generalizing s with
  | nil => rfl
  | cons u uses ih =>
    have hstep := (treats f role u s).balance
    have hlater := ih (u.on f s).2
    rw [afterUses_cons]
    omega

theorem slot_afterUses {c : Client} (h : role.slot s = some c) (uses : List (Use w)) :
    role.slot (f.afterUses uses s) = some c := by
  induction uses generalizing s with
  | nil => exact h
  | cons u uses ih =>
    rw [afterUses_cons]
    exact ih ((treats f role u s).kept h)

open Shared in
/-- A shared thing is made once, whoever asks for it and when. So are the shared clients of a
fixture, each on its own. -/
theorem clients_made_once {ε γ : Type} (turns : List (Turn ε γ)) (f : Fixture w)
    (uses : List (Use w)) (s : Session w) :
    (Sequence .empty (Room.after turns).served (Room.after turns).shared ∧
      MadeOnce (Room.after turns).served ∧
      ∀ a, (Room.after turns).shared.slot = some a ↔ Stored (Room.after turns).served a) ∧
    ∀ role : Role,
      (f.afterUses uses s).count role.kind ≤ s.count role.kind + 1 ∧
      (∀ c, role.slot s = some c → role.slot (f.afterUses uses s) = some c ∧
        (f.afterUses uses s).count role.kind = s.count role.kind) ∧
      ∀ u, Treats f role u (f.afterUses uses s) := by
  have hsequence := (Room.orderly_after turns).sequence
  refine ⟨⟨hsequence, hsequence.madeOnce, hsequence.slot_iff⟩, fun role => ⟨?_, ?_, ?_⟩⟩
  · have hbalance := balance_afterUses (f := f) role uses s
    -- What has been made is in the slot, which has room for one.
    have hone : (role.slot (f.afterUses uses s)).toList.length ≤ 1 := by
      cases role.slot (f.afterUses uses s) <;> simp
    omega
  · intro c hc
    have hbalance := balance_afterUses (f := f) role uses s
    have hkept := slot_afterUses (f := f) hc uses
    rw [hc, hkept] at hbalance
    exact ⟨hkept, Nat.add_right_cancel hbalance⟩
  · exact fun u => treats f role u _

end Fixture

end TestCluster
