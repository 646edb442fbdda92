import TestCluster.Proofs.Delivery.Orderly

namespace TestCluster

variable {σ τ ε δ : Type}

def Answer.map (f : ε → δ) : Answer ε → Answer δ
  | .taken => .taken
  | .queueFull => .queueFull
  | .refused e => .refused (f e)

theorem Answer.map_ne_refused {f : ε → δ} {a : Answer ε} (h : ∀ e, a ≠ .refused e) (e : δ) :
    a.map f ≠ .refused e := by
  cases a with
  | refused e' => exact absurd rfl (h e')
  | _ => exact nofun

/-- While its states go with those of `h`, a handle `k` answers as `h` does. `R n` is what they have
in common while `n` calls are left, and `L` what they still have in common after a refusal, when all
that is left to do is to serve the handle once. -/
structure Handle.Mimics (k : Handle τ δ) (h : Handle σ ε) (f : ε → δ) (R : Nat → σ → τ → Prop)
    (L : σ → τ → Prop) : Prop where
  alike : ∀ {n s t}, R n s t → L s t
  offer : ∀ {n s t}, R (n + 1) s t → ∀ topic x,
    (k.offer t topic x).1 = (h.offer s topic x).1.map f ∧
      L (h.offer s topic x).2 (k.offer t topic x).2 ∧
      ((∀ e, (h.offer s topic x).1 ≠ .refused e) →
        R n (h.offer s topic x).2 (k.offer t topic x).2)
  service : ∀ {n s t}, R (n + 1) s t → ∀ ms, R n (h.service s ms) (k.service t ms)
  serviceAlike : ∀ {s t}, L s t → ∀ ms, L (h.service s ms) (k.service t ms)
  flush : ∀ {n s t}, R (n + 1) s t →
    (k.flush t).1 = (h.flush s).1.map f ∧ L (h.flush s).2 (k.flush t).2

namespace Delivery

def Call.map (f : ε → δ) : Call ε → Call δ
  | .offer topic x a => .offer topic x (a.map f)
  | .service ms => .service ms
  | .flush failure => .flush (failure.map f)

def Note.map (f : ε → δ) : Note ε → Note δ
  | .call c => .call (c.map f)
  | .event e => .event e

def Phase.map (f : ε → δ) : Phase ε → Phase δ
  | .offer x rest => .offer x rest
  | .afterTaken rest => .afterTaken rest
  | .afterFull x rest => .afterFull x rest
  | .backOff x rest => .backOff x rest
  | .afterRefused e => .afterRefused (f e)
  | .flush => .flush

def Stage.map (f : ε → δ) : Stage ε → Stage δ
  | .live p => .live (p.map f)
  | .done result => .done (result.mapError f)

theorem Phase.map_ofRecords (f : ε → δ) (xs : List Record) :
    (Phase.ofRecords xs).map f = .ofRecords xs := by
  cases xs <;> rfl

/-- The same notes at the same stage, but for the errors, in states that `L` relates. -/
structure Progress.Alike (f : ε → δ) (L : σ → τ → Prop) (a : Progress σ ε) (b : Progress τ δ) :
    Prop where
  notes : b.notes = a.notes.map (Note.map f)
  stage : b.stage = a.stage.map f
  states : L a.state b.state

theorem Progress.Alike.after {f : ε → δ} {L : σ → τ → Prop} {a : Progress σ ε}
    {b : Progress τ δ} (h : a.Alike f L b) (notes : List (Note ε)) :
    (a.after notes).Alike f L (b.after (notes.map (Note.map f))) where
  notes := by
    simp only [Progress.after, h.notes, List.map_append]
  stage := h.stage
  states := h.states

variable (d : Delivery) {h : Handle σ ε} {k : Handle τ δ} {f : ε → δ} {R : Nat → σ → τ → Prop}
  {L : σ → τ → Prop} {n : Nat} {s : σ} {t : τ}

theorem advance_afterRefused_alike (hk : k.Mimics h f R L) (hL : L s t) (e : ε) :
    (d.advance h n (.live (.afterRefused e)) s).Alike f L
      (d.advance k n (.live (.afterRefused (f e))) t) := by
  cases n with
  | zero => exact ⟨rfl, rfl, hL⟩
  | succ n =>
    simp only [advance_succ, step, advance_done]
    exact ⟨rfl, rfl, hk.serviceAlike hL _⟩

theorem step_offer_alike (hk : k.Mimics h f R L) (hR : R (n + 1) s t) (x : Record)
    (rest : List Record) :
    (d.step h s (.offer x rest)).Alike f L (d.step k t (.offer x rest)) := by
  obtain ⟨ha, hL, -⟩ := hk.offer hR d.topic x
  refine ⟨?_, ?_, hL⟩
  · simp only [step, ha]
    rfl
  · simp only [step, ha]
    cases (h.offer s d.topic x).1 <;> rfl

theorem step_flush_alike (hk : k.Mimics h f R L) (hR : R (n + 1) s t) :
    (d.step h s .flush).Alike f L (d.step k t .flush) := by
  obtain ⟨ha, hL⟩ := hk.flush hR
  revert ha hL
  simp only [step]
  rcases h.flush s with ⟨_ | e, s'⟩ <;> rcases k.flush t with ⟨_ | e', t'⟩ <;> intro ha hL
  · exact ⟨rfl, rfl, hL⟩
  · cases ha
  · cases ha
  · cases ha
    exact ⟨rfl, rfl, hL⟩

theorem step_alike (hk : k.Mimics h f R L) (hR : R (n + 1) s t) {p : Phase ε}
    (hp : ∀ e, p ≠ .afterRefused e) :
    (d.step h s p).Alike f L (d.step k t (p.map f)) ∧
      ∀ q, (d.step h s p).stage = .live q → (∀ e, q ≠ .afterRefused e) →
        R n (d.step h s p).state (d.step k t (p.map f)).state := by
  cases p with
  | offer x rest =>
    refine ⟨d.step_offer_alike hk hR x rest, ?_⟩
    intro q hq hne
    refine (hk.offer hR d.topic x).2.2 ?_
    intro e he
    simp only [step, he] at hq
    cases hq
    exact hne e rfl
  | afterTaken rest =>
    have hserved := hk.service hR d.pacing.poll
    refine ⟨⟨rfl, ?_, hk.alike hserved⟩, fun _ _ _ => hserved⟩
    exact congrArg Stage.live (Phase.map_ofRecords f rest).symm
  | afterFull x rest =>
    have hserved := hk.service hR d.pacing.poll
    exact ⟨⟨rfl, rfl, hk.alike hserved⟩, fun _ _ _ => hserved⟩
  | backOff x rest =>
    have hserved := hk.service hR d.pacing.backOff
    exact ⟨⟨rfl, rfl, hk.alike hserved⟩, fun _ _ _ => hserved⟩
  | afterRefused e => exact absurd rfl (hp e)
  | flush =>
    refine ⟨d.step_flush_alike hk hR, ?_⟩
    intro q hq
    simp only [step] at hq
    split at hq <;> cases hq

theorem advance_alike (hk : k.Mimics h f R L) {p : Phase ε} (hp : ∀ e, p ≠ .afterRefused e)
    (hR : R n s t) :
    (d.advance h n (.live p) s).Alike f L (d.advance k n (.live (p.map f)) t) := by
  induction n generalizing p s t with
  | zero => exact ⟨rfl, rfl, hk.alike hR⟩
  | succ n ih =>
    obtain ⟨hstep, hleft⟩ := d.step_alike hk hR hp
    rw [advance_succ, advance_succ, hstep.notes, hstep.stage]
    apply Progress.Alike.after
    cases hs : (d.step h s p).stage with
    | done result =>
      simp only [Stage.map, advance_done]
      exact ⟨rfl, rfl, hstep.states⟩
    | live q =>
      by_cases hq : ∃ e, q = .afterRefused e
      · obtain ⟨e, rfl⟩ := hq
        exact d.advance_afterRefused_alike hk hstep.states e
      · have hne : ∀ e, q ≠ .afterRefused e := fun e he => hq ⟨e, he⟩
        exact ih hne (hleft q hs hne)

theorem advance_first_alike (hk : k.Mimics h f R L) (hR : R n s t) :
    (d.advance h n (.live d.first) s).Alike f L (d.advance k n (.live d.first) t) := by
  have halike := d.advance_alike hk (ofRecords_ne d.seed.records) hR
  rwa [Phase.map_ofRecords] at halike

end Delivery

end TestCluster
