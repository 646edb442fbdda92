import TestCluster.Cli.Arguments
import TestCluster.Proofs.Cli.Course
import TestCluster.Proofs.Seed.Numbered

namespace TestCluster

open Act

variable {w : Type}

namespace Delivery

variable {σ ε : Type}

def Outcome.takenValues (o : Outcome σ ε) : List Bytes :=
  (takenRecords (callsOf o.notes)).map (·.value)

/-- A run brings these values in order, and all of them when it succeeds. -/
structure Outcome.Brings (o : Outcome σ ε) (values : List Bytes) : Prop where
  started : o.takenValues <+: values
  finished : ∀ n, o.result = .ok n → n = values.length ∧ o.takenValues = values

variable (d : Delivery) (h : FairHandle σ ε) (s : σ)

theorem values_records : d.seed.records.map (·.value) = d.seed.values := by
  rw [Seed.records, List.map_map]
  exact List.zipIdx_map_fst 0 d.seed.values

theorem brings_run : (d.run h s).Brings d.seed.values where
  started := by
    obtain ⟨n, hn⟩ := d.exists_advance_conclude h d.first s
    have horderly := (d.advance_orderly h.toHandle n s).1
    rw [hn] at horderly
    rw [← d.values_records]
    exact horderly.taken.map _
  finished n hresult := by
    obtain ⟨hn, htaken⟩ := d.run_taken h s hresult
    refine ⟨hn, ?_⟩
    rw [Outcome.takenValues, htaken, d.values_records]

end Delivery

namespace Fixture

/-- How values come to a topic, if they do: in one delivery through the producer that is kept. -/
inductive Brings (f : Fixture w) (topic : String) (values : List Bytes) (s : Session w) :
    Except Failure Nat → Session w → Prop
  | unsent {e : Failure} {t : Session w} (seeder : f.seeder.on s = (.error e, t)) :
    Brings f topic values s (.error e) t
  | sent {c : Client} {t : Session w} (seeder : f.seeder.on s = (.ok c, t)) (d : Delivery)
      (topic_eq : d.topic = topic)
      (brings : (d.run (f.platform.producer c.properties) t.world).Brings values) :
    Brings f topic values s
      ((d.run (f.platform.producer c.properties) t.world).result.mapError .client)
      (t.delivered (d.run (f.platform.producer c.properties) t.world))

theorem seedTopic_brings (f : Fixture w) (topic : String) (seed : Option Seed) (s : Session w) :
    ∃ r t, (f.seedTopic topic seed).on s = (r, t) ∧
      f.Brings topic (f.seedOr seed).values s r t := by
  cases hseeder : f.seeder.on s with
  | mk found t =>
    cases found with
    | error e => exact ⟨_, _, on_bind_error hseeder, .unsent hseeder⟩
    | ok c =>
      let d : Delivery := ⟨topic, f.seedOr seed, f.pacing⟩
      have hsent : (f.seedTopic topic seed).on s = (f.deliver c d).on t := on_bind_ok hseeder
      exact ⟨_, _, hsent.trans (f.deliver_on c d t), .sent hseeder d rfl (d.brings_run _ _)⟩

end Fixture

namespace Cli

theorem count?_of_numeral {text : List Char} {n : UInt64} (h : Text.Numeral text n.toNat) :
    count? text = some n := by
  have hlt : n.toNat < UInt64.size := n.toNat_lt
  have hdigits : (text ≠ [] && text.all Char.isDigit) = true := by
    rw [h.all_isDigit]
    simpa using h.ne_nil
  unfold count?
  rw [if_neg (h.head?_ne rfl)]
  dsimp only
  rw [if_pos hdigits, h.foldl, if_pos hlt, UInt64.ofNat_toNat]

/-- The numbered values of a seed are all different, each with its place as its number, and fewer of
them are the first of more. They are what every way to deliver the seed brings. -/
theorem numbered_everywhere :
    (∀ n, (Seed.numbered n).values.length = n ∧ Seed.Numbered (Seed.numbered n).values) ∧
    (∀ (σ ε : Type) (h : FairHandle σ ε) (s : σ) (topic : String) (pacing : Pacing) (n : Nat),
      ((⟨topic, .numbered n, pacing⟩ : Delivery).run h s).Brings (Seed.numbered n).values) ∧
    (∀ (w : Type) (f : Fixture w) (topic : String) (s : Session w),
      ∃ r t, (f.seedTopic topic none).on s = (r, t) ∧
        f.Brings topic (Seed.numbered f.config.seed.count.toNat).values s r t) ∧
    (∀ (a : Arguments) (n : UInt64),
      a.set .seed (toString n.toNat) = .ok { a with seed := some n }) ∧
    ∀ (w : Type) (f : Fixture w) (config : Config) (topics : List String) (n : UInt64)
      (topic : String) (s : Session w), ∃ r t,
        f.Brings topic (Seed.numbered n.toNat).values s r t ∧
        ((⟨config, topics, some n⟩ : Plan).seedTopic f topic).on s =
          match r with
          | .ok count => (.ok (), t.add [.event (.topicSeeded topic count)])
          | .error e => (.error e, t) := by
  refine ⟨?_, ?_, ?_, ?_, ?_⟩
  · exact fun n => ⟨Seed.length_values_numbered n, Seed.numbered_values n⟩
  · exact fun σ ε h s topic pacing n => Delivery.brings_run ⟨topic, .numbered n, pacing⟩ h s
  · exact fun w f topic s => f.seedTopic_brings topic none s
  · intro a n
    simp only [Arguments.set, count?_of_numeral (Text.numeral_toString n.toNat)]
  · intro w f config topics n topic s
    obtain ⟨r, t, hseeded, hbrings⟩ := f.seedTopic_brings topic (some (.numbered n.toNat)) s
    refine ⟨r, t, hbrings, ?_⟩
    cases r with
    | ok count => exact on_bind_ok hseeded
    | error e => exact on_bind_error hseeded

end Cli

end TestCluster
