import TestCluster.Config.Load
import TestCluster.Proofs.Config.Fields
import TestCluster.Proofs.Yaml.Blank

namespace TestCluster.Config

open Yaml

theorem variant_of_edits {c : Config} {t : Tree}
    (h : Relation.ReflTransGen (Shape.Edit shape) c.tree t) : Shape.Variant shape c.tree t :=
  (faithful.variant c).edits h

theorem read_of_shows {c : Config} {t : Tree} (hv : Shape.Variant shape c.tree t) {text : String}
    {root : Node} {targets : List (Nat × Node)}
    (htext : documents? text = some [⟨some root, targets⟩]) (hroot : shape.Shows targets t root) :
    read text = .ok c := by
  have hdecode : decode ⟨targets, [], root⟩ = .ok c :=
    faithful.reads c t hv ⟨targets, [], root⟩ hroot
  have hblank : ¬Text.isBlank text = true := by
    intro hblank
    obtain hnone | ⟨s, targets', hscalar⟩ := documents?_of_isBlank hblank htext
    · contradiction
    · cases hscalar
      cases hv
      cases hroot
  unfold read
  rw [if_neg hblank, htext]
  unfold ofDocuments
  dsimp only
  rw [Option.getD_some, hdecode]
  rfl

/-- What is written of a configuration, with any of the changes that keep its meaning, is decoded
to that configuration again; and so is a text of it, if the configuration is valid. -/
theorem decode_edited (c : Config) (t : Tree)
    (h : Relation.ReflTransGen (Shape.Edit shape) c.tree t) :
    t.decode decode = .ok c ∧
      ∀ (text : String) (root : Node) (targets : List (Nat × Node)),
        documents? text = some [⟨some root, targets⟩] → shape.Shows targets t root →
        ofText text = c.validate.map fun _ => c := by
  have hv := variant_of_edits h
  refine ⟨faithful.reads c t hv ⟨[], [], t.node⟩ hv.shows, ?_⟩
  intro text root targets htext hroot
  unfold ofText
  rw [read_of_shows hv htext hroot]
  change (do c.validate; pure c) = _
  cases c.validate <;> rfl

/-- Three partitions and otherwise defaults, with a note that no configuration has. -/
def threePartitions : Tree :=
  .record [("note", .text "spare"), ("topic", .record [("num_partitions", .number 3)])]

theorem decode_threePartitions :
    Relation.ReflTransGen (Shape.Edit shape) (tree { topic := { partitions := 3 } })
      threePartitions ∧
    threePartitions.decode decode = .ok { topic := { partitions := 3 } } ∧
    ofText "{note: .5, topic: {num_partitions: 3}}" = .ok { topic := { partitions := 3 } } := by
  have hedits : Relation.ReflTransGen (Shape.Edit shape) (tree { topic := { partitions := 3 } })
      threePartitions := by
    refine .head (.leaveOut [] _ (.head _)) ?_
    refine .head (.leaveOut [] _ (.tail _ (.head _))) ?_
    refine .head (.leaveOut [_] _ (.tail _ (.tail _ (.tail _ (.head _))))) ?_
    refine .head (.leaveOut [_] _ (.tail _ (.tail _ (.tail _ (.tail _ (.head _)))))) ?_
    refine .head (.within [] _ (.tail _ (.tail _ (.head _)))
      (.leaveOut [_] _ (.tail _ (.head _)))) ?_
    refine .head (.within [] _ (.tail _ (.tail _ (.head _)))
      (.leaveOut [_] _ (.tail _ (.tail _ (.head _))))) ?_
    refine .head (.within [] _ (.tail _ (.tail _ (.head _)))
      (.leaveOut [_] _ (.tail _ (.tail _ (.tail _ (.head _)))))) ?_
    exact .single (.add [] _ (by decide))
  obtain ⟨hdecode, htext⟩ := decode_edited _ _ hedits
  refine ⟨hedits, hdecode, htext _ _ [] rfl ?_⟩
  refine .record (.passed (by decide) (.text rfl (by decide +kernel)) ?_)
  refine .known (.tail _ (.tail _ (.head _))) (.text rfl (by decide +kernel)) (.record ?_) .nil
  refine .known (.head _) (.text rfl (by decide +kernel)) (.leaf ?_) .nil
  exact .number rfl rfl (by decide +kernel) (by decide +kernel)

end TestCluster.Config
