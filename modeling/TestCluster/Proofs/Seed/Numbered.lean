import Mathlib.Data.List.Nodup
import Mathlib.Data.List.Perm.Subperm
import TestCluster.Proofs.Text.Numeral
import TestCluster.Proofs.Text.Utf8
import TestCluster.Seed

namespace TestCluster.Seed

/-- Values that stand where the number at their end says. -/
structure Numbered (values : List Bytes) : Prop where
  place : ∀ i < values.length, ∃ digits, Text.Numeral digits i ∧
    values[i]? = some (Utf8.encode ("test-data".toList ++ digits))
  distinct : values.Nodup
  start : ∀ n ≤ values.length, (numbered n).values <+: values
  whole : ∀ received : List Bytes, received.Nodup → received.length = values.length →
    received ⊆ values → received.Perm values

theorem numberedValue_eq (i : Nat) :
    numberedValue i = Utf8.encode ("test-data".toList ++ (toString i).toList) := by
  rw [numberedValue, String.toList_append]

theorem numberedValue_injective : Function.Injective numberedValue := by
  intro i j h
  rw [numberedValue_eq, numberedValue_eq] at h
  have hdigits := List.append_cancel_left (Utf8.encode_injective h)
  rw [← (Text.numeral_toString i).value, hdigits, (Text.numeral_toString j).value]

theorem values_numbered (n : Nat) : (numbered n).values = (List.range n).map numberedValue := rfl

theorem length_values_numbered (n : Nat) : (numbered n).values.length = n := by
  rw [values_numbered, List.length_map, List.length_range]

theorem values_numbered_prefix {m n : Nat} (h : m ≤ n) :
    (numbered m).values <+: (numbered n).values := by
  obtain ⟨k, rfl⟩ := Nat.exists_eq_add_of_le h
  rw [values_numbered, values_numbered, List.range_add, List.map_append]
  exact List.prefix_append _ _

theorem nodup_values_numbered (n : Nat) : (numbered n).values.Nodup :=
  List.Nodup.map numberedValue_injective List.nodup_range

theorem numbered_values (n : Nat) : Numbered (numbered n).values where
  place i hi := by
    rw [length_values_numbered] at hi
    refine ⟨(toString i).toList, Text.numeral_toString i, ?_⟩
    rw [values_numbered, List.getElem?_map, List.getElem?_range hi, Option.map_some,
      numberedValue_eq]
  distinct := nodup_values_numbered n
  start m hm := by
    rw [length_values_numbered] at hm
    exact values_numbered_prefix hm
  whole received hnodup hlength hsubset :=
    (List.subperm_of_subset hnodup hsubset).perm_of_length_le (Nat.le_of_eq hlength.symm)

end TestCluster.Seed
