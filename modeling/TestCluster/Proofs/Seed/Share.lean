import Mathlib.Algebra.BigOperators.Group.Finset.Piecewise
import Mathlib.Algebra.Order.Floor.Div
import Mathlib.Data.Int.CardIntervalMod
import TestCluster.Seed

namespace TestCluster.Seed

section

variable {n k i j : Nat}

theorem div_add_ite (h : j < k) : n / k + (if j < n % k then 1 else 0) = (n - j) ⌈/⌉ k := by
  have hsplit := Nat.div_add_mod n k
  have hmod : n % k < k := Nat.mod_lt n (by omega)
  rw [Nat.ceilDiv_eq_add_pred_div, eq_comm]
  split <;> apply Nat.div_eq_of_lt_le <;> simp only [Nat.add_mul, Nat.mul_comm (n / k)] <;> omega

theorem ceilDiv_sub_le_succ (hi : i < k) (hj : j < k) :
    (n - i) ⌈/⌉ k ≤ (n - j) ⌈/⌉ k + 1 := by
  rw [← div_add_ite hi, ← div_add_ite hj]
  split <;> split <;> omega

theorem ceilDiv_last : (n - k) ⌈/⌉ (k + 1) = n / (k + 1) := by
  have hmod : n % (k + 1) < k + 1 := Nat.mod_lt n (Nat.succ_pos k)
  rw [← div_add_ite (Nat.lt_add_one k), if_neg (by omega), Nat.add_zero]

theorem count_map_mod (h : j < k) : ((List.range n).map (· % k)).count j = (n - j) ⌈/⌉ k := by
  have hcount : ((List.range n).map (· % k)).count j = n.count (· ≡ j [MOD k]) := by
    rw [List.count, List.countP_map, Nat.count]
    apply List.countP_congr
    intro i _
    simp [Nat.ModEq, Nat.mod_eq_of_lt h]
  rw [hcount, Nat.count_modEq_card n (by omega), Nat.mod_eq_of_lt h, div_add_ite h]

theorem countP_slots {α : Type} [DecidableEq α] (f : Nat → α) (a : α) {slots : List Nat}
    (h : ∀ j ∈ slots, j < k) :
    slots.countP (f · = a) = ∑ j ∈ Finset.range k with f j = a, slots.count j := by
  induction slots with
  | nil => simp
  | cons i slots ih =>
    have hi : i < k := h i List.mem_cons_self
    have hcons := ih fun j hj => h j (List.mem_cons_of_mem i hj)
    simp [List.countP_cons, List.count_cons, hcons, Finset.sum_add_distrib, hi]

end

variable (s : Seed)

def keySlots : List Nat :=
  (List.range s.size).map s.keySlot

/-- The slots of the header sets, one for every record if there are header sets. -/
def headerSlots : List Nat :=
  (List.range s.size).filterMap s.headerSlot?

theorem count_keySlots {j : Nat} (h : j < s.keys.length) :
    s.keySlots.count j = (s.size - j) ⌈/⌉ s.keys.length :=
  count_map_mod h

theorem lt_of_mem_keySlots {j : Nat} (h : j ∈ s.keySlots) : j < s.keys.length := by
  obtain ⟨i, -, rfl⟩ := List.mem_map.mp h
  exact s.keySlot_lt i

theorem map_records {α : Type} (f : Record → α) (g : Nat → α)
    (h : ∀ i x, s.record? i = some x → f x = g i) :
    s.records.map f = (List.range s.size).map g := by
  apply List.ext_getElem?
  intro i
  rw [List.getElem?_map, List.getElem?_map, getElem?_records]
  cases hx : s.record? i with
  | none =>
    have hi : s.size ≤ i := by simpa [record?, size] using hx
    rw [List.getElem?_eq_none (by rwa [List.length_range])]
    rfl
  | some x =>
    have hi : i < s.size := by
      obtain ⟨value, hvalue, -⟩ := Option.map_eq_some_iff.mp hx
      exact (List.getElem?_eq_some_iff.mp hvalue).1
    rw [List.getElem?_range hi, Option.map_some, Option.map_some, h i x hx]

theorem map_key_records :
    s.records.map (fun x => some x.key) = s.keySlots.map (s.keys[·]?) := by
  rw [keySlots, List.map_map]
  apply s.map_records
  intro i x hx
  obtain ⟨value, -, rfl⟩ := Option.map_eq_some_iff.mp hx
  exact (List.getElem?_eq_getElem (s.keySlot_lt i)).symm

section

variable {s} {sets : List HeaderSet} (hsets : s.headers = some sets)
include hsets

theorem headerSlots_eq : s.headerSlots = (List.range s.size).map (· % (sets.length + 1)) := by
  have hslot : s.headerSlot? = some ∘ (· % (sets.length + 1)) := by
    funext i
    rw [headerSlot?, hsets]
    rfl
  rw [headerSlots, hslot, List.filterMap_eq_map]

theorem count_headerSlots {j : Nat} (h : j < sets.length + 1) :
    s.headerSlots.count j = (s.size - j) ⌈/⌉ (sets.length + 1) := by
  rw [headerSlots_eq hsets, count_map_mod h]

theorem lt_of_mem_headerSlots {j : Nat} (h : j ∈ s.headerSlots) : j < sets.length + 1 := by
  rw [headerSlots_eq hsets] at h
  obtain ⟨i, -, rfl⟩ := List.mem_map.mp h
  exact Nat.mod_lt i (Nat.succ_pos _)

theorem map_headers_records : s.records.map (·.headers) = s.headerSlots.map (sets[·]?) := by
  rw [headerSlots_eq hsets, List.map_map]
  apply s.map_records
  intro i x hx
  obtain ⟨value, -, rfl⟩ := Option.map_eq_some_iff.mp hx
  exact congrArg (Option.bind · _) hsets

end

/-- Records that carry the values of a seed and share its keys and header sets evenly. The gap after
the last header set counts as a slot. -/
structure Shares (xs : List Record) : Prop where
  values : xs.map (·.value) = s.values
  keys : xs.map (fun x => some x.key) = s.keySlots.map (s.keys[·]?)
  keySlot : ∀ j < s.keys.length, s.keySlots.count j = (s.size - j) ⌈/⌉ s.keys.length
  spread : ∀ i < s.keys.length, ∀ j < s.keys.length, s.keySlots.count i ≤ s.keySlots.count j + 1
  key : ∀ key, xs.countP (·.key = key) =
    ∑ j ∈ Finset.range s.keys.length with s.keys[j]? = some key, (s.size - j) ⌈/⌉ s.keys.length
  headers : ∀ sets, s.headers = some sets → xs.map (·.headers) = s.headerSlots.map (sets[·]?)
  headerSlot : ∀ sets, s.headers = some sets → ∀ j < sets.length,
    s.headerSlots.count j = (s.size - j) ⌈/⌉ (sets.length + 1)
  header : ∀ sets, s.headers = some sets → ∀ set, xs.countP (·.headers = some set) =
    ∑ j ∈ Finset.range sets.length with sets[j]? = some set, (s.size - j) ⌈/⌉ (sets.length + 1)
  gaps : ∀ sets, s.headers = some sets →
    xs.countP (·.headers = none) = s.size / (sets.length + 1)

theorem countP_key_records (key : Option Bytes) :
    s.records.countP (·.key = key) =
      ∑ j ∈ Finset.range s.keys.length with s.keys[j]? = some key,
        (s.size - j) ⌈/⌉ s.keys.length := by
  have hslots : s.records.countP (·.key = key) = s.keySlots.countP (s.keys[·]? = some key) := by
    have hmap := congrArg (List.countP (· = some key)) s.map_key_records
    simpa [List.countP_map, Function.comp_def] using hmap
  rw [hslots, countP_slots _ _ fun j => s.lt_of_mem_keySlots]
  apply Finset.sum_congr rfl
  intro j hj
  rw [Finset.mem_filter, Finset.mem_range] at hj
  exact s.count_keySlots hj.1

section

variable {s} {sets : List HeaderSet} (hsets : s.headers = some sets)
include hsets

theorem countP_headers_records (set : Option HeaderSet) :
    s.records.countP (·.headers = set) =
      ∑ j ∈ Finset.range (sets.length + 1) with sets[j]? = set,
        (s.size - j) ⌈/⌉ (sets.length + 1) := by
  have hslots : s.records.countP (·.headers = set) = s.headerSlots.countP (sets[·]? = set) := by
    have hmap := congrArg (List.countP (· = set)) (map_headers_records hsets)
    simpa [List.countP_map, Function.comp_def] using hmap
  rw [hslots, countP_slots _ _ fun j => lt_of_mem_headerSlots hsets]
  apply Finset.sum_congr rfl
  intro j hj
  rw [Finset.mem_filter, Finset.mem_range] at hj
  exact count_headerSlots hsets hj.1

theorem countP_some_records (set : HeaderSet) :
    s.records.countP (·.headers = some set) =
      ∑ j ∈ Finset.range sets.length with sets[j]? = some set,
        (s.size - j) ⌈/⌉ (sets.length + 1) := by
  have hlast : sets[sets.length]? ≠ some set := by simp
  rw [countP_headers_records hsets, Finset.range_add_one, Finset.filter_insert, if_neg hlast]

theorem countP_none_records :
    s.records.countP (·.headers = none) = s.size / (sets.length + 1) := by
  have hlast : (Finset.range (sets.length + 1)).filter (sets[·]? = none) = {sets.length} := by
    ext j
    simp only [Finset.mem_filter, Finset.mem_range, List.getElem?_eq_none_iff,
      Finset.mem_singleton]
    omega
  rw [countP_headers_records hsets, hlast, Finset.sum_singleton, ceilDiv_last]

end

theorem shares_records : s.Shares s.records where
  values := by
    rw [records, List.map_map]
    exact List.zipIdx_map_fst 0 s.values
  keys := s.map_key_records
  keySlot j hj := s.count_keySlots hj
  spread i hi j hj := by
    rw [s.count_keySlots hi, s.count_keySlots hj]
    exact ceilDiv_sub_le_succ hi hj
  key := s.countP_key_records
  headers sets hsets := map_headers_records hsets
  headerSlot sets hsets j hj := count_headerSlots hsets (by omega)
  header sets hsets := countP_some_records hsets
  gaps sets hsets := countP_none_records hsets

end TestCluster.Seed
