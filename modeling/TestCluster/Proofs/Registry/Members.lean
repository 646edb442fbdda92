import Mathlib.Data.List.Perm.Basic
import TestCluster.Registry.Schema

namespace TestCluster.Json.Value

def valuesOf (members : List (Content × Value)) (name : String) : List Value :=
  (members.filter (·.1 = some name.toList)).map Prod.snd

def named (m : String × Value) : Content × Value :=
  (some m.1.toList, m.2)

theorem valuesOf_perm {members members' : List (Content × Value)} (h : members.Perm members')
    (name : String) : (valuesOf members name).Perm (valuesOf members' name) :=
  (h.filter _).map _

theorem filter_map_named (entries : List (String × Value)) (name : String) :
    (entries.map named).filter (·.1 = some name.toList) =
      (entries.filter (·.1 = name)).map named := by
  rw [List.filter_map]
  congr 2
  funext m
  simp [named, String.toList_inj]

theorem valuesOf_named (entries : List (String × Value)) (name : String) :
    valuesOf (entries.map named) name = (entries.filter (·.1 = name)).map Prod.snd := by
  unfold valuesOf
  rw [filter_map_named, List.map_map]
  rfl

theorem exists_map_named {members : List (Content × Value)}
    (h : ∀ m ∈ members, m.1.isSome = true) :
    ∃ entries : List (String × Value), members = entries.map named := by
  induction members with
  | nil => exact ⟨[], rfl⟩
  | cons m members ih =>
    obtain ⟨entries, rfl⟩ := ih fun m hm => h m (List.mem_cons_of_mem _ hm)
    obtain ⟨content, v⟩ := m
    obtain ⟨name, rfl⟩ := Option.isSome_iff_exists.mp (h _ List.mem_cons_self)
    refine ⟨(String.ofList name, v) :: entries, ?_⟩
    rw [List.map_cons, named, String.toList_ofList]

theorem filter_eq_map_valuesOf (entries : List (String × Value)) (name : String) :
    entries.filter (·.1 = name) = (valuesOf (entries.map named) name).map (name, ·) := by
  have hself : (entries.filter (·.1 = name)).map (fun m => (name, m.2)) =
      (entries.filter (·.1 = name)).map id := by
    refine List.map_congr_left fun m hm => ?_
    rw [← of_decide_eq_true (List.mem_filter.mp hm).2]
    rfl
  rw [valuesOf_named, List.map_map, ← List.map_id (entries.filter _), ← hself]
  simp

/-- Entries can be sorted by names, with the other names last. -/
theorem perm_flatMap_filter (entries : List (String × Value)) {names : List String}
    (h : names.Nodup) :
    entries.Perm (names.flatMap (fun name => entries.filter (·.1 = name)) ++
      entries.filter (·.1 ∉ names)) := by
  induction names with
  | nil => simp
  | cons name names ih =>
    obtain ⟨hname, hnames⟩ := List.nodup_cons.mp h
    have hsplit := List.filter_append_perm (·.1 = name) (entries.filter (·.1 ∉ names))
    have hown : (entries.filter (·.1 ∉ names)).filter (·.1 = name) =
        entries.filter (·.1 = name) := by
      rw [List.filter_filter]
      refine List.filter_congr fun m _ => ?_
      by_cases hm : m.1 = name <;> simp [hm, hname]
    have hothers : (entries.filter (·.1 ∉ names)).filter (fun m => !decide (m.1 = name)) =
        entries.filter (·.1 ∉ name :: names) := by
      rw [List.filter_filter]
      refine List.filter_congr fun m _ => ?_
      simp
    rw [hown, hothers] at hsplit
    rw [List.flatMap_cons, List.append_assoc]
    exact ((ih hnames).trans (hsplit.symm.append_left _)).trans (List.perm_append_comm_assoc _ _ _)

theorem member?_eq (members : List (Content × Value)) (name : String) :
    member? members name = match valuesOf members name with
      | [] => some none
      | [v] => some (some v)
      | _ => none := by
  unfold member? valuesOf
  generalize members.filter (·.1 = some name.toList) = found
  rcases found with _ | ⟨m, _ | ⟨m', rest⟩⟩ <;> rfl

theorem required?_eq_some_iff (members : List (Content × Value)) (name : String) (v : Value) :
    required? members name = some v ↔ valuesOf members name = [v] := by
  unfold required?
  rw [member?_eq]
  rcases valuesOf members name with _ | ⟨w, _ | ⟨w', rest⟩⟩ <;> simp

theorem int32?_eq_some_iff (v : Value) (n : Int32) :
    v.int32? = some n ↔ v = .number (some n.toInt) := by
  constructor
  · intro h
    unfold int32? at h
    split at h
    next m =>
      split at h
      next hrange =>
        cases h
        rw [Int32.toInt_ofInt_of_le (by omega) (by omega)]
      next => cases h
    next => cases h
  · rintro rfl
    have hmin := n.le_toInt
    have hmax := n.toInt_lt
    unfold int32?
    dsimp only
    rw [if_pos (by omega), Int32.ofInt_toInt]

end TestCluster.Json.Value
