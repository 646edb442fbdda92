import TestCluster.Properties

namespace TestCluster.Properties

variable (p q : Properties)

theorem mem_of_lookup {entries : List (String × String)} {name text : String}
    (h : entries.lookup name = some text) : (name, text) ∈ entries := by
  obtain ⟨before, after, rfl, _⟩ := List.lookup_eq_some_iff.mp h
  exact List.mem_append_right _ List.mem_cons_self

theorem lookup_of_mem {entries : List (String × String)} (hnodup : (entries.map (·.1)).Nodup)
    {name text : String} (h : (name, text) ∈ entries) : entries.lookup name = some text := by
  induction entries with
  | nil => exact absurd h List.not_mem_nil
  | cons e rest ih =>
    obtain ⟨other, x⟩ := e
    rw [List.map_cons, List.nodup_cons] at hnodup
    rw [List.lookup_cons]
    obtain heq | hmem := List.mem_cons.mp h
    · cases heq
      rw [beq_self_eq_true]
    · have hne : name ≠ other := by
        rintro rfl
        exact hnodup.1 (List.mem_map_of_mem (f := (·.1)) hmem)
      rw [beq_false_of_ne hne]
      exact ih hnodup.2 hmem

theorem nodup_names : (p.entries.map (·.1)).Nodup := by
  have hlt : (p.entries.map (·.1)).Pairwise (· < ·) := List.pairwise_map.mpr p.sorted
  apply hlt.imp
  rintro a b hab rfl
  exact String.lt_irrefl a hab

theorem nodup_entries : p.entries.Nodup :=
  List.Pairwise.of_map (·.1) (fun _ _ hne heq => hne (congrArg (·.1) heq)) p.nodup_names

theorem mem_entries_iff {name text : String} :
    (name, text) ∈ p.entries ↔ p.get? name = some text :=
  ⟨lookup_of_mem p.nodup_names, mem_of_lookup⟩

variable {p q}

theorem ext_get? (h : ∀ name, p.get? name = q.get? name) : p = q := by
  have hperm : p.entries.Perm q.entries := by
    rw [List.perm_ext_iff_of_nodup p.nodup_entries q.nodup_entries]
    rintro ⟨name, text⟩
    rw [mem_entries_iff, mem_entries_iff, h]
  have heq : p.entries = q.entries := by
    refine List.Perm.eq_of_pairwise ?_ p.sorted q.sorted hperm
    intro a b _ _ hab hba
    exact absurd hba (String.lt_asymm hab)
  cases p
  cases q
  cases heq
  rfl

variable {list : List (String × String)} {name text : String}

theorem get?_overlay : (p.overlay list).get? name = (list.reverse.lookup name).or (p.get? name) := by
  induction list generalizing p with
  | nil => rfl
  | cons e rest ih =>
    change ((p.insert e.1 e.2).overlay rest).get? name = _
    rw [ih, get?_insert, List.reverse_cons, List.lookup_append, Option.or_assoc]
    congr 1
    by_cases h : name = e.1
    · rw [if_pos h, h, List.lookup_cons_self, Option.some_or]
    · rw [if_neg h, List.lookup_cons, beq_false_of_ne h]
      rfl

theorem isSome_lookup_iff : (list.lookup name).isSome ↔ name ∈ list.map (·.1) := by
  rw [List.lookup_isSome_iff, List.mem_map]
  constructor
  · rintro ⟨e, he, hname⟩
    exact ⟨e, he, (beq_iff_eq.mp hname).symm⟩
  · rintro ⟨e, he, rfl⟩
    exact ⟨e, he, beq_self_eq_true _⟩

theorem get?_overlay_of_not_mem (h : name ∉ list.map (·.1)) :
    (p.overlay list).get? name = p.get? name := by
  have hnone : list.reverse.lookup name = none := by
    rw [← Option.not_isSome_iff_eq_none, isSome_lookup_iff, List.map_reverse, List.mem_reverse]
    exact h
  rw [get?_overlay, hnone, Option.none_or]

theorem get?_overlay_of_mem (hnodup : (list.map (·.1)).Nodup) (h : (name, text) ∈ list) :
    (p.overlay list).get? name = some text := by
  have hsome : list.reverse.lookup name = some text := by
    apply lookup_of_mem
    · rw [List.map_reverse]
      exact List.pairwise_reverse.mpr (hnodup.imp Ne.symm)
    · exact List.mem_reverse.mpr h
  rw [get?_overlay, hsome, Option.some_or]

theorem overlay_append (p : Properties) (first second : List (String × String)) :
    p.overlay (first ++ second) = (p.overlay first).overlay second :=
  List.foldl_append

theorem overlay_of_perm {list' : List (String × String)} (h : list.Perm list')
    (hnodup : (list.map (·.1)).Nodup) : p.overlay list = p.overlay list' := by
  have hnodup' : (list'.map (·.1)).Nodup := (h.map (·.1)).nodup_iff.mp hnodup
  apply ext_get?
  intro name
  by_cases hname : name ∈ list.map (·.1)
  · obtain ⟨⟨_, text⟩, he, rfl⟩ := List.mem_map.mp hname
    rw [get?_overlay_of_mem hnodup he, get?_overlay_of_mem hnodup' (h.mem_iff.mp he)]
  · have hname' : name ∉ list'.map (·.1) := fun hmem => hname ((h.map (·.1)).mem_iff.mpr hmem)
    rw [get?_overlay_of_not_mem hname, get?_overlay_of_not_mem hname']

theorem get?_ofList (hnodup : (list.map (·.1)).Nodup) :
    (ofList list).get? name = list.lookup name := by
  unfold ofList
  cases hlookup : list.lookup name with
  | some text => exact get?_overlay_of_mem hnodup (mem_of_lookup hlookup)
  | none =>
    rw [get?_overlay_of_not_mem, get?_empty]
    intro hmem
    obtain ⟨e, he, rfl⟩ := List.mem_map.mp hmem
    rw [lookup_of_mem hnodup he] at hlookup
    contradiction

theorem get?_overlay_toList : (p.overlay q.toList).get? name = (q.get? name).or (p.get? name) := by
  cases hget : q.get? name with
  | some text =>
    exact get?_overlay_of_mem q.nodup_names (q.mem_entries_iff.mpr hget)
  | none =>
    rw [Option.none_or, get?_overlay_of_not_mem]
    intro hmem
    obtain ⟨⟨other, text⟩, he, rfl⟩ := List.mem_map.mp hmem
    rw [q.mem_entries_iff.mp he] at hget
    contradiction

theorem ofList_of_perm (h : list.Perm p.toList) : ofList list = p := by
  have hnodup : (list.map (·.1)).Nodup := (h.map (·.1)).nodup_iff.mpr p.nodup_names
  rw [ofList, overlay_of_perm h hnodup]
  apply ext_get?
  intro name
  rw [get?_overlay_toList, get?_empty, Option.or_none]

/-- The text of a name in the last layer that has one. -/
def lastText? (layers : List (List (String × String))) (name : String) : Option String :=
  layers.reverse.findSome? fun layer => layer.reverse.lookup name

def ofLayers (layers : List (List (String × String))) : Properties :=
  layers.foldl overlay empty

/-- Properties that say what the last of some layers says, and nothing else. -/
def Layered (p : Properties) (layers : List (List (String × String))) : Prop :=
  ∀ name, p.get? name = lastText? layers name ∧
    (name ∈ p.entries.map (·.1) ↔ ∃ layer ∈ layers, name ∈ layer.map (·.1))

variable (layers : List (List (String × String)))

theorem get?_foldl_overlay :
    (layers.foldl overlay p).get? name = (lastText? layers name).or (p.get? name) := by
  induction layers generalizing p with
  | nil => rfl
  | cons layer later ih =>
    rw [List.foldl_cons, ih, get?_overlay, lastText?, lastText?, List.reverse_cons,
      List.findSome?_append, Option.or_assoc]
    congr 2
    rw [List.findSome?_cons]
    cases layer.reverse.lookup name <;> rfl

theorem get?_ofLayers : (ofLayers layers).get? name = lastText? layers name := by
  rw [ofLayers, get?_foldl_overlay, get?_empty, Option.or_none]

theorem isSome_lastText?_iff :
    (lastText? layers name).isSome ↔ ∃ layer ∈ layers, name ∈ layer.map (·.1) := by
  rw [lastText?, List.findSome?_isSome_iff]
  simp only [isSome_lookup_iff, List.map_reverse, List.mem_reverse]

theorem layered_ofLayers : (ofLayers layers).Layered layers := by
  intro name
  have hget : (ofLayers layers).get? name = lastText? layers name := get?_ofLayers layers
  have hnames : name ∈ (ofLayers layers).entries.map (·.1) ↔ ((ofLayers layers).get? name).isSome :=
    isSome_lookup_iff.symm
  exact ⟨hget, by rw [hnames, hget, isSome_lastText?_iff]⟩

end TestCluster.Properties
