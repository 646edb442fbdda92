namespace TestCluster

/-- Texts by name, in the order of the names. -/
structure Properties where
  entries : List (String × String)
  sorted : entries.Pairwise (·.1 < ·.1)
  deriving DecidableEq, Repr

namespace Properties

/-- Sets the text of a name in a list that the names order. -/
def place (name text : String) : List (String × String) → List (String × String)
  | [] => [(name, text)]
  | e :: rest =>
    if name = e.1 then (name, text) :: rest
    else if name < e.1 then (name, text) :: e :: rest
    else e :: place name text rest

theorem mem_place {name text : String} {e : String × String} {entries : List (String × String)} :
    e ∈ place name text entries → e = (name, text) ∨ e ∈ entries := by
  induction entries with
  | nil => simp [place]
  | cons f rest ih => grind [place]

theorem sorted_place (name text : String) {entries : List (String × String)}
    (h : entries.Pairwise (·.1 < ·.1)) : (place name text entries).Pairwise (·.1 < ·.1) := by
  induction entries with
  | nil => simp [place]
  | cons f rest ih =>
    obtain ⟨hf, hrest⟩ := List.pairwise_cons.1 h
    unfold place
    split
    · rename_i heq
      exact List.pairwise_cons.2 ⟨fun a ha => heq ▸ hf a ha, hrest⟩
    · split
      · rename_i hlt
        refine List.pairwise_cons.2 ⟨fun a ha => ?_, h⟩
        rcases List.mem_cons.1 ha with rfl | ha
        · exact hlt
        · exact String.lt_trans hlt (hf a ha)
      · rename_i hne hnlt
        refine List.pairwise_cons.2 ⟨fun a ha => ?_, ih hrest⟩
        rcases mem_place ha with rfl | ha
        · rcases String.not_lt.1 hnlt with hle
          exact Decidable.byContradiction fun hge =>
            hne (String.le_antisymm (String.not_lt.1 hge) hle)
        · exact hf a ha

theorem lookup_place (name text other : String) (entries : List (String × String)) :
    (place name text entries).lookup other =
      if other = name then some text else entries.lookup other := by
  induction entries with
  | nil => grind [place]
  | cons e rest ih => grind [place]

def empty : Properties :=
  ⟨[], .nil⟩

variable (p : Properties)

def insert (name text : String) : Properties :=
  ⟨place name text p.entries, sorted_place name text p.sorted⟩

def get? (name : String) : Option String :=
  p.entries.lookup name

/-- Sets every name of a list in turn, so that the last text of a name stays. -/
def overlay (list : List (String × String)) : Properties :=
  list.foldl (fun p (name, text) => p.insert name text) p

def ofList (list : List (String × String)) : Properties :=
  empty.overlay list

def toList : List (String × String) :=
  p.entries

def isEmpty : Bool :=
  p.entries.isEmpty

@[simp] theorem get?_empty (name : String) : empty.get? name = none := rfl

theorem get?_insert (name text other : String) :
    (p.insert name text).get? other = if other = name then some text else p.get? other :=
  lookup_place name text other p.entries

end Properties

end TestCluster
