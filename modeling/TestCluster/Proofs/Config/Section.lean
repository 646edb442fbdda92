import TestCluster.Proofs.Config.Edit

namespace TestCluster

open Yaml Yaml.Decode

namespace Shape

mutual

/-- A node shows a tree if it spells what has a place in the shape. What stands under other names
may be anything. -/
inductive Shows (targets : List (Nat × Node)) : Shape → Tree → Node → Prop
  | leaf {t : Tree} {n : Node} (h : t.Spells targets n) : Shows targets leaf t n
  | texts {t : Tree} {n : Node} (h : t.Spells targets n) : Shows targets texts t n
  | absent {ms : Members} {n : Node} (h : Tree.nothing.Spells targets n) :
    Shows targets (record ms) .nothing n
  | record {ms : Members} {es : List (String × Tree)} {ns : List (Node × Node)}
    (h : ShowsEntries targets ms es ns) : Shows targets (record ms) (.record es) (.mapping none ns)

inductive ShowsEntries (targets : List (Nat × Node)) :
    Members → List (String × Tree) → List (Node × Node) → Prop
  | nil {ms : Members} : ShowsEntries targets ms [] []
  | known {ms : Members} {name : String} {s : Shape} {d : Option Tree} {t : Tree} {k v : Node}
    {es : List (String × Tree)} {ns : List (Node × Node)} (hm : (name, s, d) ∈ ms)
    (hkey : (Tree.text name).Spells targets (k.target targets))
    (h : Shows targets s t (v.target targets)) (hrest : ShowsEntries targets ms es ns) :
    ShowsEntries targets ms ((name, t) :: es) ((k, v) :: ns)
  | passed {ms : Members} {name : String} {t : Tree} {k v : Node} {es : List (String × Tree)}
    {ns : List (Node × Node)} (hm : name ∉ names ms)
    (hkey : (Tree.text name).Spells targets (k.target targets))
    (hrest : ShowsEntries targets ms es ns) :
    ShowsEntries targets ms ((name, t) :: es) ((k, v) :: ns)

end

theorem showsEntries_of_spells {targets : List (Nat × Node)} {ms : Members}
    {es : List (String × Tree)} {ns : List (Node × Node)}
    (hspells : Tree.SpellsEntries targets es ns)
    (h : ∀ name s d t n, (name, s, d) ∈ ms → (name, t) ∈ es → t.Spells targets n →
      Shows targets s t n) : ShowsEntries targets ms es ns := by
  induction es generalizing ns with
  | nil =>
    cases hspells
    exact .nil
  | cons e es ih =>
    cases hspells with
    | @cons name t k v _ ns hkey hs hrest =>
      have hlater := ih hrest fun name s d t n hm ht =>
        h name s d t n hm (List.mem_cons_of_mem _ ht)
      by_cases hname : name ∈ names ms
      · obtain ⟨s, d, hm⟩ := exists_of_mem_names hname
        exact .known hm hkey (h name s d t _ hm List.mem_cons_self hs) hlater
      · exact .passed hname hkey hlater

theorem Variant.shows_of_spells {targets : List (Nat × Node)} {s : Shape} {t t' : Tree} {n : Node}
    (h : Variant s t t') (hspells : t'.Spells targets n) : Shows targets s t' n := by
  induction h generalizing n with
  | leaf => exact .leaf hspells
  | texts => exact .texts hspells
  | absent => exact .absent hspells
  | record _ hall _ _ _ _ ih _ =>
    cases hspells with
    | record hspells =>
      refine .record (showsEntries_of_spells hspells fun name s d t' n hm ht' hs => ?_)
      obtain ⟨t, ht⟩ := hall name (mem_names hm)
      exact ih name s d t t' hm ht ht' hs

theorem Variant.shows {s : Shape} {t t' : Tree} (h : Variant s t t') : Shows [] s t' t'.node :=
  h.shows_of_spells (Tree.spells_node t')

end Shape

open Shape

variable {α β : Type}

def Reads (s : Shape) (d : Decoder α) (t : Tree) (a : α) : Prop :=
  ∀ p : Place, Shows p.targets s t p.node → d p = .ok a

/-- A decoder brings back what `tree` writes, from every variant of it. -/
structure Faithful (s : Shape) (d : Decoder α) (tree : α → Tree) : Prop where
  variant : ∀ a, Variant s (tree a) (tree a)
  reads : ∀ a t, Variant s (tree a) t → Reads s d t a

theorem Reads.unique {s : Shape} {d : Decoder α} {t t₀ : Tree} {a a' : α} (h : Reads s d t a)
    (h' : Reads s d t a') (hv : Variant s t₀ t) : a = a' := by
  have heq := (h ⟨[], [], t.node⟩ hv.shows).symm.trans (h' ⟨[], [], t.node⟩ hv.shows)
  exact Except.ok.inj heq

theorem faithful_leaf {d : Decoder α} {tree : α → Tree}
    (h : ∀ (p : Place) (a : α), (tree a).Spells p.targets p.node → d p = .ok a) :
    Faithful .leaf d tree := by
  refine ⟨fun _ => .leaf, fun a t hv p hs => ?_⟩
  cases hv
  cases hs with
  | leaf hs => exact h p a hs

/-- A member of a record: where its value stands, and how it is written and read. -/
structure Slot (α : Type) where
  {β : Type}
  name : String
  required : Bool
  decoder : Decoder β
  shape : Shape
  tree : β → Tree
  get : α → β
  set : α → β → α
  faithful : Faithful shape decoder tree
  get_set : ∀ a b, get (set a b) = b
  set_get : ∀ a, set a (get a) = a

namespace Slot

def of {s : Shape} {d : Decoder β} {tree : β → Tree} (name : String) (h : Faithful s d tree)
    (get : α → β) (set : α → β → α) (hget : ∀ a b, get (set a b) = b)
    (hset : ∀ a, set a (get a) = a) : Slot α :=
  ⟨name, false, d, s, tree, get, set, h, hget, hset⟩

variable (slot : Slot α)

def member : Member α :=
  { field slot.name slot.decoder slot.set with required := slot.required }

def entry (a : α) : String × Tree :=
  (slot.name, slot.tree (slot.get a))

/-- A slot that is not required takes its default from where decoding starts. -/
def row (start : α) : String × Shape × Option Tree :=
  (slot.name, slot.shape, if slot.required then none else some (slot.tree (slot.get start)))

/-- The value of one slot is not touched by setting the other. -/
def Apart (slot slot' : Slot α) : Prop :=
  (∀ a b, slot.get (slot'.set a b) = slot.get a) ∧ ∀ a b, slot'.get (slot.set a b) = slot'.get a

def Keeps (slot slot' : Slot α) : Prop :=
  ∀ a c, slot.get a = slot.get c → slot.get (slot'.set a (slot'.get c)) = slot.get c

end Slot

/-- Slots that are told by their names and make up the whole record. -/
structure Complete (slots : List (Slot α)) : Prop where
  names : (slots.map (·.name)).Nodup
  apart : slots.Pairwise Slot.Apart
  whole : ∀ a c, slots.foldl (fun a slot => slot.set a (slot.get c)) a = c

theorem foldl_set_of_get_eq {slots : List (Slot α)} {a c : α}
    (h : ∀ slot ∈ slots, slot.get a = slot.get c) :
    slots.foldl (fun a slot => slot.set a (slot.get c)) a = a := by
  induction slots with
  | nil => rfl
  | cons slot slots ih =>
    rw [List.forall_mem_cons] at h
    rw [List.foldl_cons, ← h.1, slot.set_get]
    exact ih h.2

namespace Complete

variable {slots : List (Slot α)}

theorem ext (h : Complete slots) {a c : α} (hget : ∀ slot ∈ slots, slot.get a = slot.get c) :
    a = c :=
  (foldl_set_of_get_eq hget).symm.trans (h.whole a c)

theorem keeps (h : Complete slots) {slot slot' : Slot α} (hs : slot ∈ slots)
    (hs' : slot' ∈ slots) : slot.Keeps slot' := by
  have hself : ∀ x ∈ slots, x.Keeps x := fun x _ a c _ => x.get_set a _
  have hleft : slots.Pairwise Slot.Keeps := by
    apply h.apart.imp
    rintro x y ⟨hxy, _⟩ a c ha
    rw [hxy, ha]
  have hright : slots.Pairwise (flip Slot.Keeps) := by
    apply h.apart.imp
    rintro x y ⟨_, hyx⟩ a c ha
    rw [hyx, ha]
  exact List.Pairwise.forall_of_forall_of_flip hself hleft hright hs hs'

theorem eq_of_name_eq (h : Complete slots) {slot slot' : Slot α} (hs : slot ∈ slots)
    (hs' : slot' ∈ slots) (hname : slot.name = slot'.name) : slot = slot' :=
  List.inj_on_of_nodup_map h.names hs hs' hname

theorem find?_member (h : Complete slots) {slot : Slot α} (hs : slot ∈ slots) :
    (slots.map Slot.member).find? (·.name = slot.name) = some slot.member := by
  have hname : ∀ x ∈ slots, (x.member.name = slot.name) → x = slot :=
    fun x hx hname => h.eq_of_name_eq hx hs hname
  cases hfind : (slots.map Slot.member).find? (·.name = slot.name) with
  | none =>
    rw [List.find?_eq_none] at hfind
    have hne : ¬slot.member.name = slot.name := by
      simpa using hfind slot.member (List.mem_map_of_mem hs)
    exact absurd rfl hne
  | some m =>
    obtain ⟨x, hx, rfl⟩ := List.mem_map.mp (List.mem_of_find?_eq_some hfind)
    rw [hname x hx (by simpa using List.find?_some hfind)]

end Complete

theorem Slot.set_of_shows {slot : Slot α} {p : Place} {t : Tree} {c : α}
    (hv : Variant slot.shape (slot.tree (slot.get c)) t) (h : Shows p.targets slot.shape t p.node) :
    slot.member.set p = .ok fun a => slot.set a (slot.get c) := by
  have hread : slot.decoder p = .ok (slot.get c) := slot.faithful.reads _ t hv p h
  change (fun b a => slot.set a b) <$> slot.decoder p = _
  rw [hread]
  rfl

variable {slots : List (Slot α)} {start : α}

theorem ok_bind {ε β γ : Type} (b : β) (f : β → Except ε γ) :
    (Except.ok b >>= f) = f b := rfl

theorem names_rows (slots : List (Slot α)) (start : α) :
    names (slots.map fun slot => slot.row start) = slots.map (·.name) := by
  simp [names, Slot.row]

theorem readFields_known (hc : Complete slots) {slot : Slot α} (hs : slot ∈ slots) {p : Place}
    {k v : Node} (ns : List (Node × Node)) {t : Tree} {a c : α} {seen : List String}
    (hkey : (Tree.text slot.name).Spells p.targets (k.target p.targets))
    (hv : Variant slot.shape (slot.tree (slot.get c)) t)
    (h : Shows p.targets slot.shape t (v.target p.targets)) (hfresh : slot.name ∉ seen) :
    readFields (slots.map Slot.member) p seen a ((k, v) :: ns) =
      readFields (slots.map Slot.member) p (slot.name :: seen) (slot.set a (slot.get c)) ns := by
  have hset : slot.member.set (p.child (Place.step k) v) = .ok fun a => slot.set a (slot.get c) :=
    Slot.set_of_shows hv (by rw [child_node]; exact h)
  rw [readFields, keyText_of_spells _ hkey, ok_bind, hc.find?_member hs]
  dsimp only
  rw [if_neg (by simpa using hfresh)]
  change (do let update ← slot.member.set (p.child (Place.step k) v); _) = _
  rw [hset]
  rfl

theorem readFields_passed {p : Place} {name : String} (hm : name ∉ slots.map (·.name))
    {k : Node} (v : Node) (ns : List (Node × Node)) (a : α) (seen : List String)
    (hkey : (Tree.text name).Spells p.targets (k.target p.targets)) :
    readFields (slots.map Slot.member) p seen a ((k, v) :: ns) =
      readFields (slots.map Slot.member) p seen a ns := by
  have hfind : (slots.map Slot.member).find? (·.name = name) = none := by
    rw [List.find?_eq_none]
    intro m hmem hname
    obtain ⟨slot, hs, rfl⟩ := List.mem_map.mp hmem
    exact hm (List.mem_map.mpr ⟨slot, hs, of_decide_eq_true hname⟩)
  rw [readFields, keyText_of_spells _ hkey, ok_bind, hfind]

/-- Entry by entry, each slot has the value it is to have or meets it later. -/
theorem readFields_of_shows (hc : Complete slots) {p : Place} {c : α} {es : List (String × Tree)}
    {ns : List (Node × Node)}
    (h : ShowsEntries p.targets (slots.map fun slot => slot.row start) es ns)
    (hnodup : ((es.map (·.1)).filter (· ∈ slots.map (·.name))).Nodup)
    (hkept : ∀ slot ∈ slots, ∀ t, (slot.name, t) ∈ es →
      Variant slot.shape (slot.tree (slot.get c)) t)
    (seen : List String) (a : α)
    (hseen : ∀ slot ∈ slots, slot.name ∈ es.map (·.1) → slot.name ∉ seen)
    (hplace : ∀ slot ∈ slots, slot.get a = slot.get c ∨ slot.name ∈ es.map (·.1)) :
    ∃ seen', readFields (slots.map Slot.member) p seen a ns = .ok (seen', c) ∧
      ∀ slot ∈ slots, slot.name ∈ seen ∨ slot.name ∈ es.map (·.1) → slot.name ∈ seen' := by
  induction es generalizing ns seen a with
  | nil =>
    cases h
    have hac : a = c := hc.ext fun slot hs => (hplace slot hs).resolve_right List.not_mem_nil
    rw [hac]
    exact ⟨seen, rfl, fun slot _ hmem => hmem.resolve_right List.not_mem_nil⟩
  | cons e es ih =>
    cases h with
    | @known _ name s d t k v _ ns hm hkey h hrest =>
      obtain ⟨slot, hs, hrow⟩ := List.mem_map.mp hm
      cases hrow
      have hname : slot.name ∈ slots.map (·.name) := List.mem_map_of_mem (f := (·.name)) hs
      rw [List.map_cons, List.filter_cons_of_pos (by simpa using hname), List.nodup_cons,
        List.mem_filter] at hnodup
      have hlater : slot.name ∉ es.map (·.1) := fun hmem => hnodup.1 ⟨hmem, by simpa using hname⟩
      have hfresh : slot.name ∉ seen := hseen slot hs (by simp)
      have hseen' : ∀ x ∈ slots, x.name ∈ es.map (·.1) → x.name ∉ slot.name :: seen := by
        intro x hx hmem hcons
        obtain heq | hold := List.mem_cons.mp hcons
        · exact hlater (heq ▸ hmem)
        · exact hseen x hx (List.mem_cons_of_mem _ hmem) hold
      have hplace' : ∀ x ∈ slots,
          x.get (slot.set a (slot.get c)) = x.get c ∨ x.name ∈ es.map (·.1) := by
        intro x hx
        obtain hget | hmem := hplace x hx
        · exact .inl (hc.keeps hx hs a c hget)
        · obtain heq | hmem := List.mem_cons.mp hmem
          · cases hc.eq_of_name_eq hx hs heq
            exact .inl (slot.get_set a _)
          · exact .inr hmem
      obtain ⟨seen', hread, hall⟩ := ih hrest hnodup.2
        (fun x hx t ht => hkept x hx t (List.mem_cons_of_mem _ ht)) _ _ hseen' hplace'
      rw [readFields_known hc hs ns hkey (hkept slot hs t List.mem_cons_self) h hfresh]
      refine ⟨seen', hread, fun x hx hmem => hall x hx ?_⟩
      obtain hold | hmem := hmem
      · exact .inl (List.mem_cons_of_mem _ hold)
      · obtain heq | hmem := List.mem_cons.mp hmem
        · exact .inl (heq ▸ List.mem_cons_self)
        · exact .inr hmem
    | @passed _ name t k v _ ns hm hkey hrest =>
      rw [names_rows] at hm
      have hne : ∀ slot ∈ slots, slot.name ∈ ((name, t) :: es).map (·.1) →
          slot.name ∈ es.map (·.1) := by
        intro slot hs hmem
        obtain heq | hmem := List.mem_cons.mp hmem
        · exact absurd (List.mem_map.mpr ⟨slot, hs, heq⟩) hm
        · exact hmem
      rw [List.map_cons, List.filter_cons_of_neg (by simpa using hm)] at hnodup
      obtain ⟨seen', hread, hall⟩ := ih hrest hnodup
        (fun x hx t ht => hkept x hx t (List.mem_cons_of_mem _ ht)) seen a
        (fun x hx hmem => hseen x hx (List.mem_cons_of_mem _ hmem))
        (fun x hx => (hplace x hx).imp_right (hne x hx))
      rw [readFields_passed hm v ns a seen hkey]
      exact ⟨seen', hread, fun x hx hmem => hall x hx (hmem.imp_right (hne x hx))⟩

theorem variant_rows (hc : Complete slots) (c : α) :
    Variant (.record (slots.map fun slot => slot.row start))
      (.record (slots.map fun slot => slot.entry c))
      (.record (slots.map fun slot => slot.entry c)) := by
  have hfst : (slots.map fun slot => slot.entry c).map (·.1) = slots.map (·.name) := by
    simp [Slot.entry]
  refine .record ?_ ?_ ?_ ?_ ?_ ?_
  · rw [names_rows]
    exact hc.names
  · intro name hname
    rw [names_rows] at hname
    obtain ⟨slot, hs, rfl⟩ := List.mem_map.mp hname
    exact ⟨_, List.mem_map_of_mem (f := fun slot => slot.entry c) hs⟩
  · rw [hfst]
    exact hc.names.filter _
  · intro name s hm
    rw [hfst, ← names_rows slots start]
    exact mem_names hm
  · intro name s d t t' hm ht ht'
    obtain ⟨slot, hs, hrow⟩ := List.mem_map.mp hm
    obtain ⟨slot₁, hs₁, hentry₁⟩ := List.mem_map.mp ht
    obtain ⟨slot₂, hs₂, hentry₂⟩ := List.mem_map.mp ht'
    cases hrow
    obtain ⟨hname₁, rfl⟩ := Prod.mk.inj hentry₁
    obtain ⟨hname₂, rfl⟩ := Prod.mk.inj hentry₂
    cases hc.eq_of_name_eq hs₁ hs hname₁
    cases hc.eq_of_name_eq hs₂ hs hname₂
    exact slot.faithful.variant _
  · intro name s t t' hm ht hnot
    rw [hfst, ← names_rows slots start] at hnot
    exact absurd (mem_names hm) hnot

theorem get_start_of_left {c : α} {es : List (String × Tree)}
    (hv : Variant (.record (slots.map fun slot => slot.row start))
      (.record (slots.map fun slot => slot.entry c)) (.record es))
    {slot : Slot α} (hs : slot ∈ slots) (hleft : slot.name ∉ es.map (·.1)) :
    slot.required = false ∧ slot.get start = slot.get c := by
  have hrow : slot.row start ∈ slots.map fun slot => slot.row start := List.mem_map_of_mem hs
  have hentry : slot.entry c ∈ slots.map fun slot => slot.entry c := List.mem_map_of_mem hs
  cases hv with
  | record _ _ _ hrequired _ hgone =>
    unfold Slot.row at hrow
    cases hreq : slot.required with
    | true =>
      rw [hreq, if_pos rfl] at hrow
      exact absurd (hrequired _ _ hrow) hleft
    | false =>
      rw [hreq, if_neg Bool.false_ne_true] at hrow
      have hdefault := hgone _ _ _ _ hrow hentry hleft
      have hstart := slot.faithful.variant (slot.get start)
      exact ⟨rfl, (slot.faithful.reads _ _ hstart).unique (slot.faithful.reads _ _ hdefault) hstart⟩

theorem reads_record (hc : Complete slots) (name : String) {c : α} {t : Tree}
    (hv : Variant (.record (slots.map fun slot => slot.row start))
      (.record (slots.map fun slot => slot.entry c)) t) :
    Reads (.record (slots.map fun slot => slot.row start))
      (Yaml.Decode.record name (slots.map Slot.member) start) t c := by
  intro p hshows
  have hleft := hv
  cases hv with
  | @record _ _ es _ _ hnodup _ hkept _ =>
    generalize hn : p.node = n at hshows
    cases hshows with
    | @record _ _ ns hshows =>
      have hentries : p.entries ("struct " ++ name) = .ok ns := by
        unfold Place.entries
        rw [hn]
      rw [names_rows] at hnodup
      obtain ⟨seen, hread, hseen⟩ := readFields_of_shows hc hshows hnodup
        (fun slot hs t ht => hkept _ _ _ _ _ (List.mem_map_of_mem hs)
          (List.mem_map_of_mem (f := fun slot => slot.entry c) hs) ht)
        [] start (fun _ _ _ => List.not_mem_nil) fun slot hs => by
          by_cases hmem : slot.name ∈ es.map (·.1)
          · exact .inr hmem
          · exact .inl (get_start_of_left hleft hs hmem).2
      have hfind : ((slots.map Slot.member).find? fun f => f.required && !seen.contains f.name) =
          none := by
        rw [List.find?_eq_none]
        intro m hm
        obtain ⟨slot, hs, rfl⟩ := List.mem_map.mp hm
        change ¬(slot.required && !seen.contains slot.name) = true
        by_cases hmem : slot.name ∈ es.map (·.1)
        · simp [hseen slot hs (.inr hmem)]
        · simp [(get_start_of_left hleft hs hmem).1]
      unfold Yaml.Decode.record
      rw [hentries, ok_bind, hread, ok_bind]
      dsimp only
      rw [hfind]
      rfl

theorem faithful_record (hc : Complete slots) (start : α) (name : String) :
    Faithful (.record (slots.map fun slot => slot.row start))
      (Yaml.Decode.record name (slots.map Slot.member) start)
      fun c => .record (slots.map fun slot => slot.entry c) :=
  ⟨variant_rows hc, fun _ _ => reads_record hc name⟩

end TestCluster
