import TestCluster.Config.Tree
import TestCluster.Proofs.Properties
import TestCluster.Proofs.Yaml.Numeral

namespace TestCluster.Yaml

def Node.target (targets : List (Nat × Node)) (n : Node) : Node :=
  Place.follow ⟨targets, [], n⟩ n

theorem Place.follow_eq (p : Place) (n : Node) : p.follow n = n.target p.targets := by
  cases n <;> rfl

namespace Resolve

theorem integer?_kind {text : String} {found : Found} (h : integer? text = some found) :
    (∃ n, found = .integer n) ∨ ∃ n, found = .wideInteger n := by
  unfold integer? at h
  split at h
  · exact .inl ⟨_, (Option.some.inj h).symm⟩
  · split at h
    · exact .inl ⟨_, (Option.some.inj h).symm⟩
    · split at h
      · exact .inr ⟨_, (Option.some.inj h).symm⟩
      · obtain ⟨n, _, hn⟩ := Option.map_eq_some_iff.mp h
        exact .inr ⟨n, hn.symm⟩

theorem untagged_cases {text : String} {found : Found} (h : untagged text = found) :
    match found with
    | .nothing => (text = "" || isNull text) = true
    | .flag b => flag? text = some b
    | .text t => t = text ∧ (text = "" || isNull text) = false
    | _ => True := by
  unfold untagged at h
  split at h
  next hnull =>
    subst h
    exact hnull
  next hnull =>
    have hword : (text = "" || isNull text) = false := by simpa using hnull
    split at h
    next b hb =>
      subst h
      exact hb
    next =>
      split at h
      next hint =>
        subst h
        obtain ⟨n, rfl⟩ | ⟨n, rfl⟩ := integer?_kind hint <;> trivial
      next =>
        split at h
        · subst h
          exact ⟨rfl, hword⟩
        · split at h
          · subst h
            trivial
          · subst h
            exact ⟨rfl, hword⟩

theorem scalar_untagged {s : Scalar} (htag : s.tag = none) :
    scalar s = .ok (if s.style = .plain then untagged s.text else .text s.text) := by
  unfold scalar
  rw [htag]

end Resolve

theorem Decode.isNothing_of_scalar {s : Scalar} (htag : s.tag = none)
    (h : Resolve.scalar s = .ok .nothing) : isNothing s = true := by
  rw [Resolve.scalar_untagged htag] at h
  unfold isNothing
  rw [htag]
  split at h
  next hplain =>
    have hnull := Resolve.untagged_cases (Except.ok.inj h)
    simpa [hplain] using hnull
  next => exact absurd (Except.ok.inj h) (by simp)

theorem Decode.flag?_of_scalar {s : Scalar} {b : Bool} (htag : s.tag = none)
    (h : Resolve.scalar s = .ok (.flag b)) : s.style = .plain ∧ Resolve.flag? s.text = some b := by
  rw [Resolve.scalar_untagged htag] at h
  split at h
  next hplain => exact ⟨hplain, Resolve.untagged_cases (Except.ok.inj h)⟩
  next => exact absurd (Except.ok.inj h) (by simp)

theorem Decode.text_of_scalar {s : Scalar} {t : String} (htag : s.tag = none)
    (h : Resolve.scalar s = .ok (.text t)) : s.text = t ∧ isNothing s = false := by
  rw [Resolve.scalar_untagged htag] at h
  unfold isNothing
  split at h
  next hplain =>
    obtain ⟨rfl, hnull⟩ := Resolve.untagged_cases (Except.ok.inj h)
    exact ⟨rfl, by rw [hnull, Bool.and_false]⟩
  next hplain => exact ⟨Resolve.Found.text.inj (Except.ok.inj h), by simp [hplain]⟩

end TestCluster.Yaml

namespace TestCluster

open Yaml

namespace Tree

mutual

/-- A node spells a tree if its scalars have no tags and resolve to those of the tree. Parts of it
may stand elsewhere, with aliases in their places. -/
inductive Spells (targets : List (Nat × Node)) : Tree → Node → Prop
  | nothing {s : Scalar} (htag : s.tag = none) (h : Resolve.scalar s = .ok .nothing) :
    Spells targets nothing (.scalar s)
  | flag {s : Scalar} {b : Bool} (htag : s.tag = none) (h : Resolve.scalar s = .ok (.flag b)) :
    Spells targets (flag b) (.scalar s)
  | number {s : Scalar} {n : Int} (htag : s.tag = none) (hplain : s.style = .plain)
    (h : Resolve.whole? s.text.toList = some n) (hsign : s.text.startsWith "-" = true → n < 0) :
    Spells targets (number n) (.scalar s)
  | text {s : Scalar} {t : String} (htag : s.tag = none) (h : Resolve.scalar s = .ok (.text t)) :
    Spells targets (text t) (.scalar s)
  | list {ts : List Tree} {ns : List Node} (h : SpellsItems targets ts ns) :
    Spells targets (list ts) (.sequence none ns)
  | record {es : List (String × Tree)} {ns : List (Node × Node)} (h : SpellsEntries targets es ns) :
    Spells targets (record es) (.mapping none ns)

inductive SpellsItems (targets : List (Nat × Node)) : List Tree → List Node → Prop
  | nil : SpellsItems targets [] []
  | cons {t : Tree} {n : Node} {ts : List Tree} {ns : List Node}
    (h : Spells targets t (n.target targets)) (hrest : SpellsItems targets ts ns) :
    SpellsItems targets (t :: ts) (n :: ns)

inductive SpellsEntries (targets : List (Nat × Node)) :
    List (String × Tree) → List (Node × Node) → Prop
  | nil : SpellsEntries targets [] []
  | cons {name : String} {t : Tree} {k v : Node} {es : List (String × Tree)}
    {ns : List (Node × Node)} (hkey : Spells targets (text name) (k.target targets))
    (h : Spells targets t (v.target targets)) (hrest : SpellsEntries targets es ns) :
    SpellsEntries targets ((name, t) :: es) ((k, v) :: ns)

end

theorem target_node (t : Tree) : t.node.target [] = t.node := by
  cases t <;> rfl

theorem spells_quoted (targets : List (Nat × Node)) (name : String) :
    (text name).Spells targets (quoted name) :=
  .text rfl rfl

mutual

theorem spells_node : (t : Tree) → t.Spells [] t.node
  | nothing => .nothing rfl rfl
  | flag true => .flag rfl rfl
  | flag false => .flag rfl rfl
  | number n => .number rfl rfl (Resolve.whole?_toString n) Resolve.startsWith_toString
  | text t => spells_quoted [] t
  | list ts => .list (spells_nodes ts)
  | record es => .record (spells_entryNodes es)

theorem spells_nodes : (ts : List Tree) → SpellsItems [] ts (nodes ts)
  | [] => .nil
  | t :: ts => .cons (by rw [target_node]; exact spells_node t) (spells_nodes ts)

theorem spells_entryNodes : (es : List (String × Tree)) → SpellsEntries [] es (entryNodes es)
  | [] => .nil
  | (name, t) :: es =>
    .cons (spells_quoted [] name) (by rw [target_node]; exact spells_node t) (spells_entryNodes es)

end

variable {targets : List (Nat × Node)} {n : Node}

theorem Spells.exists_scalar_nothing (h : Tree.nothing.Spells targets n) :
    ∃ s, n = .scalar s ∧ Decode.isNothing s = true := by
  cases h with
  | nothing htag hs => exact ⟨_, rfl, Decode.isNothing_of_scalar htag hs⟩

theorem Spells.exists_scalar_text {t : String} (h : (Tree.text t).Spells targets n) :
    ∃ s, n = .scalar s ∧ s.text = t ∧ s.tag = none ∧ Decode.isNothing s = false := by
  cases h with
  | text htag hs =>
    obtain ⟨ht, hnull⟩ := Decode.text_of_scalar htag hs
    exact ⟨_, rfl, ht, htag, hnull⟩

theorem bareText?_of_plain {s : Scalar} (h : s.style = .plain) (kind : String) :
    Decode.bareText? kind (.scalar s) = some s.text := by
  unfold Decode.bareText?
  dsimp only
  rw [h]
  rfl

theorem Spells.exists_bare_flag {b : Bool} (h : (Tree.flag b).Spells targets n) :
    ∃ text, (∀ kind, Decode.bareText? kind n = some text) ∧ Resolve.flag? text = some b := by
  cases h with
  | flag htag hs =>
    obtain ⟨hplain, hb⟩ := Decode.flag?_of_scalar htag hs
    exact ⟨_, bareText?_of_plain hplain, hb⟩

theorem Spells.exists_bare_number {m : Int} (h : (Tree.number m).Spells targets n) :
    ∃ text, (∀ kind, Decode.bareText? kind n = some text) ∧
      Resolve.whole? text.toList = some m ∧ (text.startsWith "-" = true → m < 0) := by
  cases h with
  | number _ hplain hs hsign => exact ⟨_, bareText?_of_plain hplain, hs, hsign⟩

end Tree

namespace Yaml.Decode

variable {α : Type} {p : Place}

theorem textFor_of_spells {t : String} (expected : String)
    (h : (Tree.text t).Spells p.targets p.node) : textFor expected p = .ok t := by
  obtain ⟨s, hn, ht, _⟩ := h.exists_scalar_text
  unfold textFor
  rw [hn]
  exact congrArg _ ht

theorem flag_of_spells {b : Bool} (h : (Tree.flag b).Spells p.targets p.node) :
    flag p = .ok b := by
  obtain ⟨text, hbare, hb⟩ := h.exists_bare_flag
  unfold flag
  rw [hbare, Option.bind_some, hb]

theorem signed_of_spells {n : Int} {expected : String} {fits : Int → Bool} {ofInt : Int → α}
    (h : (Tree.number n).Spells p.targets p.node) (hfits : fits n = true)
    (hrange : -Int.ofNat (Nat.pow 2 63) ≤ n ∧ n < Int.ofNat (Nat.pow 2 63)) :
    signed expected fits ofInt p = .ok (ofInt n) := by
  obtain ⟨text, hbare, hwhole, _⟩ := h.exists_bare_number
  have hsigned : Resolve.signed? 64 text = some n := by
    unfold Resolve.signed?
    rw [hwhole]
    exact Option.filter_some_pos (by simpa using hrange)
  unfold signed
  rw [hbare, Option.bind_some, hsigned]
  dsimp only
  rw [if_pos hfits]

theorem unsigned_of_spells {n bits : Nat} {expected : String} {ofNat : Nat → α}
    (h : (Tree.number n).Spells p.targets p.node) (hbits : bits ≤ 64) (hn : n < Nat.pow 2 bits) :
    unsigned expected bits ofNat p = .ok (ofNat n) := by
  obtain ⟨text, hbare, hwhole, hsign⟩ := h.exists_bare_number
  have hmax : (n : Int) < Int.ofNat (Nat.pow 2 64) :=
    Int.ofNat_lt.mpr (Nat.lt_of_lt_of_le hn (Nat.pow_le_pow_right (by decide) hbits))
  have hunsigned : Resolve.unsigned? 64 text = some n := by
    unfold Resolve.unsigned?
    rw [if_neg fun hminus => absurd (hsign hminus) (by omega), hwhole, Option.bind_some,
      if_pos hmax]
    rfl
  unfold unsigned
  rw [hbare, Option.bind_some, hunsigned]
  dsimp only
  rw [if_pos hn]

theorem int32_of_spells {n : Int32} (h : (Tree.number n.toInt).Spells p.targets p.node) :
    int32 p = .ok n := by
  have hmin := n.le_toInt
  have hmax := n.toInt_lt
  unfold int32
  rw [signed_of_spells h, Int32.ofInt_toInt]
  · rw [Bool.and_eq_true, decide_eq_true_eq, decide_eq_true_eq]
    exact ⟨n.minValue_le_toInt, n.toInt_le⟩
  · have hpow : Int.ofNat (Nat.pow 2 63) = 2 ^ 63 := rfl
    omega

theorem uint32_of_spells {n : UInt32} (h : (Tree.number n.toNat).Spells p.targets p.node) :
    uint32 p = .ok n := by
  unfold uint32
  rw [unsigned_of_spells h (by decide) n.toNat_lt, UInt32.ofNat_toNat]

theorem uint64_of_spells {n : UInt64} (h : (Tree.number n.toNat).Spells p.targets p.node) :
    uint64 p = .ok n := by
  unfold uint64
  rw [unsigned_of_spells h (by decide) n.toNat_lt, UInt64.ofNat_toNat]

theorem size_of_spells {n : UInt64} (h : (Tree.number n.toNat).Spells p.targets p.node) :
    size p = .ok n := by
  unfold size
  rw [unsigned_of_spells h (by decide) n.toNat_lt, UInt64.ofNat_toNat]

theorem choice_of_spells {choices : List (String × α)} {name : String} {a : α}
    (h : (Tree.text name).Spells p.targets p.node) (ha : choices.lookup name = some a) :
    choice choices p = .ok a := by
  obtain ⟨s, hn, ht, htag, _⟩ := h.exists_scalar_text
  unfold choice
  rw [hn]
  dsimp only [nodeTag]
  rw [htag]
  dsimp only [localTag?, Option.map_none]
  rw [ht, ha]

theorem optional_of_nothing {d : Decoder α} (h : Tree.nothing.Spells p.targets p.node) :
    optional d p = .ok none := by
  obtain ⟨s, hn, hnothing⟩ := h.exists_scalar_nothing
  unfold optional
  rw [hn]
  dsimp only
  rw [if_pos hnothing]

theorem optional_of_text {d : Decoder α} {t : String}
    (h : (Tree.text t).Spells p.targets p.node) : optional d p = some <$> d p := by
  obtain ⟨s, hn, _, htag, hnothing⟩ := h.exists_scalar_text
  unfold optional
  rw [hn]
  dsimp only
  rw [if_neg (by rw [hnothing]; decide), htag, if_neg (by simp)]

theorem optional_of_mapping {d : Decoder α} {tag : Option String} {entries : List (Node × Node)}
    (h : p.node = .mapping tag entries) : optional d p = some <$> d p := by
  unfold optional
  rw [h]

theorem optional_text_of_spells {t : Option String} (expected : String)
    (h : (Tree.optional t).Spells p.targets p.node) : optional (textFor expected) p = .ok t := by
  cases t with
  | none => exact optional_of_nothing h
  | some t =>
    rw [optional_of_text h, textFor_of_spells expected h]
    rfl

theorem child_node (p : Place) (s : Step) (n : Node) :
    (p.child s n).node = n.target p.targets :=
  p.follow_eq n

theorem mapM_of_spells {d : Decoder α} {f : α → Tree}
    (hd : ∀ (q : Place) (a : α), (f a).Spells q.targets q.node → d q = .ok a)
    {as : List α} {ns : List Node} (h : Tree.SpellsItems p.targets (as.map f) ns) (first : Nat) :
    (ns.zipIdx first).mapM (fun (n, i) => d (p.child (.index i) n)) = .ok as := by
  induction as generalizing ns first with
  | nil =>
    cases h
    rfl
  | cons a as ih =>
    cases h with
    | cons h hrest =>
      have ha := hd (p.child (.index first) _) a (by rw [child_node]; exact h)
      rw [List.zipIdx_cons, List.mapM_cons]
      dsimp only
      rw [ha, ih hrest]
      rfl

theorem list_of_spells {d : Decoder α} {f : α → Tree}
    (hd : ∀ (q : Place) (a : α), (f a).Spells q.targets q.node → d q = .ok a)
    {as : List α} (h : (Tree.list (as.map f)).Spells p.targets p.node) : list d p = .ok as := by
  generalize hn : p.node = n at h
  cases h with
  | @list _ ns h =>
    have hitems : p.items "a sequence" = .ok ns := by
      unfold Place.items
      rw [hn]
    unfold list readItems
    rw [hitems]
    exact mapM_of_spells hd h 0

theorem keyText_of_spells {name : String} {k : Node} (expected : String)
    (h : (Tree.text name).Spells p.targets (k.target p.targets)) :
    keyText p expected k = .ok name := by
  unfold keyText
  apply textFor_of_spells
  rw [Place.follow_eq]
  exact h

theorem readProperties_of_spells {es : List (String × String)} {ns : List (Node × Node)}
    (h : Tree.SpellsEntries p.targets (es.map fun e => (e.1, .text e.2)) ns)
    (found : Properties) : readProperties p found ns = .ok (found.overlay es) := by
  induction es generalizing found ns with
  | nil =>
    cases h
    rfl
  | cons e es ih =>
    cases h with
    | @cons _ _ k v _ ns hkey h hrest =>
      have htext : text (p.child (Place.step k) v) = .ok e.2 := by
        apply textFor_of_spells
        rw [child_node]
        exact h
      unfold readProperties
      rw [keyText_of_spells _ hkey]
      change (do readProperties p (found.insert e.1 (← text (p.child (Place.step k) v))) ns) = _
      rw [htext]
      exact ih hrest _

theorem properties_of_spells {es : List (String × String)}
    (h : (Tree.record (es.map fun e => (e.1, .text e.2))).Spells p.targets p.node) :
    properties p = .ok (.ofList es) := by
  generalize hn : p.node = n at h
  cases h with
  | @record _ ns h =>
    have hentries : p.entries "a map" = .ok ns := by
      unfold Place.entries
      rw [hn]
    unfold properties
    rw [hentries]
    exact readProperties_of_spells h .empty

end Yaml.Decode

end TestCluster
