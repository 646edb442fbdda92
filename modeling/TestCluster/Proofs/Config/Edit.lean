import Mathlib.Data.List.Nodup
import Mathlib.Logic.Relation
import TestCluster.Proofs.Yaml.Spelling

namespace TestCluster

open Yaml

/-- How far a tree may be changed. The entries of a record are told by their names; each has a shape
of its own and, unless it is required, a value that it has when it is left out. -/
inductive Shape
  | leaf
  | texts
  | record (members : List (String × Shape × Option Tree))

namespace Shape

abbrev Members := List (String × Shape × Option Tree)

def names (ms : Members) : List String :=
  ms.map (·.1)

/-- One change: entries change places, one is left out that has its default, or one is added that
the record does not know. -/
inductive Edit : Shape → Tree → Tree → Prop
  | permuteTexts {es es' : List (String × Tree)} (h : es.Perm es') :
    Edit texts (.record es) (.record es')
  | permute {ms : Members} {es es' : List (String × Tree)} (h : es.Perm es') :
    Edit (record ms) (.record es) (.record es')
  | leaveOut {ms : Members} {name : String} {s : Shape} {t : Tree}
    (before after : List (String × Tree)) (h : (name, s, some t) ∈ ms) :
    Edit (record ms) (.record (before ++ (name, t) :: after)) (.record (before ++ after))
  | add {ms : Members} {name : String} {t : Tree} (before after : List (String × Tree))
    (h : name ∉ names ms) :
    Edit (record ms) (.record (before ++ after)) (.record (before ++ (name, t) :: after))
  | within {ms : Members} {name : String} {s : Shape} {d : Option Tree} {t t' : Tree}
    (before after : List (String × Tree)) (h : (name, s, d) ∈ ms) (ht : Edit s t t') :
    Edit (record ms) (.record (before ++ (name, t) :: after))
      (.record (before ++ (name, t') :: after))

/-- What any number of changes preserve: the entries that are there vary those of the first tree,
and the value of one that is not there varied to its default. -/
inductive Variant : Shape → Tree → Tree → Prop
  | leaf {t : Tree} : Variant leaf t t
  | texts {es es' : List (String × Tree)} (h : es.Perm es') :
    Variant texts (.record es) (.record es')
  | absent {ms : Members} : Variant (record ms) .nothing .nothing
  | record {ms : Members} {es es' : List (String × Tree)} (hnames : (names ms).Nodup)
    (hall : ∀ name ∈ names ms, ∃ t, (name, t) ∈ es)
    (hnodup : ((es'.map (·.1)).filter (· ∈ names ms)).Nodup)
    (hrequired : ∀ name s, (name, s, none) ∈ ms → name ∈ es'.map (·.1))
    (hkept : ∀ name s d t t', (name, s, d) ∈ ms → (name, t) ∈ es → (name, t') ∈ es' →
      Variant s t t')
    (hleft : ∀ name s t t', (name, s, some t') ∈ ms → (name, t) ∈ es → name ∉ es'.map (·.1) →
      Variant s t t') :
    Variant (record ms) (.record es) (.record es')

theorem mem_names {ms : Members} {name : String} {s : Shape} {d : Option Tree}
    (h : (name, s, d) ∈ ms) : name ∈ names ms :=
  List.mem_map_of_mem (f := (·.1)) h

theorem exists_of_mem_names {ms : Members} {name : String} (h : name ∈ names ms) :
    ∃ s d, (name, s, d) ∈ ms := by
  obtain ⟨⟨_, s, d⟩, hmem, rfl⟩ := List.mem_map.mp h
  exact ⟨s, d, hmem⟩

theorem eq_of_mem {ms : Members} (hnames : (names ms).Nodup) {name : String} {s s' : Shape}
    {d d' : Option Tree} (h : (name, s, d) ∈ ms) (h' : (name, s', d') ∈ ms) : s = s' ∧ d = d' := by
  have heq := List.inj_on_of_nodup_map hnames h h' rfl
  simpa using heq

section Changes

variable {ms : Members} {t : Tree} {name : String}

theorem Variant.permute {es es' : List (String × Tree)} (h : Variant (.record ms) t (.record es))
    (hperm : es.Perm es') : Variant (.record ms) t (.record es') := by
  have hfst := hperm.map (·.1)
  cases h with
  | record hnames hall hnodup hrequired hkept hleft =>
    refine .record hnames hall ?_ ?_ ?_ ?_
    · exact (hfst.filter _).nodup_iff.mp hnodup
    · exact fun name s hm => hfst.mem_iff.mp (hrequired name s hm)
    · exact fun name s d t t' hm ht ht' => hkept name s d t t' hm ht (hperm.mem_iff.mpr ht')
    · exact fun name s t t' hm ht hnot => hleft name s t t' hm ht (hnot ∘ hfst.mem_iff.mp)

variable {before after : List (String × Tree)}

theorem Variant.leaveOut {s : Shape} {x : Tree}
    (h : Variant (.record ms) t (.record (before ++ (name, x) :: after)))
    (hx : (name, s, some x) ∈ ms) : Variant (.record ms) t (.record (before ++ after)) := by
  have hsub : (before ++ after).Sublist (before ++ (name, x) :: after) :=
    (List.sublist_cons_self _ _).append_left before
  cases h with
  | record hnames hall hnodup hrequired hkept hleft =>
    refine .record hnames hall ?_ ?_ ?_ ?_
    · exact hnodup.sublist ((hsub.map (·.1)).filter _)
    · intro other s' hm
      have hne : other ≠ name := by
        rintro rfl
        exact nomatch (eq_of_mem hnames hx hm).2
      simpa [hne] using hrequired other s' hm
    · exact fun other s' d' t t' hm ht ht' => hkept other s' d' t t' hm ht (hsub.subset ht')
    · intro other s' t t' hm ht hnot
      by_cases hne : other = name
      · subst hne
        obtain ⟨rfl, heq⟩ := eq_of_mem hnames hx hm
        cases heq
        exact hkept other s _ t x hx ht (by simp)
      · exact hleft other s' t t' hm ht (by simpa [hne] using hnot)

theorem Variant.add {x : Tree} (h : Variant (.record ms) t (.record (before ++ after)))
    (hnew : name ∉ names ms) : Variant (.record ms) t (.record (before ++ (name, x) :: after)) := by
  have hsub : (before ++ after).Sublist (before ++ (name, x) :: after) :=
    (List.sublist_cons_self _ _).append_left before
  cases h with
  | record hnames hall hnodup hrequired hkept hleft =>
    refine .record hnames hall ?_ ?_ ?_ ?_
    · simpa [hnew] using hnodup
    · exact fun other s hm => (hsub.map (·.1)).subset (hrequired other s hm)
    · intro other s d t t' hm ht ht'
      have hne : other ≠ name := by
        rintro rfl
        exact hnew (mem_names hm)
      exact hkept other s d t t' hm ht (by simpa [hne] using ht')
    · exact fun other s t t' hm ht hnot =>
        hleft other s t t' hm ht fun hmem => hnot ((hsub.map (·.1)).subset hmem)

theorem Variant.within {s : Shape} {d : Option Tree} {x x' : Tree}
    (h : Variant (.record ms) t (.record (before ++ (name, x) :: after))) (hm : (name, s, d) ∈ ms)
    (hx : ∀ t, Variant s t x → Variant s t x') :
    Variant (.record ms) t (.record (before ++ (name, x') :: after)) := by
  have hfst : (before ++ (name, x') :: after).map (·.1) =
      (before ++ (name, x) :: after).map (·.1) := by simp
  cases h with
  | record hnames hall hnodup hrequired hkept hleft =>
    refine .record hnames hall ?_ ?_ ?_ ?_
    · rwa [hfst]
    · rwa [hfst]
    · intro other s' d' t t' hm' ht ht'
      by_cases hnew : (other, t') = (name, x')
      · cases hnew
        obtain ⟨rfl, rfl⟩ := eq_of_mem hnames hm hm'
        exact hx t (hkept name s d t x hm ht (by simp))
      · apply hkept other s' d' t t' hm' ht
        simp only [List.mem_append, List.mem_cons, hnew, false_or] at ht' ⊢
        tauto
    · rwa [hfst]

end Changes

theorem Variant.edit {s : Shape} {t t' t'' : Tree} (h : Variant s t t') (he : Edit s t' t'') :
    Variant s t t'' := by
  induction he generalizing t with
  | permuteTexts hperm =>
    cases h with
    | texts h => exact .texts (h.trans hperm)
  | permute hperm => exact h.permute hperm
  | leaveOut _ _ hx => exact h.leaveOut hx
  | add _ _ hnew => exact h.add hnew
  | within _ _ hm _ ih => exact h.within hm fun _ => ih

theorem Variant.edits {s : Shape} {t t' t'' : Tree} (h : Variant s t t')
    (he : Relation.ReflTransGen (Edit s) t' t'') : Variant s t t'' := by
  induction he with
  | refl => exact h
  | tail _ hstep ih => exact ih.edit hstep

end Shape

end TestCluster
