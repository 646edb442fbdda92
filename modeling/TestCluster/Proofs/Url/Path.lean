import TestCluster.Proofs.Url.Segment
import TestCluster.Url.Read

namespace TestCluster.Url

theorem mem_splitAt {isSeparator : Char → Bool} {text part : List Char}
    (h : part ∈ splitAt isSeparator text) {c : Char} (hc : c ∈ part) : isSeparator c = false := by
  induction text generalizing part with
  | nil =>
    rw [List.mem_singleton.mp h] at hc
    cases hc
  | cons d rest ih =>
    unfold splitAt at h
    split at h
    · obtain rfl | h := List.mem_cons.mp h
      · cases hc
      · exact ih h hc
    · rename_i hd
      split at h
      · rename_i first parts heq
        obtain rfl | h := List.mem_cons.mp h
        · obtain rfl | hc := List.mem_cons.mp hc
          · exact Bool.eq_false_iff.mpr hd
          · exact ih (heq ▸ List.mem_cons_self) hc
        · exact ih (heq ▸ List.mem_cons_of_mem first h) hc
      · rw [List.mem_singleton.mp h] at hc
        rw [List.mem_singleton.mp hc]
        exact Bool.eq_false_iff.mpr hd

namespace Path

def Segmented (p : Path) : Prop :=
  ∀ segment ∈ p, '/' ∉ segment

variable {p : Path} {segment : List Char}

theorem segmented_nil : Segmented [] :=
  nofun

theorem Segmented.append {q : Path} (hp : p.Segmented) (hq : q.Segmented) :
    Segmented (p ++ q) := by
  intro segment h
  obtain h | h := List.mem_append.mp h
  · exact hp segment h
  · exact hq segment h

theorem segmented_singleton (h : '/' ∉ segment) : Segmented [segment] := by
  intro other hother
  rwa [List.mem_singleton.mp hother]

theorem Segmented.of_subset {q : Path} (hp : p.Segmented) (h : q ⊆ p) : q.Segmented :=
  fun segment hq => hp segment (h hq)

theorem Segmented.dropLast (h : p.Segmented) : Segmented (List.dropLast p) :=
  h.of_subset (List.dropLast_subset p)

theorem Segmented.enter (hp : p.Segmented) (h : '/' ∉ segment) : (p.enter segment).Segmented := by
  unfold Path.enter
  split
  · exact hp.dropLast
  · split
    · exact hp
    · exact hp.append (segmented_singleton h)

theorem Segmented.finish (hp : p.Segmented) (h : '/' ∉ segment) :
    (p.finish segment).Segmented := by
  have hnil : Segmented [[]] := segmented_singleton List.not_mem_nil
  unfold Path.finish
  split
  · exact hp.dropLast.append hnil
  · split
    · exact hp.append hnil
    · exact hp.append (segmented_singleton h)

theorem Segmented.entered {segments : List (List Char)} (hp : p.Segmented)
    (h : Segmented segments) : Segmented (segments.foldl Path.enter p) := by
  induction segments generalizing p with
  | nil => exact hp
  | cons segment later ih =>
    have hsegment := h segment List.mem_cons_self
    exact ih (hp.enter hsegment) (h.of_subset (List.subset_cons_self segment later))

theorem Segmented.follow {segments : List (List Char)} (hp : p.Segmented)
    (h : Segmented segments) : (p.follow segments).Segmented := by
  refine (hp.entered h.dropLast).finish ?_
  cases hlast : segments.getLast? with
  | none => exact List.not_mem_nil
  | some segment => exact h segment (List.mem_of_getLast? hlast)

theorem Segmented.read (hp : p.Segmented) (special : Bool) (text : List Char) :
    (p.read special text).Segmented := by
  apply hp.follow
  intro segment h hslash
  obtain ⟨part, hpart, rfl⟩ := List.mem_map.mp h
  obtain ⟨hmem, -⟩ | hpercent | ⟨n, hn, hdigit⟩ := Percent.mem_encode hslash
  · have hno := mem_splitAt hpart hmem
    simp [isSlash] at hno
  · cases hpercent
  · have hdigits : ∀ n < 16, '/' ≠ Percent.digit n := by decide
    exact hdigits n hn hdigit

/-- A text up to a slash at its end. -/
def upToSlash (text : List Char) : List Char :=
  if text.getLast? = some '/' then text.dropLast else text

theorem write_append (p q : Path) : write (p ++ q) = p.write ++ q.write :=
  List.flatMap_append

theorem write_singleton (segment : List Char) : write [segment] = '/' :: segment :=
  List.flatMap_singleton _ segment

theorem upToSlash_write_nil (p : Path) : upToSlash (write (p ++ [[]])) = p.write := by
  rw [write_append, write_singleton]
  simp [upToSlash]

theorem upToSlash_write_segment (p : Path) (hne : segment ≠ []) (h : '/' ∉ segment) :
    upToSlash (write (p ++ [segment])) = write (p ++ [segment]) := by
  have hlast : (write (p ++ [segment])).getLast? = segment.getLast? := by
    rw [← List.dropLast_concat_getLast hne, write_append, write_singleton, List.getLast?_concat,
      ← List.cons_append, ← List.append_assoc, List.getLast?_concat]
  unfold upToSlash
  rw [hlast, if_neg]
  exact fun hslash => h (List.mem_of_getLast? hslash)

/-- The path that segments are added to is the old one up to a slash at its end, unless it is
nothing but two slashes. -/
theorem write_trim (hp : p.Segmented) (h : p.write ≠ ['/', '/']) :
    p.trim.write = upToSlash p.write := by
  obtain rfl | ⟨front, segment, rfl⟩ := List.eq_nil_or_concat p
  · rfl
  rw [List.concat_eq_append] at *
  unfold trim
  rw [List.getLast?_concat, List.dropLast_concat]
  by_cases hne : segment = []
  · subst hne
    have hfront : front ≠ [[]] := by
      rintro rfl
      exact h rfl
    rw [if_pos rfl, base_of_ne hfront, upToSlash_write_nil]
  · have hnil : some segment ≠ some [] := fun heq => hne (Option.some.inj heq)
    have hslash : '/' ∉ segment := hp segment (List.mem_append_right _ List.mem_cons_self)
    rw [if_neg hnil, base_of_ne (append_segment_ne fun _ => hne),
      upToSlash_write_segment front hne hslash]

end Path

theorem segmented_pathAt (special : Bool) (text : List Char) : (pathAt special text).Segmented := by
  unfold pathAt
  split
  · split
    · exact Path.segmented_singleton List.not_mem_nil
    · exact Path.segmented_nil
  · exact Path.segmented_nil.read special _

theorem segmented_filePath (text : List Char) : (filePath text).Segmented := by
  unfold filePath
  split
  · exact Path.segmented_singleton List.not_mem_nil
  · exact (Path.segmented_nil.read true text).of_subset (List.dropWhile_sublist _).subset

def ReadsSegmented (x : Except Fault Url) : Prop :=
  ∀ u, x = .ok u → u.path.Segmented

theorem ReadsSegmented.pure {u : Url} (h : u.path.Segmented) : ReadsSegmented (Pure.pure u) := by
  rintro _ ⟨⟩
  exact h

theorem ReadsSegmented.bind {α : Type} {x : Except Fault α} {f : α → Except Fault Url}
    (h : ∀ a, ReadsSegmented (f a)) : ReadsSegmented (x >>= f) := by
  intro u hu
  cases x with
  | error e => cases hu
  | ok a => exact h a u hu

theorem ReadsSegmented.guard {c : Prop} [Decidable c] {e : Fault} {f : PUnit → Except Fault Url}
    {x : Except Fault Url} (h : ReadsSegmented x) :
    ReadsSegmented (if c then throw e >>= f else x) := by
  split
  · exact nofun
  · exact h

theorem readsSegmented_ofAuthority (scheme text : List Char) :
    ReadsSegmented (ofAuthority scheme text) := by
  unfold ofAuthority
  dsimp only
  refine .guard (.guard ?_)
  split <;> exact .bind fun host => .guard (.bind fun port => .guard (.pure (segmented_pathAt _ _)))

theorem readsSegmented_ofFile (text : List Char) : ReadsSegmented (ofFile text) := by
  unfold ofFile
  dsimp only
  split
  · split
    · split
      · exact .pure (segmented_filePath _)
      · exact .bind fun host => .pure (segmented_filePath _)
    · exact .pure (segmented_filePath _)
  · exact .pure (segmented_filePath _)

theorem readsSegmented_read (text : String) : ReadsSegmented (read text) := by
  unfold read
  split
  · unfold ofScheme
    split
    · exact readsSegmented_ofAuthority _ _
    · exact readsSegmented_ofFile _
    · exact readsSegmented_ofAuthority _ _
    · exact .pure (Path.segmented_nil.read false _)
    · exact nofun
  · exact nofun

end TestCluster.Url
