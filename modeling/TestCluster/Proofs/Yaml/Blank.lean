import TestCluster.Text.Blank
import TestCluster.Yaml.Node

namespace TestCluster.Yaml

open Text (isSpace)

def Token.isScalar : Token → Bool
  | .scalar .. => true
  | _ => false

theorem Token.exists_of_isScalar {t : Token} (h : t.isScalar = true) :
    ∃ text style, t = .scalar text style := by
  cases t with
  | scalar text style => exact ⟨text, style, rfl⟩
  | _ => contradiction

theorem Plain.read?_suffix {flow : Bool} {least : Nat} {text : List Char} {gap : Gap}
    {spots : List Spot} {found : List Char} {crossed : Bool} {rest : List Spot}
    (h : read? flow least text gap spots = some (found, crossed, rest)) : rest <:+ spots := by
  induction spots generalizing text gap with
  | nil =>
    cases h
    exact List.suffix_rfl
  | cons s spots ih =>
    have hcons := List.suffix_cons s spots
    unfold read? at h
    split at h
    · split at h
      · contradiction
      · exact (ih h).trans hcons
    · split at h
      · exact (ih h).trans hcons
      · split at h
        · cases h
          exact List.suffix_rfl
        · split at h
          · contradiction
          · split at h
            · cases h
              exact List.suffix_rfl
            · exact (ih h).trans hcons

namespace Lexer

theorem skipGap_suffix (flow allowed comment : Bool) (spots : List Spot) :
    (skipGap flow allowed comment spots).2 <:+ spots := by
  induction spots generalizing allowed comment with
  | nil => exact List.suffix_rfl
  | cons s spots ih =>
    have hcons := List.suffix_cons s spots
    unfold skipGap
    split
    · exact (ih _ _).trans hcons
    · split
      · exact (ih _ _).trans hcons
      · split
        · exact (ih _ _).trans hcons
        · split
          · exact (ih _ _).trans hcons
          · split
            · exact (ih _ _).trans hcons
            · exact List.suffix_rfl

theorem ne_of_isSpace {c d : Char} (hc : isSpace c = true) (hd : isSpace d = false) : c ≠ d := by
  rintro rfl
  rw [hc] at hd
  contradiction

theorem isMarker_of_isSpace {s : Spot} (rest : List Spot) (hs : isSpace s.char = true) {d : Char}
    (hd : isSpace d = false) : isMarker d (s :: rest) = false := by
  unfold isMarker
  split
  next s₁ s₂ s₃ after heq =>
    cases heq
    rw [beq_false_of_ne (ne_of_isSpace hs hd), Bool.and_false]
    rfl
  next => rfl

theorem token?_of_isSpace (x : Lexer) {s : Spot} (rest : List Spot)
    (hs : isSpace s.char = true) :
    x.token? s rest = if isIndicator s.char then none else x.plain? s rest := by
  have hne : ∀ d, isSpace d = false → s.char ≠ d := fun d => ne_of_isSpace hs
  have hmarker : ∀ d, isSpace d = false → isMarker d (s :: rest) = false :=
    fun d => isMarker_of_isSpace rest hs
  unfold token?
  rw [if_neg (by simp [hne '%' (by decide)]), hmarker '-' (by decide), hmarker '.' (by decide),
    if_neg Bool.false_ne_true, if_neg Bool.false_ne_true]
  split
  case h_11 =>
    rw [if_neg (by simp [hne '-' (by decide)]), if_neg (by simp [hne '?' (by decide)]),
      if_neg (by simp [hne ':' (by decide)]), if_neg (by simp [hne '|' (by decide)]),
      if_neg (by simp [hne '>' (by decide)])]
  all_goals
    rename_i heq
    exact absurd heq (hne _ (by decide))

/-- A lexer that has met only plain words so far. -/
structure Wordy (x : Lexer) : Prop where
  tokens : ∀ t ∈ x.tokens, t.isScalar = true
  columns : x.columns = []

theorem Wordy.allowKey {x : Lexer} (h : x.Wordy) (allowed : Bool) : (x.allowKey allowed).Wordy :=
  ⟨h.tokens, h.columns⟩

theorem Wordy.unroll {x : Lexer} (h : x.Wordy) (keeps : Nat → Bool) : (x.unroll keeps).Wordy := by
  unfold Lexer.unroll
  split
  · exact h
  · rw [h.columns]
    exact ⟨h.tokens, rfl⟩

theorem Wordy.dropKey? {x x' : Lexer} (h : x.Wordy) (hx : x.dropKey? = some x') : x'.Wordy := by
  unfold Lexer.dropKey? at hx
  split at hx
  · split at hx
    · contradiction
    · cases hx
      exact ⟨h.tokens, h.columns⟩
  · cases hx
    exact h

theorem Wordy.saveKey? {x x' : Lexer} (h : x.Wordy) {s : Spot} (hx : x.saveKey? s = some x') :
    x'.Wordy := by
  unfold Lexer.saveKey? at hx
  split at hx
  · obtain ⟨y, hy, hx⟩ := Option.bind_eq_some_iff.mp hx
    cases hx
    exact ⟨(h.dropKey? hy).tokens, (h.dropKey? hy).columns⟩
  · cases hx
    exact h

theorem Wordy.expireAll? {x x' : Lexer} (h : x.Wordy) {s : Spot} (hx : x.expireAll? s = some x') :
    x'.Wordy := by
  unfold Lexer.expireAll? at hx
  obtain ⟨pending, _, hx⟩ := Option.bind_eq_some_iff.mp hx
  obtain ⟨outer, _, hx⟩ := Option.bind_eq_some_iff.mp hx
  cases hx
  exact ⟨h.tokens, h.columns⟩

theorem Wordy.plain? {x x' : Lexer} (h : x.Wordy) {s : Spot} {rest rest' : List Spot}
    (hx : x.plain? s rest = some (x', rest')) : x'.Wordy ∧ rest' <:+ s :: rest := by
  unfold Lexer.plain? at hx
  obtain ⟨y, hy, hx⟩ := Option.bind_eq_some_iff.mp hx
  obtain ⟨⟨text, crossed, after⟩, hread, hx⟩ := Option.bind_eq_some_iff.mp hx
  cases hx
  have hy := h.saveKey? hy
  refine ⟨⟨?_, hy.columns⟩, Plain.read?_suffix hread⟩
  exact List.forall_mem_cons.mpr ⟨rfl, hy.tokens⟩

theorem Wordy.finish? {x : Lexer} (h : x.Wordy) {ts : List Token} (hx : x.finish? = some ts) :
    ∀ t ∈ ts, t.isScalar = true := by
  unfold Lexer.finish? at hx
  obtain ⟨y, hy, hx⟩ := Option.bind_eq_some_iff.mp hx
  cases hx
  intro t ht
  exact ((h.unroll _).dropKey? hy).tokens t (List.mem_reverse.mp ht)

theorem Wordy.tokens? {x : Lexer} (h : x.Wordy) {left : Nat} {spots : List Spot}
    (hspots : ∀ s ∈ spots, isSpace s.char = true) {ts : List Token}
    (hx : tokens? left x spots = some ts) : ∀ t ∈ ts, t.isScalar = true := by
  induction left generalizing x spots with
  | zero => contradiction
  | succ left ih =>
    have hskip := skipGap_suffix x.inFlow x.keyAllowed false spots
    unfold Lexer.tokens? at hx
    split at hx
    next allowed hgap => exact (h.allowKey allowed).finish? hx
    next allowed s rest hgap =>
      rw [hgap] at hskip
      have hs : isSpace s.char = true := hspots s (hskip.subset List.mem_cons_self)
      obtain ⟨y, hy, hx⟩ := Option.bind_eq_some_iff.mp hx
      obtain ⟨⟨z, rest'⟩, hz, hx⟩ := Option.bind_eq_some_iff.mp hx
      rw [token?_of_isSpace _ rest hs] at hz
      split at hz
      · contradiction
      · obtain ⟨hz, hsuffix⟩ := (((h.allowKey allowed).expireAll? hy).unroll _).plain? hz
        exact ih hz (fun s hs => hspots s (hskip.subset (hsuffix.subset hs))) hx

end Lexer

theorem mem_plainBreaks {text : List Char} {c : Char} (h : c ∈ plainBreaks text) :
    c ∈ text ∨ c = '\n' := by
  induction text using plainBreaks.induct with
  | case1 rest ih =>
    rw [plainBreaks] at h
    obtain rfl | h := List.mem_cons.mp h
    · exact .inr rfl
    · exact (ih h).imp_left fun h => List.mem_cons_of_mem _ (List.mem_cons_of_mem _ h)
  | case2 d rest hd ih =>
    rw [plainBreaks] at h
    · obtain rfl | h := List.mem_cons.mp h
      · split
        · exact .inr rfl
        · exact .inl List.mem_cons_self
      · exact (ih h).imp_left (List.mem_cons_of_mem _)
    · exact hd
  | case3 => contradiction

theorem mem_foldl_follow {text : List Char} {before : List Spot} {s : Spot}
    (h : s ∈ text.foldl Spot.follow before) : s ∈ before ∨ s.char ∈ text := by
  induction text generalizing before with
  | nil => exact .inl h
  | cons c text ih =>
    obtain hmem | hmem := ih h
    · cases before with
      | nil =>
        rw [Spot.follow, List.mem_singleton] at hmem
        exact .inr (by rw [hmem]; exact List.mem_cons_self)
      | cons s' before =>
        rw [Spot.follow] at hmem
        obtain rfl | hmem := List.mem_cons.mp hmem
        · refine .inr ?_
          unfold Spot.after
          split <;> exact List.mem_cons_self
        · exact .inl hmem
    · exact .inr (List.mem_cons_of_mem _ hmem)

theorem char_mem_of_mem_ofChars {text : List Char} {s : Spot} (h : s ∈ Spot.ofChars text) :
    s.char ∈ text :=
  (mem_foldl_follow (List.mem_reverse.mp h)).resolve_left List.not_mem_nil

theorem isScalar_of_ofChars? {text : List Char} (htext : ∀ c ∈ text, isSpace c = true)
    {ts : List Token} (h : Token.ofChars? text = some ts) : ∀ t ∈ ts, t.isScalar = true := by
  unfold Token.ofChars? at h
  dsimp only at h
  split at h
  · refine Lexer.Wordy.tokens? ⟨fun t ht => absurd ht List.not_mem_nil, rfl⟩ ?_ h
    intro s hs
    obtain hmem | hbreak := mem_plainBreaks (char_mem_of_mem_ofChars hs)
    · exact htext _ hmem
    · rw [hbreak]
      decide
  · contradiction

theorem events_of_isScalar {ts : List Token} (hts : ∀ t ∈ ts, t.isScalar = true)
    {events : List Event} (h : Event.ofTokens? ts = some events) :
    events = [] ∨ ∃ s, events = [.scalar none s, .documentEnd] := by
  unfold Event.ofTokens? at h
  cases ts with
  | nil =>
    cases h
    exact .inl rfl
  | cons t ts =>
    rw [List.forall_mem_cons] at hts
    obtain ⟨text, style, rfl⟩ := Token.exists_of_isScalar hts.1
    cases ts with
    | nil =>
      cases h
      exact .inr ⟨_, rfl⟩
    | cons t' ts =>
      obtain ⟨text', style', rfl⟩ := Token.exists_of_isScalar (hts.2 t' List.mem_cons_self)
      cases h

theorem documents?_of_isBlank {text : String} (htext : Text.isBlank text = true)
    {documents : List Document} (h : documents? text = some documents) :
    documents = [] ∨ ∃ s targets, documents = [⟨some (.scalar s), targets⟩] := by
  have hchars : ∀ c ∈ text.toList, isSpace c = true := List.all_eq_true.mp htext
  unfold documents? at h
  obtain ⟨ts, hts, h⟩ := Option.bind_eq_some_iff.mp h
  obtain ⟨events, hevents, h⟩ := Option.bind_eq_some_iff.mp h
  have hscalar : ∀ t ∈ ts, t.isScalar = true := by
    refine isScalar_of_ofChars? ?_ hts
    intro c hc
    split at hc
    next rest heq => exact hchars c (by rw [heq]; exact List.mem_cons_of_mem _ hc)
    next => exact hchars c hc
  obtain rfl | ⟨s, rfl⟩ := events_of_isScalar hscalar hevents
  · cases h
    exact .inl rfl
  · cases h
    exact .inr ⟨s, _, rfl⟩

end TestCluster.Yaml
