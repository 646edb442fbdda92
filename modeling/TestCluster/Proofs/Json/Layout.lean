import Mathlib.Data.List.Chain
import Mathlib.Data.List.ReduceOption
import TestCluster.Proofs.Json.Numbers
import TestCluster.Proofs.Json.Strings

namespace TestCluster.Json.Token

/-- A word as it is written. A string that no characters can be read from has no content. -/
inductive Spelled : Token → List Char → Prop
  | openList : Spelled openList ['[']
  | closeList : Spelled closeList [']']
  | openRecord : Spelled openRecord ['\x7b']
  | closeRecord : Spelled closeRecord ['\x7d']
  | comma : Spelled comma [',']
  | colon : Spelled colon [':']
  | null : Spelled null ['n', 'u', 'l', 'l']
  | yes : Spelled (flag true) ['t', 'r', 'u', 'e']
  | no : Spelled (flag false) ['f', 'a', 'l', 's', 'e']
  | number {whole : Option Int} {chars : List Char} (h : Number whole chars) :
    Spelled (number whole) chars
  | text {content : Content} {pieces : List Piece} {words : List (List Char)}
    (h : List.Forall₂ Piece.Spelled pieces words)
    (hcontent : ∀ chars, content = some chars ↔ Piece.Join pieces chars) :
    Spelled (text content) ('"' :: words.flatten ++ ['"'])

/-- Words in their order, with gaps around them. -/
inductive Layout : List Token → List Char → Prop
  | nil {gap : List Char} (hgap : ∀ c ∈ gap, isGap c = true) : Layout [] gap
  | cons {gap word rest : List Char} {t : Token} {ts : List Token}
    (hgap : ∀ c ∈ gap, isGap c = true) (hword : t.Spelled word) (hrest : Layout ts rest) :
    Layout (t :: ts) (gap ++ word ++ rest)

def isWord : Token → Bool
  | null | flag _ | number _ => true
  | _ => false

theorem Spelled.word? {t : Token} {word : List Char} (h : t.Spelled word)
    (hword : t.isWord = true) : word ≠ [] ∧ word? word = some t ∧
      ∀ c ∈ word, isWordChar (some c) = true := by
  cases h with
  | null | yes | no => exact ⟨by simp, rfl, List.all_eq_true.mp rfl⟩
  | number h =>
    obtain ⟨c, rest, rfl, _⟩ := h.exists_cons
    exact ⟨List.cons_ne_nil c rest, h.word?, h.isWordChar⟩
  | _ => cases hword

theorem ofInput?_gap {gap : List Char} (h : ∀ c ∈ gap, isGap c = true) (rest : Input) :
    ofInput? (gap.map some ++ rest) = ofInput? rest := by
  induction gap with
  | nil => rfl
  | cons c gap ih =>
    rw [List.map_cons, List.cons_append, ofInput?, if_pos (h c List.mem_cons_self)]
    exact ih fun c hc => h c (List.mem_cons_of_mem _ hc)

theorem not_of_isGap {c : Char} (h : isGap c = true) :
    mark? c = none ∧ isWordChar (some c) = false := by
  simp only [isGap, Bool.or_eq_true, decide_eq_true_eq] at h
  obtain ((rfl | rfl) | rfl) | rfl := h <;> decide

theorem ofInput?_mark {c : Char} {t : Token} (h : mark? c = some t) (rest : Input) :
    ofInput? (some c :: rest) = (t :: ·) <$> ofInput? rest := by
  have hgap : ¬isGap c = true := by
    intro hgap
    rw [(not_of_isGap hgap).1] at h
    cases h
  have hquote : c ≠ '"' := by
    rintro rfl
    cases h
  rw [ofInput?, if_neg hgap, if_neg hquote, h]

theorem ofInput?_text {pieces : List Piece} {words : List (List Char)}
    (h : List.Forall₂ Piece.Spelled pieces words) (rest : Input) :
    ofInput? (('"' :: words.flatten ++ ['"']).map some ++ rest) =
      (text (join pieces) :: ·) <$> ofInput? rest := by
  have hpieces : pieces? (words.flatten.map some ++ (['"'].map some ++ rest)) =
      some (pieces, rest) := pieces?_spelled h rest
  rw [List.map_append, List.append_assoc, List.map_cons, List.cons_append, ofInput?,
    if_neg (by decide), if_pos rfl]
  split
  next heq =>
    cases heq.symm.trans hpieces
    rfl
  next heq => cases heq.symm.trans hpieces

theorem isWordChar_some {c : Char} (h : isWordChar (some c) = true) :
    isGap c = false ∧ c ≠ '"' ∧ mark? c = none := by
  refine ⟨?_, ?_, ?_⟩
  · rw [← Bool.not_eq_true]
    intro hgap
    rw [(not_of_isGap hgap).2] at h
    cases h
  · rintro rfl
    cases h
  · unfold mark?
    split
    case h_7 => rfl
    all_goals cases h

theorem ofInput?_word {t : Token} {word : List Char} (h : t.Spelled word)
    (hword : t.isWord = true) {rest : Input} (hrest : ∀ c ∈ rest.head?, isWordChar c = false) :
    ofInput? (word.map some ++ rest) = (t :: ·) <$> ofInput? rest := by
  obtain ⟨hne, hread, hchars⟩ := h.word? hword
  obtain ⟨c, cs, rfl⟩ := List.exists_cons_of_ne_nil hne
  obtain ⟨hgap, hquote, hmark⟩ := isWordChar_some (hchars c List.mem_cons_self)
  have hcs : ∀ x ∈ cs.map some, isWordChar x = true := by
    rintro _ hx
    obtain ⟨d, hd, rfl⟩ := List.mem_map.mp hx
    exact hchars d (List.mem_cons_of_mem c hd)
  obtain ⟨htake, hdrop⟩ := while_of_head? hrest
  have hfront : front? c (cs.map some ++ rest) = some t := by
    unfold front?
    rw [List.takeWhile_append_of_pos hcs, htake, List.append_nil, List.reduceOption,
      List.filterMap_map]
    simpa using hread
  rw [List.map_cons, List.cons_append, ofInput?, if_neg (by simp [hgap]), if_neg hquote, hmark]
  dsimp only
  rw [hfront, List.dropWhile_append_of_pos hcs, hdrop]
  rfl

theorem ofInput?_spelled {t : Token} {word : List Char} (h : t.Spelled word) {rest : Input}
    (hrest : t.isWord = true → ∀ c ∈ rest.head?, isWordChar c = false) :
    ofInput? (word.map some ++ rest) = (t :: ·) <$> ofInput? rest := by
  cases h with
  | @text content pieces words hwords hcontent =>
    have hjoin : join pieces = content := by
      apply Option.ext
      intro chars
      rw [join_eq_some_iff (fun _ => unit_lt_of_spelled hwords), hcontent]
    rw [ofInput?_text hwords, hjoin]
  | null => exact ofInput?_word .null rfl (hrest rfl)
  | yes => exact ofInput?_word .yes rfl (hrest rfl)
  | no => exact ofInput?_word .no rfl (hrest rfl)
  | number h => exact ofInput?_word (.number h) rfl (hrest rfl)
  | _ => exact ofInput?_mark rfl rest

/-- Of two neighbours one is no word. -/
def Apart (t u : Token) : Prop :=
  t.isWord = false ∨ u.isWord = false

theorem Spelled.exists_cons {t : Token} {word : List Char} (h : t.Spelled word)
    (hword : t.isWord = false) : ∃ c rest, word = c :: rest ∧ isWordChar (some c) = false := by
  cases h with
  | text => exact ⟨'"', _, rfl, rfl⟩
  | null | yes | no | number => cases hword
  | _ => exact ⟨_, [], rfl, rfl⟩

theorem Layout.head? {ts : List Token} {text : List Char} (h : Layout ts text)
    (hword : ∀ t ∈ ts.head?, t.isWord = false) :
    ∀ c ∈ (text.map some).head?, isWordChar c = false := by
  cases h with
  | nil hgap =>
    intro c hc
    obtain ⟨d, hd, rfl⟩ := List.mem_map.mp (List.mem_of_head? hc)
    exact (not_of_isGap (hgap d hd)).2
  | @cons gap word rest t ts hgap hspelled hrest =>
    obtain ⟨d, cs, rfl, hd⟩ := hspelled.exists_cons (hword t rfl)
    intro c hc
    cases gap with
    | nil =>
      cases hc
      exact hd
    | cons g gap =>
      cases hc
      exact (not_of_isGap (hgap g List.mem_cons_self)).2

theorem ofInput?_of_layout {ts : List Token} {text : List Char} (h : Layout ts text)
    (hapart : ts.IsChain Apart) : ofInput? (text.map some) = some ts := by
  induction h with
  | nil hgap =>
    have hread := ofInput?_gap hgap []
    rw [List.append_nil] at hread
    rw [hread, ofInput?]
  | @cons gap word rest t ts hgap hword hlayout ih =>
    rw [List.isChain_cons] at hapart
    -- A word ends where a character stands that is in no word, so that no other may follow it.
    have hstop : t.isWord = true → ∀ c ∈ (rest.map some).head?, isWordChar c = false := by
      intro ht
      refine hlayout.head? fun u hu => ?_
      exact (hapart.1 u hu).resolve_left (by simp [ht])
    rw [List.append_assoc, List.map_append, ofInput?_gap hgap, List.map_append,
      ofInput?_spelled hword hstop, ih hapart.2]
    rfl

theorem spelled_of_join {pieces : List Piece} {words : List (List Char)} {chars : List Char}
    (hwords : List.Forall₂ Piece.Spelled pieces words) (hjoin : Piece.Join pieces chars) :
    Spelled (text (some chars)) ('"' :: words.flatten ++ ['"']) := by
  refine .text hwords fun chars' => ?_
  rw [← hjoin.join_eq]
  exact join_eq_some_iff (fun _ => unit_lt_of_spelled hwords) chars'

theorem exists_spelled (t : Token) : ∃ word, t.Spelled word := by
  cases t with
  | openList => exact ⟨_, .openList⟩
  | closeList => exact ⟨_, .closeList⟩
  | openRecord => exact ⟨_, .openRecord⟩
  | closeRecord => exact ⟨_, .closeRecord⟩
  | comma => exact ⟨_, .comma⟩
  | colon => exact ⟨_, .colon⟩
  | null => exact ⟨_, .null⟩
  | flag b =>
    cases b with
    | true => exact ⟨_, .yes⟩
    | false => exact ⟨_, .no⟩
  | number whole =>
    cases whole with
    | none => exact ⟨_, .number .negativeZero⟩
    | some n =>
      cases n with
      | ofNat n => exact ⟨_, .number (.whole (Text.numeral_toDigits n))⟩
      | negSucc n =>
        exact ⟨_, .number (.negative (Text.numeral_toDigits (n + 1)) (Nat.succ_ne_zero n))⟩
  | text content =>
    cases content with
    | none =>
      obtain ⟨digits, hdigits⟩ := exists_codeUnit (show 0xD800 < 0x10000 by decide)
      have hwords := List.Forall₂.cons (Piece.Spelled.code hdigits) .nil
      refine ⟨_, .text hwords fun chars => ?_⟩
      exact join_eq_some_iff (fun _ => unit_lt_of_spelled hwords) chars
    | some chars =>
      obtain ⟨pieces, words, hwords, hjoin⟩ := exists_forall₂_spelled chars
      exact ⟨_, spelled_of_join hwords hjoin⟩

theorem Layout.next {t : Token} {ts : List Token} {word rest : List Char} (hword : t.Spelled word)
    (hrest : Layout ts rest) : Layout (t :: ts) (word ++ rest) :=
  .cons (List.forall_mem_nil _) hword hrest

theorem exists_layout (ts : List Token) : ∃ text, Layout ts text := by
  induction ts with
  | nil => exact ⟨[], .nil (List.forall_mem_nil _)⟩
  | cons t ts ih =>
    obtain ⟨word, hword⟩ := t.exists_spelled
    obtain ⟨text, htext⟩ := ih
    exact ⟨word ++ text, .next hword htext⟩

theorem join_map_char (chars : List Char) : Piece.Join (chars.map .char) chars := by
  induction chars with
  | nil => exact .nil
  | cons c chars ih => exact .char ih

theorem spelled_text {chars : List Char}
    (h : chars.all (fun c => c ≠ '"' && c ≠ '\\' && 0x20 ≤ c.toNat) = true) :
    Spelled (text (some chars)) ('"' :: chars ++ ['"']) := by
  have hwords : List.Forall₂ Piece.Spelled (chars.map .char) (chars.map ([·])) := by
    rw [List.forall₂_map_left_iff, List.forall₂_map_right_iff, List.forall₂_same]
    intro c hc
    have hplain := List.all_eq_true.mp h c hc
    simp only [Bool.and_eq_true, decide_eq_true_eq] at hplain
    exact .plain hplain.1.1 hplain.1.2 hplain.2
  have htext := spelled_of_join hwords (join_map_char chars)
  rwa [← List.flatMap_def, List.flatMap_singleton'] at htext

end TestCluster.Json.Token
