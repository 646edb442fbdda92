import Mathlib.Data.List.TakeDrop
import TestCluster.Json.Token
import TestCluster.Proofs.Text.Numeral

namespace TestCluster.Json.Token

def Digits (chars : List Char) : Prop :=
  chars ≠ [] ∧ ∀ c ∈ chars, c.isDigit = true

inductive Exponent : List Char → Prop
  | power {e : Char} {sign digits : List Char} (he : e = 'e' ∨ e = 'E')
    (hsign : sign = [] ∨ sign = ['+'] ∨ sign = ['-']) (h : Digits digits) :
    Exponent (e :: sign ++ digits)

/-- What makes a number more than an integer. -/
inductive Extra : List Char → Prop
  | exponent {chars : List Char} (h : Exponent chars) : Extra chars
  | fraction {digits exponent : List Char} (h : Digits digits)
    (hexponent : exponent = [] ∨ Exponent exponent) : Extra ('.' :: digits ++ exponent)

/-- A number, which may be an integer in plain form. -/
inductive Number : Option Int → List Char → Prop
  | whole {n : Nat} {digits : List Char} (h : Text.Numeral digits n) : Number (some n) digits
  | negative {n : Nat} {digits : List Char} (h : Text.Numeral digits n) (hn : n ≠ 0) :
    Number (some (-n)) ('-' :: digits)
  | negativeZero : Number none ['-', '0']
  | extra {n : Nat} {sign digits chars : List Char} (hsign : sign = [] ∨ sign = ['-'])
    (h : Text.Numeral digits n) (hextra : Extra chars) : Number none (sign ++ digits ++ chars)

theorem while_of_head? {α : Type} {p : α → Bool} {rest : List α}
    (h : ∀ a ∈ rest.head?, p a = false) : rest.takeWhile p = [] ∧ rest.dropWhile p = rest := by
  cases rest with
  | nil => exact ⟨rfl, rfl⟩
  | cons a rest =>
    have ha : ¬p a = true := by simp [h a rfl]
    exact ⟨List.takeWhile_cons_of_neg ha, List.dropWhile_cons_of_neg ha⟩

theorem span_isDigit {digits : List Char} (h : ∀ c ∈ digits, c.isDigit = true) (rest : List Char)
    (hrest : ∀ c ∈ rest.head?, c.isDigit = false) :
    (digits ++ rest).span Char.isDigit = (digits, rest) := by
  obtain ⟨htake, hdrop⟩ := while_of_head? hrest
  rw [List.span_eq_takeWhile_dropWhile, List.takeWhile_append_of_pos h,
    List.dropWhile_append_of_pos h, htake, hdrop, List.append_nil]

theorem isExponent_digits {digits : List Char} (h : Digits digits) :
    isExponent digits = true ∧ isExponent ('+' :: digits) = true ∧
      isExponent ('-' :: digits) = true := by
  have hall : (digits ≠ [] && digits.all Char.isDigit) = true := by
    simpa [Digits] using h
  refine ⟨?_, hall, hall⟩
  unfold isExponent
  split
  next => exact absurd (h.2 '+' List.mem_cons_self) (by decide)
  next => exact absurd (h.2 '-' List.mem_cons_self) (by decide)
  next => exact hall

theorem Exponent.exists_cons {chars : List Char} (h : Exponent chars) :
    ∃ e rest, chars = e :: rest ∧ (e = 'e' ∨ e = 'E') ∧ isExponent rest = true := by
  cases h with
  | @power e sign digits he hsign h =>
    obtain ⟨hplain, hplus, hminus⟩ := isExponent_digits h
    obtain rfl | rfl | rfl := hsign
    · exact ⟨e, digits, rfl, he, hplain⟩
    · exact ⟨e, '+' :: digits, rfl, he, hplus⟩
    · exact ⟨e, '-' :: digits, rfl, he, hminus⟩

theorem isFraction_append {digits exponent : List Char} (h : Digits digits)
    (hexponent : exponent = [] ∨ Exponent exponent) : isFraction (digits ++ exponent) = true := by
  obtain ⟨d, ds, rfl⟩ := List.exists_cons_of_ne_nil h.1
  obtain rfl | hexponent := hexponent
  · have hspan := span_isDigit h.2 [] (by simp)
    unfold isFraction
    rw [hspan]
    rfl
  · obtain ⟨e, rest, rfl, he, hrest⟩ := hexponent.exists_cons
    have hspan := span_isDigit h.2 (e :: rest) (by obtain rfl | rfl := he <;> simp)
    unfold isFraction
    rw [hspan]
    simp [he, hrest]

theorem Extra.isTail {chars : List Char} (h : Extra chars) : isTail chars = true := by
  cases h with
  | exponent h =>
    obtain ⟨e, rest, rfl, he, hrest⟩ := h.exists_cons
    obtain rfl | rfl := he <;> simpa [Token.isTail] using hrest
  | fraction h hexponent => exact isFraction_append h hexponent

theorem Extra.exists_cons {chars : List Char} (h : Extra chars) :
    ∃ c rest, chars = c :: rest ∧ c.isDigit = false := by
  cases h with
  | exponent h =>
    obtain ⟨e, rest, rfl, rfl | rfl, _⟩ := h.exists_cons <;> exact ⟨_, _, rfl, rfl⟩
  | fraction => exact ⟨'.', _, rfl, rfl⟩

theorem isWhole_of_numeral {digits : List Char} {n : Nat} (h : Text.Numeral digits n) :
    isWhole digits = true := by
  unfold isWhole
  split
  next => rfl
  next c rest hne =>
    have hzero : c ≠ '0' := by
      rintro rfl
      exact hne rfl (List.cons.inj (h.zero_alone rfl)).2
    simpa [hzero] using h.isDigit
  next => exact absurd rfl h.ne_nil

theorem unsigned?_append {n : Nat} {digits tail : List Char} (negative : Bool)
    (h : Text.Numeral digits n) (htail : tail = [] ∨ Extra tail) :
    unsigned? negative (digits ++ tail) =
      some (number (if tail = [] then integer? negative digits else none)) := by
  have hhead : ∀ c ∈ tail.head?, c.isDigit = false := by
    obtain rfl | htail := htail
    · simp
    · obtain ⟨c, rest, rfl, hc⟩ := htail.exists_cons
      simpa using hc
  have htail : isTail tail = true := by
    obtain rfl | htail := htail
    · rfl
    · exact htail.isTail
  unfold unsigned?
  rw [span_isDigit h.isDigit tail hhead]
  simp only [isWhole_of_numeral h, htail, Bool.and_self, if_true]

theorem number?_plain {n : Nat} {digits : List Char} (h : Text.Numeral digits n)
    (tail : List Char) : number? (digits ++ tail) = unsigned? false (digits ++ tail) := by
  unfold number?
  split
  next hchars =>
    obtain ⟨d, ds, rfl⟩ := List.exists_cons_of_ne_nil h.ne_nil
    rw [List.cons_append, List.cons.injEq] at hchars
    exact absurd (h.isDigit d List.mem_cons_self) (by rw [hchars.1]; decide)
  next => rfl

theorem Number.number? {whole : Option Int} {chars : List Char} (h : Number whole chars) :
    number? chars = some (number whole) := by
  cases h with
  | whole h =>
    have hplain := number?_plain h []
    rw [unsigned?_append false h (.inl rfl), List.append_nil] at hplain
    rw [hplain, if_pos rfl]
    unfold integer?
    rw [h.foldl]
    rfl
  | @negative n digits h hn =>
    have hsign := unsigned?_append true h (.inl rfl)
    rw [List.append_nil, if_pos rfl] at hsign
    change unsigned? true digits = _
    rw [hsign]
    unfold integer?
    rw [h.foldl]
    simp [hn]
  | negativeZero => rfl
  | @extra n sign digits tail hsign h hextra =>
    have hne : tail ≠ [] := by
      obtain ⟨c, rest, rfl, _⟩ := hextra.exists_cons
      exact List.cons_ne_nil c rest
    obtain rfl | rfl := hsign
    · rw [List.nil_append, number?_plain h tail, unsigned?_append false h (.inr hextra), if_neg hne]
    · change unsigned? true (digits ++ tail) = _
      rw [unsigned?_append true h (.inr hextra), if_neg hne]

theorem isWordChar_of_isDigit {c : Char} (h : c.isDigit = true) : isWordChar (some c) = true := by
  simp [isWordChar, Char.isAlphanum, h]

theorem Exponent.isWordChar {chars : List Char} (h : Exponent chars) :
    ∀ c ∈ chars, isWordChar (some c) = true := by
  cases h with
  | power he hsign h =>
    rw [List.cons_append, List.forall_mem_cons, List.forall_mem_append]
    refine ⟨?_, ?_, fun c hc => isWordChar_of_isDigit (h.2 c hc)⟩
    · obtain rfl | rfl := he <;> rfl
    · obtain rfl | rfl | rfl := hsign <;> exact List.all_eq_true.mp rfl

theorem Extra.isWordChar {chars : List Char} (h : Extra chars) :
    ∀ c ∈ chars, isWordChar (some c) = true := by
  cases h with
  | exponent h => exact h.isWordChar
  | fraction h hexponent =>
    rw [List.cons_append, List.forall_mem_cons, List.forall_mem_append]
    refine ⟨rfl, fun c hc => isWordChar_of_isDigit (h.2 c hc), ?_⟩
    obtain rfl | hexponent := hexponent
    · exact List.forall_mem_nil _
    · exact hexponent.isWordChar

theorem Number.isWordChar {whole : Option Int} {chars : List Char} (h : Number whole chars) :
    ∀ c ∈ chars, isWordChar (some c) = true := by
  cases h with
  | whole h => exact fun c hc => isWordChar_of_isDigit (h.isDigit c hc)
  | negative h =>
    exact List.forall_mem_cons.mpr ⟨rfl, fun c hc => isWordChar_of_isDigit (h.isDigit c hc)⟩
  | negativeZero => exact List.all_eq_true.mp rfl
  | extra hsign h hextra =>
    rw [List.forall_mem_append, List.forall_mem_append]
    refine ⟨⟨?_, fun c hc => isWordChar_of_isDigit (h.isDigit c hc)⟩, hextra.isWordChar⟩
    obtain rfl | rfl := hsign <;> exact List.all_eq_true.mp rfl

theorem Number.exists_cons {whole : Option Int} {chars : List Char} (h : Number whole chars) :
    ∃ c rest, chars = c :: rest ∧ (c = '-' ∨ c.isDigit = true) := by
  cases h with
  | whole h =>
    obtain ⟨c, rest, rfl⟩ := List.exists_cons_of_ne_nil h.ne_nil
    exact ⟨c, rest, rfl, .inr (h.isDigit c List.mem_cons_self)⟩
  | negative => exact ⟨'-', _, rfl, .inl rfl⟩
  | negativeZero => exact ⟨'-', _, rfl, .inl rfl⟩
  | extra hsign h =>
    obtain ⟨c, rest, rfl⟩ := List.exists_cons_of_ne_nil h.ne_nil
    obtain rfl | rfl := hsign
    · exact ⟨c, _, rfl, .inr (h.isDigit c List.mem_cons_self)⟩
    · exact ⟨'-', _, rfl, .inl rfl⟩

theorem Number.word? {whole : Option Int} {chars : List Char} (h : Number whole chars) :
    word? chars = some (number whole) := by
  have hletter : ∀ c rest, (c = 'n' ∨ c = 't' ∨ c = 'f') → chars ≠ c :: rest := by
    rintro c rest hc rfl
    obtain ⟨_, _, hchars, hfirst⟩ := h.exists_cons
    rw [← (List.cons.inj hchars).1] at hfirst
    obtain rfl | rfl | rfl := hc <;> simp at hfirst
  unfold Token.word?
  rw [if_neg (hletter _ _ (by simp)), if_neg (hletter _ _ (by simp)),
    if_neg (hletter _ _ (by simp)), h.number?]

end TestCluster.Json.Token
