import Mathlib.Data.List.Forall2
import TestCluster.Json.Token
import TestCluster.Proofs.Url.Segment

namespace TestCluster.Json.Token

inductive CodeUnit : Nat → List Char → Prop
  | digits {a b c d : Char} {w x y z : Nat} (ha : Url.Percent.value? a = some w)
    (hb : Url.Percent.value? b = some x) (hc : Url.Percent.value? c = some y)
    (hd : Url.Percent.value? d = some z) :
    CodeUnit (((w * 16 + x) * 16 + y) * 16 + z) [a, b, c, d]

namespace Piece

/-- A piece inside the quotes of a string. -/
inductive Spelled : Piece → List Char → Prop
  | plain {c : Char} (hquote : c ≠ '"') (hescape : c ≠ '\\') (hcontrol : 0x20 ≤ c.toNat) :
    Spelled (.char c) [c]
  | escaped {e c : Char} (h : (e, c) ∈ escapes) : Spelled (.char c) ['\\', e]
  | code {unit : Nat} {digits : List Char} (h : CodeUnit unit digits) :
    Spelled (.code unit) ('\\' :: 'u' :: digits)

/-- The characters that pieces stand for. A unit is a character, or half of one. -/
inductive Join : List Piece → List Char → Prop
  | nil : Join [] []
  | char {c : Char} {pieces : List Piece} {chars : List Char} (h : Join pieces chars) :
    Join (.char c :: pieces) (c :: chars)
  | code {c : Char} {pieces : List Piece} {chars : List Char} (h : Join pieces chars) :
    Join (.code c.toNat :: pieces) (c :: chars)
  | pair {high low : Nat} {c : Char} {pieces : List Piece} {chars : List Char}
    (hhigh : 0xD800 ≤ high ∧ high < 0xDC00) (hlow : 0xDC00 ≤ low ∧ low < 0xE000)
    (hc : c.toNat = 0x10000 + (high - 0xD800) * 0x400 + (low - 0xDC00))
    (h : Join pieces chars) : Join (.code high :: .code low :: pieces) (c :: chars)

end Piece

theorem CodeUnit.lt {unit : Nat} {digits : List Char} (h : CodeUnit unit digits) :
    unit < 0x10000 := by
  cases h with
  | digits ha hb hc hd =>
    have hw := Url.Percent.value?_lt ha
    have hx := Url.Percent.value?_lt hb
    have hy := Url.Percent.value?_lt hc
    have hz := Url.Percent.value?_lt hd
    omega

theorem CodeUnit.unit? {unit : Nat} {digits : List Char} (h : CodeUnit unit digits) :
    ∃ a b c d, digits = [a, b, c, d] ∧ unit? [some a, some b, some c, some d] = some unit := by
  cases h with
  | digits ha hb hc hd =>
    refine ⟨_, _, _, _, rfl, ?_⟩
    simp [Token.unit?, ha, hb, hc, hd]

theorem isSurrogate_toNat (c : Char) : isHigh c.toNat = false ∧ isLow c.toNat = false := by
  have hvalid : c.toNat < 0xD800 ∨ 0xDFFF < c.toNat ∧ c.toNat < 0x110000 := c.valid
  simp only [isHigh, isLow, Bool.and_eq_false_iff, decide_eq_false_iff_not]
  omega

theorem toNat_ofNat {n : Nat} (h : n.isValidChar) : (Char.ofNat n).toNat = n := by
  rw [Char.ofNat, dif_pos h]
  rfl

theorem join_code (c : Char) (later : List Piece) :
    join (.code c.toNat :: later) = (c :: ·) <$> join later := by
  obtain ⟨hhigh, hlow⟩ := isSurrogate_toNat c
  -- Only where another unit follows is it looked at whether the two are a pair.
  rcases later with _ | ⟨_ | _ | _, later⟩ <;> simp [join, hhigh, hlow, Char.ofNat_toNat]

theorem join_pair {high low : Nat} {c : Char} (hhigh : 0xD800 ≤ high ∧ high < 0xDC00)
    (hlow : 0xDC00 ≤ low ∧ low < 0xE000)
    (hc : c.toNat = 0x10000 + (high - 0xD800) * 0x400 + (low - 0xDC00)) (later : List Piece) :
    join (.code high :: .code low :: later) = (c :: ·) <$> join later := by
  have hpair : (isHigh high && isLow low) = true := by
    simp [isHigh, isLow, hhigh, hlow]
  rw [join, if_pos hpair, ← hc, Char.ofNat_toNat]

theorem Piece.Join.join_eq {pieces : List Piece} {chars : List Char} (h : Join pieces chars) :
    join pieces = some chars := by
  induction h with
  | nil => rfl
  | char _ ih =>
    rw [join, ih]
    rfl
  | code _ ih =>
    rw [join_code, ih]
    rfl
  | pair hhigh hlow hc _ ih =>
    rw [join_pair hhigh hlow hc, ih]
    rfl

theorem Piece.Join.ofNat {unit : Nat} {later : List Piece} {chars : List Char}
    (hunit : unit < 0x10000) (hhalf : ¬(isHigh unit || isLow unit) = true)
    (h : Join later chars) : Join (.code unit :: later) (Char.ofNat unit :: chars) := by
  have hvalid : unit.isValidChar := by
    simp only [isHigh, isLow, Bool.or_eq_true, Bool.and_eq_true, decide_eq_true_eq] at hhalf
    unfold Nat.isValidChar
    omega
  have hcode := Join.code (c := Char.ofNat unit) h
  rwa [toNat_ofNat hvalid] at hcode

/-- Pieces have at most one reading. The bound is there since no character has a greater number. -/
theorem join_eq_some_iff {pieces : List Piece} (h : ∀ unit, .code unit ∈ pieces → unit < 0x10000)
    (chars : List Char) : join pieces = some chars ↔ Piece.Join pieces chars := by
  refine ⟨fun hjoin => ?_, fun hjoin => hjoin.join_eq⟩
  fun_induction join pieces generalizing chars with
  | case1 =>
    cases hjoin
    exact .nil
  | case2 c later ih =>
    obtain ⟨chars, hlater, rfl⟩ := Option.map_eq_some_iff.mp hjoin
    exact .char (ih (fun unit hunit => h unit (by simp [hunit])) chars hlater)
  | case3 high low later hpair ih =>
    obtain ⟨chars, hlater, rfl⟩ := Option.map_eq_some_iff.mp hjoin
    simp only [isHigh, isLow, Bool.and_eq_true, decide_eq_true_eq] at hpair
    refine .pair hpair.1 hpair.2 (toNat_ofNat ?_)
      (ih (fun unit hunit => h unit (by simp [hunit])) chars hlater)
    unfold Nat.isValidChar
    omega
  | case4 => cases hjoin
  | case5 unit low later _ hhalf ih =>
    obtain ⟨chars, hlater, rfl⟩ := Option.map_eq_some_iff.mp hjoin
    exact .ofNat (h unit (by simp)) hhalf
      (ih (fun unit hunit => h unit (List.mem_cons_of_mem _ hunit)) chars hlater)
  | case6 => cases hjoin
  | case7 unit later _ hhalf ih =>
    obtain ⟨chars, hlater, rfl⟩ := Option.map_eq_some_iff.mp hjoin
    exact .ofNat (h unit (by simp)) hhalf
      (ih (fun unit hunit => h unit (List.mem_cons_of_mem _ hunit)) chars hlater)
  | case8 => cases hjoin

theorem Piece.Spelled.pieces? {p : Piece} {word : List Char} (h : p.Spelled word)
    {rest after : Input} {later : List Piece} (hrest : pieces? rest = some (later, after)) :
    pieces? (word.map some ++ rest) = some (p :: later, after) := by
  cases h with
  | @plain c hquote hescape hcontrol =>
    have hplain : (c = '\\' || c.toNat < 0x20) = false := by
      simp only [hescape, decide_false, Bool.false_or, decide_eq_false_iff_not]
      omega
    rw [List.map_singleton, List.singleton_append, Token.pieces?, hplain, hrest]
    · rfl
    · exact hquote
    · exact fun _ _ _ _ _ _ => hescape
    · exact fun _ _ _ => hescape
  | @escaped e c h =>
    have hall : ∀ p ∈ escapes, escapes.lookup p.1 = some p.2 ∧ p.1 ≠ 'u' := by decide
    obtain ⟨hlookup, hu⟩ := hall _ h
    rw [List.map_cons, List.map_singleton, List.cons_append, List.singleton_append,
      Token.pieces?, hlookup, hrest]
    · rfl
    · exact fun _ _ _ _ _ _ => hu
  | code h =>
    obtain ⟨a, b, c, d, rfl, hunit⟩ := h.unit?
    change Token.pieces? (some '\\' :: some 'u' :: some a :: some b :: some c :: some d :: rest) = _
    rw [Token.pieces?, hunit, hrest]
    rfl

theorem pieces?_spelled {pieces : List Piece} {words : List (List Char)}
    (h : List.Forall₂ Piece.Spelled pieces words) (after : Input) :
    pieces? (words.flatten.map some ++ some '"' :: after) = some (pieces, after) := by
  induction h with
  | nil => rfl
  | @cons p word _ _ hword _ ih =>
    rw [List.flatten_cons, List.map_append, List.append_assoc]
    exact hword.pieces? ih

theorem unit_lt_of_spelled {pieces : List Piece} {words : List (List Char)}
    (h : List.Forall₂ Piece.Spelled pieces words) {unit : Nat} (hunit : .code unit ∈ pieces) :
    unit < 0x10000 := by
  induction h with
  | nil => cases hunit
  | cons hword _ ih =>
    obtain rfl | hmem := List.mem_cons.mp hunit
    · cases hword with
      | code hdigits => exact hdigits.lt
    · exact ih hmem

theorem exists_codeUnit {unit : Nat} (h : unit < 0x10000) : ∃ digits, CodeUnit unit digits := by
  have hdigits := CodeUnit.digits (Url.Percent.value?_digit (unit / 4096) (by omega))
    (Url.Percent.value?_digit (unit / 256 % 16) (by omega))
    (Url.Percent.value?_digit (unit / 16 % 16) (by omega))
    (Url.Percent.value?_digit (unit % 16) (by omega))
  have hunit : ((unit / 4096 * 16 + unit / 256 % 16) * 16 + unit / 16 % 16) * 16 + unit % 16 =
      unit := by omega
  rw [hunit] at hdigits
  exact ⟨_, hdigits⟩

theorem Piece.exists_spelled (c : Char) : ∃ p word, Spelled p word ∧
    ∀ pieces chars, Join pieces chars → Join (p :: pieces) (c :: chars) := by
  by_cases hquote : c = '"'
  · subst hquote
    exact ⟨_, _, .escaped (e := '"') (by decide), fun _ _ => .char⟩
  by_cases hescape : c = '\\'
  · subst hescape
    exact ⟨_, _, .escaped (e := '\\') (by decide), fun _ _ => .char⟩
  by_cases hcontrol : 0x20 ≤ c.toNat
  · exact ⟨_, _, .plain hquote hescape hcontrol, fun _ _ => .char⟩
  · obtain ⟨digits, hdigits⟩ := exists_codeUnit (show c.toNat < 0x10000 by omega)
    exact ⟨_, _, .code hdigits, fun _ _ => .code⟩

theorem exists_forall₂_spelled (chars : List Char) :
    ∃ pieces words, List.Forall₂ Piece.Spelled pieces words ∧ Piece.Join pieces chars := by
  induction chars with
  | nil => exact ⟨[], [], .nil, .nil⟩
  | cons c chars ih =>
    obtain ⟨pieces, words, hwords, hjoin⟩ := ih
    obtain ⟨p, word, hword, hcons⟩ := Piece.exists_spelled c
    exact ⟨_, _, .cons hword hwords, hcons _ _ hjoin⟩

end TestCluster.Json.Token
