import TestCluster.Proofs.Text.Utf8
import TestCluster.Url.Path

namespace TestCluster

namespace Url

namespace Percent

theorem value?_digit (n : Nat) (h : n < 16) : value? (digit n) = some n := by
  have hall : ∀ n < 16, value? (digit n) = some n := by decide
  exact hall n h

theorem value?_lt {c : Char} {n : Nat} (h : value? c = some n) : n < 16 := by
  unfold value? at h
  split at h
  next hdigit =>
    simp only [Char.isDigit, ge_iff_le, Bool.and_eq_true, decide_eq_true_eq] at hdigit
    have hle : c.toNat ≤ 57 := hdigit.2
    cases h
    omega
  next =>
    split at h
    next hlow =>
      simp only [Bool.and_eq_true, decide_eq_true_eq] at hlow
      have hle : c.toNat ≤ 102 := hlow.2
      cases h
      omega
    next =>
      split at h
      next hup =>
        simp only [Bool.and_eq_true, decide_eq_true_eq] at hup
        have hle : c.toNat ≤ 70 := hup.2
        cases h
        omega
      next => cases h

theorem byte?_digits (b : UInt8) (rest : List Char) :
    byte? (digit (b.toNat / 16) :: digit (b.toNat % 16) :: rest) = some b := by
  have hb : b.toNat < 256 := b.toNat_lt
  have hsum : b.toNat / 16 * 16 + b.toNat % 16 = b.toNat := by omega
  have hhigh := value?_digit (b.toNat / 16) (by omega)
  have hlow := value?_digit (b.toNat % 16) (by omega)
  simp only [byte?, hhigh, hlow, Option.bind_eq_bind, Option.bind_some, hsum, UInt8.ofNat_toNat]
  rfl

theorem decode_escape (b : UInt8) (rest : List Char) :
    decode (escape b ++ rest) = b :: decode rest := by
  simp only [escape, List.cons_append, List.nil_append]
  rw [decode, if_pos rfl, byte?_digits]
  rfl

theorem decode_escapes (bs : Bytes) (rest : List Char) :
    decode (bs.flatMap escape ++ rest) = bs ++ decode rest := by
  induction bs with
  | nil => rfl
  | cons b bs ih =>
    rw [List.flatMap_cons, List.append_assoc, decode_escape, ih]
    rfl

variable {isPlain : Char → Bool}

theorem decode_encodeChar (h : isPlain '%' = false) (c : Char) (rest : List Char) :
    decode (encodeChar isPlain c ++ rest) = String.utf8EncodeChar c ++ decode rest := by
  unfold encodeChar
  by_cases hc : isPlain c = true
  · have hne : c ≠ '%' := by
      rintro rfl
      rw [h] at hc
      cases hc
    rw [if_pos hc, List.cons_append, decode, if_neg hne]
    rfl
  · rw [if_neg hc, decode_escapes]

theorem decode_encode (h : isPlain '%' = false) (text : List Char) :
    decode (encode isPlain text) = Utf8.encode text := by
  induction text with
  | nil => simp [encode, decode, Utf8.encode]
  | cons c rest ih =>
    have hc := decode_encodeChar h c (encode isPlain rest)
    rw [ih] at hc
    simpa [encode, Utf8.encode] using hc

theorem encode_injective (h : isPlain '%' = false) {s t : List Char}
    (hst : encode isPlain s = encode isPlain t) : s = t := by
  have hdecode := congrArg decode hst
  rw [decode_encode h, decode_encode h] at hdecode
  exact Utf8.encode_injective hdecode

theorem encode_of_plain {text : List Char} (h : ∀ c ∈ text, isPlain c = true) :
    encode isPlain text = text := by
  induction text with
  | nil => rfl
  | cons c rest ih =>
    have hc : encodeChar isPlain c = [c] := by simp [encodeChar, h c]
    have hrest := ih fun d hd => h d (List.mem_cons_of_mem c hd)
    simp only [encode, List.flatMap_cons] at hrest ⊢
    rw [hc, hrest, List.singleton_append]

theorem mem_encode {c : Char} {text : List Char} (h : c ∈ encode isPlain text) :
    (c ∈ text ∧ isPlain c = true) ∨ c = '%' ∨ ∃ n < 16, c = digit n := by
  obtain ⟨d, hmem, hd⟩ := List.mem_flatMap.mp h
  unfold encodeChar at hd
  split at hd
  · rename_i hplain
    rw [List.mem_singleton.mp hd]
    exact .inl ⟨hmem, hplain⟩
  · obtain ⟨b, -, hb⟩ := List.mem_flatMap.mp hd
    have hlt : b.toNat < 256 := b.toNat_lt
    simp only [escape, List.mem_cons, List.not_mem_nil, or_false] at hb
    obtain rfl | rfl | rfl := hb
    · exact .inr (.inl rfl)
    · exact .inr (.inr ⟨_, by omega, rfl⟩)
    · exact .inr (.inr ⟨_, by omega, rfl⟩)

theorem mem_encode_inSegment {special : Bool} {c : Char} {text : List Char}
    (h : c ∈ encode (inSegment special) text) :
    isVisible c = true ∧ c ≠ '/' ∧ c ≠ '?' ∧ c ≠ '#' := by
  have hdigits : ∀ n < 16, isVisible (digit n) = true ∧ digit n ≠ '/' ∧ digit n ≠ '?' ∧
      digit n ≠ '#' := by decide
  obtain ⟨-, hplain⟩ | rfl | ⟨n, hn, rfl⟩ := mem_encode h
  · simp only [inSegment, plainBut, pathEscapes, Bool.and_eq_true] at hplain
    obtain ⟨hvisible, hescaped⟩ := hplain
    refine ⟨hvisible, ?_, ?_, ?_⟩ <;> rintro rfl <;> simp at hescaped
  · decide
  · exact hdigits n hn

theorem ne_backslash_of_mem_encode {c : Char} {text : List Char}
    (h : c ∈ encode (inSegment true) text) : c ≠ '\\' := by
  have hdigits : ∀ n < 16, digit n ≠ '\\' := by decide
  obtain ⟨-, hplain⟩ | rfl | ⟨n, hn, rfl⟩ := mem_encode h
  · rintro rfl
    simp [inSegment, plainBut] at hplain
  · decide
  · exact hdigits n hn

/-- Text in which every percent sign starts the escape of a byte. -/
inductive Escaped : List Char → Prop
  | nil : Escaped []
  | char {c : Char} {rest : List Char} (h : c ≠ '%') (later : Escaped rest) : Escaped (c :: rest)
  | byte (b : UInt8) {rest : List Char} (later : Escaped rest) : Escaped (escape b ++ rest)

theorem Escaped.bytes (bs : Bytes) {rest : List Char} (h : Escaped rest) :
    Escaped (bs.flatMap escape ++ rest) := by
  induction bs with
  | nil => exact h
  | cons b bs ih =>
    rw [List.flatMap_cons, List.append_assoc]
    exact .byte b ih

theorem escaped_encode (h : isPlain '%' = false) (text : List Char) :
    Escaped (encode isPlain text) := by
  induction text with
  | nil => exact .nil
  | cons c rest ih =>
    change Escaped (encodeChar isPlain c ++ encode isPlain rest)
    unfold encodeChar
    split
    · rename_i hc
      refine .char ?_ ih
      rintro rfl
      rw [h] at hc
      cases hc
    · exact .bytes _ ih

/-- A segment that stands for a text: it is ASCII, reads as that text, and is taken for nothing but
one segment. -/
structure StandsFor (segment text : List Char) : Prop where
  ascii : ∀ c ∈ segment, c.toNat < 0x80
  whole : ∀ c ∈ segment, c ∉ ['/', '?', '#', '\\']
  escaped : Escaped segment
  read : decode segment = Utf8.encode text

theorem head_utf8EncodeChar {c : Char} {bs : Bytes} (h : String.utf8EncodeChar c = 0x2E :: bs) :
    c = '.' := by
  unfold String.utf8EncodeChar at h
  have hinj : ∀ n : Nat, n < 256 → UInt8.ofNat n = 0x2E → n = 0x2E := by
    intro n hn heq
    have := congrArg UInt8.toNat heq
    simpa [Nat.mod_eq_of_lt hn] using this
  simp only at h
  split at h
  · have := hinj c.val.toNat (by omega) (List.cons.inj h).1
    apply Char.ext
    apply UInt32.toNat_inj.mp
    exact this
  · split at h
    · have := hinj _ (by omega) (List.cons.inj h).1
      omega
    · split at h
      · have := hinj _ (by omega) (List.cons.inj h).1
        omega
      · have := hinj _ (by omega) (List.cons.inj h).1
        omega

end Percent

namespace Path

theorem dots_escape {b : UInt8} (h : b ≠ 0x2E) (rest : List Char) :
    dots (Percent.escape b ++ rest) = Percent.escape b ++ rest := by
  have htwo : ∀ n < 16, Percent.digit n = '2' → n = 2 := by decide
  have he : ∀ n < 16, (Percent.digit n).toLower = 'e' → n = 14 := by decide
  have hb : b.toNat < 256 := b.toNat_lt
  simp only [Percent.escape, List.cons_append, List.nil_append]
  unfold dots
  split
  · rename_i e tail heq
    obtain ⟨hhigh, hlow, rfl⟩ : Percent.digit (b.toNat / 16) = '2' ∧
        Percent.digit (b.toNat % 16) = e ∧ rest = tail := by simpa using heq
    split
    · rename_i hlower
      rw [← hlow] at hlower
      have h2 := htwo _ (by omega) hhigh
      have h14 := he _ (by omega) hlower
      refine absurd (UInt8.toNat_inj.mp ?_) h
      change b.toNat = 46
      omega
    · rfl
  · rename_i heq
    cases heq
  · rfl

variable {isPlain : Char → Bool} (hdot : isPlain '.' = true) (hpercent : isPlain '%' = false)

include hdot hpercent

/-- Escapes that stand for characters of a text are never read as dots. -/
theorem dots_encode (text : List Char) :
    dots (Percent.encode isPlain text) = Percent.encode isPlain text := by
  induction text with
  | nil => rfl
  | cons c rest ih =>
    change dots (Percent.encodeChar isPlain c ++ Percent.encode isPlain rest) =
      Percent.encodeChar isPlain c ++ Percent.encode isPlain rest
    unfold Percent.encodeChar
    by_cases hc : isPlain c = true
    · have hne : c ≠ '%' := by
        rintro rfl
        rw [hpercent] at hc
        cases hc
      rw [if_pos hc, List.singleton_append]
      by_cases heq : c = '.'
      · subst heq
        rw [dots, ih]
      · unfold dots
        split <;> simp_all
    · rw [if_neg hc]
      cases hbytes : String.utf8EncodeChar c with
      | nil => exact ih
      | cons b bs =>
        have hb : b ≠ 0x2E := by
          rintro rfl
          exact hc (Percent.head_utf8EncodeChar hbytes ▸ hdot)
        rw [List.flatMap_cons, List.append_assoc]
        exact dots_escape hb _

theorem encode_eq_dots_iff {text dotted : List Char} (h : ∀ c ∈ dotted, c = '.') :
    dots (Percent.encode isPlain text) = dotted ↔ text = dotted := by
  have hdotted : Percent.encode isPlain dotted = dotted :=
    Percent.encode_of_plain fun c hc => h c hc ▸ hdot
  rw [dots_encode hdot hpercent]
  constructor
  · intro heq
    exact Percent.encode_injective hpercent (heq.trans hdotted.symm)
  · rintro rfl
    exact hdotted

theorem isHere_encode (text : List Char) :
    isHere (Percent.encode isPlain text) = decide (text = ['.']) := by
  have hdots : ∀ c ∈ ['.'], c = '.' := by simp
  unfold isHere
  simp only [encode_eq_dots_iff hdot hpercent hdots]

theorem isUp_encode (text : List Char) :
    isUp (Percent.encode isPlain text) = decide (text = ['.', '.']) := by
  have hdots : ∀ c ∈ ['.', '.'], c = '.' := by simp
  unfold isUp
  simp only [encode_eq_dots_iff hdot hpercent hdots]

omit hdot hpercent

/-- A segment that stays as it is when it is added to a path. -/
structure IsKept (segment : List Char) : Prop where
  ne_here : segment ≠ ['.']
  ne_up : segment ≠ ['.', '.']
  no_break : ∀ c ∈ segment, isBreak c = false

theorem isKept_iff (segment : List Char) :
    (segment ≠ ['.'] ∧ segment ≠ ['.', '.'] ∧ segment.all (!isBreak ·) = true) ↔
      IsKept segment := by
  have hall : segment.all (!isBreak ·) = true ↔ ∀ c ∈ segment, isBreak c = false := by simp
  rw [hall]
  constructor
  · rintro ⟨hhere, hup, hbreak⟩
    exact ⟨hhere, hup, hbreak⟩
  · rintro ⟨hhere, hup, hbreak⟩
    exact ⟨hhere, hup, hbreak⟩

instance (segment : List Char) : Decidable (IsKept segment) :=
  decidable_of_decidable_of_iff (isKept_iff segment)

variable (special : Bool)

theorem inSegment_dot : Percent.inSegment special '.' = true := by
  cases special <;> decide

theorem inSegment_percent : Percent.inSegment special '%' = false := by
  cases special <;> decide

theorem standsFor_encode (text : List Char) :
    Percent.StandsFor (Percent.encode (Percent.inSegment true) text) text := by
  refine ⟨?_, ?_, Percent.escaped_encode (inSegment_percent true) text,
    Percent.decode_encode (inSegment_percent true) text⟩
  · intro c hc
    obtain ⟨hvisible, -⟩ := Percent.mem_encode_inSegment hc
    simp only [Percent.isVisible, Bool.and_eq_true, decide_eq_true_eq] at hvisible
    omega
  · intro c hc
    obtain ⟨-, hslash, hquery, hfragment⟩ := Percent.mem_encode_inSegment hc
    simp [hslash, hquery, hfragment, Percent.ne_backslash_of_mem_encode hc]

theorem finish_encode (p : Path) (text : List Char) :
    p.finish (Percent.encode (Percent.inSegment special) text) =
      if text = ['.', '.'] then p.dropLast ++ [[]]
      else if text = ['.'] then p ++ [[]]
      else p ++ [Percent.encode (Percent.inSegment special) text] := by
  unfold finish
  simp only [isUp_encode (inSegment_dot special) (inSegment_percent special),
    isHere_encode (inSegment_dot special) (inSegment_percent special), decide_eq_true_eq]

theorem base_of_ne {p : Path} (h : p ≠ [[]]) : p.base = p := by
  unfold base
  rw [if_neg h]

theorem base_ne (p : Path) : p.base ≠ [[]] := by
  unfold base
  split
  · simp
  · assumption

theorem trim_ne (p : Path) : p.trim ≠ [[]] :=
  base_ne _

theorem append_segment_ne {p : Path} {segment : List Char} (h : p = [] → segment ≠ []) :
    p ++ [segment] ≠ [[]] := by
  cases p with
  | nil => simpa using h rfl
  | cons a rest => simp

theorem trim_cases (p : Path) : p = p.trim ∨ p = p.trim ++ [[]] ∨ p = [[], []] ∧ p.trim = [] := by
  unfold trim
  by_cases hlast : p.getLast? = some []
  · obtain ⟨front, rfl⟩ := List.getLast?_eq_some_iff.mp hlast
    rw [if_pos hlast, List.dropLast_concat]
    by_cases hroot : front = [[]]
    · subst hroot
      exact .inr (.inr ⟨rfl, rfl⟩)
    · rw [base_of_ne hroot]
      exact .inr (.inl rfl)
  · have hne : p ≠ [[]] := by
      rintro rfl
      exact hlast rfl
    rw [if_neg hlast, base_of_ne hne]
    exact .inl rfl

/-- Line breaks are dropped before dots are looked for. -/
theorem push_eq {p : Path} {segment : List Char} (hhere : segment ≠ ['.'])
    (hup : segment ≠ ['.', '.']) :
    push special p segment =
      p.base.finish (Percent.encode (Percent.inSegment special) (segment.filter (!isBreak ·))) := by
  unfold push
  simp [hhere, hup]

theorem push_of_isKept (p : Path) {segment : List Char} (h : IsKept segment) :
    push special p segment = p.base ++ [Percent.encode (Percent.inSegment special) segment] := by
  have hfilter : segment.filter (!isBreak ·) = segment := by
    rw [List.filter_eq_self]
    intro c hc
    rw [h.no_break c hc, Bool.not_false]
  rw [push_eq special h.ne_here h.ne_up, hfilter, finish_encode, if_neg h.ne_up, if_neg h.ne_here]

theorem push_of_dots (p : Path) {segment : List Char}
    (h : segment = ['.'] ∨ segment = ['.', '.']) : push special p segment = p := by
  obtain rfl | rfl := h <;> rfl

theorem length_base_le (p : Path) : p.base.length ≤ p.length := by
  unfold base
  split <;> simp

end Path

end Url

end TestCluster
