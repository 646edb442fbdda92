import TestCluster.Proofs.Text.Numeral
import TestCluster.Yaml.Resolve

namespace TestCluster.Yaml.Resolve

theorem hexValue?_of_isDigit {c : Char} (hc : c.isDigit = true) :
    hexValue? c = some (c.toNat - '0'.toNat) := by
  have hrange : ('0' ≤ c && c ≤ '9') = true := hc
  unfold hexValue?
  rw [if_pos hrange]

theorem mapM_hexValue? {text : List Char} (h : ∀ c ∈ text, c.isDigit = true) :
    text.mapM hexValue? = some (text.map fun c => c.toNat - '0'.toNat) := by
  induction text with
  | nil => rfl
  | cons c rest ih =>
    rw [List.forall_mem_cons] at h
    rw [List.mapM_cons, hexValue?_of_isDigit h.1, ih h.2]
    rfl

theorem number_map (base : Nat) (text : List Char) :
    number base (text.map fun c => c.toNat - '0'.toNat) = Nat.ofDigitChars base text 0 := by
  unfold number
  rw [List.foldl_map, Nat.ofDigitChars_eq_foldl]
  congr 1
  funext n c
  rw [Nat.mul_comm]

theorem lt_ten_of_isDigit {c : Char} (hc : c.isDigit = true) : c.toNat - '0'.toNat < 10 := by
  have hle : c ≤ '9' := by
    simp only [Char.isDigit, Bool.and_eq_true, decide_eq_true_eq] at hc
    exact hc.2
  have hnat : c.toNat ≤ 57 := hle
  change c.toNat - 48 < 10
  omega

theorem digits?_toDigits (n : Nat) : digits? 10 (Nat.toDigits 10 n) = some n := by
  have hdigit : ∀ c ∈ Nat.toDigits 10 n, c.isDigit = true :=
    fun c hc => Nat.isDigit_of_mem_toDigits (by decide) (by decide) hc
  unfold digits?
  rw [mapM_hexValue? hdigit]
  have hne : (Nat.toDigits 10 n).map (fun c => c.toNat - '0'.toNat) ≠ [] := by
    simp
  have hall : ((Nat.toDigits 10 n).map fun c => c.toNat - '0'.toNat).any (10 ≤ ·) = false := by
    rw [List.any_eq_false]
    intro d hd
    obtain ⟨c, hc, rfl⟩ := List.mem_map.mp hd
    have hlt := lt_ten_of_isDigit (hdigit c hc)
    simp only [decide_eq_true_eq]
    omega
  simp only [Option.bind_eq_bind, Option.bind_some, hne, hall, decide_false, Bool.or_false,
    Bool.false_eq_true, if_false]
  rw [number_map, Nat.ofDigitChars_ten_toDigits]

/-- No digit marks a base, so a text of digits is read to the base ten. -/
theorem magnitude?_of_digits {text : List Char} (h : ∀ c ∈ text, c.isDigit = true) :
    magnitude? text = digits? 10 text := by
  unfold magnitude?
  split
  · exact absurd (h 'x' (by simp)) (by decide)
  · exact absurd (h 'o' (by simp)) (by decide)
  · exact absurd (h 'b' (by simp)) (by decide)
  · rfl

theorem magnitude?_toDigits (n : Nat) : magnitude? (Nat.toDigits 10 n) = some n := by
  rw [magnitude?_of_digits fun c hc => Nat.isDigit_of_mem_toDigits (by decide) (by decide) hc]
  exact digits?_toDigits n

theorem hasIdleZero_eq_false {text : List Char} (hd : ∀ c ∈ text, c.isDigit = true)
    (hz : text.head? = some '0' → text = ['0']) : hasIdleZero text = false := by
  unfold hasIdleZero
  split
  · exact absurd (hd '-' (by simp)) (by decide)
  · exact absurd (hd '+' (by simp)) (by decide)
  · dsimp only
    split
    · exact absurd (hz rfl) (by simp)
    · rfl

theorem hasIdleZero_toDigits (n : Nat) : hasIdleZero (Nat.toDigits 10 n) = false := by
  have h := Text.numeral_toDigits n
  exact hasIdleZero_eq_false h.isDigit h.zero_alone

theorem whole?_toDigits (n : Nat) : whole? (Nat.toDigits 10 n) = some (n : Int) := by
  have hd : ∀ c ∈ Nat.toDigits 10 n, c.isDigit = true :=
    fun c hc => Nat.isDigit_of_mem_toDigits (by decide) (by decide) hc
  have hm := magnitude?_toDigits n
  unfold whole?
  rw [hasIdleZero_toDigits]
  generalize Nat.toDigits 10 n = text at hd hm ⊢
  split
  · contradiction
  · split
    · exact absurd (hd '-' (by simp)) (by decide)
    · exact absurd (hd '+' (by simp)) (by decide)
    · rw [hm]
      rfl

theorem whole?_neg_toDigits {n : Nat} (hn : 0 < n) :
    whole? ('-' :: Nat.toDigits 10 n) = some (-(n : Int)) := by
  have hidle : hasIdleZero ('-' :: Nat.toDigits 10 n) = false := by
    have hlead := Text.head?_toDigits hn
    cases hdigits : Nat.toDigits 10 n with
    | nil => rfl
    | cons c rest =>
      rw [hdigits] at hlead
      have hc : c ≠ '0' := fun h => hlead (by rw [h]; rfl)
      simp [hasIdleZero, hc]
  unfold whole?
  rw [hidle, if_neg Bool.false_ne_true]
  change Option.map (fun n : Int => -n)
    ((magnitude? (Nat.toDigits 10 n)).bind fun a => some (a : Int)) = _
  rw [magnitude?_toDigits]
  rfl

theorem toList_toString_of_nonneg {n : Int} (hn : 0 ≤ n) :
    (toString n).toList = Nat.toDigits 10 n.toNat := by
  rw [Int.toString_eq_repr, Int.repr_eq_if, if_pos hn, Nat.toList_repr]

theorem toList_toString_of_neg {n : Int} (hn : n < 0) :
    (toString n).toList = '-' :: Nat.toDigits 10 (-n).toNat := by
  rw [Int.toString_eq_repr, Int.repr_eq_if, if_neg (Int.not_le.mpr hn), String.toList_append,
    Nat.toList_repr]
  rfl

theorem whole?_toString (n : Int) : whole? (toString n).toList = some n := by
  by_cases hn : 0 ≤ n
  · rw [toList_toString_of_nonneg hn, whole?_toDigits, Int.toNat_of_nonneg hn]
  · have hneg := Int.not_le.mp hn
    rw [toList_toString_of_neg hneg, whole?_neg_toDigits (by omega)]
    congr 1
    omega

theorem startsWith_toString {n : Int} (h : (toString n).startsWith "-" = true) : n < 0 := by
  apply Int.not_le.mp
  intro hn
  rw [String.startsWith_string_iff, toList_toString_of_nonneg hn] at h
  have hmem : '-' ∈ Nat.toDigits 10 n.toNat := h.subset (by simp)
  exact absurd (Nat.isDigit_of_mem_toDigits (by decide) (by decide) hmem) (by decide)

end TestCluster.Yaml.Resolve
