import Mathlib.Data.List.Basic

namespace TestCluster.Text

theorem head?_toDigits {n : Nat} (hn : 0 < n) : (Nat.toDigits 10 n).head? ≠ some '0' := by
  induction n using Nat.strongRecOn with
  | ind n ih =>
    rw [Nat.toDigits_eq_if (by decide)]
    split
    next hlt =>
      intro h
      have hdigit : n.digitChar = '0' := Option.some.inj h
      have hzero := Nat.toNat_digitChar_of_lt_ten hlt
      rw [hdigit] at hzero
      change 48 = 48 + n at hzero
      omega
    next hge =>
      have hlead := ih (n / 10) (by omega) (by omega)
      cases hdigits : Nat.toDigits 10 (n / 10) with
      | nil => exact absurd hdigits Nat.toDigits_ne_nil
      | cons c rest =>
        rw [hdigits] at hlead
        exact hlead

/-- The digits of a number, without a zero in front of others. -/
structure Numeral (digits : List Char) (n : Nat) : Prop where
  ne_nil : digits ≠ []
  isDigit : ∀ c ∈ digits, c.isDigit = true
  zero_alone : digits.head? = some '0' → digits = ['0']
  value : Nat.ofDigitChars 10 digits 0 = n

theorem numeral_toDigits (n : Nat) : Numeral (Nat.toDigits 10 n) n where
  ne_nil := Nat.toDigits_ne_nil
  isDigit _ hc := Nat.isDigit_of_mem_toDigits (by decide) (by decide) hc
  zero_alone hzero := by
    by_cases hn : n = 0
    · rw [hn, Nat.toDigits_zero]
    · exact absurd hzero (head?_toDigits (Nat.pos_of_ne_zero hn))
  value := Nat.ofDigitChars_ten_toDigits

theorem numeral_toString (n : Nat) : Numeral (toString n).toList n := by
  rw [Nat.toString_eq_repr, Nat.toList_repr]
  exact numeral_toDigits n

namespace Numeral

variable {digits : List Char} {n : Nat}

theorem foldl (h : Numeral digits n) :
    digits.foldl (fun n c => n * 10 + (c.toNat - 48)) 0 = n := by
  rw [← h.value, Nat.ofDigitChars_eq_foldl]
  congr 1
  funext m c
  rw [Nat.mul_comm]
  rfl

theorem all_isDigit (h : Numeral digits n) : digits.all Char.isDigit = true :=
  List.all_eq_true.mpr h.isDigit

theorem head?_ne (h : Numeral digits n) {c : Char} (hc : c.isDigit = false) :
    digits.head? ≠ some c := by
  intro hhead
  rw [h.isDigit c (List.mem_of_head? hhead)] at hc
  cases hc

end Numeral

end TestCluster.Text
