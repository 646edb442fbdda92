import TestCluster.Text.Utf8

namespace TestCluster.Utf8

theorem isTail_ofNat {n : Nat} (h : n < 64) : isTail (UInt8.ofNat (n + 128)) = true := by
  have hall : ∀ n < 64, isTail (UInt8.ofNat (n + 128)) = true := by decide
  exact hall n h

theorem bits_tail {n : Nat} (h : n < 64) : bits (UInt8.ofNat (n + 128)) 6 = n := by
  have hall : ∀ n < 64, bits (UInt8.ofNat (n + 128)) 6 = n := by decide
  exact hall n h

variable (v : Nat) (rest : Bytes)

theorem front_one (h : v ≤ 127) : front (UInt8.ofNat v) rest = (some (Char.ofNat v), 0) := by
  have hall : ∀ v ≤ 127, UInt8.ofNat v < 0x80 ∧ (UInt8.ofNat v).toNat = v := by decide
  obtain ⟨hlt, hvalue⟩ := hall v h
  unfold front
  rw [if_pos hlt, hvalue]

theorem front_two (hlow : 127 < v) (hhigh : v ≤ 2047) :
    front (UInt8.ofNat (v / 64 % 32 + 192)) (UInt8.ofNat (v % 64 + 128) :: rest) =
      (some (Char.ofNat v), 1) := by
  have hall : ∀ n < 32, 2 ≤ n → ¬UInt8.ofNat (n + 192) < 0x80 ∧
      (0xC2 ≤ UInt8.ofNat (n + 192) && UInt8.ofNat (n + 192) ≤ 0xDF) = true ∧
      bits (UInt8.ofNat (n + 192)) 5 = n := by decide
  obtain ⟨hone, htwo, hbits⟩ := hall (v / 64 % 32) (by omega) (by omega)
  have hvalue : v / 64 % 32 * 64 + v % 64 = v := by omega
  unfold front
  rw [if_neg hone, if_pos htwo]
  dsimp only
  rw [if_pos (isTail_ofNat (by omega)), hbits, bits_tail (by omega), hvalue]

/-- The second byte of three says that two are not enough and that no surrogate is written. -/
theorem secondOfThree_ofNat {m n : Nat} (hm : m < 16) (hn : n < 64) (hlong : m = 0 → 32 ≤ n)
    (hwhole : m = 13 → n < 32) :
    secondOfThree (UInt8.ofNat (m + 224)) (UInt8.ofNat (n + 128)) = true := by
  have hall : ∀ m < 16, ∀ n < 64, (m = 0 → 32 ≤ n) → (m = 13 → n < 32) →
      secondOfThree (UInt8.ofNat (m + 224)) (UInt8.ofNat (n + 128)) = true := by decide
  exact hall m hm n hn hlong hwhole

theorem front_three (hlow : 2047 < v) (hhigh : v ≤ 65535) (hwhole : v < 0xD800 ∨ 0xDFFF < v) :
    front (UInt8.ofNat (v / 4096 % 16 + 224))
        (UInt8.ofNat (v / 64 % 64 + 128) :: UInt8.ofNat (v % 64 + 128) :: rest) =
      (some (Char.ofNat v), 2) := by
  have hall : ∀ n < 16, ¬UInt8.ofNat (n + 224) < 0x80 ∧
      ¬(0xC2 ≤ UInt8.ofNat (n + 224) && UInt8.ofNat (n + 224) ≤ 0xDF) = true ∧
      (0xE0 ≤ UInt8.ofNat (n + 224) && UInt8.ofNat (n + 224) ≤ 0xEF) = true ∧
      bits (UInt8.ofNat (n + 224)) 4 = n := by decide
  obtain ⟨hone, htwo, hthree, hbits⟩ := hall (v / 4096 % 16) (by omega)
  have hsecond := secondOfThree_ofNat (m := v / 4096 % 16) (n := v / 64 % 64) (by omega) (by omega)
    (by omega) (by omega)
  have hvalue : v / 4096 % 16 * 4096 + v / 64 % 64 * 64 + v % 64 = v := by omega
  unfold front
  rw [if_neg hone, if_neg htwo, if_pos hthree]
  dsimp only
  rw [hsecond, isTail_ofNat (by omega), hbits, bits_tail (by omega), bits_tail (by omega), hvalue]
  rfl

/-- The second byte of four says that three are not enough and that the last plane is not passed. -/
theorem secondOfFour_ofNat {m n : Nat} (hm : m < 5) (hn : n < 64) (hlong : m = 0 → 16 ≤ n)
    (hlast : m = 4 → n < 16) :
    secondOfFour (UInt8.ofNat (m + 240)) (UInt8.ofNat (n + 128)) = true := by
  have hall : ∀ m < 5, ∀ n < 64, (m = 0 → 16 ≤ n) → (m = 4 → n < 16) →
      secondOfFour (UInt8.ofNat (m + 240)) (UInt8.ofNat (n + 128)) = true := by decide
  exact hall m hm n hn hlong hlast

theorem front_four (hlow : 65535 < v) (hhigh : v < 0x110000) :
    front (UInt8.ofNat (v / 262144 % 8 + 240)) (UInt8.ofNat (v / 4096 % 64 + 128) ::
        UInt8.ofNat (v / 64 % 64 + 128) :: UInt8.ofNat (v % 64 + 128) :: rest) =
      (some (Char.ofNat v), 3) := by
  have hall : ∀ n < 5, ¬UInt8.ofNat (n + 240) < 0x80 ∧
      ¬(0xC2 ≤ UInt8.ofNat (n + 240) && UInt8.ofNat (n + 240) ≤ 0xDF) = true ∧
      ¬(0xE0 ≤ UInt8.ofNat (n + 240) && UInt8.ofNat (n + 240) ≤ 0xEF) = true ∧
      (0xF0 ≤ UInt8.ofNat (n + 240) && UInt8.ofNat (n + 240) ≤ 0xF4) = true ∧
      bits (UInt8.ofNat (n + 240)) 3 = n := by decide
  obtain ⟨hone, htwo, hthree, hfour, hbits⟩ := hall (v / 262144 % 8) (by omega)
  have hsecond := secondOfFour_ofNat (m := v / 262144 % 8) (n := v / 4096 % 64) (by omega)
    (by omega) (by omega) (by omega)
  have hvalue : v / 262144 % 8 * 262144 + v / 4096 % 64 * 4096 + v / 64 % 64 * 64 + v % 64 = v := by
    omega
  unfold front
  rw [if_neg hone, if_neg htwo, if_neg hthree, if_pos hfour]
  dsimp only
  rw [hsecond, isTail_ofNat (by omega), isTail_ofNat (by omega), hbits, bits_tail (by omega),
    bits_tail (by omega), bits_tail (by omega), hvalue]
  rfl

theorem pieces_encodeChar (c : Char) :
    pieces (String.utf8EncodeChar c ++ rest) = some c :: pieces rest := by
  have hvalid : c.val.toNat < 0xD800 ∨ 0xDFFF < c.val.toNat ∧ c.val.toNat < 0x110000 := c.valid
  have hchar : Char.ofNat c.val.toNat = c := Char.ofNat_toNat c
  unfold String.utf8EncodeChar
  dsimp only
  split
  · rename_i hone
    rw [List.singleton_append, pieces, front_one _ _ hone, hchar]
    rfl
  · rename_i hone
    split
    · rename_i htwo
      simp only [List.cons_append, List.nil_append]
      rw [pieces, front_two _ _ (by omega) htwo, hchar]
      rfl
    · rename_i htwo
      split
      · rename_i hthree
        simp only [List.cons_append, List.nil_append]
        rw [pieces, front_three _ _ (by omega) hthree (by omega), hchar]
        rfl
      · simp only [List.cons_append, List.nil_append]
        rw [pieces, front_four _ _ (by omega) (by omega), hchar]
        rfl

theorem pieces_encode (text : List Char) : pieces (encode text) = text.map some := by
  induction text with
  | nil => simp [encode, pieces]
  | cons c text ih =>
    change pieces (String.utf8EncodeChar c ++ encode text) = _
    rw [pieces_encodeChar, ih, List.map_cons]

theorem decode?_encode (text : List Char) : decode? (encode text) = some text := by
  unfold decode?
  rw [pieces_encode]
  induction text with
  | nil => rfl
  | cons c text ih =>
    rw [List.map_cons, List.mapM_cons, ih]
    rfl

theorem encode_injective {s t : List Char} (h : encode s = encode t) : s = t := by
  have hdecode := congrArg decode? h
  rw [decode?_encode, decode?_encode] at hdecode
  exact Option.some.inj hdecode

end TestCluster.Utf8
