import TestCluster.Text.Base64

namespace TestCluster.Text.Base64

theorem value?_digit {n : Nat} (h : n < 64) : value? (digit n) = some n := by
  have hall : ∀ n < 64, value? (digit n) = some n := by decide
  exact hall n h

theorem digit_ne_pad {n : Nat} (h : n < 64) : digit n ≠ '=' := by
  have hall : ∀ n < 64, digit n ≠ '=' := by decide
  exact hall n h

variable {w x y z : Nat} (hw : w < 64) (hx : x < 64)

include hw hx

theorem decode?_one (hpad : x % 16 = 0) :
    decode? [digit w, digit x, '=', '='] = some [UInt8.ofNat (w * 4 + x / 16)] := by
  simp only [decode?, value?_digit hw, value?_digit hx, Option.bind_eq_bind, Option.bind_some,
    if_pos hpad]

theorem decode?_two (hy : y < 64) (hpad : y % 4 = 0) :
    decode? [digit w, digit x, digit y, '='] =
      some [UInt8.ofNat (w * 4 + x / 16), UInt8.ofNat (x % 16 * 16 + y / 4)] := by
  rw [decode?]
  · simp only [value?_digit hw, value?_digit hx, value?_digit hy, Option.bind_eq_bind,
      Option.bind_some, if_pos hpad]
  · exact digit_ne_pad hy

theorem decode?_three (hy : y < 64) (hz : z < 64) (rest : List Char) :
    decode? (digit w :: digit x :: digit y :: digit z :: rest) =
      (decode? rest).map fun later => UInt8.ofNat (w * 4 + x / 16)
        :: UInt8.ofNat (x % 16 * 16 + y / 4) :: UInt8.ofNat (y % 4 * 64 + z) :: later := by
  rw [decode?]
  · simp only [value?_digit hw, value?_digit hx, value?_digit hy, value?_digit hz,
      Option.bind_eq_bind, Option.bind_some]
    cases decode? rest <;> rfl
  · intro _ hpad _
    exact absurd hpad (digit_ne_pad hz)
  · intro hpad _
    exact absurd hpad (digit_ne_pad hz)

omit hw hx

theorem decode?_encode (bytes : Bytes) : decode? (encode bytes) = some bytes := by
  induction bytes using encode.induct with
  | case1 a b c rest ih =>
    have ha := a.toNat_lt
    have hb := b.toNat_lt
    have hc := c.toNat_lt
    have hfirst : a.toNat / 4 * 4 + (a.toNat % 4 * 16 + b.toNat / 16) / 16 = a.toNat := by omega
    have hsecond : (a.toNat % 4 * 16 + b.toNat / 16) % 16 * 16 +
        (b.toNat % 16 * 4 + c.toNat / 64) / 4 = b.toNat := by omega
    have hthird : (b.toNat % 16 * 4 + c.toNat / 64) % 4 * 64 + c.toNat % 64 = c.toNat := by omega
    rw [encode, decode?_three (by omega) (by omega) (by omega) (by omega), ih, hfirst, hsecond,
      hthird]
    simp only [Option.map_some, UInt8.ofNat_toNat]
  | case2 a b =>
    have ha := a.toNat_lt
    have hb := b.toNat_lt
    have hfirst : a.toNat / 4 * 4 + (a.toNat % 4 * 16 + b.toNat / 16) / 16 = a.toNat := by omega
    have hsecond : (a.toNat % 4 * 16 + b.toNat / 16) % 16 * 16 + b.toNat % 16 * 4 / 4 =
        b.toNat := by omega
    rw [encode, decode?_two (by omega) (by omega) (by omega) (by omega), hfirst, hsecond]
    simp only [UInt8.ofNat_toNat]
  | case3 a =>
    have ha := a.toNat_lt
    have hfirst : a.toNat / 4 * 4 + a.toNat % 4 * 16 / 16 = a.toNat := by omega
    rw [encode, decode?_one (by omega) (by omega) (by omega), hfirst, UInt8.ofNat_toNat]
  | case4 => rfl

end TestCluster.Text.Base64
