namespace TestCluster.Decimal

/-- The number `significand * 2 ^ exponent`, with 53 bits at most and no exponent below -1074. -/
structure Double where
  significand : Nat
  exponent : Int
  deriving DecidableEq, Repr

/-- Half goes to the even neighbour. -/
def roundDiv (num den : Nat) : Nat :=
  let q := num / den
  let twice := 2 * (num % den)
  if twice < den then q
  else if den < twice then q + 1
  else if q % 2 = 0 then q else q + 1

/-- `num / den` in units of `2 ^ e`, as numerator and denominator. -/
def scaled (num den : Nat) (e : Int) : Nat × Nat :=
  (num * Nat.pow 2 (-e).toNat, den * Nat.pow 2 e.toNat)

def leastExponent : Int := -1074

namespace Double

def exponentFor (num den : Nat) : Int :=
  let guess : Int := (num.log2 : Int) - den.log2 - 52
  let (n, d) := scaled num den guess
  let e := if n < d * Nat.pow 2 52 then guess - 1
    else if d * Nat.pow 2 53 ≤ n then guess + 1 else guess
  max e leastExponent

/-- The nearest number to a quotient, or none beyond the largest. -/
def ofQuotient? (num den : Nat) : Option Double :=
  if num = 0 then some ⟨0, leastExponent⟩
  else
    let e := exponentFor num den
    let (n, d) := scaled num den e
    let m := roundDiv n d
    let x : Double := if m = Nat.pow 2 53 then ⟨Nat.pow 2 52, e + 1⟩ else ⟨m, e⟩
    if 971 < x.exponent then none else some x

/-- The nearest number to `digits * 10 ^ exponent`, where `digits` has `width` digits. -/
def ofDecimal? (digits width : Nat) (exponent : Int) : Option Double :=
  if digits = 0 then some ⟨0, leastExponent⟩
  else if (width : Int) + exponent < -330 then some ⟨0, leastExponent⟩
  else if 330 < (width : Int) + exponent then none
  else ofQuotient? (digits * Nat.pow 10 exponent.toNat) (Nat.pow 10 (-exponent).toNat)

end Double

end TestCluster.Decimal
