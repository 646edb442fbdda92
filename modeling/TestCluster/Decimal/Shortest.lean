import TestCluster.Decimal.Double

namespace TestCluster.Decimal

structure Digits where
  digits : Nat
  exponent : Int
  deriving DecidableEq, Repr

/-- The numbers that read as one double lie between `low` and `high`, both in quarters of
`2 ^ exponent`; the ends belong to it when the significand is even. -/
structure Interval where
  low : Nat
  mid : Nat
  high : Nat
  exponent : Int
  closed : Bool

def Double.interval (x : Double) : Interval :=
  let m := x.significand
  let low := if m = Nat.pow 2 52 ∧ leastExponent < x.exponent then 4 * m - 1 else 4 * m - 2
  ⟨low, 4 * m, 4 * m + 2, x.exponent - 2, m % 2 = 0⟩

namespace Interval

variable (i : Interval)

/-- `digits * 10 ^ p` against `k * 2 ^ exponent`, both as whole numbers. -/
def sides (digits : Nat) (p : Int) (k : Nat) : Nat × Nat :=
  (digits * Nat.pow 10 p.toNat * Nat.pow 2 (-i.exponent).toNat,
    k * Nat.pow 2 i.exponent.toNat * Nat.pow 10 (-p).toNat)

def holds (digits : Nat) (p : Int) : Bool :=
  let (a, low) := i.sides digits p i.low
  let (b, high) := i.sides digits p i.high
  if i.closed then low ≤ a && b ≤ high else low < a && b < high

/-- The neighbours of the middle on the grid of `10 ^ p`, the nearer first. -/
def neighbours (p : Int) : List Nat :=
  let (unit, mid) := i.sides 1 p i.mid
  let below := mid / unit
  if 2 * (mid % unit) ≤ unit then [below, below + 1] else [below + 1, below]

def onGrid? (p : Int) : Option Digits :=
  ((i.neighbours p).find? (i.holds · p)).map (⟨·, p⟩)

end Interval

/-- The power of ten at or below a positive number, from its binary logarithm. -/
def decimalExponent (x : Double) : Int :=
  let guess := ((x.significand.log2 : Int) + x.exponent) * 1233 / 4096
  let above (e : Int) : Bool :=
    let (unit, mid) := x.interval.sides 1 e x.interval.mid
    unit ≤ mid
  if above (guess + 1) then guess + 1 else if above guess then guess else guess - 1

/-- The fewest digits that read as `x`, and of those the nearest. -/
def Double.shortest (x : Double) : Digits :=
  if x.significand = 0 then ⟨0, 0⟩
  else
    let e := decimalExponent x
    ((List.range 18).findSome? fun (n : Nat) => x.interval.onGrid? (e + 1 - n)).getD
      ⟨x.significand, x.exponent⟩

/-- Written out without an exponent, and with one digit after the point at least. -/
def Digits.positional (d : Digits) : String :=
  let text := toString d.digits
  if 0 ≤ d.exponent then text ++ String.ofList (List.replicate d.exponent.toNat '0') ++ ".0"
  else
    let places := (-d.exponent).toNat
    let padded := List.replicate (places + 1 - text.length) '0' ++ text.toList
    String.ofList (padded.take (padded.length - places)) ++ "."
      ++ String.ofList (padded.drop (padded.length - places))

end TestCluster.Decimal
