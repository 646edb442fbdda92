/-!
Letters of any script written with those of ASCII: first the ASCII letters, then for each of the
others, in the order of their numbers, how far it is from the one before. Distances are written in
digits to the base 36 whose weights follow the distances so far.
-/

namespace TestCluster.Url.Domain.Punycode

def digit (n : Nat) : Char :=
  Char.ofNat (if n < 26 then 97 + n else 22 + n)

def value? (c : Char) : Option Nat :=
  if 'a' ≤ c && c ≤ 'z' then some (c.toNat - 97)
  else if c.isDigit then some (c.toNat - 22)
  else none

/-- A digit below this value is the last one of its number. -/
def threshold (position bias : Nat) : Nat :=
  max 1 (min 26 (position - bias))

theorem threshold_pos (position bias : Nat) : 0 < threshold position bias :=
  Nat.le_max_left 1 _

def settled (delta position : Nat) : Nat :=
  if 455 < delta then settled (delta / 35) (position + 36)
  else position + 36 * delta / (delta + 38)
termination_by delta
decreasing_by omega

/-- The bias after a distance, when the text has reached a length. -/
def adapt (delta length : Nat) (isFirst : Bool) : Nat :=
  let delta := if isFirst then delta / 700 else delta / 2
  settled (delta + delta / length) 0

def firstBias : Nat := 72

def isAscii (c : Char) : Bool :=
  c.toNat < 128

/-- What has been read: the text, where and what the latest letter was, and the digits of the
number that is not complete. -/
structure Reading where
  text : List Char
  place : Nat := 0
  letter : Nat := 128
  bias : Nat := firstBias
  sum : Nat := 0
  weight : Nat := 1
  position : Nat := 36

namespace Reading

/-- Puts in the letter that a complete number tells. -/
def insert? (r : Reading) (delta : Nat) : Option Reading :=
  let length := r.text.length + 1
  let target := r.place + delta
  let letter := r.letter + target / length
  let place := target % length
  if letter.isValidChar then
    some {
      text := r.text.take place ++ Char.ofNat letter :: r.text.drop place
      place := place + 1
      letter := letter
      bias := adapt delta length (r.place = 0) }
  else none

def step? (r : Reading) (c : Char) : Option Reading := do
  let d ← value? c
  let t := threshold r.position r.bias
  let sum := r.sum + d * r.weight
  if d < t then r.insert? sum
  else some { r with sum := sum, weight := r.weight * (36 - t), position := r.position + 36 }

end Reading

/-- The ASCII letters before the last hyphen, unless there are none, and the digits behind it. -/
def cut (text : List Char) : List Char × List Char :=
  match text.reverse.span (· ≠ '-') with
  | (digits, _ :: c :: before) => ((c :: before).reverse, digits.reverse)
  | _ => ([], text)

def decode? (text : List Char) : Option (List Char) := do
  let (basic, digits) := cut text
  if !basic.all isAscii then none
  let r ← digits.foldlM Reading.step? { text := basic }
  if r.position = 36 then some r.text else none

/-- The digits of a distance. -/
def number (bias position n : Nat) : List Char :=
  let t := threshold position bias
  if n < t then [digit n]
  else digit (t + (n - t) % (36 - t)) :: number bias (position + 36) ((n - t) / (36 - t))
termination_by n
decreasing_by
  have h := threshold_pos position bias
  exact Nat.lt_of_le_of_lt (Nat.div_le_self _ _) (by omega)

/-- What has been written, and how far the next letter is so far. -/
structure Writing where
  digits : List Char := []
  delta : Nat := 0
  bias : Nat := firstBias
  length : Nat

namespace Writing

def see (letter basics : Nat) (w : Writing) (c : Char) : Writing :=
  if c.toNat < letter then { w with delta := w.delta + 1 }
  else if c.toNat = letter then
    ⟨w.digits ++ number w.bias 36 w.delta, 0, adapt w.delta (w.length + 1) (w.length = basics),
      w.length + 1⟩
  else w

/-- Writes all places of the next letter. -/
def put (text : List Char) (basics : Nat) (s : Writing × Nat) (letter : Nat) : Writing × Nat :=
  let w := { s.1 with delta := s.1.delta + (letter - s.2) * (s.1.length + 1) }
  let w := text.foldl (see letter basics) w
  ({ w with delta := w.delta + 1 }, letter + 1)

end Writing

def encode (text : List Char) : List Char :=
  let basic := text.filter isAscii
  let letters := (((text.filter (!isAscii ·)).map Char.toNat).mergeSort).eraseDups
  let w := (letters.foldl (Writing.put text basic.length) (⟨[], 0, firstBias, basic.length⟩, 128)).1
  basic ++ (if basic = [] then [] else ['-']) ++ w.digits

end TestCluster.Url.Domain.Punycode
