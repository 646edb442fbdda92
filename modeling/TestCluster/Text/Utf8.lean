namespace TestCluster

abbrev Bytes := List UInt8

namespace Utf8

def encode (text : List Char) : Bytes :=
  text.flatMap String.utf8EncodeChar

def isTail (b : UInt8) : Bool :=
  0x80 ≤ b && b ≤ 0xBF

/-- The bytes that may follow the first byte of a three-byte character. -/
def secondOfThree (a b : UInt8) : Bool :=
  if a = 0xE0 then 0xA0 ≤ b && b ≤ 0xBF
  else if a = 0xED then 0x80 ≤ b && b ≤ 0x9F
  else isTail b

/-- The bytes that may follow the first byte of a four-byte character. -/
def secondOfFour (a b : UInt8) : Bool :=
  if a = 0xF0 then 0x90 ≤ b && b ≤ 0xBF
  else if a = 0xF4 then 0x80 ≤ b && b ≤ 0x8F
  else isTail b

def bits (b : UInt8) (width : Nat) : Nat :=
  b.toNat % Nat.pow 2 width

/-- The character at the front, and how many bytes after the first it takes. A malformed
front gives no character and ends before the first byte that cannot continue it. -/
def front (a : UInt8) (rest : Bytes) : Option Char × Nat :=
  if a < 0x80 then (some (Char.ofNat a.toNat), 0)
  else if 0xC2 ≤ a && a ≤ 0xDF then
    match rest with
    | b :: _ => if isTail b then (some (Char.ofNat (bits a 5 * 64 + bits b 6)), 1) else (none, 0)
    | [] => (none, 0)
  else if 0xE0 ≤ a && a ≤ 0xEF then
    match rest with
    | b :: c :: _ =>
      if !secondOfThree a b then (none, 0)
      else if !isTail c then (none, 1)
      else (some (Char.ofNat (bits a 4 * 4096 + bits b 6 * 64 + bits c 6)), 2)
    | [b] => (none, if secondOfThree a b then 1 else 0)
    | [] => (none, 0)
  else if 0xF0 ≤ a && a ≤ 0xF4 then
    match rest with
    | b :: c :: d :: _ =>
      if !secondOfFour a b then (none, 0)
      else if !isTail c then (none, 1)
      else if !isTail d then (none, 2)
      else
        (some (Char.ofNat (bits a 3 * 262144 + bits b 6 * 4096 + bits c 6 * 64 + bits d 6)), 3)
    | [b, c] => (none, if !secondOfFour a b then 0 else if isTail c then 2 else 1)
    | [b] => (none, if secondOfFour a b then 1 else 0)
    | [] => (none, 0)
  else (none, 0)

/-- The characters of `bytes`, with `none` for each malformed stretch. -/
def pieces : Bytes → List (Option Char)
  | [] => []
  | a :: rest => (front a rest).1 :: pieces (rest.drop (front a rest).2)
termination_by bytes => bytes.length
decreasing_by
  exact Nat.lt_succ_of_le (List.drop_sublist _ rest).length_le

def decode? (bytes : Bytes) : Option (List Char) :=
  (pieces bytes).mapM id

/-- Every malformed stretch reads as one replacement character. -/
def decodeLossy (bytes : Bytes) : List Char :=
  (pieces bytes).map (·.getD '\uFFFD')

end Utf8

end TestCluster
