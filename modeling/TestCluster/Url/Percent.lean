import TestCluster.Text.Utf8

namespace TestCluster.Url.Percent

def digit (n : Nat) : Char :=
  Char.ofNat (if n < 10 then 48 + n else 55 + n)

def value? (c : Char) : Option Nat :=
  if c.isDigit then some (c.toNat - 48)
  else if 'a' ≤ c && c ≤ 'f' then some (c.toNat - 87)
  else if 'A' ≤ c && c ≤ 'F' then some (c.toNat - 55)
  else none

def escape (b : UInt8) : List Char :=
  ['%', digit (b.toNat / 16), digit (b.toNat % 16)]

def encodeChar (isPlain : Char → Bool) (c : Char) : List Char :=
  if isPlain c then [c] else (String.utf8EncodeChar c).flatMap escape

def encode (isPlain : Char → Bool) (text : List Char) : List Char :=
  text.flatMap (encodeChar isPlain)

def byte? : List Char → Option UInt8
  | a :: b :: _ => do pure (UInt8.ofNat ((← value? a) * 16 + (← value? b)))
  | _ => none

/-- A percent sign that two digits do not follow is a character. -/
def decode : List Char → Bytes
  | [] => []
  | c :: rest =>
    if c = '%' then
      match byte? rest with
      | some b => b :: decode (rest.drop 2)
      | none => String.utf8EncodeChar c ++ decode rest
    else String.utf8EncodeChar c ++ decode rest
termination_by text => text.length
decreasing_by
  · exact Nat.lt_succ_of_le (List.drop_sublist 2 rest).length_le
  all_goals exact Nat.lt_succ_self _

def isVisible (c : Char) : Bool :=
  0x20 < c.toNat && c.toNat < 0x7F

def plainBut (escaped : List Char) (c : Char) : Bool :=
  isVisible c && !escaped.contains c

def inHost (c : Char) : Bool :=
  0x20 ≤ c.toNat && c.toNat < 0x7F

def inFragment : Char → Bool :=
  plainBut ['"', '<', '>', '\x60']

def inQuery (special : Bool) : Char → Bool :=
  plainBut (['"', '#', '<', '>'] ++ if special then ['\''] else [])

def pathEscapes : List Char :=
  ['"', '<', '>', '\x60', '#', '?', '\x7b', '\x7d']

def inPath : Char → Bool :=
  plainBut pathEscapes

/-- Inside one segment slashes and percent signs are text. -/
def inSegment (special : Bool) : Char → Bool :=
  plainBut (pathEscapes ++ ['/', '%'] ++ if special then ['\\'] else [])

def inUserInfo : Char → Bool :=
  plainBut (pathEscapes ++ ['/', ':', ';', '=', '@', '[', '\\', ']', '^', '|'])

end TestCluster.Url.Percent
