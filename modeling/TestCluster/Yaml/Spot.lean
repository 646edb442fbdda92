namespace TestCluster.Yaml

structure Spot where
  char : Char
  index : Nat
  line : Nat
  column : Nat

def isBlank (c : Char) : Bool :=
  c = ' ' || c = '\t'

/-- Line ends, after the spellings of a plain line end have been made one. -/
def isBreak (c : Char) : Bool :=
  c = '\n' || c = '\u2028' || c = '\u2029'

def isWordChar (c : Char) : Bool :=
  c.isAlphanum || c = '_' || c = '-'

/-- The characters a text may hold at all. -/
def isAllowed (c : Char) : Bool :=
  c = '\t' || c = '\n' || c = '\r' || (' ' ≤ c && c ≤ '~') || c = '\u0085'
    || ('\u00a0' ≤ c && c ≤ '\ufffd') || 0x10000 ≤ c.toNat

/-- Carriage return, line feed, both together and next line all end a line alike. -/
def plainBreaks : List Char → List Char
  | '\r' :: '\n' :: rest => '\n' :: plainBreaks rest
  | c :: rest => (if c = '\r' || c = '\u0085' then '\n' else c) :: plainBreaks rest
  | [] => []

namespace Spot

def after (s : Spot) (c : Char) : Spot :=
  if isBreak s.char then ⟨c, s.index + 1, s.line + 1, 0⟩
  else ⟨c, s.index + 1, s.line, s.column + 1⟩

def follow : List Spot → Char → List Spot
  | [], c => [⟨c, 0, 0, 0⟩]
  | s :: before, c => s.after c :: s :: before

def ofChars (text : List Char) : List Spot :=
  (text.foldl follow []).reverse

end Spot

/-- The next character is blank, ends the line, or there is none. -/
def atGap : List Spot → Bool
  | [] => true
  | s :: _ => isBlank s.char || isBreak s.char

def nextIs (p : Char → Bool) : List Spot → Bool
  | [] => false
  | s :: _ => p s.char

/-- Three of `c` at the start of a line, and then a gap. -/
def isMarker (c : Char) : List Spot → Bool
  | s₁ :: s₂ :: s₃ :: rest =>
    s₁.column == 0 && s₁.char == c && s₂.char == c && s₃.char == c && atGap rest
  | _ => false

def atMarker (rest : List Spot) : Bool :=
  isMarker '-' rest || isMarker '.' rest

def takeChars (p : Char → Bool) (rest : List Spot) : List Char :=
  (rest.takeWhile (p ·.char)).map (·.char)

def dropChars (p : Char → Bool) (rest : List Spot) : List Spot :=
  rest.dropWhile (p ·.char)

def lineTail? (rest : List Spot) : Option (List Spot) :=
  let rest := dropChars isBlank rest
  let rest := if nextIs (· = '#') rest then dropChars (!isBreak ·) rest else rest
  match rest with
  | [] => some []
  | s :: after => if isBreak s.char then some after else none

def hexValue? (c : Char) : Option Nat :=
  if '0' ≤ c && c ≤ '9' then some (c.toNat - '0'.toNat)
  else if 'a' ≤ c && c ≤ 'f' then some (c.toNat - 'a'.toNat + 10)
  else if 'A' ≤ c && c ≤ 'F' then some (c.toNat - 'A'.toNat + 10)
  else none

def number (base : Nat) (digits : List Nat) : Nat :=
  digits.foldl (fun n d => n * base + d) 0

end TestCluster.Yaml
