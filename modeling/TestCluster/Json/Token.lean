import TestCluster.Url.Percent

/-!
The words of JSON text. A string is read to its end even where it is not well formed Unicode; such
a string has no characters, and it depends on its place whether that matters.
-/

namespace TestCluster.Json

/-- The characters of a string, if it is well formed. -/
abbrev Content := Option (List Char)

inductive Token
  | openList
  | closeList
  | openRecord
  | closeRecord
  | comma
  | colon
  | null
  | flag (b : Bool)
  | number (whole : Option Int)
  | text (content : Content)
  deriving DecidableEq, Repr

/-- A character of a text, or a stretch of bytes that is none. -/
abbrev Input := List (Option Char)

namespace Token

inductive Piece
  | char (c : Char)
  | code (unit : Nat)
  | broken
  deriving DecidableEq

def escapes : List (Char × Char) :=
  [('"', '"'), ('\\', '\\'), ('/', '/'), ('b', '\x08'), ('f', '\x0c'), ('n', '\n'), ('r', '\r'),
    ('t', '\t')]

def unit? (digits : List (Option Char)) : Option Nat := do
  let values ← digits.mapM fun c => c.bind Url.Percent.value?
  some (values.foldl (fun n d => n * 16 + d) 0)

/-- The pieces up to the closing quote, and what follows it. -/
def pieces? : Input → Option (List Piece × Input)
  | [] => none
  | some '"' :: rest => some ([], rest)
  | some '\\' :: some 'u' :: a :: b :: c :: d :: rest => do
    let unit ← unit? [a, b, c, d]
    let (later, after) ← pieces? rest
    some (.code unit :: later, after)
  | some '\\' :: some e :: rest => do
    let c ← escapes.lookup e
    let (later, after) ← pieces? rest
    some (.char c :: later, after)
  | some c :: rest =>
    if c = '\\' || c.toNat < 0x20 then none
    else do
      let (later, after) ← pieces? rest
      some (.char c :: later, after)
  | none :: rest => do
    let (later, after) ← pieces? rest
    some (.broken :: later, after)

theorem length_pieces? {input : Input} {pieces : List Piece} {after : Input}
    (h : pieces? input = some (pieces, after)) : after.length < input.length := by
  fun_induction pieces? input generalizing pieces with
  | case1 => simp at h
  | case2 => simp_all
  | case3 _ _ _ _ _ ih | case4 _ _ _ ih =>
    simp only [bind, Option.bind_eq_some_iff, Option.some.injEq, Prod.mk.injEq] at h
    obtain ⟨_, _, ⟨_, _⟩, hr, _, rfl⟩ := h
    exact Nat.lt_of_lt_of_le (ih hr) (by simp; omega)
  | case5 => simp at h
  | case6 _ _ _ _ _ _ ih | case7 _ ih =>
    simp only [bind, Option.bind_eq_some_iff, Option.some.injEq, Prod.mk.injEq] at h
    obtain ⟨⟨_, _⟩, hr, _, rfl⟩ := h
    exact Nat.lt_of_lt_of_le (ih hr) (by simp)

def isHigh (unit : Nat) : Bool :=
  0xD800 ≤ unit && unit < 0xDC00

def isLow (unit : Nat) : Bool :=
  0xDC00 ≤ unit && unit < 0xE000

/-- Two surrogates are one character, and one alone is none. -/
def join : List Piece → Content
  | [] => some []
  | .char c :: rest => (c :: ·) <$> join rest
  | .code high :: .code low :: rest =>
    if isHigh high && isLow low then
      (Char.ofNat (0x10000 + (high - 0xD800) * 1024 + (low - 0xDC00)) :: ·) <$> join rest
    else if isHigh high || isLow high then none
    else (Char.ofNat high :: ·) <$> join (.code low :: rest)
  | .code unit :: rest =>
    if isHigh unit || isLow unit then none else (Char.ofNat unit :: ·) <$> join rest
  | .broken :: _ => none

def isGap (c : Char) : Bool :=
  c = ' ' || c = '\t' || c = '\n' || c = '\r'

def mark? : Char → Option Token
  | '[' => some openList
  | ']' => some closeList
  | '\x7b' => some openRecord
  | '\x7d' => some closeRecord
  | ',' => some comma
  | ':' => some colon
  | _ => none

def isWordChar : Option Char → Bool
  | some c => c.isAlphanum || c = '+' || c = '-' || c = '.'
  | none => false

/-- Digits, without a zero in front of others. -/
def isWhole : List Char → Bool
  | ['0'] => true
  | c :: rest => c ≠ '0' && (c :: rest).all Char.isDigit
  | [] => false

def isExponent : List Char → Bool
  | '+' :: digits | '-' :: digits => digits ≠ [] && digits.all Char.isDigit
  | digits => digits ≠ [] && digits.all Char.isDigit

def isFraction (chars : List Char) : Bool :=
  match chars.span Char.isDigit with
  | (_ :: _, e :: exponent) => (e = 'e' || e = 'E') && isExponent exponent
  | (digits, []) => digits ≠ []
  | ([], _) => false

/-- What may follow the whole part of a number. -/
def isTail : List Char → Bool
  | [] => true
  | '.' :: rest => isFraction rest
  | e :: exponent => (e = 'e' || e = 'E') && isExponent exponent

/-- A number that is written as an integer; there is no negative zero among them. -/
def integer? (negative : Bool) (digits : List Char) : Option Int :=
  let n := digits.foldl (fun n c => n * 10 + (c.toNat - 48)) 0
  if negative then if n = 0 then none else some (-Int.ofNat n) else some (Int.ofNat n)

def unsigned? (negative : Bool) (chars : List Char) : Option Token :=
  match chars.span Char.isDigit with
  | (digits, rest) =>
    if isWhole digits && isTail rest then
      some (number (if rest = [] then integer? negative digits else none))
    else none

def number? : List Char → Option Token
  | '-' :: chars => unsigned? true chars
  | chars => unsigned? false chars

def word? (letters : List Char) : Option Token :=
  if letters = ['n', 'u', 'l', 'l'] then some null
  else if letters = ['t', 'r', 'u', 'e'] then some (flag true)
  else if letters = ['f', 'a', 'l', 's', 'e'] then some (flag false)
  else number? letters

/-- The word at the front, which is not empty. -/
def front? (c : Char) (rest : Input) : Option Token :=
  word? (c :: (rest.takeWhile isWordChar).reduceOption)

def ofInput? : Input → Option (List Token)
  | [] => some []
  | none :: _ => none
  | some c :: rest =>
    if isGap c then ofInput? rest
    else if c = '"' then
      match _ : pieces? rest with
      | some (pieces, after) => (text (join pieces) :: ·) <$> ofInput? after
      | none => none
    else match mark? c with
      | some t => (t :: ·) <$> ofInput? rest
      | none => do
        let t ← front? c rest
        (t :: ·) <$> ofInput? (rest.dropWhile isWordChar)
termination_by input => input.length
decreasing_by
  · exact Nat.lt_succ_self _
  · exact Nat.lt_succ_of_lt (length_pieces? ‹pieces? rest = _›)
  · exact Nat.lt_succ_self _
  · exact Nat.lt_succ_of_le (List.dropWhile_sublist isWordChar).length_le

end Token

end TestCluster.Json
