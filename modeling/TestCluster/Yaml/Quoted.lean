import TestCluster.Yaml.Gap

namespace TestCluster.Yaml.Quoted

def single? : List Char → Gap → List Spot → Option (List Char × List Spot)
  | _, _, [] => none
  | text, gap, s :: rest =>
    if isBlank s.char then single? text (gap.blank s.char) rest
    else if isBreak s.char then single? text (gap.lineEnd s.char) rest
    else if atMarker (s :: rest) then none
    else if s.char = '\'' then
      match rest with
      | q :: more =>
        if q.char = '\'' then single? ('\'' :: (gap.folded.reverse ++ text)) (.blanks []) more
        else some ((gap.folded.reverse ++ text).reverse, rest)
      | [] => some ((gap.folded.reverse ++ text).reverse, [])
    else single? (s.char :: (gap.folded.reverse ++ text)) (.blanks []) rest

def escaped? : Char → Option Char
  | '0' => some '\x00'
  | 'a' => some '\x07'
  | 'b' => some '\x08'
  | 't' | '\t' => some '\t'
  | 'n' => some '\n'
  | 'v' => some '\x0b'
  | 'f' => some '\x0c'
  | 'r' => some '\r'
  | 'e' => some '\x1b'
  | ' ' => some ' '
  | '"' => some '"'
  | '/' => some '/'
  | '\\' => some '\\'
  | 'N' => some '\u0085'
  | '_' => some '\u00a0'
  | 'L' => some '\u2028'
  | 'P' => some '\u2029'
  | _ => none

/-- How many hexadecimal digits follow. -/
def escapeWidth? : Char → Option Nat
  | 'x' => some 2
  | 'u' => some 4
  | 'U' => some 8
  | _ => none

def charOf? (n : Nat) : Option Char :=
  if h : n.isValidChar then some (Char.ofNatAux n h) else none

def hexChar? (width : Nat) (rest : List Spot) : Option Char := do
  let digits ← (rest.take width).mapM (hexValue? ·.char)
  if digits.length = width then charOf? (number 16 digits) else none

/-- The text between double quotes and what follows the closing one. `skip` counts the
characters that an escape has already used. -/
def double? : List Char → Gap → Nat → List Spot → Option (List Char × List Spot)
  | _, _, _, [] => none
  | text, gap, skip + 1, _ :: rest => double? text gap skip rest
  | text, gap, 0, s :: rest =>
    if isBlank s.char then double? text (gap.blank s.char) 0 rest
    else if isBreak s.char then double? text (gap.lineEnd s.char) 0 rest
    else if atMarker (s :: rest) then none
    else if s.char = '"' then some ((gap.folded.reverse ++ text).reverse, rest)
    else if s.char = '\\' then
      match rest with
      | [] => none
      | e :: more =>
        if isBreak e.char then double? (gap.folded.reverse ++ text) (.lines none []) 1 rest
        else match escapeWidth? e.char with
          | some width => do
            let c ← hexChar? width more
            double? (c :: (gap.folded.reverse ++ text)) (.blanks []) (width + 1) rest
          | none => do
            let c ← escaped? e.char
            double? (c :: (gap.folded.reverse ++ text)) (.blanks []) 1 rest
    else double? (s.char :: (gap.folded.reverse ++ text)) (.blanks []) 0 rest

end TestCluster.Yaml.Quoted
