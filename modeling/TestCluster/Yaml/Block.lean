import TestCluster.Yaml.Spot

namespace TestCluster.Yaml.Block

/-- What becomes of the line ends after the last line. -/
inductive Chomp
  | strip
  | clip
  | keep
  deriving DecidableEq

structure Header where
  chomp : Chomp
  indent : Option Nat

def chompOf? : Char → Option Chomp
  | '+' => some .keep
  | '-' => some .strip
  | _ => none

def chomp (rest : List Spot) : Chomp × List Spot :=
  match rest with
  | s :: more => match chompOf? s.char with
    | some c => (c, more)
    | none => (.clip, rest)
  | [] => (.clip, [])

/-- An explicit indentation is one digit, and not zero. -/
def indent? (rest : List Spot) : Option (Option Nat × List Spot) :=
  match rest with
  | s :: more =>
    if s.char = '0' then none
    else if s.char.isDigit then some (some (s.char.toNat - '0'.toNat), more)
    else some (none, rest)
  | [] => some (none, [])

def header? (rest : List Spot) : Option (Header × List Spot) := do
  match chomp rest with
  | (.clip, rest) =>
    let (indent, rest) ← indent? rest
    let (c, rest) := if indent.isSome then chomp rest else (.clip, rest)
    pure (⟨c, indent⟩, ← lineTail? rest)
  | (c, rest) =>
    let (indent, rest) ← indent? rest
    pure (⟨c, indent⟩, ← lineTail? rest)

/-- The text so far, latest first; the line end after its last line; the line ends after that. -/
structure Reading where
  text : List Char
  lead : Option Char
  trail : List Char
  blankLed : Bool

/-- A line end between two lines that do not start with a blank is folded. -/
def Reading.openLine (folds : Bool) (r : Reading) (c : Char) : Reading :=
  let joined :=
    if folds && r.lead = some '\n' && !r.blankLed && !isBlank c then
      if r.trail.isEmpty then [' '] else []
    else r.lead.toList
  ⟨c :: (r.trail ++ (joined ++ r.text)), none, [], isBlank c⟩

def Reading.finish (r : Reading) : Chomp → List Char
  | .strip => r.text.reverse
  | .clip => (r.lead.toList ++ r.text).reverse
  | .keep => (r.trail ++ (r.lead.toList ++ r.text)).reverse

/-- The empty lines before the first line, latest first, and the widest indentation seen. -/
def opening? : Nat → List Char → List Spot → Option (Nat × List Char × List Spot)
  | widest, trail, [] => some (widest, trail, [])
  | widest, trail, s :: rest =>
    if s.char = ' ' then opening? widest trail rest
    else if s.char = '\t' then none
    else if isBreak s.char then opening? (max widest s.column) (s.char :: trail) rest
    else some (max widest s.column, trail, s :: rest)

def lines? (folds : Bool) (indent : Nat) :
    Reading → Bool → List Spot → Option (Reading × List Spot)
  | r, _, [] => some (r, [])
  | r, true, s :: rest =>
    if isBreak s.char then lines? folds indent { r with lead := some s.char } false rest
    else lines? folds indent { r with text := s.char :: r.text } true rest
  | r, false, s :: rest =>
    if s.char = ' ' && s.column < indent then lines? folds indent r false rest
    else if s.char = '\t' && s.column < indent then none
    else if isBreak s.char then lines? folds indent { r with trail := s.char :: r.trail } false rest
    else if s.column = indent then lines? folds indent (r.openLine folds s.char) true rest
    else some (r, s :: rest)

/-- A block scalar after its indicator. `least` is the column its lines must reach. -/
def read? (folds : Bool) (least : Nat) (rest : List Spot) : Option (List Char × List Spot) := do
  let (h, rest) ← header? rest
  match h.indent with
  | some n =>
    let (r, rest) ← lines? folds (least - 1 + n) ⟨[], none, [], false⟩ false rest
    pure (r.finish h.chomp, rest)
  | none =>
    let (widest, trail, rest) ← opening? 0 [] rest
    let (r, rest) ← lines? folds (max widest (max least 1)) ⟨[], none, trail, false⟩ false rest
    pure (r.finish h.chomp, rest)

end TestCluster.Yaml.Block
