import TestCluster.Yaml.Block
import TestCluster.Yaml.Directive
import TestCluster.Yaml.Plain
import TestCluster.Yaml.Quoted

namespace TestCluster.Yaml

/-- A place where a key may have begun, as a later colon shows. -/
structure PendingKey where
  position : Nat
  start : Spot
  required : Bool

/-- The tokens so far, latest first, the open block columns, innermost first, and the places of
possible keys: one for the innermost bracket and one for each bracket around it. -/
structure Lexer where
  tokens : List Token
  count : Nat
  columns : List Nat
  keyAllowed : Bool
  pending : Option PendingKey
  outer : List (Option PendingKey)

namespace Lexer

def start : Lexer :=
  ⟨[], 0, [], true, none, []⟩

variable (x : Lexer)

def inFlow : Bool :=
  !x.outer.isEmpty

/-- The least column of what belongs to the innermost open block. -/
def least : Nat :=
  match x.columns with
  | [] => 0
  | c :: _ => c + 1

def push (t : Token) : Lexer :=
  { x with tokens := t :: x.tokens, count := x.count + 1 }

/-- Puts a token where only `position` tokens stand before it. -/
def insertAt (position : Nat) (t : Token) : Lexer :=
  { x with tokens := x.tokens.insertIdx (x.count - position) t, count := x.count + 1 }

def roll (column position : Nat) (t : Token) : Lexer :=
  if x.inFlow || column < x.least then x
  else { x.insertAt position t with columns := column :: x.columns }

def unroll (keeps : Nat → Bool) : Lexer :=
  if x.inFlow then x
  else
    let closed := x.columns.takeWhile (!keeps ·)
    { x with
      tokens := closed.map (fun _ => .blockEnd) ++ x.tokens
      count := x.count + closed.length
      columns := x.columns.dropWhile (!keeps ·) }

/-- A key ends on its line and within 1024 characters. -/
def isStale (s : Spot) (k : PendingKey) : Bool :=
  k.start.line < s.line || k.start.index + 1024 < s.index

def expire? (s : Spot) : Option PendingKey → Option (Option PendingKey)
  | some k => if isStale s k then (if k.required then none else some none) else some (some k)
  | none => some none

def expireAll? (s : Spot) : Option Lexer := do
  pure { x with pending := ← expire? s x.pending, outer := ← x.outer.mapM (expire? s) }

def dropKey? : Option Lexer :=
  match x.pending with
  | some k => if k.required then none else some { x with pending := none }
  | none => some x

def saveKey? (s : Spot) : Option Lexer :=
  if x.keyAllowed then do
    let x' ← x.dropKey?
    pure { x' with pending := some ⟨x.count, s, !x.inFlow && x.columns.head? = some s.column⟩ }
  else some x

def allowKey (allowed : Bool) : Lexer :=
  { x with keyAllowed := allowed }

/-- Leaves out white space and comments. Tabs may not indent a line where a key may stand. -/
def skipGap (flow : Bool) : (allowed comment : Bool) → List Spot → Bool × List Spot
  | allowed, _, [] => (allowed, [])
  | allowed, comment, s :: rest =>
    if isBreak s.char then skipGap flow (allowed || !flow) false rest
    else if comment then skipGap flow allowed true rest
    else if s.char = ' ' || (s.char = '\t' && (flow || !allowed)) then skipGap flow allowed false rest
    else if s.char = '\uFEFF' && s.column = 0 then skipGap flow allowed false rest
    else if s.char = '#' then skipGap flow allowed true rest
    else (allowed, s :: rest)

abbrev Next := Option (Lexer × List Spot)

/-- A token of the document frame closes every block. -/
def frame? (t : Token) (rest : List Spot) : Next := do
  let x ← (x.unroll fun _ => false).dropKey?
  pure ((x.allowKey false).push t, rest)

def openFlow? (t : Token) (s : Spot) (rest : List Spot) : Next := do
  let x ← x.saveKey? s
  pure ({ x.push t with outer := x.pending :: x.outer, pending := none, keyAllowed := true }, rest)

def closeFlow? (t : Token) (rest : List Spot) : Next := do
  let x ← x.dropKey?
  let x := match x.outer with
    | k :: outer => { x with pending := k, outer := outer }
    | [] => x
  pure ((x.push t).allowKey false, rest)

def comma? (rest : List Spot) : Next := do
  let x ← x.dropKey?
  pure ((x.push .comma).allowKey true, rest)

def item? (s : Spot) (rest : List Spot) : Next := do
  if !x.inFlow && !x.keyAllowed then none
  else
    let x ← (x.roll s.column x.count .blockSequence).dropKey?
    pure ((x.push .item).allowKey true, rest)

def key? (s : Spot) (rest : List Spot) : Next := do
  if !x.inFlow && !x.keyAllowed then none
  else
    let x ← (x.roll s.column x.count .blockMapping).dropKey?
    pure ((x.push .key).allowKey (!x.inFlow), rest)

/-- A colon makes a key of what was pending, or else stands for a value without one. -/
def value? (s : Spot) (rest : List Spot) : Next :=
  match x.pending with
  | some k =>
    let x := (x.insertAt k.position .key).roll k.start.column k.position .blockMapping
    some ({ x.push .value with pending := none, keyAllowed := false }, rest)
  | none =>
    if x.inFlow then some ((x.push .value).allowKey false, rest)
    else if x.keyAllowed then
      some (((x.roll s.column x.count .blockMapping).push .value).allowKey true, rest)
    else none

def property? (s : Spot) (read : Option (Token × List Spot)) : Next := do
  let x ← x.saveKey? s
  let (t, rest) ← read
  pure ((x.push t).allowKey false, rest)

def block? (folds : Bool) (rest : List Spot) : Next := do
  let x ← x.dropKey?
  let (text, rest) ← Block.read? folds x.least rest
  pure ((x.push (.scalar text (if folds then .quoted else .literal))).allowKey true, rest)

def quoted (read : Option (List Char × List Spot)) : Option (Token × List Spot) :=
  read.map fun (text, rest) => (.scalar text .quoted, rest)

def tag (read : Option (List Char × List Char × List Spot)) : Option (Token × List Spot) :=
  read.map fun (handle, suffix, rest) => (.tag handle suffix, rest)

def plain? (s : Spot) (rest : List Spot) : Next := do
  let x ← x.saveKey? s
  let (text, crossed, rest) ← Plain.read? x.inFlow x.least [] (.blanks []) (s :: rest)
  pure ((x.push (.scalar text .plain)).allowKey crossed, rest)

/-- The characters that no plain scalar starts with, other than `-`, `?` and `:`. -/
def isIndicator (c : Char) : Bool :=
  ",[]\x7b\x7d#&*!|>'\"%@`\t".toList.contains c

def token? (s : Spot) (rest : List Spot) : Next :=
  if s.column = 0 && s.char = '%' then do
    let (t, rest) ← Directive.read? rest
    x.frame? t rest
  else if isMarker '-' (s :: rest) then x.frame? .documentStart (rest.drop 2)
  else if isMarker '.' (s :: rest) then x.frame? .documentEnd (rest.drop 2)
  else match s.char with
    | '[' => x.openFlow? .flowSequence s rest
    | '{' => x.openFlow? .flowMapping s rest
    | ']' => x.closeFlow? .flowSequenceEnd rest
    | '}' => x.closeFlow? .flowMappingEnd rest
    | ',' => x.comma? rest
    | '*' => x.property? s ((Tag.name? rest).map fun (name, rest) => (.alias name, rest))
    | '&' => x.property? s ((Tag.name? rest).map fun (name, rest) => (.anchor name, rest))
    | '!' => x.property? s (tag (Tag.read? x.inFlow (s :: rest)))
    | '\'' => x.property? s (quoted (Quoted.single? [] (.blanks []) rest))
    | '"' => x.property? s (quoted (Quoted.double? [] (.blanks []) 0 rest))
    | c =>
      if c = '-' && atGap rest then x.item? s rest
      else if c = '?' && (x.inFlow || atGap rest) then x.key? s rest
      else if c = ':' && (x.inFlow || atGap rest) then x.value? s rest
      else if c = '|' && !x.inFlow then x.block? false rest
      else if c = '>' && !x.inFlow then x.block? true rest
      else if isIndicator c then none
      else x.plain? s rest

def finish? : Option (List Token) := do
  let x ← (x.unroll fun _ => false).dropKey?
  pure x.tokens.reverse

/-- Every token takes a character at least, so `left` is enough when it exceeds their number. -/
def tokens? : (left : Nat) → Lexer → List Spot → Option (List Token)
  | 0, _, _ => none
  | left + 1, x, rest =>
    match skipGap x.inFlow x.keyAllowed false rest with
    | (allowed, []) => (x.allowKey allowed).finish?
    | (allowed, s :: rest) => do
      let x ← (x.allowKey allowed).expireAll? s
      let (x, rest) ← (x.unroll (· ≤ s.column)).token? s rest
      tokens? left x rest

end Lexer

def Token.ofChars? (text : List Char) : Option (List Token) :=
  let spots := Spot.ofChars (plainBreaks text)
  if text.all isAllowed then Lexer.tokens? (spots.length + 1) .start spots else none

end TestCluster.Yaml
