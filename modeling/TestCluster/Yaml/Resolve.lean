import TestCluster.Decimal.Shortest
import TestCluster.Text.Quoted
import TestCluster.Yaml.Event
import TestCluster.Yaml.Spot

namespace TestCluster.Yaml.Resolve

def isNull (text : String) : Bool :=
  ["null", "Null", "NULL", "~"].contains text

def flag? (text : String) : Option Bool :=
  if ["true", "True", "TRUE"].contains text then some true
  else if ["false", "False", "FALSE"].contains text then some false
  else none

/-- A sign and digits that start with a zero they do not need are no number. -/
def hasIdleZero (text : List Char) : Bool :=
  let digits := match text with
    | '-' :: rest | '+' :: rest => rest
    | _ => text
  match digits with
  | '0' :: d :: rest => (d :: rest).all Char.isDigit
  | _ => false

def digits? (base : Nat) (text : List Char) : Option Nat := do
  let values ← text.mapM hexValue?
  if values = [] || values.any (base ≤ ·) then none else some (number base values)

def magnitude? : List Char → Option Nat
  | '0' :: 'x' :: rest => digits? 16 rest
  | '0' :: 'o' :: rest => digits? 8 rest
  | '0' :: 'b' :: rest => digits? 2 rest
  | rest => digits? 10 rest

def whole? (text : List Char) : Option Int :=
  if hasIdleZero text then none
  else match text with
    | '-' :: rest => (magnitude? rest).map fun n => -(n : Int)
    | '+' :: rest => (magnitude? rest).map fun n => (n : Int)
    | rest => (magnitude? rest).map fun n => (n : Int)

def signed? (bits : Nat) (text : String) : Option Int :=
  (whole? text.toList).filter fun n =>
    -Int.ofNat (Nat.pow 2 (bits - 1)) ≤ n && n < Int.ofNat (Nat.pow 2 (bits - 1))

/-- A minus sign is refused even before zero. -/
def unsigned? (bits : Nat) (text : String) : Option Nat :=
  if text.startsWith "-" then none
  else (whole? text.toList).bind fun n =>
    if n < Int.ofNat (Nat.pow 2 bits) then some n.toNat else none

/-- Digits with a point somewhere and a power of ten behind. -/
def decimal? (text : List Char) : Option Decimal.Double := do
  let whole := text.takeWhile Char.isDigit
  let rest := text.dropWhile Char.isDigit
  let (fraction, rest) := match rest with
    | '.' :: rest => (rest.takeWhile Char.isDigit, rest.dropWhile Char.isDigit)
    | rest => ([], rest)
  let exponent ← match rest with
    | [] => some 0
    | 'e' :: rest | 'E' :: rest => match rest with
      | '-' :: rest => (digits? 10 rest).map fun n => -(n : Int)
      | '+' :: rest | rest => (digits? 10 rest).map fun n => (n : Int)
    | _ => none
  let digits ← digits? 10 (whole ++ fraction)
  Decimal.Double.ofDecimal? digits (toString digits).length (exponent - fraction.length)

/-- How a number with a fraction is told apart and written. -/
def fractional? (text : String) : Option String :=
  match text with
  | ".inf" | ".Inf" | ".INF" | "+.inf" | "+.Inf" | "+.INF" => some "inf"
  | "-.inf" | "-.Inf" | "-.INF" => some "-inf"
  | ".nan" | ".NaN" | ".NAN" => some "NaN"
  | _ => match text.toList with
    | '-' :: rest => (decimal? rest).map fun x => "-" ++ x.shortest.positional
    | '+' :: rest | rest => (decimal? rest).map fun x => x.shortest.positional

/-- What a reader of some other kind of value has met. -/
inductive Found
  | flag (b : Bool)
  | integer (n : Int)
  | wideInteger (n : Int)
  | fractional (digits : String)
  | text (s : String)
  | nothing
  | sequence
  | mapping
  deriving DecidableEq, Repr

def Found.describe : Found → String
  | flag b => s!"boolean `{b}`"
  | integer n => s!"integer `{n}`"
  | wideInteger n => s!"integer `{n}` as " ++ if n < 0 then "i128" else "u128"
  | fractional digits => s!"floating point `{digits}`"
  | text s => "string " ++ Text.quoted s
  | nothing => "unit value"
  | sequence => "sequence"
  | mapping => "map"

def integer? (text : String) : Option Found :=
  match unsigned? 64 text with
  | some n => some (.integer n)
  | none => match (signed? 64 text).filter (fun _ => text.startsWith "-") with
    | some n => some (.integer n)
    | none => match unsigned? 128 text with
      | some n => some (.wideInteger n)
      | none => ((signed? 128 text).filter fun _ => text.startsWith "-").map .wideInteger

def untagged (text : String) : Found :=
  if text = "" || isNull text then .nothing
  else match flag? text with
    | some b => .flag b
    | none => match integer? text with
      | some found => found
      | none =>
        if hasIdleZero text.toList then .text text
        else match fractional? text with
          | some x => .fractional x
          | none => .text text

def coreTag (kind : String) : String :=
  "tag:yaml.org,2002:" ++ kind

/-- A core tag says how the text reads, and is an error when the text does not: then the result
is what was expected. A local tag leaves a plain scalar as it is without one. -/
def scalar (s : Scalar) : Except String Found :=
  match s.tag with
  | some tag =>
    if tag = coreTag "bool" then ((flag? s.text).map .flag).elim (.error "a boolean") .ok
    else if tag = coreTag "int" then (integer? s.text).elim (.error "an integer") .ok
    else if tag = coreTag "float" then
      ((fractional? s.text).map .fractional).elim (.error "a float") .ok
    else if tag = coreTag "null" then if isNull s.text then .ok .nothing else .error "null"
    else if tag.startsWith "!" && s.style = .plain then .ok (untagged s.text)
    else .ok (.text s.text)
  | none => .ok (if s.style = .plain then untagged s.text else .text s.text)

end TestCluster.Yaml.Resolve
