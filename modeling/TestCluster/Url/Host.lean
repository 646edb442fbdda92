import TestCluster.Url.Domain

namespace TestCluster.Url

inductive Host
  | domain (text : List Char)
  | ipv4 (address : Nat)
  | ipv6 (pieces : List Nat)
  deriving DecidableEq, Repr

inductive Fault
  | relative
  | notHierarchical
  | emptyHost
  | domainName
  | domainCharacter
  | ipv4
  | ipv6
  | port
  deriving DecidableEq, Repr

def Fault.message : Fault → String
  | relative => "relative URL without a base"
  | notHierarchical => "not a base URL"
  | emptyHost => "empty host"
  | domainName => "invalid international domain name"
  | domainCharacter => "invalid domain character"
  | ipv4 => "invalid IPv4 address"
  | ipv6 => "invalid IPv6 address"
  | port => "invalid port number"

namespace Ipv4

def digits? (base : Nat) (text : List Char) : Option Nat :=
  text.foldlM (fun n c => do
    let d ← Percent.value? c
    if d < base then some (n * base + d) else none) 0

/-- Digits after `0x` are hexadecimal, and after another zero octal. -/
def part? : List Char → Option Nat
  | [] => none
  | '0' :: 'x' :: digits | '0' :: 'X' :: digits => digits? 16 digits
  | '0' :: d :: digits => digits? 8 (d :: digits)
  | digits => digits? 10 digits

/-- A last dot is left out of account. -/
def parts (text : List Char) : List (List Char) :=
  let all := splitAt (· = '.') text
  if 1 < all.length && all.getLast? = some [] then all.dropLast else all

def isNumber (part : List Char) : Bool :=
  (part ≠ [] && part.all Char.isDigit) ||
    match part with
    | '0' :: 'x' :: digits | '0' :: 'X' :: digits => digits.all (Percent.value? · |>.isSome)
    | _ => false

def endsInNumber (text : List Char) : Bool :=
  (parts text).getLast?.any isNumber

/-- Every part but the last is a byte; the last one holds all that is left. -/
def ofParts? (before : List Nat) (last : Nat) : Option Nat :=
  if before.length ≤ 3 && before.all (· < 256) && last < Nat.pow 256 (4 - before.length) then
    some (before.foldl (fun n part => n * 256 + part) 0 * Nat.pow 256 (4 - before.length) + last)
  else none

def read? (text : List Char) : Option Nat := do
  let numbers ← (parts text).mapM part?
  ofParts? numbers.dropLast (← numbers.getLast?)

def write (address : Nat) : List Char :=
  [address / 16777216, address / 65536 % 256, address / 256 % 256, address % 256]
    |>.map (Nat.toDigits 10) |>.intersperse ['.'] |>.flatten

end Ipv4

namespace Ipv6

def group? (text : List Char) : Option (List Nat) :=
  if text ≠ [] && text.length ≤ 4 then ([·]) <$> Ipv4.digits? 16 text else none

def decimal? (text : List Char) : Option Nat := do
  let n ← if text = [] then none else Ipv4.digits? 10 text
  if n < 256 && (text.length = 1 || text.head? ≠ some '0') then some n else none

/-- The last group may be an address of four bytes. -/
def lastGroup? (text : List Char) : Option (List Nat) :=
  if text.contains '.' then do
    match ← (splitAt (· = '.') text).mapM decimal? with
    | [a, b, c, d] => some [a * 256 + b, c * 256 + d]
    | _ => none
  else group? text

def groups? (mayEndInBytes : Bool) (text : List Char) : Option (List Nat) :=
  if text = [] then some []
  else do
    let parts := splitAt (· = ':') text
    let front ← parts.dropLast.mapM group?
    let last ← if mayEndInBytes then lastGroup? (parts.getLast?.getD [])
      else group? (parts.getLast?.getD [])
    some (front.flatten ++ last)

/-- The texts around the first two colons that stand together. -/
def cut? : List Char → Option (List Char × List Char)
  | ':' :: ':' :: rest => some ([], rest)
  | c :: rest => (cut? rest).map fun (before, after) => (c :: before, after)
  | [] => none

/-- Two colons together stand for zeros, at least one. -/
def read? (text : List Char) : Option (List Nat) :=
  match cut? text with
  | some (before, after) => do
    let front ← groups? false before
    let back ← groups? true after
    if front.length + back.length < 8 then
      some (front ++ List.replicate (8 - front.length - back.length) 0 ++ back)
    else none
  | none => do
    let all ← groups? true text
    if text ≠ [] && all.length = 8 then some all else none

def zerosAt (pieces : List Nat) (i : Nat) : Nat :=
  ((pieces.drop i).takeWhile (· = 0)).length

/-- The place and length of the first longest run of zeros. -/
def longestZeros (pieces : List Nat) : Nat × Nat :=
  (List.range pieces.length).foldl
    (fun best i => if best.2 < zerosAt pieces i then (i, zerosAt pieces i) else best) (0, 0)

def writeGroups (pieces : List Nat) : List Char :=
  (pieces.map (Nat.toDigits 16) |>.intersperse [':']).flatten

def write (pieces : List Nat) : List Char :=
  let (start, length) := longestZeros pieces
  if length < 2 then writeGroups pieces
  else writeGroups (pieces.take start) ++ [':', ':'] ++ writeGroups (pieces.drop (start + length))

end Ipv6

namespace Host

def bracketed (text : List Char) : Except Fault Host :=
  if text.getLast? = some ']' then
    match Ipv6.read? (text.drop 1).dropLast with
    | some pieces => .ok (.ipv6 pieces)
    | none => .error .ipv6
  else .error .ipv6

def named (text : List Char) : Except Fault Host :=
  if text.head? = some '[' then bracketed text
  else
    match (Utf8.decode? (Percent.decode text)).bind Domain.ascii? with
    | none => .error .domainName
    | some name =>
      if name = [] then .error .emptyHost
      else if Ipv4.endsInNumber name then
        match Ipv4.read? name with
        | some address => .ok (.ipv4 address)
        | none => .error .ipv4
      else .ok (.domain name)

def verbatim (text : List Char) : Except Fault Host :=
  if text.head? = some '[' then bracketed text
  else if text.any Domain.isForbiddenInHost then .error .domainCharacter
  else .ok (.domain (Percent.encode Percent.inHost text))

def write : Host → List Char
  | domain text => text
  | ipv4 address => Ipv4.write address
  | ipv6 pieces => ['['] ++ Ipv6.write pieces ++ [']']

end Host

end TestCluster.Url
