import TestCluster.Text.Utf8
import TestCluster.Yaml.Spot

namespace TestCluster.Yaml.Tag

/-- The name after `&` or `*`, which an indicator or a gap must end. -/
def name? (rest : List Spot) : Option (List Char × List Spot) :=
  let name := takeChars isWordChar rest
  let rest := dropChars isWordChar rest
  if name ≠ [] && (atGap rest || nextIs ("?:,]\x7d%@`".toList.contains ·) rest) then some (name, rest)
  else none

/-- `!`, `!!` or `!name!`; a name that no `!` ends is not a handle yet. -/
def handle? (rest : List Spot) : Option (List Char × List Spot) :=
  match rest with
  | s :: rest =>
    if s.char = '!' then
      let name := takeChars isWordChar rest
      match dropChars isWordChar rest with
      | e :: more =>
        if e.char = '!' then some ('!' :: name ++ ['!'], more) else some ('!' :: name, e :: more)
      | [] => some ('!' :: name, [])
    else none
  | [] => none

def isUriChar (verbatim : Bool) (c : Char) : Bool :=
  isWordChar c || ";/?:@&=+$.%!~*'()".toList.contains c || (verbatim && (c = ',' || c = '[' || c = ']'))

def width? (b : UInt8) : Option Nat :=
  if b < 0x80 then some 1
  else if b &&& 0xE0 = 0xC0 then some 2
  else if b &&& 0xF0 = 0xE0 then some 3
  else if b &&& 0xF8 = 0xF0 then some 4
  else none

/-- Percent escapes come in runs that each spell one character; `left` counts the bytes of the
character that are still to come, and `skip` the characters an escape has already used. -/
def uri? (verbatim : Bool) : (found : Bytes) → (left skip : Nat) → List Spot → Option (Bytes × List Spot)
  | found, left, _, [] => if left = 0 then some (found, []) else none
  | found, left, skip + 1, _ :: rest => uri? verbatim found left skip rest
  | found, left, 0, s :: rest =>
    if s.char = '%' then
      match rest with
      | h :: l :: _ => do
        let b := UInt8.ofNat (16 * (← hexValue? h.char) + (← hexValue? l.char))
        if left = 0 then uri? verbatim (b :: found) ((← width? b) - 1) 2 rest
        else if b &&& 0xC0 = 0x80 then uri? verbatim (b :: found) (left - 1) 2 rest
        else none
      | _ => none
    else if left ≠ 0 then none
    else if isUriChar verbatim s.char then
      uri? verbatim ((Utf8.encode [s.char]).reverse ++ found) 0 0 rest
    else some (found, s :: rest)

def target (found : Bytes) : List Char :=
  Utf8.decodeLossy found.reverse

/-- A tag that may not be empty, after the part of it that has been read already. -/
def suffix? (verbatim : Bool) (known : List Char) (rest : List Spot) :
    Option (List Char × List Spot) := do
  let (found, rest) ← uri? verbatim [] 0 0 rest
  if known = [] && found = [] then none else some (known.drop 1 ++ target found, rest)

def isHandle (name : List Char) : Bool :=
  name.length ≥ 2 && name.getLast? = some '!'

/-- The parts of a tag after its first `!` has been seen but not taken. -/
def parts? (rest : List Spot) : Option (List Char × List Char × List Spot) :=
  match rest with
  | _ :: s :: more =>
    if s.char = '<' then do
      match ← suffix? true [] more with
      | (suffix, e :: rest) => if e.char = '>' then some ([], suffix, rest) else none
      | (_, []) => none
    else shorthand? rest
  | _ => shorthand? rest
where
  shorthand? (rest : List Spot) : Option (List Char × List Char × List Spot) := do
    let (name, rest) ← handle? rest
    if isHandle name then
      let (suffix, rest) ← suffix? false [] rest
      pure (name, suffix, rest)
    else
      let (suffix, rest) ← suffix? false name rest
      pure (if suffix = [] then ([], ['!'], rest) else (['!'], suffix, rest))

/-- Within brackets a comma may follow a tag at once. -/
def read? (flow : Bool) (rest : List Spot) : Option (List Char × List Char × List Spot) := do
  let (handle, suffix, rest) ← parts? rest
  if (flow && nextIs (· = ',') rest) || atGap rest then some (handle, suffix, rest) else none

end TestCluster.Yaml.Tag
