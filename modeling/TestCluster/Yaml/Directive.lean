import TestCluster.Yaml.Tag
import TestCluster.Yaml.Token

namespace TestCluster.Yaml.Directive

def number? (rest : List Spot) : Option (Nat × List Spot) :=
  let digits := takeChars Char.isDigit rest
  if digits = [] || 9 < digits.length then none
  else some (number 10 (digits.map (·.toNat - '0'.toNat)), dropChars Char.isDigit rest)

def version? (rest : List Spot) : Option (Token × List Spot) := do
  let (major, rest) ← number? (dropChars isBlank rest)
  match rest with
  | dot :: rest =>
    if dot.char = '.' then
      let (minor, rest) ← number? rest
      pure (.version major minor, rest)
    else none
  | [] => none

def handle? (rest : List Spot) : Option (Token × List Spot) := do
  let (name, rest) ← Tag.handle? (dropChars isBlank rest)
  if name = ['!'] || Tag.isHandle name then
    if nextIs isBlank rest then
      let (target, rest) ← Tag.suffix? true [] (dropChars isBlank rest)
      if atGap rest then some (.handle name target, rest) else none
    else none
  else none

/-- A directive after its percent sign, with the whole line it stands on. -/
def read? (rest : List Spot) : Option (Token × List Spot) := do
  let name := takeChars isWordChar rest
  let rest := dropChars isWordChar rest
  if !atGap rest then none
  else
    let (token, rest) ←
      if name = "YAML".toList then version? rest
      else if name = "TAG".toList then handle? rest
      else none
    pure (token, ← lineTail? rest)

end TestCluster.Yaml.Directive
