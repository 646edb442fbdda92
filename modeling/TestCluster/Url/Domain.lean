import TestCluster.Url.Domain.Composition
import TestCluster.Url.Domain.Direction
import TestCluster.Url.Domain.Folding
import TestCluster.Url.Domain.Joining
import TestCluster.Url.Domain.Punycode

/-!
Names of hosts. A name is folded, composed and looked at label by label; a label with letters
outside ASCII is written in ASCII behind a mark.
-/

namespace TestCluster.Url

def splitAt (isSeparator : Char → Bool) : List Char → List (List Char)
  | [] => [[]]
  | c :: rest =>
    if isSeparator c then [] :: splitAt isSeparator rest
    else match splitAt isSeparator rest with
      | part :: parts => (c :: part) :: parts
      | [] => [[c]]

namespace Domain

def isForbiddenInHost (c : Char) : Bool :=
  ['\x00', '\t', '\n', '\r', ' ', '#', '/', ':', '<', '>', '?', '@', '[', '\\', ']', '^', '|'].contains c

def isForbidden (c : Char) : Bool :=
  isForbiddenInHost c || c = '%' || c.toNat < 0x20 || c.toNat = 0x7F

def isAscii (text : List Char) : Bool :=
  text.all Punycode.isAscii

/-- What stands before a label that is written in ASCII. -/
def wideMark : List Char :=
  ['x', 'n', '-', '-']

/-- A label that begins with the mark has letters outside ASCII. -/
def unwrap? (label : List Char) : Option (List Char) :=
  if label.take 4 = wideMark then do
    let letters ← Punycode.decode? (label.drop 4)
    if isAscii letters then none else some letters
  else some label

def isStable (label : List Char) : Bool :=
  label.all (fun c => Folding.fold? c = some [c]) && Composition.compose label = label

def isSound (label : List Char) : Bool :=
  isAscii label
    || (isStable label && !label.head?.any isMark && label.take 4 ≠ wideMark
      && Joining.allFit [] label)

def wrap (label : List Char) : List Char :=
  if isAscii label then label else wideMark ++ Punycode.encode label

def join (labels : List (List Char)) : List Char :=
  (labels.intersperse ['.']).flatten

def ascii? (text : List Char) : Option (List Char) := do
  let folded := (← text.mapM Folding.fold?).flatten
  if folded.any isForbidden then none
  let labels ← (splitAt (· = '.') (Composition.compose folded)).mapM unwrap?
  if labels.all isSound && Direction.areConsistent labels then
    some (join (labels.map wrap))
  else none

end Domain

end TestCluster.Url
