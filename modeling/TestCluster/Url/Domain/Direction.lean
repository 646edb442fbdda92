import TestCluster.Url.Domain.Mark

/-!
Names that are read from right to left. Labels of such a name keep to one direction, so that they
look the same wherever they stand.
-/

namespace TestCluster.Url.Domain

inductive Direction
  | left
  | right
  | number
  | arabicNumber
  | mark
  | neutral
  deriving DecidableEq, Repr

namespace Direction

def stretches : List (Nat × Direction) := [
  (0xDF, left), (0xF7, neutral), (0xF8, left), (0x2B9, neutral), (0x2BB, left), (0x2C2, neutral),
  (0x2D0, left), (0x2D2, neutral), (0x2EE, left), (0x2EF, neutral), (0x371, left), (0x375, neutral),
  (0x377, left), (0x3F6, neutral), (0x3F8, left), (0x58A, neutral), (0x5BE, right),
  (0x606, neutral), (0x608, right), (0x609, neutral), (0x60B, right), (0x60C, neutral),
  (0x60D, right), (0x60E, neutral), (0x61B, right), (0x660, arabicNumber), (0x66A, neutral),
  (0x66B, arabicNumber), (0x66D, right), (0x6DE, neutral), (0x6E5, right), (0x6E9, neutral),
  (0x6EE, right), (0x6F0, number), (0x6FA, right), (0x7F6, neutral), (0x7FA, right), (0x903, left),
  (0x9F2, neutral), (0x9F4, left), (0x9FB, neutral), (0x9FC, left), (0xAF1, neutral), (0xAF9, left),
  (0xBF3, neutral), (0xC01, left), (0xC78, neutral), (0xC7F, left), (0xE3F, neutral), (0xE40, left),
  (0xF3A, neutral), (0xF3E, left), (0x1390, neutral), (0x13A0, left), (0x1400, neutral),
  (0x1401, left), (0x169B, neutral), (0x16A0, left), (0x17DB, neutral), (0x17DC, left),
  (0x17F0, neutral), (0x1810, left), (0x1940, neutral), (0x1946, left), (0x19DE, neutral),
  (0x1A00, left), (0x200C, neutral), (0x214E, left), (0x218A, neutral), (0x2336, left),
  (0x237B, neutral), (0x2395, left), (0x2396, neutral), (0x26AC, left), (0x26AD, neutral),
  (0x2800, left), (0x2900, neutral), (0x2C30, left), (0x2CE5, neutral), (0x2CEC, left),
  (0x2CF9, neutral), (0x2D00, left), (0x2E00, neutral), (0x3005, left), (0x3008, neutral),
  (0x3021, left), (0x3030, neutral), (0x3031, left), (0x3037, neutral), (0x303B, left),
  (0x303D, neutral), (0x3041, left), (0x30A0, neutral), (0x30A1, left), (0x30FB, neutral),
  (0x30FC, left), (0x31C0, neutral), (0x31F0, left), (0x4DC0, neutral), (0x4E00, left),
  (0xA490, neutral), (0xA4D0, left), (0xA60D, neutral), (0xA610, left), (0xA673, neutral),
  (0xA681, left), (0xA700, neutral), (0xA723, left), (0xA788, neutral), (0xA789, left),
  (0xA828, neutral), (0xA830, left), (0xA838, neutral), (0xA840, left), (0xA874, neutral),
  (0xA880, left), (0xAB6A, neutral), (0xABC0, left), (0xFBB2, right), (0xFD3E, neutral),
  (0xFE73, right), (0x10000, left), (0x10101, neutral), (0x10102, left), (0x10140, neutral),
  (0x1018D, left), (0x10190, neutral), (0x101D0, left), (0x102E1, number), (0x10300, left),
  (0x10800, right), (0x1091F, neutral), (0x10920, right), (0x10B39, neutral), (0x10B40, right),
  (0x10D30, arabicNumber), (0x10E80, right), (0x11000, left), (0x11052, neutral), (0x11066, left),
  (0x11660, neutral), (0x11680, left), (0x11FD5, neutral), (0x11FFF, left), (0x16FE2, neutral),
  (0x16FE3, left), (0x1D1E9, neutral), (0x1D2C0, left), (0x1D300, neutral), (0x1D360, left),
  (0x1E2FF, neutral), (0x1E4D0, left), (0x1E800, right), (0x1EEF0, neutral), (0x1F150, left),
  (0x1F16D, neutral), (0x1F170, left), (0x1F1AD, neutral), (0x1F1E6, left), (0x1F260, neutral),
  (0x20000, left)]

def of (c : Char) : Direction :=
  if c.isAlpha then left
  else if c.isDigit then number
  else if isThinMark c then mark
  else (Text.atStretch stretches c).getD neutral

def mayEnd (allowed : List Direction) (label : List Direction) : Bool :=
  (label.reverse.dropWhile (· = mark)).head?.any allowed.contains

def runsRight (label : List Direction) : Bool :=
  !label.contains left && mayEnd [right, number, arabicNumber] label
    && !(label.contains number && label.contains arabicNumber)

def runsLeft (label : List Direction) : Bool :=
  !label.contains right && !label.contains arabicNumber && mayEnd [left, number] label

def isConsistent (label : List Direction) : Bool :=
  match label.head? with
  | none => true
  | some left => runsLeft label
  | some right => runsRight label
  | some _ => false

/-- Directions count as soon as something in the name runs to the left. -/
def areConsistent (labels : List (List Char)) : Bool :=
  let directions := labels.map (·.map of)
  directions.all isConsistent
    || !directions.any fun label => label.contains right || label.contains arabicNumber

end Direction

end TestCluster.Url.Domain
