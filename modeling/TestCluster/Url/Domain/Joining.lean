import TestCluster.Url.Domain.Mark

namespace TestCluster.Url.Domain

/-- On which sides a letter joins its neighbours. -/
inductive Joining
  | both
  | next
  | previous
  | none
  deriving DecidableEq, Repr

namespace Joining

def stretches : List (Nat × Joining) := [
  (0x620, both), (0x621, .none), (0x622, previous), (0x626, both), (0x627, previous), (0x628, both),
  (0x629, previous), (0x62A, both), (0x62F, previous), (0x633, both), (0x640, .none), (0x641, both),
  (0x648, previous), (0x649, both), (0x660, .none), (0x66E, both), (0x671, previous),
  (0x674, .none), (0x679, both), (0x688, previous), (0x69A, both), (0x6C0, previous), (0x6C1, both),
  (0x6C3, previous), (0x6CC, both), (0x6CD, previous), (0x6CE, both), (0x6CF, previous),
  (0x6D0, both), (0x6D2, previous), (0x6D4, .none), (0x6D5, previous), (0x6DE, .none),
  (0x6EE, previous), (0x6F0, .none), (0x6FA, both), (0x6FD, .none), (0x6FF, both), (0x700, .none),
  (0x710, previous), (0x712, both), (0x715, previous), (0x71A, both), (0x71E, previous),
  (0x71F, both), (0x728, previous), (0x729, both), (0x72A, previous), (0x72B, both),
  (0x72C, previous), (0x72D, both), (0x72F, previous), (0x74E, both), (0x759, previous),
  (0x75C, both), (0x76B, previous), (0x76D, both), (0x771, previous), (0x772, both),
  (0x773, previous), (0x775, both), (0x778, previous), (0x77A, both), (0x780, .none), (0x7CA, both),
  (0x7F4, .none), (0x840, previous), (0x841, both), (0x846, previous), (0x848, both),
  (0x849, previous), (0x84A, both), (0x854, previous), (0x855, both), (0x856, previous),
  (0x85E, .none), (0x860, both), (0x861, .none), (0x862, both), (0x866, .none), (0x867, previous),
  (0x868, both), (0x869, previous), (0x883, .none), (0x886, both), (0x887, .none), (0x889, both),
  (0x88E, previous), (0x8A0, both), (0x8AA, previous), (0x8AD, .none), (0x8AE, previous),
  (0x8AF, both), (0x8B1, previous), (0x8B3, both), (0x8B9, previous), (0x8BA, both), (0x8C9, .none),
  (0x1807, both), (0x1808, .none), (0x1820, both), (0x1880, .none), (0x1887, both), (0x18B0, .none),
  (0xA840, both), (0xA872, next), (0xA873, .none), (0x10AC0, both), (0x10AC5, previous),
  (0x10AC6, .none), (0x10AC7, previous), (0x10AC8, .none), (0x10AC9, previous), (0x10ACB, .none),
  (0x10ACD, next), (0x10ACE, previous), (0x10AD3, both), (0x10AD7, next), (0x10AD8, both),
  (0x10ADD, previous), (0x10ADE, both), (0x10AE1, previous), (0x10AE2, .none), (0x10AE4, previous),
  (0x10AEB, both), (0x10AEF, previous), (0x10AF0, .none), (0x10B80, both), (0x10B81, previous),
  (0x10B82, both), (0x10B83, previous), (0x10B86, both), (0x10B89, previous), (0x10B8A, both),
  (0x10B8C, previous), (0x10B8D, both), (0x10B8E, previous), (0x10B90, both), (0x10B91, previous),
  (0x10B99, .none), (0x10BA9, previous), (0x10BAD, both), (0x10BAF, .none), (0x10D00, next),
  (0x10D01, both), (0x10D22, previous), (0x10D23, both), (0x10D30, .none), (0x10F30, both),
  (0x10F33, previous), (0x10F34, both), (0x10F45, .none), (0x10F51, both), (0x10F54, previous),
  (0x10F55, .none), (0x10F70, both), (0x10F74, previous), (0x10F76, both), (0x10F86, .none),
  (0x10FB0, both), (0x10FB1, .none), (0x10FB2, both), (0x10FB4, previous), (0x10FB7, .none),
  (0x10FB8, both), (0x10FB9, previous), (0x10FBB, both), (0x10FBD, previous), (0x10FBE, both),
  (0x10FC0, .none), (0x10FC1, both), (0x10FC2, previous), (0x10FC4, both), (0x10FC5, .none),
  (0x10FC9, previous), (0x10FCA, both), (0x10FCB, next), (0x10FE0, .none), (0x1E922, both),
  (0x1E950, .none)]

def of (c : Char) : Joining :=
  (Text.atStretch stretches c).getD .none

def nonJoiner : Char := '\u200c'

def joiner : Char := '\u200d'

/-- The neighbour on one side, marks left out. -/
def neighbour (side : List Char) : Joining :=
  ((side.dropWhile isThinMark).head?.map of).getD .none

/-- Whether a joiner may stand between what is before it, nearest first, and what follows. -/
def fits (before after : List Char) (c : Char) : Bool :=
  before.head?.any isVirama
    || (c = nonJoiner
      && (neighbour before = both || neighbour before = next)
      && (neighbour after = both || neighbour after = previous))

def allFit (before : List Char) : List Char → Bool
  | [] => true
  | c :: after =>
    (if c = nonJoiner || c = joiner then fits before after c else true) && allFit (c :: before) after

end Joining

end TestCluster.Url.Domain
