import TestCluster.Yaml.Spot

namespace TestCluster.Yaml

/-- The white space between two words of a scalar: blanks within a line, or line ends. -/
inductive Gap
  | blanks (chars : List Char)
  | lines (first : Option Char) (more : List Char)

namespace Gap

def blank (c : Char) : Gap → Gap
  | blanks chars => blanks (chars ++ [c])
  | lines first more => lines first more

def lineEnd (c : Char) : Gap → Gap
  | blanks _ => lines (some c) []
  | lines first more => lines first (more ++ [c])

/-- One plain line end reads as a space; of several the first is dropped. -/
def folded : Gap → List Char
  | blanks chars => chars
  | lines (some '\n') [] => [' ']
  | lines (some '\n') more => more
  | lines first more => first.toList ++ more

def spansLines : Gap → Bool
  | blanks _ => false
  | lines .. => true

end Gap

end TestCluster.Yaml
