import TestCluster.Yaml.Gap

namespace TestCluster.Yaml.Plain

def isFlowEnd (c : Char) : Bool :=
  c = ',' || c = '[' || c = ']' || c = '{' || c = '}'

/-- What may not follow the gap before the next word. -/
def ends (flow : Bool) (least : Nat) (gap : Gap) (s : Spot) (rest : List Spot) : Bool :=
  match gap with
  | .blanks [] => false
  | _ => (!flow && s.column < least) || atMarker (s :: rest) || s.char = '#'

def stops (flow : Bool) (s : Spot) (rest : List Spot) : Bool :=
  (s.char = ':' && atGap rest) || (flow && isFlowEnd s.char)

/-- Within brackets a colon may not touch an indicator. -/
def isMisplaced (flow : Bool) (s : Spot) (rest : List Spot) : Bool :=
  flow && s.char = ':' && nextIs (fun c => isFlowEnd c || c = '?') rest

/-- The scalar, whether it ended after a line end, and what follows. Later lines start at
column `least` or beyond. -/
def read? (flow : Bool) (least : Nat) :
    List Char → Gap → List Spot → Option (List Char × Bool × List Spot)
  | text, gap, [] => some (text.reverse, gap.spansLines, [])
  | text, gap, s :: rest =>
    if isBlank s.char then
      if gap.spansLines && s.char = '\t' && s.column < least then none
      else read? flow least text (gap.blank s.char) rest
    else if isBreak s.char then read? flow least text (gap.lineEnd s.char) rest
    else if ends flow least gap s rest then some (text.reverse, gap.spansLines, s :: rest)
    else if isMisplaced flow s rest then none
    else if stops flow s rest then some (text.reverse, gap.spansLines, s :: rest)
    else read? flow least (s.char :: (gap.folded.reverse ++ text)) (.blanks []) rest

end TestCluster.Yaml.Plain
