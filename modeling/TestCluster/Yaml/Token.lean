namespace TestCluster.Yaml

/-- How a scalar is written; folded blocks and both kinds of quotes count as quoted. -/
inductive Style
  | plain
  | literal
  | quoted
  deriving DecidableEq, Repr

inductive Token
  | version (major minor : Nat)
  | handle (name target : List Char)
  | documentStart
  | documentEnd
  | blockSequence
  | blockMapping
  | blockEnd
  | flowSequence
  | flowSequenceEnd
  | flowMapping
  | flowMappingEnd
  | item
  | comma
  | key
  | value
  | alias (name : List Char)
  | anchor (name : List Char)
  | tag (handle suffix : List Char)
  | scalar (text : List Char) (style : Style)
  deriving DecidableEq, Repr

end TestCluster.Yaml
