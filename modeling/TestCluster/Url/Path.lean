import TestCluster.Url.Host

namespace TestCluster.Url

abbrev Path := List (List Char)

namespace Path

def write (p : Path) : List Char :=
  p.flatMap ('/' :: ·)

/-- The segment as it is with its escaped dots read. -/
def dots (segment : List Char) : List Char :=
  match segment with
  | '%' :: '2' :: e :: rest => if e.toLower = 'e' then '.' :: dots rest else segment
  | '.' :: rest => '.' :: dots rest
  | _ => segment

def isHere (segment : List Char) : Bool :=
  dots segment = ['.']

def isUp (segment : List Char) : Bool :=
  dots segment = ['.', '.']

def enter (p : Path) (segment : List Char) : Path :=
  if isUp segment then p.dropLast else if isHere segment then p else p ++ [segment]

/-- The last segment; dots leave an empty one in their place. -/
def finish (p : Path) (segment : List Char) : Path :=
  if isUp segment then p.dropLast ++ [[]] else if isHere segment then p ++ [[]] else p ++ [segment]

def follow (p : Path) (segments : List (List Char)) : Path :=
  finish (segments.dropLast.foldl enter p) (segments.getLast?.getD [])

def isSlash (special : Bool) (c : Char) : Bool :=
  c = '/' || (special && c = '\\')

/-- Goes from a path along the text of another. -/
def read (special : Bool) (p : Path) (text : List Char) : Path :=
  p.follow ((splitAt (isSlash special) text).map (Percent.encode Percent.inPath))

def isBreak (c : Char) : Bool :=
  c = '\t' || c = '\n' || c = '\r'

/-- A path of one empty segment gives it up for the next one. -/
def base (p : Path) : Path :=
  if p = [[]] then [] else p

def trim (p : Path) : Path :=
  base (if p.getLast? = some [] then p.dropLast else p)

/-- Adds one segment. One that is nothing but dots is left out. -/
def push (special : Bool) (p : Path) (segment : List Char) : Path :=
  if segment = ['.'] || segment = ['.', '.'] then p
  else
    p.base.finish (Percent.encode (Percent.inSegment special) (segment.filter (!isBreak ·)))

def extend (special : Bool) (p : Path) (segments : List (List Char)) : Path :=
  segments.foldl (push special) p.trim

end Path

end TestCluster.Url
