import TestCluster.Url.Basic

namespace TestCluster.Url

def isSchemeChar (c : Char) : Bool :=
  c.isAlphanum || c = '+' || c = '-' || c = '.'

def scheme? (text : List Char) : Option (List Char × List Char) :=
  match text.span isSchemeChar with
  | (first :: letters, ':' :: rest) =>
    if first.isAlpha then some ((first :: letters).map Char.toLower, rest) else none
  | _ => none

def isEdge (c : Char) : Bool :=
  c.toNat ≤ 0x20

/-- Spaces around the text and line breaks in it do not count. -/
def clean (text : List Char) : List Char :=
  ((text.dropWhile isEdge).reverse.dropWhile isEdge).reverse.filter (!Path.isBreak ·)

/-- The text before a query or a fragment, and these two. -/
def cutTail (special : Bool) (text : List Char) :
    List Char × Option (List Char) × Option (List Char) :=
  let (text, after) := text.span (· ≠ '#')
  let (front, query) := text.span (· ≠ '?')
  (front, if query = [] then none else some (Percent.encode (Percent.inQuery special) query.tail),
    if after = [] then none else some (Percent.encode Percent.inFragment after.tail))

def endsAuthority (special : Bool) (c : Char) : Bool :=
  Path.isSlash special c || c = '?' || c = '#'

def cutUser? (text : List Char) : Option (List Char × List Char) :=
  match (text.reverse.span (· ≠ '@')) with
  | (host, _ :: user) => some (user.reverse, host.reverse)
  | (_, []) => none

def login (text : List Char) : List Char × Option (List Char) :=
  let (name, password) := text.span (· ≠ ':')
  (Percent.encode Percent.inUserInfo name,
    if password.tail = [] then none else some (Percent.encode Percent.inUserInfo password.tail))

/-- The text before the first colon that no bracket holds, and what follows from there. -/
def cutHost (inBrackets : Bool) : List Char → List Char × List Char
  | [] => ([], [])
  | c :: rest =>
    if c = ':' && !inBrackets then ([], c :: rest)
    else
      let (host, after) := cutHost (if c = '[' then true else if c = ']' then false else inBrackets) rest
      (c :: host, after)

def port? (text : List Char) : Except Fault (Option Nat) :=
  if text = [] then .ok none
  else match if text.all Char.isDigit then Ipv4.digits? 10 text else none with
    | some n => if n < 65536 then .ok (some n) else .error .port
    | none => .error .port

/-- A port that the scheme implies is not kept. -/
def ownPort (kind : Kind) (port : Option Nat) : Option Nat :=
  port.filter fun n => kind ≠ .network n

/-- The path where an authority ends. -/
def pathAt (special : Bool) : List Char → Path
  | [] => if special then [[]] else []
  | c :: rest => Path.read special [] (if Path.isSlash special c then rest else c :: rest)

/-- What follows the two slashes of a scheme other than `file`. -/
def ofAuthority (scheme : List Char) (text : List Char) : Except Fault Url := do
  let kind := Kind.ofScheme scheme
  let (front, after) := text.span (!endsAuthority kind.isSpecial ·)
  let (user, place) := (cutUser? front).getD ([], front)
  if front.head? = some '@' && user = [] && place = [] && after ≠ [] then throw .emptyHost
  let (name, password) := login user
  let (hostText, portText) := cutHost false place
  if kind.isSpecial && hostText = [] then throw .emptyHost
  let host ← if kind.isSpecial then Host.named hostText else Host.verbatim hostText
  if hostText = [] && portText ≠ [] then throw .emptyHost
  let (digits, extra) := portText.tail.span (· ≠ '\\')
  let port ← port? digits
  if hostText = [] && (name ≠ [] || password ≠ none) then throw .emptyHost
  let (pathText, query, fragment) := cutTail kind.isSpecial (extra ++ after)
  pure ⟨scheme, name, password, some host, ownPort kind port, pathAt kind.isSpecial pathText, query,
    fragment⟩

/-- Empty segments at the front of a path of files do not count. -/
def filePath (text : List Char) : Path :=
  match (Path.read true [] text).dropWhile (· = []) with
  | [] => [[]]
  | p => p

def isDrive : List Char → Bool
  | [letter, c] => letter.isAlpha && (c = ':' || c = '|')
  | _ => false

def ofFile (text : List Char) : Except Fault Url := do
  let (front, query, fragment) := cutTail true text
  match front with
  | a :: b :: rest =>
    if Path.isSlash true a && Path.isSlash true b then
      let (hostText, pathText) := rest.span (!Path.isSlash true ·)
      if hostText = [] || isDrive hostText then
        pure ⟨"file".toList, [], none, some (.domain []), none, filePath rest, query, fragment⟩
      else
        let host ← Host.named hostText
        pure ⟨"file".toList, [], none,
          some (if host = .domain "localhost".toList then .domain [] else host), none,
          filePath pathText, query, fragment⟩
    else
      pure ⟨"file".toList, [], none, some (.domain []), none, filePath front, query, fragment⟩
  | _ => pure ⟨"file".toList, [], none, some (.domain []), none, filePath front, query, fragment⟩

def ofPath (scheme text : List Char) : Url :=
  let (front, query, fragment) := cutTail false text
  ⟨scheme, [], none, none, none, Path.read false [] front, query, fragment⟩

def ofScheme (scheme rest : List Char) : Except Fault Url :=
  match Kind.ofScheme scheme, rest with
  | .network _, _ => ofAuthority scheme (rest.dropWhile (Path.isSlash true))
  | .file, _ => ofFile rest
  | .other, '/' :: '/' :: after => ofAuthority scheme after
  | .other, '/' :: after => .ok (ofPath scheme after)
  | .other, _ => .error .notHierarchical

def read (text : String) : Except Fault Url :=
  match scheme? (clean text.toList) with
  | some (scheme, rest) => ofScheme scheme rest
  | none => .error .relative

/-- A reference without a scheme, as it is read on a page of a network scheme. -/
def follow (u : Url) (text : List Char) : Except Fault Url :=
  let (front, query, fragment) := cutTail true text
  match front with
  | [] => .ok { u with query := if query = none then u.query else query, fragment := fragment }
  | c :: rest =>
    if Path.isSlash true c then
      if rest.head?.any (Path.isSlash true) then
        ofAuthority u.scheme (text.dropWhile (Path.isSlash true))
      else .ok { u with path := Path.read true [] rest, query := query, fragment := fragment }
    else
      .ok { u with path := Path.read true u.path.dropLast front, query := query, fragment := fragment }

/-- Reads a text on the page of a URL. A scheme like the page's may do without a host. -/
def resolve (u : Url) (text : String) : Except Fault Url :=
  let text := clean text.toList
  match scheme? text with
  | none => u.follow text
  | some (scheme, rest) =>
    if scheme = u.scheme && (rest.takeWhile (Path.isSlash true)).length < 2 then u.follow rest
    else ofScheme scheme rest

end TestCluster.Url
