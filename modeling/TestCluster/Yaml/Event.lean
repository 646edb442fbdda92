import TestCluster.Yaml.Token

namespace TestCluster.Yaml

structure Scalar where
  text : String
  style : Style
  tag : Option String
  deriving DecidableEq, Repr

namespace Scalar

def absent : Scalar :=
  ⟨"", .plain, none⟩

end Scalar

/-- A document stream from left to right. Every sequence and mapping is closed. -/
inductive Event
  | alias (name : String)
  | scalar (anchor : Option String) (s : Scalar)
  | sequence (anchor tag : Option String)
  | mapping (anchor tag : Option String)
  | close
  | documentEnd
  deriving DecidableEq, Repr

namespace Event

/-- What comes next. A `bareItem` belongs to a sequence as deep as the mapping around it; a pair
is a mapping of one entry inside brackets. -/
inductive Expected
  | document (explicit : Bool)
  | content
  | documentEnd
  | item
  | bareItem
  | key
  | value
  | flowItem (first : Bool)
  | pairKey
  | pairValue
  | pairEnd
  | flowKey (first : Bool)
  | flowValue (omitted : Bool)

structure Reading where
  tokens : List Token
  expected : List Expected
  handles : List (List Char × List Char)
  events : List Event

def standardHandles : List (List Char × List Char) :=
  [(['!'], ['!']), (['!', '!'], "tag:yaml.org,2002:".toList)]

structure Properties where
  anchor : Option String
  tag : Option (List Char × List Char)

def properties : List Token → Properties × List Token
  | .anchor a :: .tag h s :: rest => (⟨some (String.ofList a), some (h, s)⟩, rest)
  | .tag h s :: .anchor a :: rest => (⟨some (String.ofList a), some (h, s)⟩, rest)
  | .anchor a :: rest => (⟨some (String.ofList a), none⟩, rest)
  | .tag h s :: rest => (⟨none, some (h, s)⟩, rest)
  | rest => (⟨none, none⟩, rest)

def directives? : (versioned : Bool) → List (List Char × List Char) → List Token →
    Option (List (List Char × List Char) × List Token)
  | versioned, handles, .version major minor :: rest =>
    if versioned || major ≠ 1 || (minor ≠ 1 && minor ≠ 2) then none
    else directives? true handles rest
  | versioned, handles, .handle name target :: rest =>
    if (handles.lookup name).isSome then none
    else directives? versioned ((name, target) :: handles) rest
  | _, handles, rest => some (handles, rest)

namespace Reading

variable (r : Reading)

def emit (e : Event) (expected : List Expected) (tokens : List Token) : Reading :=
  { r with events := e :: r.events, expected := expected, tokens := tokens }

def absent (expected : List Expected) (tokens : List Token) : Reading :=
  r.emit (.scalar none .absent) expected tokens

def tag? (t : Option (List Char × List Char)) : Option (Option String) :=
  match t with
  | none => some none
  | some ([], suffix) => some (some (String.ofList suffix))
  | some (handle, suffix) =>
    ((r.handles ++ standardHandles).lookup handle).map fun target =>
      some (String.ofList (target ++ suffix))

def node? (block bare : Bool) (expected : List Expected) (tokens : List Token) : Option Reading :=
  match tokens with
  | .alias name :: rest => some (r.emit (.alias (String.ofList name)) expected rest)
  | _ => do
    let (p, tokens) := properties tokens
    let tag ← r.tag? p.tag
    match tokens with
    | .scalar text style :: rest =>
      pure (r.emit (.scalar p.anchor ⟨String.ofList text, style, tag⟩) expected rest)
    | .flowSequence :: rest =>
      pure (r.emit (.sequence p.anchor tag) (.flowItem true :: expected) rest)
    | .flowMapping :: rest =>
      pure (r.emit (.mapping p.anchor tag) (.flowKey true :: expected) rest)
    | _ => match bare, block, tokens with
      | true, _, .item :: _ =>
        pure (r.emit (.sequence p.anchor tag) (.bareItem :: expected) tokens)
      | _, true, .blockSequence :: rest =>
        pure (r.emit (.sequence p.anchor tag) (.item :: expected) rest)
      | _, true, .blockMapping :: rest =>
        pure (r.emit (.mapping p.anchor tag) (.key :: expected) rest)
      | _, _, _ =>
        if p.anchor.isSome || tag.isSome then
          pure (r.emit (.scalar p.anchor ⟨"", .plain, tag⟩) expected tokens)
        else none

def document? (rest : List Expected) : Option Reading := do
  let (handles, tokens) ← directives? false [] r.tokens
  match tokens with
  | .documentStart :: tokens =>
    pure { r with tokens := tokens, handles := handles, expected := .content :: .documentEnd :: rest }
  | _ => none

def dropEnds : List Token → List Token
  | .documentEnd :: rest => dropEnds rest
  | rest => rest

def step? (now : Expected) (rest : List Expected) : Option Reading :=
  match now, r.tokens with
  | .document true, tokens =>
    match dropEnds tokens with
    | [] => some { r with expected := rest, tokens := [] }
    | tokens => { r with tokens := tokens }.document? rest
  | .document false, [] => some { r with expected := rest }
  | .document false, .version .. :: _ | .document false, .handle .. :: _
  | .document false, .documentStart :: _ => r.document? rest
  | .document false, tokens =>
    { r with handles := [] }.node? true false (.documentEnd :: rest) tokens
  | .content, tokens => match tokens with
    | [] | .version .. :: _ | .handle .. :: _ | .documentStart :: _ | .documentEnd :: _ =>
      some (r.absent rest tokens)
    | _ => r.node? true false rest tokens
  | .documentEnd, tokens =>
    some (r.emit .documentEnd (.document true :: rest) (match tokens with
      | .documentEnd :: tokens => tokens
      | tokens => tokens))
  | .item, .item :: tokens => match tokens with
    | .item :: _ | .blockEnd :: _ => some (r.absent (.item :: rest) tokens)
    | _ => r.node? true false (.item :: rest) tokens
  | .item, .blockEnd :: tokens => some (r.emit .close rest tokens)
  | .item, _ => none
  | .bareItem, .item :: tokens => match tokens with
    | .item :: _ | .key :: _ | .value :: _ | .blockEnd :: _ =>
      some (r.absent (.bareItem :: rest) tokens)
    | _ => r.node? true false (.bareItem :: rest) tokens
  | .bareItem, tokens => some (r.emit .close rest tokens)
  | .key, .key :: tokens => match tokens with
    | .key :: _ | .value :: _ | .blockEnd :: _ => some (r.absent (.value :: rest) tokens)
    | _ => r.node? true true (.value :: rest) tokens
  | .key, .blockEnd :: tokens => some (r.emit .close rest tokens)
  | .key, _ => none
  | .value, .value :: tokens => match tokens with
    | .key :: _ | .value :: _ | .blockEnd :: _ => some (r.absent (.key :: rest) tokens)
    | _ => r.node? true true (.key :: rest) tokens
  | .value, tokens => some (r.absent (.key :: rest) tokens)
  | .flowItem _, .flowSequenceEnd :: tokens => some (r.emit .close rest tokens)
  | .flowItem first, tokens => do
    let tokens ← if first then some tokens else match tokens with
      | .comma :: tokens => some tokens
      | _ => none
    match tokens with
    | .key :: tokens => pure (r.emit (.mapping none none) (.pairKey :: .flowItem false :: rest) tokens)
    | .flowSequenceEnd :: tokens => pure (r.emit .close rest tokens)
    | tokens => r.node? false false (.flowItem false :: rest) tokens
  | .pairKey, tokens => match tokens with
    | .value :: tokens | .comma :: tokens | .flowSequenceEnd :: tokens =>
      some (r.absent (.pairValue :: rest) tokens)
    | tokens => r.node? false false (.pairValue :: rest) tokens
  | .pairValue, .value :: tokens => match tokens with
    | .comma :: _ | .flowSequenceEnd :: _ => some (r.absent (.pairEnd :: rest) tokens)
    | tokens => r.node? false false (.pairEnd :: rest) tokens
  | .pairValue, tokens => some (r.absent (.pairEnd :: rest) tokens)
  | .pairEnd, tokens => some (r.emit .close rest tokens)
  | .flowKey _, .flowMappingEnd :: tokens => some (r.emit .close rest tokens)
  | .flowKey first, tokens => do
    let tokens ← if first then some tokens else match tokens with
      | .comma :: tokens => some tokens
      | _ => none
    match tokens with
    | .key :: tokens => match tokens with
      | .value :: _ | .comma :: _ | .flowMappingEnd :: _ =>
        pure (r.absent (.flowValue false :: rest) tokens)
      | _ => r.node? false false (.flowValue false :: rest) tokens
    | .flowMappingEnd :: tokens => pure (r.emit .close rest tokens)
    | tokens => r.node? false false (.flowValue true :: rest) tokens
  | .flowValue true, tokens => some (r.absent (.flowKey false :: rest) tokens)
  | .flowValue false, .value :: tokens => match tokens with
    | .comma :: _ | .flowMappingEnd :: _ => some (r.absent (.flowKey false :: rest) tokens)
    | _ => r.node? false false (.flowKey false :: rest) tokens
  | .flowValue false, tokens => some (r.absent (.flowKey false :: rest) tokens)

/-- A token leads to four steps at most. -/
def run? : (left : Nat) → Reading → Option (List Event)
  | 0, _ => none
  | left + 1, r =>
    match r.expected with
    | [] => some r.events.reverse
    | now :: rest => r.step? now rest >>= run? left

end Reading

def ofTokens? (tokens : List Token) : Option (List Event) :=
  Reading.run? (5 * tokens.length + 10) ⟨tokens, [.document false], [], []⟩

end Event

end TestCluster.Yaml
