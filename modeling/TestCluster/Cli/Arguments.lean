import TestCluster.Config.Error
import TestCluster.Text.Likeness

namespace TestCluster.Cli

def programName : String := "kafka-fixture"

def version : String := "0.1.0"

inductive Flag
  | config
  | launcher
  | topic
  | seed
  | verbose
  | help
  | version
  deriving DecidableEq, Repr

namespace Flag

def all : List Flag :=
  [config, launcher, topic, seed, verbose, help, version]

def name : Flag → String
  | config => "config"
  | launcher => "launcher"
  | topic => "topic"
  | seed => "seed"
  | verbose => "verbose"
  | help => "help"
  | version => "version"

def letter? : Flag → Option Char
  | config => some 'c'
  | topic => some 't'
  | verbose => some 'v'
  | help => some 'h'
  | version => some 'V'
  | launcher | seed => none

/-- What stands for the value of a flag that takes one. -/
def placeholder? : Flag → Option String
  | config => some "CONFIG"
  | launcher => some "LAUNCHER"
  | topic => some "TOPICS"
  | seed => some "N"
  | verbose | help | version => none

def isRepeatable : Flag → Bool
  | topic | verbose => true
  | _ => false

def isQuestion : Flag → Bool
  | help | version => true
  | _ => false

def text (f : Flag) : String :=
  "--" ++ f.name ++ match f.placeholder? with
    | some p => s!" <{p}>"
    | none => if f = verbose then "..." else ""

def explanation : Flag → String
  | config => String.ofList ("Path to configuration file. Falls back to ".toList ++ ['\x60']
      ++ "KAFKA_FIXTURE_CONFIG".toList ++ ['\x60'] ++ ", then defaults".toList)
  | launcher => "Override the cluster launcher: mock, container or external"
  | topic => "Create a topic with this name prefix (repeatable)"
  | seed => "Seed each created topic with this many default messages"
  | verbose => "Increase logging verbosity (-v for debug, -vv for trace)"
  | help => "Print help"
  | version => "Print version"

def ofName? (name : List Char) : Option Flag :=
  all.find? (·.name.toList = name)

def ofLetter? (c : Char) : Option Flag :=
  all.find? (·.letter? = some c)

def similar? (name : List Char) : Option Flag :=
  Text.Likeness.best? ⟨7, 10⟩ name Flag.name all

end Flag

structure Arguments where
  config : Option String := none
  launcher : Option LauncherKind := none
  topics : List String := []
  seed : Option UInt64 := none
  verbosity : Nat := 0

inductive Fault
  | unexpected (argument : String) (similar : Option Flag) (used : List Flag)
  | noValue (flag : Flag)
  | badValue (flag : Flag) (value reason : String)
  | repeated (flag : Flag)
  | surplus (flag : Flag) (value : String) (used : List Flag)
  deriving DecidableEq, Repr

/-- Why reading ends before the last argument. -/
inductive Stop
  | fault (f : Fault)
  | question (flag : Flag)
  deriving DecidableEq, Repr

structure Reading where
  arguments : Arguments := {}
  given : List Flag := []
  /-- A flag whose value, if it is there already, has not been looked at. -/
  pending : Option (Flag × Option String) := none
  /-- Whether flags have come to their end. -/
  ended : Bool := false

def countReason (text : List Char) : String :=
  if text = [] then "cannot parse integer from empty string"
  else if (if text.head? = some '+' then text.tail else text).all Char.isDigit && text ≠ ['+'] then
    "number too large to fit in target type"
  else "invalid digit found in string"

/-- A count may have a plus sign before its digits. -/
def count? (text : List Char) : Option UInt64 :=
  let digits := if text.head? = some '+' then text.tail else text
  if digits ≠ [] && digits.all Char.isDigit then
    let n := digits.foldl (fun n c => n * 10 + (c.toNat - 48)) 0
    if n < UInt64.size then some (UInt64.ofNat n) else none
  else none

def Arguments.set (a : Arguments) (f : Flag) (value : String) : Except Fault Arguments :=
  match f with
  | .config => .ok { a with config := some value }
  | .launcher =>
    match LauncherKind.ofName? value with
    | some kind => .ok { a with launcher := some kind }
    | none => .error (.badValue f value (ConfigError.unknownLauncherText value))
  | .topic => .ok { a with topics := a.topics ++ [value] }
  | .seed =>
    match count? value.toList with
    | some n => .ok { a with seed := some n }
    | none => .error (.badValue f value (countReason value.toList))
  | .verbose => .ok { a with verbosity := min 255 (a.verbosity + 1) }
  | .help | .version => .ok a

namespace Reading

variable (r : Reading)

def take (f : Flag) (value : String) : Except Fault Reading := do
  if r.given.contains f && !f.isRepeatable then throw (.repeated f)
  pure { r with arguments := ← r.arguments.set f value, given := r.given ++ [f] }

/-- Looks at the value that is due. -/
def settle : Except Fault Reading :=
  match r.pending with
  | none => .ok r
  | some (f, none) => .error (.noValue f)
  | some (f, some value) => { r with pending := none }.take f value

/-- The flags that have been used, whatever becomes of the value that is due. -/
def used : List Flag :=
  r.given ++ match r.pending with
    | some (f, some _) => [f]
    | _ => []

def lift {α : Type} (x : Except Fault α) : Except Stop α :=
  x.mapError .fault

def put (f : Flag) (value : String) : Except Stop Reading := do
  let r ← lift r.settle
  if f.isQuestion then throw (.question f)
  lift (r.take f value)

def await (f : Flag) : Except Stop Reading := do
  let r ← lift r.settle
  pure { r with pending := some (f, none) }

/-- A cluster of letters. What follows the letter of a flag with a value is its value. -/
def letters (r : Reading) : List Char → Except Stop Reading
  | [] => .ok r
  | c :: rest =>
    match Flag.ofLetter? c with
    | none => .error (.fault (.unexpected (String.ofList ['-', c]) none []))
    | some f =>
      if f.placeholder?.isSome then
        match rest with
        | [] => r.await f
        | '=' :: value => r.put f (String.ofList value)
        | value => r.put f (String.ofList value)
      else do letters (← r.put f "") rest

def word (text : List Char) : Except Stop Reading :=
  let (name, value) := text.span (· ≠ '=')
  match Flag.ofName? name with
  | none =>
    let similar := Flag.similar? name
    .error (.fault (.unexpected (String.ofList ('-' :: '-' :: name)) similar
      (r.used ++ similar.toList)))
  | some f =>
    match f.placeholder?, value with
    | some _, [] => r.await f
    | some _, _ :: value => r.put f (String.ofList value)
    | none, [] => r.put f ""
    | none, _ :: value =>
      .error (.fault (.surplus f (String.ofList value) (r.given ++ [f])))

def step (argument : String) : Except Stop Reading :=
  let unexpected : Except Stop Reading := .error (.fault (.unexpected argument none []))
  if r.ended then unexpected
  else match argument.toList with
    | ['-', '-'] => .ok { r with ended := true }
    | '-' :: '-' :: rest => r.word rest
    | '-' :: c :: rest => r.letters (c :: rest)
    | _ =>
      match r.pending with
      | some (f, none) => .ok { r with pending := some (f, some argument) }
      | _ => unexpected

end Reading

def Arguments.read (arguments : List String) : Except Stop Arguments := do
  let r ← arguments.foldlM Reading.step {}
  let r ← Reading.lift r.settle
  pure r.arguments

/-- Flags of a run belong together, so that using one shows them all. -/
def usedText (used : List Flag) : String :=
  let questions := (used.filter Flag.isQuestion).map fun f => s!" {f.text}"
  let others := "|".intercalate ((Flag.all.filter (!·.isQuestion)).map Flag.text)
  String.join questions ++ if used.any (!·.isQuestion) then s!" <{others}>" else ""

def usage (used : List Flag) : String :=
  s!"Usage: {programName}" ++ if used = [] then " [OPTIONS]" else usedText used

def Fault.used? : Fault → Option (List Flag)
  | .unexpected _ _ used | .surplus _ _ used => some used
  | .repeated _ => some []
  | .noValue _ | .badValue .. => none

def Fault.sentence : Fault → String
  | .unexpected argument similar _ =>
    s!"unexpected argument '{argument}' found" ++ match similar with
      | some f => s!"\n\n  tip: a similar argument exists: '--{f.name}'"
      | none => ""
  | .noValue f => s!"a value is required for '{f.text}' but none was supplied"
  | .badValue f value reason => s!"invalid value '{value}' for '{f.text}': {reason}"
  | .repeated f => s!"the argument '{f.text}' cannot be used multiple times"
  | .surplus f value _ =>
    s!"unexpected value '{value}' for '{f.text}' found; no more were expected"

def Fault.message (f : Fault) : String :=
  s!"error: {f.sentence}"
    ++ (f.used?.elim "" fun used => s!"\n\n{usage used}")
    ++ "\n\nFor more information, try '--help'.\n"

def padded (width : Nat) (text : String) : String :=
  text ++ String.ofList (List.replicate (width - text.length) ' ')

def helpLine (f : Flag) : String :=
  let letter := match f.letter? with
    | some c => String.ofList ['-', c, ',', ' ']
    | none => "    "
  s!"  {letter}{padded 23 f.text}{f.explanation}"

def helpLines : List String :=
  ["Keep an ephemeral Kafka cluster running for local development", "", usage [], "", "Options:"]
    ++ Flag.all.map helpLine

def answerLines : Flag → List String
  | .help => helpLines
  | _ => [s!"{programName} {version}"]

end TestCluster.Cli
