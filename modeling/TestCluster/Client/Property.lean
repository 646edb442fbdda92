import TestCluster.Failure
import TestCluster.Properties
import TestCluster.Url.Percent

/-!
Which settings a client accepts. Every setting has a name that is known and a text of its shape; a
few pairs of settings exclude one another.
-/

namespace TestCluster.Client

inductive Kind
  | producer
  | futureProducer
  | consumer
  | streamConsumer
  | admin
  deriving DecidableEq, Repr

def Kind.consumes : Kind → Bool
  | consumer | streamConsumer => true
  | producer | futureProducer | admin => false

/-- What the text of a setting may be. -/
inductive Shape
  | text
  | single
  | whole (least most : Int)
  | wholeOr (word : String) (least most : Int)
  | real (most : Int)
  | flag
  | choice (words : List String)
  | choices (words : List String)
  | absent
  deriving DecidableEq, Repr

namespace Shape

def isSpace (c : Char) : Bool :=
  c = ' ' || (9 ≤ c.toNat && c.toNat ≤ 13)

def trim (text : List Char) : List Char :=
  ((text.dropWhile isSpace).reverse.dropWhile isSpace).reverse

def sign : List Char → Bool × List Char
  | '-' :: rest => (true, rest)
  | '+' :: rest => (false, rest)
  | rest => (false, rest)

def digitsOf (base : Nat) : List Char → List Nat
  | c :: rest =>
    match Url.Percent.value? c with
    | some d => if d < base then d :: digitsOf base rest else []
    | none => []
  | [] => []

def valueOf (base : Nat) (digits : List Nat) : Nat :=
  digits.foldl (fun n d => n * base + d) 0

/-- The number that a text begins with, in the base that its first digits tell. -/
def magnitude? : List Char → Option Nat
  | '0' :: x :: rest =>
    if (x = 'x' || x = 'X') && digitsOf 16 rest ≠ [] then some (valueOf 16 (digitsOf 16 rest))
    else some (valueOf 8 (digitsOf 8 (x :: rest)))
  | chars => if digitsOf 10 chars = [] then none else some (valueOf 10 (digitsOf 10 chars))

def wrap (n : Int) : Int :=
  (Int32.ofInt (max Int64.minValue.toInt (min Int64.maxValue.toInt n))).toInt

/-- What follows the number does not count, and only its last 32 bits do. -/
def whole? (text : String) : Option Int := do
  let (negative, rest) := sign (text.toList.dropWhile isSpace)
  let n ← magnitude? rest
  some (wrap (if negative then -Int.ofNat n else Int.ofNat n))

def exponent : List Char → Int
  | e :: rest =>
    if e = 'e' || e = 'E' then
      let (negative, rest) := sign rest
      let n : Int := min 400 (valueOf 10 (digitsOf 10 rest))
      if negative then -n else n
    else 0
  | [] => 0

/-- The decimal that a text begins with: digits, and the power of ten behind them. -/
def decimal? (text : List Char) : Option (Nat × Int) :=
  let before := digitsOf 10 text
  let rest := text.drop before.length
  let after := if rest.head? = some '.' then digitsOf 10 rest.tail else []
  let rest := if rest.head? = some '.' then rest.drop (after.length + 1) else rest
  if before = [] && after = [] then none
  else some (valueOf 10 (before ++ after), exponent rest - after.length)

/-- A decimal and a whole number, in units that make both whole. -/
def scaled (d : Nat × Int) (n : Int) : Int × Int :=
  (d.1 * Nat.pow 10 d.2.toNat, n * Nat.pow 10 (-d.2).toNat)

def atMost (most : Int) (d : Nat × Int) : Bool :=
  (scaled d most).1 ≤ (scaled d most).2

def below (limit : Int) (d : Nat × Int) : Bool :=
  (scaled d limit).1 < (scaled d limit).2

def acceptsReal (most : Int) (text : String) : Bool :=
  let (negative, rest) := sign (text.toList.dropWhile isSpace)
  if (rest.take 3).map Char.toLower = "nan".toList then true
  else (decimal? rest).any fun d => if negative then d.1 = 0 else atMost most d

def lower (text : String) : String :=
  text.map Char.toLower

def isWord (words : List String) (text : List Char) : Bool :=
  let word := lower (String.ofList (trim text))
  word = "" || words.contains word

def splitCommas (text : String) : List (List Char) :=
  text.toList.foldr (fun c parts => if c = ',' then [] :: parts else match parts with
    | part :: parts => (c :: part) :: parts
    | [] => [[c]]) [[]]

/-- A word of a list may be put in or taken out by a sign. -/
def unsigned (text : List Char) : List Char :=
  match trim text with
  | c :: rest => if c = '+' || c = '-' then rest else c :: rest
  | [] => []

def accepts (text : String) : Shape → Bool
  | .text => true
  | .single => !text.toList.contains ','
  | .whole least most => (whole? text).any fun n => least ≤ n ∧ n ≤ most
  | .wholeOr word least most =>
    match whole? text with
    | some n => least ≤ n ∧ n ≤ most
    | none => lower text = word
  | .real most => acceptsReal most text
  | .flag => ["true", "t", "1", "false", "f", "0"].contains (lower text)
  | .choice words => isWord words text.toList
  | .choices words => (splitCommas text).all fun part => isWord words (unsigned part)
  | .absent => false

end Shape

/-- A setting that clients know. One for topics applies to every topic of the client. -/
structure Setting where
  name : String
  shape : Shape
  ofTopic : Bool := false

namespace Setting

def texts : List String := [
  "client.id", "bootstrap.servers", "metadata.broker.list", "topic.blacklist", "group.id",
  "group.instance.id", "partition.assignment.strategy", "group.protocol.type", "client.rack",
  "transactional.id", "sasl.username", "sasl.password", "sasl.kerberos.service.name",
  "sasl.kerberos.principal", "sasl.kerberos.kinit.cmd", "sasl.kerberos.keytab",
  "broker.version.fallback", "client.software.name", "client.software.version"]

def flags : List String := [
  "topic.metadata.refresh.sparse", "socket.keepalive.enable", "socket.nagle.disable", "log.queue",
  "log.thread.name", "enable.random.seed", "log.connection.close", "api.version.request",
  "allow.auto.create.topics", "enable.auto.commit", "enable.auto.offset.store",
  "enable.partition.eof", "check.crcs", "enable.idempotence", "enable.gapless.guarantee",
  "delivery.report.only.error", "enable.sparse.connections"]

def wholes : List (String × Int × Int) := [
  ("message.max.bytes", 1000, 1000000000), ("message.copy.max.bytes", 0, 1000000000),
  ("receive.message.max.bytes", 1000, 2147483647),
  ("max.in.flight.requests.per.connection", 1, 1000000), ("max.in.flight", 1, 1000000),
  ("topic.metadata.refresh.interval.ms", -1, 3600000), ("metadata.max.age.ms", 1, 86400000),
  ("topic.metadata.refresh.fast.interval.ms", 1, 60000),
  ("topic.metadata.refresh.fast.cnt", 0, 1000),
  ("topic.metadata.propagation.max.ms", 0, 3600000), ("socket.timeout.ms", 10, 300000),
  ("socket.blocking.max.ms", 1, 60000), ("socket.send.buffer.bytes", 0, 100000000),
  ("socket.receive.buffer.bytes", 0, 100000000), ("socket.max.fails", 0, 1000000),
  ("broker.address.ttl", 0, 86400000), ("socket.connection.setup.timeout.ms", 1000, 2147483647),
  ("connections.max.idle.ms", 0, 2147483647), ("reconnect.backoff.jitter.ms", 0, 3600000),
  ("reconnect.backoff.ms", 0, 3600000), ("reconnect.backoff.max.ms", 0, 3600000),
  ("statistics.interval.ms", 0, 86400000), ("enabled_events", 0, 2147483647),
  ("log_level", 0, 7), ("internal.termination.signal", 0, 128),
  ("api.version.request.timeout.ms", 1, 300000), ("api.version.fallback.ms", 0, 604800000),
  ("sasl.kerberos.min.time.before.relogin", 0, 86400000), ("test.mock.num.brokers", 0, 10000),
  ("test.mock.broker.rtt", 0, 2147483647), ("session.timeout.ms", 1, 3600000),
  ("heartbeat.interval.ms", 1, 3600000), ("coordinator.query.interval.ms", 1, 3600000),
  ("max.poll.interval.ms", 1, 86400000), ("auto.commit.interval.ms", 0, 86400000),
  ("queued.min.messages", 1, 10000000), ("queued.max.messages.kbytes", 1, 2097151),
  ("fetch.wait.max.ms", 0, 300000), ("fetch.queue.backoff.ms", 0, 300000),
  ("fetch.message.max.bytes", 1, 1000000000), ("max.partition.fetch.bytes", 1, 1000000000),
  ("fetch.max.bytes", 0, 2147483135), ("fetch.min.bytes", 1, 100000000),
  ("fetch.error.backoff.ms", 0, 300000), ("transaction.timeout.ms", 1000, 2147483647),
  ("queue.buffering.max.messages", 0, 2147483647), ("queue.buffering.max.kbytes", 1, 2147483647),
  ("message.send.max.retries", 0, 2147483647), ("retries", 0, 2147483647),
  ("retry.backoff.ms", 1, 300000), ("retry.backoff.max.ms", 1, 300000),
  ("queue.buffering.backpressure.threshold", 1, 1000000), ("batch.num.messages", 1, 1000000),
  ("batch.size", 1, 2147483647), ("sticky.partitioning.linger.ms", 0, 900000)]

def topicWholes : List (String × Int × Int) := [
  ("request.timeout.ms", 1, 900000), ("message.timeout.ms", 0, 2147483647),
  ("delivery.timeout.ms", 0, 2147483647), ("compression.level", -1, 12),
  ("offset.store.sync.interval.ms", -1, 86400000), ("consume.callback.max.messages", 0, 1000000)]

def choices : List (String × List String) := [
  ("security.protocol", ["plaintext", "sasl_plaintext"]),
  ("broker.address.family", ["any", "v4", "v6"]),
  ("client.dns.lookup", ["use_all_dns_ips", "resolve_canonical_bootstrap_servers_only"]),
  ("isolation.level", ["read_uncommitted", "read_committed"]),
  ("offset.store.method", ["none", "file", "broker"]),
  ("compression.codec", ["none", "gzip", "snappy", "lz4"]),
  ("compression.type", ["none", "gzip", "snappy", "lz4"])]

def debugWords : List String := [
  "generic", "broker", "topic", "metadata", "feature", "queue", "msg", "protocol", "cgrp",
  "security", "fetch", "interceptor", "plugin", "consumer", "admin", "eos", "mock", "assignor",
  "conf", "all"]

def resetWords : List String :=
  ["smallest", "earliest", "beginning", "largest", "latest", "end", "error"]

def partitioners : List String := [
  "random", "consistent", "consistent_random", "murmur2", "murmur2_random", "fnv1a",
  "fnv1a_random"]

def all : List Setting :=
  texts.map (⟨·, .text, false⟩)
    ++ flags.map (⟨·, .flag, false⟩)
    ++ wholes.map (fun (name, least, most) => ⟨name, .whole least most, false⟩)
    ++ choices.map (fun (name, words) => ⟨name, .choice words, false⟩)
    ++ [⟨"linger.ms", .real 900000, false⟩, ⟨"queue.buffering.max.ms", .real 900000, false⟩,
      ⟨"sasl.mechanism", .single, false⟩, ⟨"sasl.mechanisms", .single, false⟩,
      ⟨"debug", .choices debugWords, false⟩]
    ++ topicWholes.map (fun (name, least, most) => ⟨name, .whole least most, true⟩)
    ++ [⟨"acks", .wholeOr "all" (-1) 1000, true⟩,
      ⟨"request.required.acks", .wholeOr "all" (-1) 1000, true⟩,
      ⟨"queuing.strategy", .choice ["fifo", "lifo"], true⟩,
      ⟨"produce.offset.report", .flag, true⟩, ⟨"partitioner", .choice partitioners, true⟩,
      ⟨"auto.commit.enable", .flag, true⟩, ⟨"auto.offset.reset", .choice resetWords, true⟩,
      ⟨"offset.store.path", .text, true⟩]

def find? (name : String) : Option Setting :=
  all.find? (·.name = name)

end Setting

def settingFault? (name text : String) : Option ClientError :=
  if name.toList.contains '\x00' || text.toList.contains '\x00' then some .nulInName
  else match Setting.find? name with
    | none => some (.unknownProperty name text)
    | some s => if s.shape.accepts text then none else some (.propertyText name text)

variable (p : Properties)

/-- The text of the first of some names that is set. -/
def first? (names : List String) : Option String :=
  names.findSome? p.get?

def number? (names : List String) : Option Int :=
  (first? p names).bind Shape.whole?

def exceeds (names : List String) (most : Int) : Bool :=
  (number? p names).any (most < ·)

def maxMessageBytes : Int :=
  (number? p ["message.max.bytes"]).getD 1000000

def fetchBytes : Int :=
  (number? p ["fetch.max.bytes"]).getD
    (max (min 52428800 ((number? p ["queued.max.messages.kbytes"]).getD 65536 * 1024))
      (maxMessageBytes p))

def consumerConflict? : Option Conflict :=
  if fetchBytes p < maxMessageBytes p then some .fetchBelowMessage
  else if (number? p ["receive.message.max.bytes"]).any (· < fetchBytes p + 512) then
    some .receiveBelowFetch
  else if (number? p ["max.poll.interval.ms"]).getD 300000
      < (number? p ["session.timeout.ms"]).getD 45000 then
    some .pollBelowSession
  else none

def isOn (name : String) : Bool :=
  (first? p [name]).any (["true", "t", "1"].contains ∘ Shape.lower)

def isTransactional : Bool :=
  (p.get? "transactional.id").isSome

def transactionTimeout : Int :=
  (number? p ["transaction.timeout.ms"]).getD 60000

/-- Transactions ask for idempotence. -/
def isIdempotent : Bool :=
  isOn p "enable.idempotence" || isTransactional p

def transactionConflict? : Option Conflict :=
  if !isTransactional p then none
  else if (first? p ["enable.idempotence"]).isSome && !isOn p "enable.idempotence" then
    some .transactionWithoutIdempotence
  else if exceeds p ["socket.timeout.ms"] (transactionTimeout p + 100) then
    some .socketBeyondTransaction
  else none

def orderConflict? : Option Conflict :=
  if !isIdempotent p then
    if isOn p "enable.gapless.guarantee" then some .gaplessWithoutIdempotence else none
  else if exceeds p ["max.in.flight", "max.in.flight.requests.per.connection"] 5 then
    some .flightsWithIdempotence
  else if (number? p ["retries", "message.send.max.retries"]).any (· < 1) then
    some .retriesWithIdempotence
  else if exceeds p ["queue.buffering.backpressure.threshold"] 1 then some .thresholdWithIdempotence
  else none

def backOffConflict? : Option Conflict :=
  if (number? p ["reconnect.backoff.max.ms"]).getD 10000
      < (number? p ["reconnect.backoff.ms"]).getD 100 then
    some .backOffBounds
  else none

/-- Messages have to wait less than they may take. -/
def lingerConflict? : Option Conflict :=
  let limit := (number? p ["message.timeout.ms", "delivery.timeout.ms"]).getD 300000
  if limit ≠ 0 && (first? p ["linger.ms", "queue.buffering.max.ms"]).any fun text =>
      (Shape.decimal? (Shape.sign (text.toList.dropWhile Shape.isSpace)).2).any
        (!Shape.below limit ·) then
    some .messageBelowLinger
  else none

def acksOf (text : String) : Int :=
  (Shape.whole? text).getD (-1)

def idempotentTopicConflict? : Option Conflict :=
  if !isIdempotent p then none
  else if (first? p ["acks", "request.required.acks"]).any (acksOf · ≠ -1) then
    some .acksWithIdempotence
  else if (p.get? "queuing.strategy").any (Shape.lower · = "lifo") then some .queueWithIdempotence
  else if isTransactional p
      && exceeds p ["message.timeout.ms", "delivery.timeout.ms"] (transactionTimeout p) then
    some .messageBeyondTransaction
  else none

def setsTopic : Bool :=
  p.toList.any fun e => (Setting.find? e.1).any (·.ofTopic)

/-- The first pair that does not go together. What is said for topics counts only if something is
set for them. -/
def conflict? (kind : Kind) : Option Conflict :=
  if kind.consumes then consumerConflict? p <|> backOffConflict? p
  else transactionConflict? p <|> orderConflict? p <|> backOffConflict? p
    <|> if setsTopic p then lingerConflict? p <|> idempotentTopicConflict? p else none

def fault? (kind : Kind) : Option ClientError :=
  p.toList.findSome? (fun e => settingFault? e.1 e.2) <|> (conflict? p kind).map .conflict

end TestCluster.Client
