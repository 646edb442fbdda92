namespace TestCluster.Client

inductive Conflict
  | fetchBelowMessage
  | receiveBelowFetch
  | pollBelowSession
  | transactionWithoutIdempotence
  | socketBeyondTransaction
  | flightsWithIdempotence
  | retriesWithIdempotence
  | thresholdWithIdempotence
  | gaplessWithoutIdempotence
  | backOffBounds
  | messageBelowLinger
  | acksWithIdempotence
  | queueWithIdempotence
  | messageBeyondTransaction
  deriving DecidableEq, Repr

namespace Conflict

/-- The name of a setting between grave accents. -/
def setting (name : String) : String :=
  "\x60" ++ name ++ "\x60"

def underIdempotence (name rule : String) : String :=
  setting name ++ s!" must be set {rule} when " ++ setting "enable.idempotence" ++ " is true"

def message : Conflict → String
  | fetchBelowMessage => setting "fetch.max.bytes" ++ " must be >= " ++ setting "message.max.bytes"
  | receiveBelowFetch =>
    setting "receive.message.max.bytes" ++ " must be >= " ++ setting "fetch.max.bytes" ++ " + 512"
  | pollBelowSession =>
    setting "max.poll.interval.ms" ++ "must be >= " ++ setting "session.timeout.ms"
  | transactionWithoutIdempotence =>
    setting "transactional.id" ++ " requires " ++ setting "enable.idempotence=true"
  | socketBeyondTransaction =>
    setting "socket.timeout.ms" ++ " must be set <= " ++ setting "transaction.timeout.ms" ++ " + 100"
  | flightsWithIdempotence => underIdempotence "max.in.flight" "<= 5"
  | retriesWithIdempotence => underIdempotence "retries" ">= 1"
  | thresholdWithIdempotence => underIdempotence "queue.buffering.backpressure.threshold" "to 1"
  | gaplessWithoutIdempotence =>
    setting "enable.gapless.guarantee" ++ " requires " ++ setting "enable.idempotence"
      ++ " to be enabled"
  | backOffBounds =>
    setting "reconnect.backoff.max.ms" ++ " must be >= " ++ setting "reconnect.max.ms"
  | messageBelowLinger =>
    setting "message.timeout.ms" ++ " must be greater than " ++ setting "linger.ms"
  | acksWithIdempotence => underIdempotence "acks" ("to " ++ setting "all")
  | queueWithIdempotence => underIdempotence "queuing.strategy" ("to " ++ setting "fifo")
  | messageBeyondTransaction =>
    setting "message.timeout.ms" ++ " must be set <= " ++ setting "transaction.timeout.ms"

end Conflict

end TestCluster.Client
