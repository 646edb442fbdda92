import TestCluster.Connection
import TestCluster.Platform

namespace TestCluster

/-- What one look at a cluster shows. -/
inductive Probe
  | brokers (count : Nat)
  | failed (error : ClientError)
  | crashed (error : String)
  deriving DecidableEq

namespace Readiness

variable {w : Type} (r : Readiness) (launcher : String) (expected : Nat)

def Probe.isReady : Probe → Bool
  | .brokers count => expected ≤ count
  | .failed _ | .crashed _ => false

def report (attempt : Nat) : Probe → Event
  | .brokers count =>
    if expected ≤ count then .operational launcher count attempt
    else .notReady launcher count expected attempt
  | .failed error => .probeFailed launcher attempt error.message
  | .crashed error => .probeCrashed launcher attempt error

/-- Looks again until the cluster is ready or `left` attempts are used up, and sleeps in
between. -/
def waitFrom (probe : w → Probe × w) (attempt left : Nat) (world : w) : Reaction w :=
  match left with
  | 0 => ⟨.error (.notOperational launcher r.attempts expected), [], world⟩
  | left + 1 =>
    let look := probe world
    let seen := Remark.event (report launcher expected attempt look.1)
    if Probe.isReady expected look.1 then ⟨.ok (), [seen], look.2⟩
    else
      let later := waitFrom probe (attempt + 1) left look.2
      ⟨later.result, seen :: (if left = 0 then [] else [.slept r.interval]) ++ later.remarks,
        later.world⟩

def wait (probe : w → Probe × w) : Hook w :=
  r.waitFrom launcher expected probe 1 r.attempts.toNat

end Readiness

/-- A probing client gives its messages up soon. -/
def Connection.probeProperties (c : Connection) : Properties :=
  c.clientProperties.insert "message.timeout.ms" "5000"

def Platform.countBrokers {w : Type} (p : Platform w) (c : Connection) (timeout : UInt64)
    (world : w) : Probe × w :=
  match p.makeClient .producer c.probeProperties world with
  | (some e, world) => (.failed e, world)
  | (none, world) =>
    match p.brokerCount c.probeProperties (clientWait timeout) world with
    | (.error code, world) => (.failed (.metadataFetch code), world)
    | (.ok count, world) => (.brokers count, world)

def Platform.probe {w : Type} (p : Platform w) (c : Connection) (timeout : UInt64) (world : w) :
    Probe × w :=
  match p.breakdown world with
  | some (error, world) => (.crashed error, world)
  | none => p.countBrokers c timeout world

def Platform.waitForBrokers {w : Type} (p : Platform w) (launcher : String) (c : Connection)
    (expected : Nat) (r : Readiness) : Hook w :=
  r.wait launcher expected (p.probe c r.metadataTimeout)

end TestCluster
