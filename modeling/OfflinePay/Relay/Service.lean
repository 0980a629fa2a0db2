import OfflinePay.Common.Run
import OfflinePay.Domain.Models

/-!
# Relay service

Reference: `internal/relay/service.go`.

A relay keeps the transaction ids and the nonces of the envelopes it has taken in one map, with the
time each was put there. Calls and cleanup ticks use the map under the lock, one after the other. An
envelope that is taken is forwarded by a goroutine of its own, which shares nothing with the map;
`forwardWithRetry` lists what it does. Durations are `int64` nanoseconds.
-/

namespace OfflinePay.Relay

/-- `RelayAttempt`, without the times that the database sets. -/
structure RelayAttempt where
  relayID : String
  txnID : String
  hopCount : ℤ
  status : String
deriving DecidableEq

/-- `Service`. -/
structure Service where
  relayID : String
  retryLimit : ℤ
  dedupe : String → Option Time

/-- `NewService`. -/
def newService (relayID : String) (retryLimit : ℤ) : Service where
  relayID
  retryLimit := if retryLimit = 0 then 5 else retryLimit
  dedupe _ := none

/-- What the relay records of an envelope. -/
def Service.attempt (s : Service) (env : EncryptedEnvelope) (hopCount : ℤ) (status : String) :
    RelayAttempt :=
  ⟨s.relayID, env.txnID, hopCount, status⟩

/-! ## Deduplication -/

/-- A call of `ReceiveAndRelay`. If the envelope is taken, the clock is read once for the
transaction id and once for the nonce. -/
structure Incoming where
  env : EncryptedEnvelope
  hopCount : ℤ
  txnAt : Time
  nonceAt : Time
deriving DecidableEq

/-- The refusal of `ReceiveAndRelay`. -/
def duplicate : GoError := ⟨"duplicate transaction or nonce detected by relay", false⟩

/-- `ReceiveAndRelay`. It returns what it records; the envelope is then forwarded with the hop count
of the record. -/
def Service.receiveAndRelay (s : Service) (call : Incoming) :
    Except GoError RelayAttempt × Service :=
  let found := (s.dedupe call.env.txnID).isSome || (s.dedupe call.env.nonce).isSome
  if found then (.error duplicate, s)
  else
    let dedupe := Function.update s.dedupe call.env.txnID (some call.txnAt)
    let dedupe := Function.update dedupe call.env.nonce (some call.nonceAt)
    (.ok (s.attempt call.env (call.hopCount + 1) "RECEIVED"), { s with dedupe })

/-- How long an identifier is kept at least. -/
def tenMinutes : ℤ := 600000000000

/-- A tick of `cleanDedupeCacheLoop`. -/
def Service.cleanDedupeCache (s : Service) (now : Time) : Service :=
  { s with dedupe := fun key => (s.dedupe key).filter fun addedAt => !(now - addedAt > tenMinutes) }

/-- What happens to the map. -/
inductive Event where
  | receive (call : Incoming)
  | tick (now : Time)
deriving DecidableEq

/-- What is read from the clock, in this order. -/
def Event.readings : Event → List Time
  | receive call => [call.txnAt, call.nonceAt]
  | tick now => [now]

def Service.step (s : Service) : Event → Service
  | .receive call => (s.receiveAndRelay call).2
  | .tick now => s.cleanDedupeCache now

/-- The service after a sequence of calls and ticks. -/
def Service.exec (s : Service) (events : List Event) : Service := Run.exec Service.step s events

/-! ## Forwarding -/

/-- What an iteration of `forwardWithRetry` gets from outside: the answer of `Settle`, and what the
random source would draw. -/
structure Round where
  answer : Except GoError String
  draw : ℕ

/-- What `forwardWithRetry` does. -/
inductive Action where
  | recordRelayAttempt (attempt : RelayAttempt)
  | settle (answer : Except GoError String)
  | int63n (n : Int64)
  | panic (message : String)
  | sleep (duration : Int64)
deriving DecidableEq

/-- `rand.Int63n`: any number in `[0, n)`. It panics if there is none. -/
def int63n (draw : ℕ) (n : Int64) : Except String Int64 :=
  if n ≤ 0 then .error "invalid argument to Int63n" else .ok (Int64.ofInt (draw % n.toInt))

/-- `maxBackoff`: five seconds. -/
def maxBackoff : Int64 := 5000000000

/-- The sleep time, from the backoff and the jitter. -/
def sleepTime (backoff jitter : Int64) : Int64 :=
  let sleepTime := backoff + jitter
  if sleepTime > maxBackoff then maxBackoff else sleepTime

/-- The loop of `forwardWithRetry`. Each iteration takes one round from the list; where the list
ends, `Settle` has not answered yet. -/
def Service.forwardLoop (s : Service) (env : EncryptedEnvelope) (hopCount : ℤ) (attempt : ℤ)
    (backoff : Int64) : List Round → List Action
  | [] => []
  | round :: rounds =>
    if attempt ≤ s.retryLimit then
      .recordRelayAttempt (s.attempt env hopCount "FORWARDING") :: .settle round.answer ::
      match round.answer with
      | .ok settlementStatus =>
        [.recordRelayAttempt (s.attempt env hopCount ("ACK_" ++ settlementStatus))]
      | .error _ =>
        if attempt = s.retryLimit then
          [.recordRelayAttempt (s.attempt env hopCount "NACK_FAILED")]
        else
          .int63n backoff ::
          match int63n round.draw backoff with
          | .error message => [.panic message]
          | .ok jitter =>
            .sleep (sleepTime backoff jitter) ::
            s.forwardLoop env hopCount (attempt + 1) (backoff * 2) rounds
    else []

/-- `forwardWithRetry`. -/
def Service.forwardWithRetry (s : Service) (env : EncryptedEnvelope) (hopCount : ℤ)
    (rounds : List Round) : List Action :=
  s.forwardLoop env hopCount 1 100000000 rounds

end OfflinePay.Relay
