import OfflinePay.Common.Table
import Mathlib.Data.Rat.Defs

/-!
# Domain model

Reference: `internal/domain/models.go`, `internal/intent/service.go`, and the column checks of
`internal/db/migrations/*.sql`.

Enumerations that the source keeps as string constants are inductive types with a `text`. Money is
`int64` in the source and `Int64` here. A timestamp is a number of nanoseconds. The two tables whose
schema has `CHECK` clauses on a row carry them as fields of the row type, so a row that breaks its
check cannot be built.
-/

namespace OfflinePay

/-- Nanoseconds since the epoch. -/
abbrev Time := ℤ

/-- The zero value of `time.Time`, the beginning of the year 1. -/
def Time.zero : Time := -62135596800000000000

/-- `time.Time.Unix`: whole seconds, rounded down. -/
def Time.unix (t : Time) : ℤ := t / 1000000000

/-- `TIMESTAMP WITH TIME ZONE` keeps microseconds: the nearest one, ties to the even one. -/
def Time.timestamptz (t : Time) : Time :=
  let q := t / 1000
  let r := t % 1000
  if r < 500 ∨ (r = 500 ∧ q % 2 = 0) then q * 1000 else (q + 1) * 1000

/-- A Go error: its text, and whether `errors.Is(err, sql.ErrNoRows)`. -/
structure GoError where
  text : String
  noRows : Bool := false
deriving DecidableEq, Repr

/-- `fmt.Errorf("<pre>%w", err)`. -/
def GoError.wrap (pre : String) (e : GoError) : GoError := { e with text := pre ++ e.text }

/-- `sql.ErrNoRows`. -/
def GoError.errNoRows : GoError := ⟨"sql: no rows in result set", true⟩

/-- The JSON values the program writes into payload columns. -/
inductive Json where
  | null
  | bool (b : Bool)
  | num (q : ℚ)
  | str (s : String)
  | time (t : Time)
  | obj (fields : List (String × Json))

/-- An `int64` in JSON. -/
def Json.int64 (n : Int64) : Json := .num n.toInt

/-- A `*time.Time` member with `omitempty`. -/
def Json.optTime (name : String) (t : Option Time) : List (String × Json) :=
  t.toList.map fun t => (name, .time t)

/-- A member of a JSON object. -/
def Json.field? : Json → String → Option Json
  | .obj fields, name => (fields.find? (fun p => p.1 = name)).map Prod.snd
  | _, _ => none

/-- Does the object have this string under this name? -/
def Json.hasStr (j : Json) (name s : String) : Bool :=
  match j.field? name with
  | some (.str s') => s' == s
  | _ => false

/-! ## Payment lifecycle -/

/-- Payment state machine states. -/
inductive PaymentStatus where
  | created | signed | encrypted | broadcast | relayed | validated | reserved
  | settled | rejected | failed | expired | duplicate | reconciled
deriving DecidableEq, Repr

def PaymentStatus.text : PaymentStatus → String
  | created => "CREATED"
  | signed => "SIGNED"
  | encrypted => "ENCRYPTED"
  | broadcast => "BROADCAST"
  | relayed => "RELAYED"
  | validated => "VALIDATED"
  | reserved => "RESERVED"
  | settled => "SETTLED"
  | rejected => "REJECTED"
  | failed => "FAILED"
  | expired => "EXPIRED"
  | duplicate => "DUPLICATE"
  | reconciled => "RECONCILED"

/-- The table of `IsValidTransition`. -/
def PaymentStatus.transitions : PaymentStatus → List PaymentStatus
  | created => [signed]
  | signed => [encrypted, failed]
  | encrypted => [broadcast, failed]
  | broadcast => [relayed, expired, failed]
  | relayed => [validated, rejected, duplicate, expired, failed]
  | validated => [reserved, rejected, failed]
  | reserved => [settled, failed]
  | settled => [reconciled]
  | rejected => [reconciled]
  | failed => [reconciled]
  | expired => [reconciled]
  | duplicate => [reconciled]
  | reconciled => []

/-- `domain.IsValidTransition`. -/
def isValidTransition (oldState newState : PaymentStatus) : Bool :=
  oldState == newState || oldState.transitions.contains newState

/-- Statuses `Settle` treats as already processed. -/
def PaymentStatus.isFinal : PaymentStatus → Bool
  | settled | rejected | failed | duplicate => true
  | _ => false

/-! ## Devices -/

inductive DeviceStatus where
  | active | revoked | compromised
deriving DecidableEq, Repr

def DeviceStatus.text : DeviceStatus → String
  | active => "ACTIVE"
  | revoked => "REVOKED"
  | compromised => "COMPROMISED"

/-- Device identity model. `trustScore` is the exact value of the stored double. -/
structure Device where
  deviceID : String
  ownerID : String
  publicKey : String
  trustScore : ℚ
  status : DeviceStatus
  createdAt : Time
  revokedAt : Option Time
deriving DecidableEq

/-- Revoked or compromised devices may not sign. -/
def Device.barred (d : Device) : Bool := d.status == .revoked || d.status == .compromised

/-- Simulated security attestation of a device. -/
structure DeviceAttestation where
  deviceID : String
  attestationType : String
  attestationHash : String
  trustLevel : String
  createdAt : Time
deriving DecidableEq

/-! ## Offline tokens -/

inductive TokenStatus where
  | issued | held | consumed | invalidated
deriving DecidableEq, Repr

def TokenStatus.text : TokenStatus → String
  | issued => "ISSUED"
  | held => "HELD"
  | consumed => "CONSUMED"
  | invalidated => "INVALIDATED"

/-- The table of `IsValidTokenTransition`. -/
def TokenStatus.transitions : TokenStatus → List TokenStatus
  | issued => [held, invalidated]
  | held => [consumed, invalidated]
  | consumed => []
  | invalidated => []

/-- `domain.IsValidTokenTransition`. -/
def isValidTokenTransition (oldState newState : TokenStatus) : Bool :=
  oldState == newState || oldState.transitions.contains newState

/-- A token in one of these states still stands for reserved money. -/
def TokenStatus.outstanding : TokenStatus → Bool
  | issued | held => true
  | _ => false

/-- Offline token model. -/
structure OfflineToken where
  tokenID : String
  ownerID : String
  value : Int64
  expiry : Time
  consumed : Bool
  consumedAt : Option Time
  tokenSignature : String
  reservedAt : Time
  releasedAt : Option Time
  riskScoreAtIssue : ℚ
  status : TokenStatus
deriving DecidableEq

/-- The JSON of a token. -/
def OfflineToken.json (tok : OfflineToken) : Json :=
  .obj ([("token_id", .str tok.tokenID), ("owner_id", .str tok.ownerID),
    ("value", .int64 tok.value), ("expiry", .time tok.expiry), ("consumed", .bool tok.consumed)]
    ++ Json.optTime "consumed_at" tok.consumedAt
    ++ [("token_signature", .str tok.tokenSignature), ("reserved_at", .time tok.reservedAt)]
    ++ Json.optTime "released_at" tok.releasedAt
    ++ [("risk_score_at_issue", .num tok.riskScoreAtIssue), ("status", .str tok.status.text)])

/-- The string the bank signs, `token:%s:owner:%s:value:%d:expiry:%d`. -/
def canonicalTokenData (tokenID ownerID : String) (value : Int64) (expiry : Time) : String :=
  "token:" ++ tokenID ++ ":owner:" ++ ownerID ++ ":value:" ++ toString value.toInt
    ++ ":expiry:" ++ toString expiry.unix

/-! ## Payment intents and envelopes -/

/-- Payment intent raw payload (what gets signed and encrypted). -/
structure PaymentIntentPayload where
  txnID : String
  senderID : String
  receiverID : String
  amount : Int64
  currency : String
  nonce : String
  expiry : Time
  deviceID : String
  tokenID : String
deriving DecidableEq

/-- The JSON of a payload. -/
def PaymentIntentPayload.json (p : PaymentIntentPayload) : Json :=
  .obj [("txn_id", .str p.txnID), ("sender_id", .str p.senderID),
    ("receiver_id", .str p.receiverID), ("amount", .int64 p.amount), ("currency", .str p.currency),
    ("nonce", .str p.nonce), ("expiry", .time p.expiry), ("device_id", .str p.deviceID),
    ("token_id", .str p.tokenID)]

/-- `intent.GetCanonicalPayloadString`. -/
def getCanonicalPayloadString (p : PaymentIntentPayload) : String :=
  "txn:" ++ p.txnID ++ ":sender:" ++ p.senderID ++ ":rec:" ++ p.receiverID
    ++ ":amt:" ++ toString p.amount.toInt ++ ":cur:" ++ p.currency ++ ":nonce:" ++ p.nonce
    ++ ":exp:" ++ toString p.expiry.unix ++ ":dev:" ++ p.deviceID ++ ":tok:" ++ p.tokenID

/-- `intent.SignedPaymentIntent`: what an envelope decrypts to. -/
structure SignedPaymentIntent where
  payload : PaymentIntentPayload
  deviceSignature : String
deriving DecidableEq

/-- Encrypted envelope structure for transit. The outer `nonce` and `txnID` are not authenticated.
-/
structure EncryptedEnvelope where
  ephemeralPublicKey : String
  ciphertext : String
  nonce : String
  authTag : String
  txnID : String
  iv : String
deriving DecidableEq

/-- Payment intent full model in db. -/
structure PaymentIntent where
  txnID : String
  senderID : String
  receiverID : String
  amount : Int64
  currency : String
  nonce : String
  expiry : Time
  status : PaymentStatus
  deviceID : String
  tokenID : String
  failureReason : Option String
  settledAt : Option Time
  rejectedAt : Option Time
  relayHops : ℤ
  signatureHash : String
  createdAt : Time
  updatedAt : Time
deriving DecidableEq

/-- Nonce registry entry. -/
structure NonceRegistry where
  nonce : String
  txnID : String
  expiry : Time
deriving DecidableEq

/-! ## Balances and the ledger -/

/-- Account balance row, with the two `CHECK` clauses of `account_balances`. -/
structure AccountBalance where
  accountID : String
  availableBalance : Int64
  reservedBalance : Int64
  updatedAt : Time
  available_check : 0 ≤ availableBalance
  reserved_check : 0 ≤ reservedBalance
deriving DecidableEq

inductive Direction where
  | debit | credit
deriving DecidableEq, Repr

inductive EntryType where
  | settlement | reservation | release
deriving DecidableEq, Repr

/-- Double-entry ledger row, with the `CHECK` clause on its amount. -/
structure LedgerEntry where
  entryID : ℕ
  txnID : String
  accountID : String
  direction : Direction
  amount : Int64
  entryType : EntryType
  balanceAfter : Int64
  amount_check : 0 < amount
deriving DecidableEq

/-- The id under which a token's reservation is booked. -/
def reservationTxnID (tokenID : String) : String := "tok-res-" ++ tokenID

/-! ## Event tables -/

/-- Audit event logger model. -/
structure AuditEvent where
  txnID : String
  eventType : String
  payload : Json

inductive OutboxStatus where
  | pending | processing | published | failed
deriving DecidableEq, Repr

/-- Outbox event pattern. -/
structure OutboxEvent where
  eventID : ℕ
  streamName : String
  eventType : String
  payload : Json
  published : Bool
  status : OutboxStatus
  retryCount : ℕ

/-- A versioned audit/state log row for event sourcing. -/
structure PaymentEvent where
  txnID : String
  eventType : String
  eventVersion : ℕ
  payload : Json
  createdAt : Time

/-! ## Code outside the repository -/

/-- Verdicts of the risk engine. -/
inductive RiskAction where
  | allow | throttle | manualReview | reject
deriving DecidableEq, Repr

structure RiskAssessment where
  action : RiskAction
  reason : String

/-- What settlement and token issuance take from the crypto library, the JSON decoder, the risk
engine (whose velocity windows live in Redis) and floating-point arithmetic. `creditLimit` is
`int64(200 + bestTrustScore*4800)`. -/
structure Externals where
  Plaintext : Type
  PublicKey : Type
  RiskState : Type
  decryptECIES : (ephemeralPublicKey ciphertext iv authTag : String) → Except GoError Plaintext
  unmarshalIntent : Plaintext → Except GoError SignedPaymentIntent
  parsePEMToPublicKey : String → Except GoError PublicKey
  verify : PublicKey → (data signature : String) → Bool
  bankPublicKey : PublicKey
  signBank : (data : String) → Except GoError String
  assess : RiskState → Device → PaymentIntentPayload → (hopCount : ℤ) → RiskAssessment × RiskState
  creditLimit : ℚ → Int64

end OfflinePay
