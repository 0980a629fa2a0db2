import OfflinePay.Domain.Models

/-!
# Failure classification and recovery policy

Reference: `internal/recovery/recovery.go`, `internal/recovery/models.go`.

Durations are `int64` nanoseconds. A confidence is a `float64`; only its comparisons matter, so
`Float64` keeps NaN, the infinities and the exact value of a finite double apart.
-/

namespace OfflinePay.Recovery

/-- A double as far as its comparisons go. -/
inductive Float64 where
  | nan
  | negInf
  | posInf
  | fin (q : ℚ)
deriving DecidableEq

/-- `a < b` on doubles; every comparison with NaN is false. -/
def Float64.lt : Float64 → Float64 → Bool
  | .nan, _ | _, .nan => false
  | .fin a, .fin b => a < b
  | .negInf, .negInf => false
  | .negInf, _ => true
  | _, .posInf => true
  | _, _ => false

/-- The names of the failure categories. -/
def categoryNames : List String :=
  ["NETWORK", "PAYMENT", "SECURITY", "CONSISTENCY", "INFRASTRUCTURE", "UNKNOWN"]

inductive FailureCategory where
  | network | payment | security | consistency | infrastructure | unknown
  /-- The type is a string: a classifier can make one up. -/
  | other (name : String) (hname : name ∉ categoryNames)
deriving DecidableEq

def FailureCategory.text : FailureCategory → String
  | network => "NETWORK"
  | payment => "PAYMENT"
  | security => "SECURITY"
  | consistency => "CONSISTENCY"
  | infrastructure => "INFRASTRUCTURE"
  | unknown => "UNKNOWN"
  | other name _ => name

/-- `validCategory`. -/
def validCategory : FailureCategory → Bool
  | .other _ _ => false
  | _ => true

inductive Action where
  | retry | compensate | escalate | abstain | exhausted
deriving DecidableEq, Repr

def Action.text : Action → String
  | retry => "RETRY"
  | compensate => "COMPENSATE"
  | escalate => "ESCALATE"
  | abstain => "ABSTAIN"
  | exhausted => "EXHAUSTED"

inductive State where
  | pending | diagnosed | scheduled | recovering | compensated | escalated | exhausted
deriving DecidableEq, Repr

/-- `IsValidTransition`. -/
def isValidTransition (before after : State) : Bool :=
  before = after ||
    match before with
    | .pending => after = .diagnosed
    | .diagnosed => after = .scheduled || after = .escalated
    | .scheduled => after = .recovering || after = .exhausted || after = .escalated
    | .recovering =>
      after = .scheduled || after = .compensated || after = .escalated || after = .exhausted
    | _ => false

structure FailureEvent where
  id : String
  txnID : String
  amount : Int64
  code : String
  message : String
  /-- `none` is Go's zero time. -/
  occurredAt : Option Time

structure Classification where
  category : FailureCategory
  confidence : Float64
  source : String

structure Decision where
  action : Action
  reason : String

/-! ## Rules-first classification -/

/-- `strings.ToLower`, on the characters that can become an ASCII letter: besides `A`–`Z` only the
Kelvin sign and the dotted capital I do. -/
def lowerChar (c : Char) : Char :=
  if c = Char.ofNat 0x212A then 'k' else if c = Char.ofNat 0x130 then 'i' else c.toLower

/-- `strings.Contains`. -/
def contains (s sub : List Char) : Bool := decide (sub <:+: s)

/-- `containsAny`. -/
def containsAny (s : List Char) (values : List String) : Bool :=
  values.any fun v => contains s v.toList

/-- `Classifier`. -/
abbrev Classifier := FailureEvent → Classification

/-- `LLMClassifier`; `none` is an error. -/
abbrev LLMClassifier := FailureEvent → Option (FailureCategory × Float64)

/-- `RulesFirstClassifier.Classify`. -/
def classify (llm : Option LLMClassifier) : Classifier := fun e =>
  let code := (e.code ++ " " ++ e.message).toList.map lowerChar
  if containsAny code ["timeout", "temporary", "connection", "redis", "outbox", "unavailable"] then
    ⟨.network, .fin 0.95, "RULE"⟩
  else if containsAny code ["nonce", "replay", "signature", "revoked", "attestation", "security"] then
    ⟨.security, .fin 0.99, "RULE"⟩
  else if containsAny code ["ledger", "balance", "token", "duplicate", "consistency"] then
    ⟨.consistency, .fin 0.95, "RULE"⟩
  else if containsAny code ["database", "postgres", "infrastructure"] then
    ⟨.infrastructure, .fin 0.95, "RULE"⟩
  else if containsAny code ["declined", "expired", "insufficient", "payment"] then
    ⟨.payment, .fin 0.95, "RULE"⟩
  else
    match llm with
    | none => ⟨.unknown, .fin 0, "RULE"⟩
    | some ask =>
      match ask e with
      | some (category, confidence) =>
        if !validCategory category || confidence.lt (.fin 0) || (Float64.fin 1).lt confidence then
          ⟨.unknown, .fin 0, "LLM_INVALID"⟩
        else ⟨category, confidence, "LLM"⟩
      | none => ⟨.unknown, .fin 0, "LLM_INVALID"⟩

/-! ## Policy -/

structure Policy where
  maxAttempts : ℤ
  maxAmount : Int64
  maxElapsed : Int64
  cooldown : Int64

/-- `DefaultPolicy`: three attempts, 5,000,000 minor units, a day, a minute. -/
def defaultPolicy : Policy := ⟨3, 5000000, 86400000000000, 60000000000⟩

/-- `Policy.Validate`. -/
def Policy.validate (p : Policy) : Except GoError Unit :=
  if p.maxAttempts ≤ 0 ∨ p.maxAmount ≤ 0 ∨ p.maxElapsed ≤ 0 ∨ p.cooldown ≤ 0 then
    .error ⟨"recovery policy limits must be positive", false⟩
  else .ok ()

/-- `MinimumConfidence`: the double nearest to 0.70. -/
def minimumConfidence : ℚ := 6305039478318694 / 9007199254740992

/-- `Policy.Decide`. -/
def Policy.decide (p : Policy) (e : FailureEvent) (c : Classification) (attempts : ℤ) (now : Time) :
    Decision :=
  if p.maxAmount < e.amount || e.occurredAt.getD Time.zero + p.maxElapsed.toInt < now then
    ⟨.escalate, "recovery_budget_exceeded"⟩
  else if p.maxAttempts ≤ attempts then
    ⟨.exhausted, "attempt_limit_exceeded"⟩
  else if c.confidence.lt (.fin minimumConfidence) then
    ⟨.abstain, "classification_confidence_below_threshold"⟩
  else
    match c.category with
    | .network | .infrastructure => ⟨.retry, "transient_failure"⟩
    | .payment => ⟨.compensate, "payment_failure_requires_compensation"⟩
    | .security | .consistency => ⟨.escalate, "security_or_consistency_failure"⟩
    | .unknown | .other _ _ => ⟨.abstain, "unknown_failure"⟩

/-- `Policy.NextAttempt`: the cooldown doubled per attempt, in `int64`. -/
def Policy.nextAttempt (p : Policy) (attempt : ℤ) (now : Time) : Time :=
  let attempt := if attempt < 1 then 1 else attempt
  now + (Int64.ofInt (p.cooldown.toInt * 2 ^ (attempt - 1).toNat)).toInt

/-- `IdempotencyKey`; the action is ignored. -/
def idempotencyKey (txnID : String) : String := "recovery:" ++ txnID

/-- `stateFor`. -/
def stateFor : Action → State
  | .retry | .compensate => .scheduled
  | .exhausted => .exhausted
  | .escalate | .abstain => .escalated

/-- `scheduledAt`. -/
def scheduledAt (action : Action) (p : Policy) (now : Time) : Option Time :=
  match action with
  | .retry | .compensate => some (p.nextAttempt 1 now)
  | _ => none

end OfflinePay.Recovery
