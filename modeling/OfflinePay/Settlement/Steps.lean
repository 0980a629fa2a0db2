import OfflinePay.Common.Checked
import OfflinePay.Saga.Orchestrator
import OfflinePay.Store.Frame

/-!
# The settlement saga

Reference: `internal/settlement/service.go`, the `steps` of `Service.Settle`.

An `Order` is a payment that passed validation; the facts that validation established about it are
fields. The saga has four steps over it, each an action and a compensation.
-/

namespace OfflinePay.Settlement

open Tx Repository

/-- What one transaction or read of a `Settle` call gets from outside: the clock, a failure of the
transaction, a failure of a read that runs outside of it, and fresh UUIDs. -/
structure Input where
  now : Time
  fault : Option GoError := none
  readFault : Option GoError := none
  failureID : String := ""
  recoveryID : String := ""
deriving DecidableEq

/-- A payment that passed validation. `token` is the row as it was read then. -/
structure Order where
  env : EncryptedEnvelope
  hopCount : ℤ
  payload : PaymentIntentPayload
  token : OfflineToken
  token_eq : token.tokenID = payload.tokenID
  owner_eq : token.ownerID = payload.senderID
  unconsumed : token.consumed = false
  covered : payload.amount ≤ token.value
deriving DecidableEq

/-- A payment from an account to itself. -/
def Order.self (o : Order) : Prop := o.payload.senderID = o.payload.receiverID

instance (o : Order) : Decidable o.self := inferInstanceAs (Decidable (_ = _))

/-- What goes back to the sender. -/
def Order.changeAmount (o : Order) : Int64 := o.token.value - o.payload.amount

/-- Lock the two balances in alphabetical order; the sender's comes first in the result. -/
def lockBalances (failed : String → GoError → GoError) (senderID receiverID : String) :
    DBTx (AccountBalance × AccountBalance) :=
  let lock := fun accountID => mapError (failed accountID) (getBalanceForUpdate accountID)
  if senderID < receiverID then do
    let senderBal ← lock senderID
    let receiverBal ← lock receiverID
    pure (senderBal, receiverBal)
  else do
    let receiverBal ← lock receiverID
    let senderBal ← lock senderID
    pure (senderBal, receiverBal)

theorem lockBalances_ok {failed : String → GoError → GoError} {senderID receiverID : String}
    {bals : AccountBalance × AccountBalance} {db db' : DB} :
    lockBalances failed senderID receiverID db = .ok (bals, db') ↔
      db.accountBalances.find? senderID = some bals.1 ∧
        db.accountBalances.find? receiverID = some bals.2 ∧ db = db' := by
  obtain ⟨s, r⟩ := bals
  unfold lockBalances
  split
  · simp only [bind_ok, mapError_ok, getBalanceForUpdate_ok, pure_ok, Prod.mk.injEq]
    aesop
  · simp only [bind_ok, mapError_ok, getBalanceForUpdate_ok, pure_ok, Prod.mk.injEq]
    aesop

/-! ## RESERVE -/

/-- The intent row that `RESERVE` creates. -/
def Order.reservedIntent (o : Order) (now : Time) : PaymentIntent where
  txnID := o.payload.txnID
  senderID := o.payload.senderID
  receiverID := o.payload.receiverID
  amount := o.payload.amount
  currency := o.payload.currency
  nonce := o.payload.nonce
  expiry := o.payload.expiry
  status := .reserved
  deviceID := o.payload.deviceID
  tokenID := o.payload.tokenID
  failureReason := none
  settledAt := none
  rejectedAt := none
  relayHops := o.hopCount
  signatureHash := "sig-hash-" ++ o.payload.txnID
  createdAt := now
  updatedAt := now

/-- The error of `RESERVE` when the sender's reservation does not cover the token. -/
def insufficientReserved (reserved value : Int64) : GoError :=
  ⟨"insufficient reserved balance: has " ++ toString reserved.toInt ++ ", token reserved "
    ++ toString value.toInt, false⟩

/-- `RESERVE`: create the intent under the payload's id, and the nonce under the envelope's id. -/
def reserve (o : Order) (input : Input) : DBTx Unit := do
  let bals ← lockBalances
    (fun accountID => .wrap ("failed to lock balance for account " ++ accountID ++ ": "))
    o.payload.senderID o.payload.receiverID
  check (o.token.value ≤ bals.1.reservedBalance)
    (insufficientReserved bals.1.reservedBalance o.token.value)
  mapError (.wrap "failed to create reservation intent: ")
    (createPaymentIntent (o.reservedIntent input.now))
  mapError (.wrap "nonce_reused: ") (registerNonce o.payload.nonce o.env.txnID o.payload.expiry)

/-- Compensation of `RESERVE`. A refused delete of the intent is ignored by the source, but it has
aborted the transaction. -/
def unreserve (o : Order) (_ : Input) : DBTx Unit := do
  deleteNonce o.payload.nonce
  let status ← view fun db => (db.paymentIntents.find? o.payload.txnID).map PaymentIntent.status
  if status = some .reserved then deletePaymentIntent o.payload.txnID else pure ()

/-! ## CONSUME_TOKEN -/

/-- `CONSUME_TOKEN`: put the token on hold. -/
def hold (o : Order) (_ : Input) : DBTx Unit := do
  let tokLocked ← getTokenForUpdate o.payload.tokenID
  check (tokLocked.status = .issued)
    ⟨"token state mismatch: expected ISSUED, got " ++ tokLocked.status.text, false⟩
  holdToken o.payload.tokenID

/-- Compensation of `CONSUME_TOKEN`: invalidate a token that is still on hold. -/
def unhold (o : Order) (input : Input) : DBTx Unit := do
  let status ← view fun db => (db.offlineTokens.find? o.payload.tokenID).map OfflineToken.status
  if status = some .held then invalidateToken o.payload.tokenID input.now else pure ()

/-! ## LEDGER_COMMIT -/

/-- `LEDGER_COMMIT`: consume the token, move the money, settle the intent, write the entries. -/
def commitLedger (o : Order) (input : Input) : DBTx Unit := do
  consumeToken o.payload.tokenID input.now
  let bals ← lockBalances (fun _ e => e) o.payload.senderID o.payload.receiverID
  let newSenderReserved := bals.1.reservedBalance - o.token.value
  let newSenderAvailable := bals.1.availableBalance + o.changeAmount
  updateBalance o.payload.senderID newSenderAvailable newSenderReserved input.now
  let newReceiverAvailable := bals.2.availableBalance + o.payload.amount
  updateBalance o.payload.receiverID newReceiverAvailable bals.2.reservedBalance input.now
  updatePaymentIntentStatus o.payload.txnID .settled none input.now
  createLedgerEntry o.payload.txnID o.payload.senderID .debit o.payload.amount .settlement
    newSenderAvailable
  createLedgerEntry o.payload.txnID o.payload.receiverID .credit o.payload.amount .settlement
    newReceiverAvailable
  createLedgerEntry (reservationTxnID o.payload.tokenID) o.payload.senderID .credit o.token.value
    .release newSenderAvailable

/-- Compensation of `LEDGER_COMMIT`: move the money back, delete the entries and the intent. -/
def undoLedger (o : Order) (input : Input) : DBTx Unit := do
  let bals ← lockBalances (fun _ e => e) o.payload.senderID o.payload.receiverID
  let newSenderReserved := bals.1.reservedBalance + o.token.value
  let newSenderAvailable := bals.1.availableBalance - o.changeAmount
  updateBalance o.payload.senderID newSenderAvailable newSenderReserved input.now
  let newReceiverAvailable := bals.2.availableBalance - o.payload.amount
  updateBalance o.payload.receiverID newReceiverAvailable bals.2.reservedBalance input.now
  deleteLedgerEntries o.payload.txnID (reservationTxnID o.payload.tokenID)
  deletePaymentIntent o.payload.txnID

/-! ## PUBLISH -/

/-- The payload of the settlement events. -/
def Order.settledJson (o : Order) (now : Time) : Json :=
  .obj [("txn_id", .str o.payload.txnID), ("sender", .str o.payload.senderID),
    ("receiver", .str o.payload.receiverID), ("amount", .int64 o.payload.amount),
    ("token_id", .str o.payload.tokenID), ("settled_at", .time now),
    ("relay_hops", .num o.hopCount)]

/-- `PUBLISH`: audit, outbox and payment event. The intent is read outside the transaction and the
payment event is skipped when that read fails. -/
def publish (o : Order) (input : Input) : DBTx Unit := do
  createAuditEvent o.payload.txnID "PaymentSettled"
    (.obj [("intent", o.payload.json), ("token_value", .int64 o.token.value),
      ("change_amount", .int64 o.changeAmount)])
  createOutboxEvent "payment.settled" "PaymentSettled" (o.settledJson input.now)
  let intentModel ← view fun db => getPaymentIntent db o.payload.txnID
  if input.readFault = none ∧ intentModel ≠ none then
    mapError (.wrap "failed to save versioned event: ")
      (createPaymentEvent o.payload.txnID "IntentSettled" 1 (o.settledJson input.now) input.now)
  else pure ()

/-- Compensation of `PUBLISH`; `payload LIKE` is not defined on the `JSONB` column. -/
def unpublish (o : Order) (_ : Input) : DBTx Unit := do
  write fun db => { db with auditEvents := db.auditEvents.filter (·.txnID != o.payload.txnID) }
  check False Pg.noOperator
  write fun db => { db with paymentEvents := db.paymentEvents.filter (·.txnID != o.payload.txnID) }

/-- The steps of the settlement saga. -/
def steps (o : Order) : List (Saga.SagaStep Input DB) :=
  [⟨"RESERVE", reserve o, some (unreserve o)⟩,
    ⟨"CONSUME_TOKEN", hold o, some (unhold o)⟩,
    ⟨"LEDGER_COMMIT", commitLedger o, some (undoLedger o)⟩,
    ⟨"PUBLISH", publish o, some (unpublish o)⟩]

end OfflinePay.Settlement
