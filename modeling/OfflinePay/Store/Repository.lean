import OfflinePay.Store.Database

/-!
# Repository

Reference: `internal/repository/repository.go`.

Functions that run inside a transaction are `DBTx` bodies. Each has an `_ok` lemma that says exactly
when it succeeds and what it leaves behind; the settlement steps are reasoned about through these
only. Functions that only read are plain functions of the database.
-/

namespace OfflinePay.Repository

open Tx

variable {db db' : DB} {u : Unit}

/-! ## Devices -/

/-- `CreateDevice`. -/
def createDevice (dev : Device) : DBTx Unit := do
  check (Pg.varchar 100 dev.deviceID && Pg.varchar 100 dev.ownerID) (Pg.valueTooLong 100)
  let taken ← view fun db => db.devices.find? dev.deviceID
  check (taken = none) (Pg.uniqueViolation "devices_pkey")
  write fun db => { db with devices := db.devices.insert dev }

theorem createDevice_ok {dev : Device} :
    createDevice dev db = .ok (u, db') ↔
      (Pg.varchar 100 dev.deviceID && Pg.varchar 100 dev.ownerID) = true ∧
        db.devices.find? dev.deviceID = none ∧
        db' = { db with devices := db.devices.insert dev } := by
  simp [createDevice, bind_ok, check_ok, view_ok, write_ok]

/-- `GetDevice`. -/
def getDevice (db : DB) (deviceID : String) : Option Device := db.devices.find? deviceID

/-- `UpdateDeviceStatus`: revoking stamps the time, any other status clears it. -/
def updateDeviceStatus (deviceID : String) (status : DeviceStatus) (now : Time) : DBTx Unit :=
  write fun db =>
    match db.devices.find? deviceID with
    | none => db
    | some dev =>
      let revokedAt := match status with
        | .revoked | .compromised => some now
        | .active => none
      { db with devices := db.devices.set { dev with status, revokedAt } }

/-- `GetDevicesByOwner`. -/
def getDevicesByOwner (db : DB) (ownerID : String) : List Device :=
  db.devices.rows.filter (·.ownerID == ownerID)

/-- `GetDeviceAttestation`. -/
def getDeviceAttestation (db : DB) (deviceID : String) : Option DeviceAttestation :=
  db.deviceAttestations.find? deviceID

/-- `CreateDeviceAttestation`: insert or replace. -/
def createDeviceAttestation (att : DeviceAttestation) : DBTx Unit := do
  check (Pg.varchar 100 att.deviceID && Pg.varchar 50 att.attestationType
    && Pg.varchar 50 att.trustLevel) (Pg.valueTooLong 50)
  let dev ← view fun db => db.devices.find? att.deviceID
  check (dev ≠ none)
    (Pg.missingReference "device_attestations" "device_attestations_device_id_fkey")
  write fun db => { db with deviceAttestations := (db.deviceAttestations.insert att).set att }

/-! ## Offline tokens -/

/-- `CreateToken`. -/
def createToken (tok : OfflineToken) : DBTx Unit := do
  check (Pg.varchar 100 tok.tokenID && Pg.varchar 100 tok.ownerID) (Pg.valueTooLong 100)
  let taken ← view fun db => db.offlineTokens.find? tok.tokenID
  check (taken = none) (Pg.uniqueViolation "offline_tokens_pkey")
  write fun db =>
    { db with
      offlineTokens := db.offlineTokens.insert { tok with expiry := tok.expiry.timestamptz } }

theorem createToken_ok {tok : OfflineToken} :
    createToken tok db = .ok (u, db') ↔
      (Pg.varchar 100 tok.tokenID && Pg.varchar 100 tok.ownerID) = true ∧
        db.offlineTokens.find? tok.tokenID = none ∧
        db' = { db with
          offlineTokens :=
            db.offlineTokens.insert { tok with expiry := tok.expiry.timestamptz } } := by
  simp [createToken, bind_ok, check_ok, view_ok, write_ok]

/-- `GetToken`, and `GetTokenForUpdate` inside a transaction. -/
def getToken (db : DB) (tokenID : String) : Option OfflineToken := db.offlineTokens.find? tokenID

/-- `GetTokenForUpdate`. -/
def getTokenForUpdate (tokenID : String) : DBTx OfflineToken :=
  select (fun db => getToken db tokenID) .errNoRows

theorem getTokenForUpdate_ok {tokenID : String} {tok : OfflineToken} :
    getTokenForUpdate tokenID db = .ok (tok, db') ↔
      db.offlineTokens.find? tokenID = some tok ∧ db = db' :=
  select_ok

/-- The four token updates: lock the row, check the transition, write the new row. -/
def updateToken (target : TokenStatus) (update : OfflineToken → OfflineToken) (tokenID : String) :
    DBTx Unit := do
  let tok ← select (fun db => db.offlineTokens.find? tokenID) .errNoRows
  check (isValidTokenTransition tok.status target)
    ⟨"invalid token status transition from " ++ tok.status.text ++ " to " ++ target.text, false⟩
  write fun db => { db with offlineTokens := db.offlineTokens.set (update tok) }

theorem updateToken_ok {target : TokenStatus} {update : OfflineToken → OfflineToken}
    {tokenID : String} :
    updateToken target update tokenID db = .ok (u, db') ↔
      ∃ tok, db.offlineTokens.find? tokenID = some tok ∧
        isValidTokenTransition tok.status target = true ∧
        db' = { db with offlineTokens := db.offlineTokens.set (update tok) } := by
  simp [updateToken, bind_ok, check_ok, select_ok, write_ok]

/-- `HoldToken`. -/
def holdToken (tokenID : String) : DBTx Unit :=
  updateToken .held (fun tok => { tok with status := .held }) tokenID

/-- `InvalidateToken`. -/
def invalidateToken (tokenID : String) (now : Time) : DBTx Unit :=
  updateToken .invalidated
    (fun tok => { tok with status := .invalidated, releasedAt := some now }) tokenID

/-- `ConsumeToken`. -/
def consumeToken (tokenID : String) (now : Time) : DBTx Unit :=
  updateToken .consumed
    (fun tok => { tok with consumed := true, consumedAt := some now, status := .consumed }) tokenID

/-- `ReleaseToken`. -/
def releaseToken (tokenID : String) (now : Time) : DBTx Unit :=
  updateToken .invalidated
    (fun tok => { tok with releasedAt := some now, status := .invalidated }) tokenID

/-- `GetExpiredTokens`: expired, not consumed and not released, whatever the status. -/
def getExpiredTokens (db : DB) (now : Time) : List OfflineToken :=
  db.offlineTokens.rows.filter fun tok =>
    tok.expiry < now && !tok.consumed && tok.releasedAt.isNone

/-! ## Payment intents -/

/-- `CreatePaymentIntent`. -/
def createPaymentIntent (intent : PaymentIntent) : DBTx Unit := do
  check intent.columnsFit intent.columnError
  let taken ← view fun db => db.paymentIntents.find? intent.txnID
  check (taken = none) (Pg.uniqueViolation "payment_intents_pkey")
  let dev ← view fun db => db.devices.find? intent.deviceID
  check (dev ≠ none) (Pg.missingReference "payment_intents" "payment_intents_device_id_fkey")
  let tok ← view fun db => db.offlineTokens.find? intent.tokenID
  check (tok ≠ none) (Pg.missingReference "payment_intents" "payment_intents_token_id_fkey")
  write fun db => { db with paymentIntents := db.paymentIntents.insert intent.stored }

theorem createPaymentIntent_ok {intent : PaymentIntent} :
    createPaymentIntent intent db = .ok (u, db') ↔
      intent.columnsFit = true ∧ db.paymentIntents.find? intent.txnID = none ∧
        db.devices.find? intent.deviceID ≠ none ∧ db.offlineTokens.find? intent.tokenID ≠ none ∧
        db' = { db with paymentIntents := db.paymentIntents.insert intent.stored } := by
  simp [createPaymentIntent, bind_ok, check_ok, view_ok, write_ok]

/-- `GetPaymentIntent`. -/
def getPaymentIntent (db : DB) (txnID : String) : Option PaymentIntent :=
  db.paymentIntents.find? txnID

/-- The row written by `UpdatePaymentIntentStatus`. -/
def withStatus (intent : PaymentIntent) (status : PaymentStatus) (reason : Option String)
    (now : Time) : PaymentIntent :=
  match status with
  | .settled => { intent with status := .settled, settledAt := some now, updatedAt := now }
  | .rejected =>
    { intent with
      status := .rejected, rejectedAt := some now, failureReason := reason, updatedAt := now }
  | .failed =>
    { intent with
      status := .failed, rejectedAt := some now, failureReason := reason, updatedAt := now }
  | status => { intent with status := status, updatedAt := now }

@[simp]
theorem withStatus_txnID (intent : PaymentIntent) (status : PaymentStatus) (reason : Option String)
    (now : Time) : (withStatus intent status reason now).txnID = intent.txnID := by
  cases status <;> rfl

@[simp]
theorem withStatus_status (intent : PaymentIntent) (status : PaymentStatus) (reason : Option String)
    (now : Time) : (withStatus intent status reason now).status = status := by
  cases status <;> rfl

/-- `UpdatePaymentIntentStatus`: unconditional, and no error when there is no such row. -/
def updatePaymentIntentStatus (txnID : String) (status : PaymentStatus) (reason : Option String)
    (now : Time) : DBTx Unit :=
  write fun db =>
    match db.paymentIntents.find? txnID with
    | none => db
    | some intent =>
      { db with paymentIntents := db.paymentIntents.set (withStatus intent status reason now) }

theorem updatePaymentIntentStatus_ok {txnID : String} {status : PaymentStatus}
    {reason : Option String} {now : Time} {intent : PaymentIntent}
    (h : db.paymentIntents.find? txnID = some intent) :
    updatePaymentIntentStatus txnID status reason now db = .ok (u, db') ↔
      db' = { db with
        paymentIntents := db.paymentIntents.set (withStatus intent status reason now) } := by
  rw [updatePaymentIntentStatus, write_ok, h]

/-- `DELETE FROM payment_intents WHERE txn_id = $1`. -/
def deletePaymentIntent (txnID : String) : DBTx Unit := do
  let error ← view fun db => db.referenceError txnID
  let blocked ← view fun db => (db.paymentIntents.find? txnID).isSome && db.referenced txnID
  check (blocked = false) error
  write fun db => { db with paymentIntents := db.paymentIntents.erase txnID }

theorem deletePaymentIntent_ok {txnID : String} :
    deletePaymentIntent txnID db = .ok (u, db') ↔
      (db.paymentIntents.find? txnID ≠ none → db.referenced txnID = false) ∧
        db' = { db with paymentIntents := db.paymentIntents.erase txnID } := by
  simp [deletePaymentIntent, bind_ok, check_ok, view_ok, write_ok, Option.isSome_iff_ne_none]

/-- The statuses `GetStuckPaymentIntents` looks for. -/
def stuckStatus : PaymentStatus → Bool
  | .created | .signed | .encrypted | .broadcast | .relayed | .validated | .reserved => true
  | _ => false

/-- `GetStuckPaymentIntents`. -/
def getStuckPaymentIntents (db : DB) (cutoff : Time) : List PaymentIntent :=
  db.paymentIntents.rows.filter fun i => stuckStatus i.status && i.updatedAt < cutoff

/-! ## Nonce registry -/

/-- `RegisterNonce`. -/
def registerNonce (nonce txnID : String) (expiry : Time) : DBTx Unit := do
  check (Pg.varchar 100 nonce && Pg.varchar 100 txnID) (Pg.valueTooLong 100)
  let taken ← view fun db => db.nonceRegistry.find? nonce
  check (taken = none) (Pg.uniqueViolation "nonce_registry_pkey")
  let intent ← view fun db => db.paymentIntents.find? txnID
  check (intent ≠ none) (Pg.missingReference "nonce_registry" "nonce_registry_txn_id_fkey")
  write fun db =>
    { db with nonceRegistry := db.nonceRegistry.insert ⟨nonce, txnID, expiry.timestamptz⟩ }

theorem registerNonce_ok {nonce txnID : String} {expiry : Time} :
    registerNonce nonce txnID expiry db = .ok (u, db') ↔
      (Pg.varchar 100 nonce && Pg.varchar 100 txnID) = true ∧
        db.nonceRegistry.find? nonce = none ∧ db.paymentIntents.find? txnID ≠ none ∧
        db' = { db with
          nonceRegistry := db.nonceRegistry.insert ⟨nonce, txnID, expiry.timestamptz⟩ } := by
  simp [registerNonce, bind_ok, check_ok, view_ok, write_ok]

/-- `DELETE FROM nonce_registry WHERE nonce = $1`. -/
def deleteNonce (nonce : String) : DBTx Unit :=
  write fun db => { db with nonceRegistry := db.nonceRegistry.erase nonce }

theorem deleteNonce_ok {nonce : String} :
    deleteNonce nonce db = .ok (u, db') ↔
      db' = { db with nonceRegistry := db.nonceRegistry.erase nonce } :=
  write_ok

/-! ## Account balances and ledger -/

/-- `CreateAccount`: `ON CONFLICT DO NOTHING`. -/
def createAccount (accountID : String) (initialBalance : Int64) (now : Time) : DBTx Unit :=
  fun db =>
  if !Pg.varchar 100 accountID then .error (Pg.valueTooLong 100)
  else if h : 0 ≤ initialBalance then
    .ok ((), { db with
      accountBalances :=
        db.accountBalances.insert ⟨accountID, initialBalance, 0, now, h, Int64.le_refl 0⟩ })
  else .error (Pg.checkViolation "account_balances" "account_balances_available_balance_check")

theorem createAccount_ok {accountID : String} {initialBalance : Int64} {now : Time} :
    createAccount accountID initialBalance now db = .ok (u, db') ↔
      Pg.varchar 100 accountID = true ∧ ∃ h : 0 ≤ initialBalance, db' = { db with
        accountBalances :=
          db.accountBalances.insert ⟨accountID, initialBalance, 0, now, h, Int64.le_refl 0⟩ } := by
  unfold createAccount
  by_cases hc : Pg.varchar 100 accountID = true
  · by_cases h : 0 ≤ initialBalance
    · simp [hc, h, eq_comm]
    · simp [hc, h]
  · simp [hc]

/-- `GetBalanceForUpdate`. -/
def getBalanceForUpdate (accountID : String) : DBTx AccountBalance :=
  select (fun db => db.accountBalances.find? accountID) .errNoRows

theorem getBalanceForUpdate_ok {accountID : String} {bal : AccountBalance} :
    getBalanceForUpdate accountID db = .ok (bal, db') ↔
      db.accountBalances.find? accountID = some bal ∧ db = db' :=
  select_ok

/-- `UpdateBalance`: absolute values, checked by the two `CHECK` clauses. -/
def updateBalance (accountID : String) (available reserved : Int64) (now : Time) : DBTx Unit :=
  fun db =>
    match db.accountBalances.find? accountID with
    | none => .ok ((), db)
    | some _ =>
      if h₁ : 0 ≤ available then
        if h₂ : 0 ≤ reserved then
          .ok ((), { db with
            accountBalances :=
              db.accountBalances.set ⟨accountID, available, reserved, now, h₁, h₂⟩ })
        else .error (Pg.checkViolation "account_balances" "account_balances_reserved_balance_check")
      else .error (Pg.checkViolation "account_balances" "account_balances_available_balance_check")

theorem updateBalance_ok {accountID : String} {available reserved : Int64} {now : Time}
    (hrow : db.accountBalances.find? accountID ≠ none) :
    updateBalance accountID available reserved now db = .ok (u, db') ↔
      ∃ (h₁ : 0 ≤ available) (h₂ : 0 ≤ reserved), db' = { db with
        accountBalances :=
          db.accountBalances.set ⟨accountID, available, reserved, now, h₁, h₂⟩ } := by
  obtain ⟨row, hrow⟩ := Option.ne_none_iff_exists'.mp hrow
  unfold updateBalance
  rw [hrow]
  by_cases h₁ : 0 ≤ available
  · by_cases h₂ : 0 ≤ reserved
    · simp [h₁, h₂, eq_comm]
    · simp [h₁, h₂]
  · simp [h₁]

/-- `CreateLedgerEntry`. -/
def createLedgerEntry (txnID accountID : String) (direction : Direction) (amount : Int64)
    (entryType : EntryType) (balanceAfter : Int64) : DBTx Unit := fun db =>
  if !(Pg.varchar 100 txnID && Pg.varchar 100 accountID) then .error (Pg.valueTooLong 100)
  else if h : 0 < amount then
    if db.paymentIntents.find? txnID = none then
      .error (Pg.missingReference "ledger_entries" "ledger_entries_txn_id_fkey")
    else if db.accountBalances.find? accountID = none then
      .error (Pg.missingReference "ledger_entries" "ledger_entries_account_id_fkey")
    else
      .ok ((), { db with
        ledgerEntries := db.ledgerEntries
          ++ [⟨db.nextEntryID, txnID, accountID, direction, amount, entryType, balanceAfter, h⟩]
        nextEntryID := db.nextEntryID + 1 })
  else .error (Pg.checkViolation "ledger_entries" "ledger_entries_amount_check")

theorem createLedgerEntry_ok {txnID accountID : String} {direction : Direction} {amount : Int64}
    {entryType : EntryType} {balanceAfter : Int64} :
    createLedgerEntry txnID accountID direction amount entryType balanceAfter db = .ok (u, db') ↔
      (Pg.varchar 100 txnID && Pg.varchar 100 accountID) = true ∧
        db.paymentIntents.find? txnID ≠ none ∧ db.accountBalances.find? accountID ≠ none ∧
        ∃ h : 0 < amount, db' = { db with
          ledgerEntries := db.ledgerEntries
            ++ [⟨db.nextEntryID, txnID, accountID, direction, amount, entryType, balanceAfter, h⟩]
          nextEntryID := db.nextEntryID + 1 } := by
  unfold createLedgerEntry
  by_cases hc : (Pg.varchar 100 txnID && Pg.varchar 100 accountID) = true
  · by_cases h : 0 < amount
    · by_cases hi : db.paymentIntents.find? txnID = none
      · simp [hc, h, hi]
      · by_cases ha : db.accountBalances.find? accountID = none
        · simp [hc, h, hi, ha]
        · simp [hc, h, hi, ha, eq_comm]
    · simp [hc, h]
  · simp [hc]

/-- `DELETE FROM ledger_entries WHERE txn_id = $1 OR (txn_id = $2 AND entry_type = 'RELEASE')`. -/
def deleteLedgerEntries (txnID reservationID : String) : DBTx Unit :=
  write fun db =>
    { db with
      ledgerEntries := db.ledgerEntries.filter fun e =>
        !(e.txnID == txnID || (e.txnID == reservationID && e.entryType == .release)) }

/-! ## Events -/

/-- `CreateAuditEvent`. -/
def createAuditEvent (txnID eventType : String) (payload : Json) : DBTx Unit := do
  check (Pg.varchar 100 txnID) (Pg.valueTooLong 100)
  write fun db => { db with auditEvents := db.auditEvents ++ [⟨txnID, eventType, payload⟩] }

theorem createAuditEvent_ok {txnID eventType : String} {payload : Json} :
    createAuditEvent txnID eventType payload db = .ok (u, db') ↔
      Pg.varchar 100 txnID = true ∧
        db' = { db with auditEvents := db.auditEvents ++ [⟨txnID, eventType, payload⟩] } := by
  simp [createAuditEvent, bind_ok, check_ok, write_ok]

/-- `CreateOutboxEvent`. -/
def createOutboxEvent (streamName eventType : String) (payload : Json) : DBTx Unit :=
  write fun db =>
    { db with
      outboxEvents := db.outboxEvents
        ++ [⟨db.nextOutboxID, streamName, eventType, payload, false, .pending, 0⟩]
      nextOutboxID := db.nextOutboxID + 1 }

theorem createOutboxEvent_ok {streamName eventType : String} {payload : Json} :
    createOutboxEvent streamName eventType payload db = .ok (u, db') ↔
      db' = { db with
        outboxEvents := db.outboxEvents
          ++ [⟨db.nextOutboxID, streamName, eventType, payload, false, .pending, 0⟩]
        nextOutboxID := db.nextOutboxID + 1 } :=
  write_ok

/-- `CreatePaymentEvent`. -/
def createPaymentEvent (txnID eventType : String) (eventVersion : ℕ) (payload : Json) (now : Time) :
    DBTx Unit := do
  check (Pg.varchar 100 txnID) (Pg.valueTooLong 100)
  let intent ← view fun db => db.paymentIntents.find? txnID
  check (intent ≠ none) (Pg.missingReference "payment_events" "payment_events_txn_id_fkey")
  write fun db =>
    { db with paymentEvents := db.paymentEvents ++ [⟨txnID, eventType, eventVersion, payload, now⟩] }

theorem createPaymentEvent_ok {txnID eventType : String} {eventVersion : ℕ} {payload : Json}
    {now : Time} :
    createPaymentEvent txnID eventType eventVersion payload now db = .ok (u, db') ↔
      Pg.varchar 100 txnID = true ∧ db.paymentIntents.find? txnID ≠ none ∧
        db' = { db with
          paymentEvents :=
            db.paymentEvents ++ [⟨txnID, eventType, eventVersion, payload, now⟩] } := by
  simp [createPaymentEvent, bind_ok, check_ok, view_ok, write_ok]

/-- `CreateSagaState`. Nothing reads the tracking rows back, so only the column check is kept. -/
def createSagaState (txnID : String) : DBTx Unit :=
  check (Pg.varchar 100 txnID) (Pg.valueTooLong 100)

end OfflinePay.Repository
