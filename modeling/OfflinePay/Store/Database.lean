import OfflinePay.Common.Tx
import OfflinePay.Recovery.Policy

/-!
# The database

Reference: `internal/db/migrations/*.sql`.

`DB` has one field per table that the settlement path reads or writes. A keyed table is a `Table`,
so its primary key holds by construction; row `CHECK`s are fields of the row types. Foreign keys and
column sizes are checked by the statements below, with the error text PostgreSQL gives through
`lib/pq`. A statement that fails aborts its whole transaction, also where the source ignores the
error it got back, because the commit of an aborted transaction fails.

A string longer than its `VARCHAR` column, or with a NUL in it, is refused.
-/

namespace OfflinePay

open Recovery (FailureCategory Action State Float64)

/-- Row of `failure_events`. -/
structure FailureRow where
  failureID : String
  txnID : String
  category : FailureCategory
  code : String
  message : String
  confidence : Float64
  classifierSource : String
  occurredAt : Time
deriving DecidableEq

/-- Row of `recovery_operations`. -/
structure RecoveryOperation where
  recoveryID : String
  txnID : String
  idempotencyKey : String
  action : Action
  state : State
  attemptCount : ℕ
  nextAttemptAt : Option Time
deriving DecidableEq

/-- The tables. `nextEntryID` and `nextOutboxID` are the `BIGSERIAL` counters. -/
structure DB where
  devices : Table Device.deviceID
  deviceAttestations : Table DeviceAttestation.deviceID
  offlineTokens : Table OfflineToken.tokenID
  paymentIntents : Table PaymentIntent.txnID
  nonceRegistry : Table NonceRegistry.nonce
  accountBalances : Table AccountBalance.accountID
  ledgerEntries : List LedgerEntry
  nextEntryID : ℕ
  auditEvents : List AuditEvent
  outboxEvents : List OutboxEvent
  nextOutboxID : ℕ
  paymentEvents : List PaymentEvent
  failureEvents : Table FailureRow.failureID
  recoveryOperations : Table RecoveryOperation.recoveryID

/-- A freshly migrated database. -/
def DB.empty : DB where
  devices := .empty
  deviceAttestations := .empty
  offlineTokens := .empty
  paymentIntents := .empty
  nonceRegistry := .empty
  accountBalances := .empty
  ledgerEntries := []
  nextEntryID := 1
  auditEvents := []
  outboxEvents := []
  nextOutboxID := 1
  paymentEvents := []
  failureEvents := .empty
  recoveryOperations := .empty

/-- The body of a database transaction. -/
abbrev DBTx (α : Type) : Type := Tx DB GoError α

/-! ## Errors of the server -/

namespace Pg

def uniqueViolation (constraint : String) : GoError :=
  ⟨"pq: duplicate key value violates unique constraint \"" ++ constraint ++ "\"", false⟩

def missingReference (table constraint : String) : GoError :=
  ⟨"pq: insert or update on table \"" ++ table ++ "\" violates foreign key constraint \""
    ++ constraint ++ "\"", false⟩

def stillReferenced (table constraint referencing : String) : GoError :=
  ⟨"pq: update or delete on table \"" ++ table ++ "\" violates foreign key constraint \""
    ++ constraint ++ "\" on table \"" ++ referencing ++ "\"", false⟩

def checkViolation (table constraint : String) : GoError :=
  ⟨"pq: new row for relation \"" ++ table ++ "\" violates check constraint \"" ++ constraint ++ "\"",
    false⟩

def valueTooLong (n : ℕ) : GoError :=
  ⟨"pq: value too long for type character varying(" ++ toString n ++ ")", false⟩

def outOfRange (n : ℤ) : GoError :=
  ⟨"pq: value \"" ++ toString n ++ "\" is out of range for type integer", false⟩

def noOperator : GoError := ⟨"pq: operator does not exist: jsonb ~~ unknown", false⟩

/-- Does the string fit a `VARCHAR(n)` column? -/
def varchar (n : ℕ) (s : String) : Bool := s.length ≤ n && !s.toList.contains (Char.ofNat 0)

/-- Does the number fit an `INT` column? -/
def int4 (n : ℤ) : Bool := -2147483648 ≤ n && n ≤ 2147483647

end Pg

/-! ## Column and reference checks -/

/-- The columns of a `payment_intents` row fit their types. -/
def PaymentIntent.columnsFit (i : PaymentIntent) : Bool :=
  Pg.varchar 100 i.txnID && Pg.varchar 100 i.senderID && Pg.varchar 100 i.receiverID
    && Pg.varchar 10 i.currency && Pg.varchar 100 i.nonce && Pg.varchar 100 i.deviceID
    && Pg.varchar 100 i.tokenID && Pg.varchar 100 i.signatureHash && Pg.int4 i.relayHops

/-- The error for a row whose columns do not fit. -/
def PaymentIntent.columnError (i : PaymentIntent) : GoError :=
  if !Pg.int4 i.relayHops then Pg.outOfRange i.relayHops
  else if !Pg.varchar 10 i.currency then Pg.valueTooLong 10
  else Pg.valueTooLong 100

/-- What the server keeps of an intent: its timestamps at microsecond resolution. -/
def PaymentIntent.stored (i : PaymentIntent) : PaymentIntent :=
  { i with
    expiry := i.expiry.timestamptz
    createdAt := i.createdAt.timestamptz
    updatedAt := i.updatedAt.timestamptz }

namespace DB

/-- Some row of another table references this payment intent. -/
def referenced (db : DB) (txnID : String) : Bool :=
  db.nonceRegistry.rows.any (·.txnID == txnID) || db.ledgerEntries.any (·.txnID == txnID)
    || db.paymentEvents.any (·.txnID == txnID) || db.failureEvents.rows.any (·.txnID == txnID)
    || db.recoveryOperations.rows.any (·.txnID == txnID)

/-- The foreign key that a delete of this payment intent runs into, in the order of the schema. -/
def referenceError (db : DB) (txnID : String) : GoError :=
  let error := fun constraint referencing => Pg.stillReferenced "payment_intents" constraint referencing
  if db.nonceRegistry.rows.any (·.txnID == txnID) then
    error "nonce_registry_txn_id_fkey" "nonce_registry"
  else if db.ledgerEntries.any (·.txnID == txnID) then
    error "ledger_entries_txn_id_fkey" "ledger_entries"
  else if db.paymentEvents.any (·.txnID == txnID) then
    error "payment_events_txn_id_fkey" "payment_events"
  else if db.failureEvents.rows.any (·.txnID == txnID) then
    error "failure_events_txn_id_fkey" "failure_events"
  else error "recovery_operations_txn_id_fkey" "recovery_operations"

/-! ## Balances as integers -/

/-- The available balance of an account, zero for an account that does not exist. -/
def available (db : DB) (accountID : String) : ℤ :=
  match db.accountBalances.find? accountID with
  | some row => row.availableBalance.toInt
  | none => 0

/-- The reserved balance of an account, zero for an account that does not exist. -/
def reserved (db : DB) (accountID : String) : ℤ :=
  match db.accountBalances.find? accountID with
  | some row => row.reservedBalance.toInt
  | none => 0

/-- All the money in the bank. -/
def totalMoney (db : DB) : ℤ :=
  db.accountBalances.sum fun row => row.availableBalance.toInt + row.reservedBalance.toInt

theorem available_of_find? {db : DB} {row : AccountBalance} {accountID : String}
    (h : db.accountBalances.find? accountID = some row) :
    db.available accountID = row.availableBalance.toInt := by
  rw [available, h]

theorem reserved_of_find? {db : DB} {row : AccountBalance} {accountID : String}
    (h : db.accountBalances.find? accountID = some row) :
    db.reserved accountID = row.reservedBalance.toInt := by
  rw [reserved, h]

/-- `db'` has the accounts of `db`, with the balances changed by the given amounts, and the total
changed by `total`. -/
structure Shift (db db' : DB) (dAvailable dReserved : String → ℤ) (total : ℤ) : Prop where
  accounts : ∀ accountID, db'.accountBalances.find? accountID = none ↔
    db.accountBalances.find? accountID = none
  available : ∀ accountID, db'.available accountID = db.available accountID + dAvailable accountID
  reserved : ∀ accountID, db'.reserved accountID = db.reserved accountID + dReserved accountID
  totalMoney : db'.totalMoney = db.totalMoney + total

/-- Overwriting one account row shifts that account only. -/
theorem shift_set {db : DB} {row : AccountBalance} (db' : DB) (row' : AccountBalance)
    (h : db.accountBalances.find? row'.accountID = some row)
    (h' : db'.accountBalances = db.accountBalances.set row') :
    db.Shift db'
      (Pi.single row'.accountID (row'.availableBalance.toInt - row.availableBalance.toInt))
      (Pi.single row'.accountID (row'.reservedBalance.toInt - row.reservedBalance.toInt))
      (row'.availableBalance.toInt - row.availableBalance.toInt
        + (row'.reservedBalance.toInt - row.reservedBalance.toInt)) where
  accounts accountID := by
    rw [h', Table.find?_set]
    split <;> simp
  available accountID := by
    by_cases ha : accountID = row'.accountID
    · subst ha
      have hrow' : db'.accountBalances.find? row'.accountID = some row' := by
        rw [h', Table.find?_set_self h]
      rw [available_of_find? h, available_of_find? hrow', Pi.single_eq_same]
      ring
    · rw [Pi.single_eq_of_ne ha, available, available, h', Table.find?_set_ne _ (Ne.symm ha)]
      ring
  reserved accountID := by
    by_cases ha : accountID = row'.accountID
    · subst ha
      have hrow' : db'.accountBalances.find? row'.accountID = some row' := by
        rw [h', Table.find?_set_self h]
      rw [reserved_of_find? h, reserved_of_find? hrow', Pi.single_eq_same]
      ring
    · rw [Pi.single_eq_of_ne ha, reserved, reserved, h', Table.find?_set_ne _ (Ne.symm ha)]
      ring
  totalMoney := by
    rw [DB.totalMoney, h', Table.sum_set h, DB.totalMoney]
    ring

theorem Shift.trans {a b c : DB} {f f' g g' : String → ℤ} {m m' : ℤ} (hab : a.Shift b f g m)
    (hbc : b.Shift c f' g' m') : a.Shift c (f + f') (g + g') (m + m') where
  accounts accountID := (hbc.accounts accountID).trans (hab.accounts accountID)
  available accountID := by
    rw [hbc.available, hab.available, Pi.add_apply]
    ring
  reserved accountID := by
    rw [hbc.reserved, hab.reserved, Pi.add_apply]
    ring
  totalMoney := by
    rw [hbc.totalMoney, hab.totalMoney]
    ring

/-- Only the account rows matter to a shift. -/
theorem Shift.congr {a b c : DB} {f g : String → ℤ} {m : ℤ} (hab : a.Shift b f g m)
    (h : c.accountBalances = b.accountBalances) : a.Shift c f g m where
  accounts accountID := by rw [h, hab.accounts]
  available accountID := by rw [← hab.available, DB.available, h, DB.available]
  reserved accountID := by rw [← hab.reserved, DB.reserved, h, DB.reserved]
  totalMoney := by rw [← hab.totalMoney, DB.totalMoney, h, DB.totalMoney]

end DB

end OfflinePay
