import OfflinePay.Store.Repository

/-!
# Financial validator

Reference: `internal/validator/validator.go`, and `CheckLedgerInconsistencies` and
`AuditAccountBalances` of `internal/repository/repository.go`.

`RunAudit` compares the ledger with itself and with the balances. `runAudit_eq_one` says in terms of
the tables when it is satisfied.
-/

namespace OfflinePay

/-- What an entry takes from its account: debits count up, credits count down. -/
def LedgerEntry.debited (e : LedgerEntry) : ℤ :=
  match e.direction with
  | .debit => e.amount.toInt
  | .credit => -e.amount.toInt

/-- The token still stands for reserved money. -/
def OfflineToken.outstanding (tok : OfflineToken) : Bool :=
  tok.status == .issued || tok.status == .held

namespace DB

/-- The debits minus the credits of a transaction id. -/
def imbalance (db : DB) (txnID : String) : ℤ :=
  ((db.ledgerEntries.filter (·.txnID == txnID)).map LedgerEntry.debited).sum

/-- The value of the owner's tokens that are issued or on hold. -/
def outstanding (db : DB) (ownerID : String) : ℤ :=
  db.offlineTokens.sum fun tok =>
    if tok.ownerID = ownerID ∧ tok.outstanding = true then tok.value.toInt else 0

/-- The newest ledger entry of an account. -/
def newestEntry (db : DB) (accountID : String) : Option LedgerEntry :=
  (db.ledgerEntries.filter (·.accountID == accountID)).argmax LedgerEntry.entryID

end DB

namespace Validator

/-- `Scan` of a `NUMERIC` column into an `int64`. -/
def scanInt64 (index : ℕ) (column : String) (n : ℤ) : Except GoError Int64 :=
  if Int64.minValue.toInt ≤ n ∧ n ≤ Int64.maxValue.toInt then .ok (.ofInt n)
  else .error ⟨"sql: Scan error on column index " ++ toString index ++ ", name \"" ++ column
    ++ "\": converting driver.Value type []uint8 (\"" ++ toString n
    ++ "\") to a int64: value out of range", false⟩

theorem scanInt64_toInt (index : ℕ) (column : String) (n : Int64) :
    scanInt64 index column n.toInt = .ok n := by
  rw [scanInt64, if_pos ⟨n.minValue_le_toInt, n.toInt_le⟩, Int64.ofInt_toInt]

/-- `CheckLedgerInconsistencies`: the transaction ids whose entries do not cancel out. -/
def checkLedgerInconsistencies (db : DB) : Except GoError (List (String × Int64)) :=
  ((db.ledgerEntries.map LedgerEntry.txnID).dedup.filter (db.imbalance · ≠ 0)).mapM fun txnID => do
    let imbalance ← scanInt64 1 "imbalance" (db.imbalance txnID)
    pure (txnID, imbalance)

/-- `BalanceDiscrepancy`. -/
structure BalanceDiscrepancy where
  accountID : String
  expectedAvailable : Int64
  actualAvailable : Int64
  expectedReserved : Int64
  actualReserved : Int64
  discrepancyAmount : Int64
deriving DecidableEq

/-- The balance that the newest ledger entry of the account recorded; the actual one without any. -/
def expectedAvailable (db : DB) (row : AccountBalance) : Int64 :=
  match db.newestEntry row.accountID with
  | some e => e.balanceAfter
  | none => row.availableBalance

/-- The body of the loop of `AuditAccountBalances`. -/
def auditAccount (db : DB) (discrepancies : List BalanceDiscrepancy) (row : AccountBalance) :
    Except GoError (List BalanceDiscrepancy) := do
  let expectedAvailable := expectedAvailable db row
  let expectedReserved ← scanInt64 0 "coalesce" (db.outstanding row.accountID)
  if expectedAvailable ≠ row.availableBalance ∨ expectedReserved ≠ row.reservedBalance then
    let diff := (row.availableBalance + row.reservedBalance) - (expectedAvailable + expectedReserved)
    pure (discrepancies ++ [⟨row.accountID, expectedAvailable, row.availableBalance, expectedReserved,
      row.reservedBalance, diff⟩])
  else pure discrepancies

/-- `AuditAccountBalances`. -/
def auditAccountBalances (db : DB) : Except GoError (List BalanceDiscrepancy) :=
  db.accountBalances.rows.foldlM (auditAccount db) []

/-- `RunAudit`: what it sets `LedgerValidationStatus` to; nothing if a query fails. -/
def runAudit (db : DB) : Option ℕ :=
  match checkLedgerInconsistencies db with
  | .error _ => none
  | .ok imbalances =>
    match auditAccountBalances db with
    | .error _ => none
    | .ok discrepancies =>
      some (if imbalances.isEmpty && discrepancies.isEmpty then 1 else 0)

/-! ## When the audit is satisfied -/

theorem checkLedgerInconsistencies_nil {db : DB} :
    checkLedgerInconsistencies db = .ok [] ↔ ∀ txnID, db.imbalance txnID = 0 := by
  have hmapM : ∀ (l : List String) (f : String → Except GoError (String × Int64)),
      l.mapM f = .ok [] ↔ l = [] := by
    intro l f
    cases l with
    | nil => simp [pure, Except.pure]
    | cons x xs =>
      simp only [List.mapM_cons, reduceCtorEq, iff_false]
      intro h
      cases hx : f x with
      | error e => simp [hx, bind, Except.bind] at h
      | ok y =>
        cases hxs : xs.mapM f with
        | error e => simp [hx, hxs, bind, Except.bind] at h
        | ok ys => simp [hx, hxs, bind, Except.bind, pure, Except.pure] at h
  rw [checkLedgerInconsistencies, hmapM, List.filter_eq_nil_iff]
  constructor
  · intro h txnID
    by_cases hmem : txnID ∈ db.ledgerEntries.map LedgerEntry.txnID
    · simpa using h txnID (List.mem_dedup.mpr hmem)
    · -- without entries there is nothing to sum
      have hnone : db.ledgerEntries.filter (·.txnID == txnID) = [] := by
        rw [List.filter_eq_nil_iff]
        intro e he heq
        exact hmem (List.mem_map.mpr ⟨e, he, by simpa using heq⟩)
      simp [DB.imbalance, hnone]
  · intro h txnID _
    simp [h txnID]

/-- The books of an account agree with its balances. -/
def Agrees (db : DB) (row : AccountBalance) : Prop :=
  expectedAvailable db row = row.availableBalance ∧
    db.outstanding row.accountID = row.reservedBalance.toInt

theorem auditAccount_nil {db : DB} {ds : List BalanceDiscrepancy} {row : AccountBalance} :
    auditAccount db ds row = .ok [] ↔ ds = [] ∧ Agrees db row := by
  unfold auditAccount Agrees
  constructor
  · intro h
    cases hscan : scanInt64 0 "coalesce" (db.outstanding row.accountID) with
    | error e => simp [hscan, bind, Except.bind] at h
    | ok reserved =>
      simp only [hscan, bind, Except.bind, pure, Except.pure] at h
      split at h
      · simp at h
      · next hagree =>
        simp only [not_or, not_not] at hagree
        refine ⟨Except.ok.inj h, hagree.1, ?_⟩
        unfold scanInt64 at hscan
        split at hscan
        · next hrange =>
          obtain rfl := Except.ok.inj hscan
          rw [← hagree.2, Int64.toInt_ofInt_of_le hrange.1 (lt_of_le_of_lt hrange.2 (by decide))]
        · exact absurd hscan (by simp)
  · rintro ⟨rfl, hav, hre⟩
    simp [hre, scanInt64_toInt, hav, bind, Except.bind, pure, Except.pure]

theorem auditAccountBalances_nil {db : DB} :
    auditAccountBalances db = .ok [] ↔ ∀ row ∈ db.accountBalances.rows, Agrees db row := by
  have hfold : ∀ (rows : List AccountBalance) (ds : List BalanceDiscrepancy),
      rows.foldlM (auditAccount db) ds = .ok [] ↔ ds = [] ∧ ∀ row ∈ rows, Agrees db row := by
    intro rows
    induction rows with
    | nil => simp [pure, Except.pure]
    | cons row rows ih =>
      intro ds
      rw [List.foldlM_cons, List.forall_mem_cons, ← and_assoc, ← auditAccount_nil]
      cases h : auditAccount db ds row with
      | error e => simp [bind, Except.bind]
      | ok ds' => simp [bind, Except.bind, ih]
  rw [auditAccountBalances, hfold]
  simp

/-- The audit reports a healthy ledger exactly if every transaction is balanced and every account
agrees with its books. -/
theorem runAudit_eq_one {db : DB} : runAudit db = some 1 ↔
    (∀ txnID, db.imbalance txnID = 0) ∧ ∀ row ∈ db.accountBalances.rows, Agrees db row := by
  rw [← checkLedgerInconsistencies_nil, ← auditAccountBalances_nil, runAudit]
  cases checkLedgerInconsistencies db with
  | error e => simp
  | ok imbalances =>
    cases auditAccountBalances db with
    | error e => simp
    | ok discrepancies =>
      cases imbalances <;> cases discrepancies <;> simp

end Validator

end OfflinePay
