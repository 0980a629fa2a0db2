import OfflinePay.Settlement.Effects
import OfflinePay.System.World

/-!
# Exact money

Reference: `internal/token/service.go`, `IssueToken` and `ReleaseExpiredTokens`;
`internal/settlement/service.go`, `LEDGER_COMMIT`; the `CHECK` clauses of
`internal/db/migrations/000001_init.up.sql`.

The program computes with `int64` and looks for no overflow. What a transaction computes and writes
is a `Sheet`, over any type of numbers: over `Int64` it is what the program has, over `ℤ` what it
should have. A transaction that commits has written the sheet over `Int64`, and the checks that it
has passed on the way make this the sheet over `ℤ` (`money_exact`). The amounts of ledger entries
are positive, so no difference wraps; a sum that wraps is negative, and no balance is.
-/

namespace OfflinePay

open Settlement

/-! ## What is computed -/

/-- The change, the balances that are written in turn, available and reserved, and the ledger
entries, each with its amount and the balance after it. -/
structure Sheet (α : Type) where
  change : Option α := none
  balances : List (String × α × α)
  entries : List (String × α × α)
deriving DecidableEq

namespace Sheet

variable {α β : Type}

def map (f : α → β) (s : Sheet α) : Sheet β where
  change := s.change.map f
  balances := s.balances.map fun (accountID, available, reserved) =>
    (accountID, f available, f reserved)
  entries := s.entries.map fun (accountID, amount, balanceAfter) =>
    (accountID, f amount, f balanceAfter)

variable [Add α] [Sub α]

/-- `IssueToken`. -/
def issueToken (ownerID : String) (available reserved value : α) : Sheet α where
  balances := [(ownerID, available - value, reserved + value)]
  entries := [(ownerID, value, available - value)]

/-- `LEDGER_COMMIT`. The balance of the receiver that is read is the one before the sender's is
written, also if they are the same. -/
def ledgerCommit (senderID receiverID : String)
    (senderAvailable senderReserved receiverAvailable receiverReserved value amount : α) : Sheet α :=
  let changeAmount := value - amount
  let newSenderAvailable := senderAvailable + changeAmount
  let newReceiverAvailable := receiverAvailable + amount
  { change := some changeAmount
    balances := [(senderID, newSenderAvailable, senderReserved - value),
      (receiverID, newReceiverAvailable, receiverReserved)]
    entries := [(senderID, amount, newSenderAvailable), (receiverID, amount, newReceiverAvailable),
      (senderID, value, newSenderAvailable)] }

/-- `ReleaseExpiredTokens`, for one token. -/
def releaseExpired (ownerID : String) (available reserved value : α) : Sheet α where
  balances := [(ownerID, available + value, reserved - value)]
  entries := [(ownerID, value, available + value)]

end Sheet

/-- The transaction has written the balances and the entries of the sheet. -/
structure DB.Wrote (db db' : DB) (s : Sheet Int64) : Prop where
  balances : ∃ rows : List AccountBalance,
    rows.map (fun row => (row.accountID, row.availableBalance, row.reservedBalance)) = s.balances ∧
      db'.accountBalances = rows.foldl Table.set db.accountBalances
  entries : ∃ rows : List LedgerEntry,
    rows.map (fun row => (row.accountID, row.amount, row.balanceAfter)) = s.entries ∧
      db'.ledgerEntries = db.ledgerEntries ++ rows

/-! ## The transactions -/

namespace AccountBalance

variable (bal : AccountBalance)

/-- The sheet of `IssueToken` for a token of the owner of this balance. -/
def issueSheet (value : Int64) : Sheet Int64 :=
  .issueToken bal.accountID bal.availableBalance bal.reservedBalance value

/-- The same over the integers. -/
def exactIssueSheet (value : Int64) : Sheet ℤ :=
  .issueToken bal.accountID bal.availableBalance.toInt bal.reservedBalance.toInt value.toInt

/-- The sheet of `ReleaseExpiredTokens` for a token of the owner of this balance. -/
def releaseSheet (value : Int64) : Sheet Int64 :=
  .releaseExpired bal.accountID bal.availableBalance bal.reservedBalance value

/-- The same over the integers. -/
def exactReleaseSheet (value : Int64) : Sheet ℤ :=
  .releaseExpired bal.accountID bal.availableBalance.toInt bal.reservedBalance.toInt value.toInt

end AccountBalance

namespace Settlement.Order

variable (o : Order)

/-- The sheet of `LEDGER_COMMIT` for the balances of the sender and the receiver. -/
def commitSheet (s r : AccountBalance) : Sheet Int64 :=
  .ledgerCommit o.payload.senderID o.payload.receiverID s.availableBalance s.reservedBalance
    r.availableBalance r.reservedBalance o.token.value o.payload.amount

/-- The same over the integers. -/
def exactCommitSheet (s r : AccountBalance) : Sheet ℤ :=
  .ledgerCommit o.payload.senderID o.payload.receiverID s.availableBalance.toInt
    s.reservedBalance.toInt r.availableBalance.toInt r.reservedBalance.toInt o.token.value.toInt
    o.payload.amount.toInt

end Settlement.Order

section Exact

variable {E : Externals} {db db' : DB}

theorem issue_exact {ownerID : String} {value duration : Int64} {tokenID : String}
    {faults : Token.IssueFaults} {now : Time} {tok : OfflineToken}
    (h : Token.issueToken E ownerID value duration tokenID faults now db = (.ok tok, db')) :
    ∃ bal, db.accountBalances.find? ownerID = some bal ∧ db.Wrote db' (bal.issueSheet value) ∧
      (bal.issueSheet value).map Int64.toInt = bal.exactIssueSheet value := by
  obtain ⟨_, _, he, -⟩ | ⟨tok', newAvailable, reserved, deviceID, devices, htok, hv, hres, hbook⟩ :=
    Token.issueToken_cases h
  · cases he
  obtain ⟨bal, signature, hbal, -, -, -, -, rfl, rfl, h₁, h₂, rfl⟩ := Token.reserveFunds_inv hres
  obtain ⟨-, hpos, rfl⟩ := Token.bookReservation_ok hbook
  obtain rfl := Table.key_of_find? hbal
  have hvn : 0 ≤ value := Int64.le_of_lt hv
  refine ⟨bal, hbal, ⟨⟨[_], rfl, rfl⟩, ⟨[_], rfl, rfl⟩⟩, ?_⟩
  simp only [AccountBalance.issueSheet, AccountBalance.exactIssueSheet, Sheet.issueToken, Sheet.map,
    List.map_cons, List.map_nil, Option.map_none, Checked.toInt_sub bal.available_check hvn,
    Checked.toInt_add bal.reserved_check hvn h₂]

theorem commit_exact {o : Order} {input : Input} (h : commitLedger o input db = .ok ((), db')) :
    ∃ s r, db.accountBalances.find? o.payload.senderID = some s ∧
      db.accountBalances.find? o.payload.receiverID = some r ∧ db.Wrote db' (o.commitSheet s r) ∧
      (o.commitSheet s r).map Int64.toInt = o.exactCommitSheet s r := by
  obtain ⟨_, s, r, _, -, -, hs, hr, -, -, -, hamount, hvalue, hsa, hsr, hra, rfl⟩ :=
    commitLedger_inv h
  refine ⟨s, r, hs, hr, ⟨⟨[_, _], rfl, rfl⟩, ⟨_, rfl, rfl⟩⟩, ?_⟩
  have hchange := Order.changeAmount_toInt hamount
  have hsender := Checked.toInt_add s.available_check (Order.changeAmount_nonneg hamount) hsa
  have hreceiver := Checked.toInt_add r.available_check (Int64.le_of_lt hamount) hra
  have hreserved := Checked.toInt_sub s.reserved_check (Int64.le_of_lt hvalue)
  rw [hchange] at hsender
  rw [Order.changeAmount] at hchange hsender
  simp only [Order.commitSheet, Order.exactCommitSheet, Sheet.ledgerCommit, Sheet.map,
    List.map_cons, List.map_nil, Option.map_some, hchange, hsender, hreceiver, hreserved]

theorem release_exact {tok : OfflineToken} {now : Time}
    (h : Token.releaseExpired tok now db = .ok (true, db')) :
    ∃ bal, db.accountBalances.find? tok.ownerID = some bal ∧
      db.Wrote db' (bal.releaseSheet tok.value) ∧
      (bal.releaseSheet tok.value).map Int64.toInt = bal.exactReleaseSheet tok.value := by
  obtain ⟨_, bal, -, -, -, hbal, -, h₁, h₂, hv, rfl⟩ := Token.releaseExpired_inv h
  have hvn : 0 ≤ tok.value := Int64.le_of_lt hv
  refine ⟨bal, hbal, ⟨⟨[_], ?_, rfl⟩, ⟨[_], ?_, rfl⟩⟩, ?_⟩
  · simp [AccountBalance.releaseSheet, Sheet.releaseExpired, Table.key_of_find? hbal]
  · simp [AccountBalance.releaseSheet, Sheet.releaseExpired, Table.key_of_find? hbal]
  · simp only [AccountBalance.releaseSheet, AccountBalance.exactReleaseSheet, Sheet.releaseExpired,
      Sheet.map, List.map_cons, List.map_nil, Option.map_none,
      Checked.toInt_add bal.available_check hvn h₁, Checked.toInt_sub bal.reserved_check hvn]

end Exact

/-- In every database, for every token value and every amount: a transaction of `IssueToken`,
`LEDGER_COMMIT` or `ReleaseExpiredTokens` that commits has written its sheet, which is the one over
the integers; and if the two sheets differ the transaction is aborted, or finds the token processed
and writes nothing. -/
theorem money_exact (E : Externals) (db : DB) :
    (∀ ownerID value duration tokenID faults now,
      (∀ tok db', Token.issueToken E ownerID value duration tokenID faults now db = (.ok tok, db') →
        ∃ bal, db.accountBalances.find? ownerID = some bal ∧ db.Wrote db' (bal.issueSheet value) ∧
          (bal.issueSheet value).map Int64.toInt = bal.exactIssueSheet value) ∧
      ∀ bal, db.accountBalances.find? ownerID = some bal →
        (bal.issueSheet value).map Int64.toInt ≠ bal.exactIssueSheet value →
        ∃ e, (Token.issueToken E ownerID value duration tokenID faults now db).1 = .error e) ∧
    (∀ o input,
      (∀ db', commitLedger o input db = .ok ((), db') →
        ∃ s r, db.accountBalances.find? o.payload.senderID = some s ∧
          db.accountBalances.find? o.payload.receiverID = some r ∧ db.Wrote db' (o.commitSheet s r) ∧
          (o.commitSheet s r).map Int64.toInt = o.exactCommitSheet s r) ∧
      ∀ s r, db.accountBalances.find? o.payload.senderID = some s →
        db.accountBalances.find? o.payload.receiverID = some r →
        (o.commitSheet s r).map Int64.toInt ≠ o.exactCommitSheet s r →
        ∃ e, commitLedger o input db = .error e) ∧
    ∀ tok now,
      (∀ db', Token.releaseExpired tok now db = .ok (true, db') →
        ∃ bal, db.accountBalances.find? tok.ownerID = some bal ∧
          db.Wrote db' (bal.releaseSheet tok.value) ∧
          (bal.releaseSheet tok.value).map Int64.toInt = bal.exactReleaseSheet tok.value) ∧
      ∀ bal, db.accountBalances.find? tok.ownerID = some bal →
        (bal.releaseSheet tok.value).map Int64.toInt ≠ bal.exactReleaseSheet tok.value →
        (∃ e, Token.releaseExpired tok now db = .error e) ∨
          Token.releaseExpired tok now db = .ok (false, db) := by
  refine ⟨fun ownerID value duration tokenID faults now => ⟨fun _ _ => issue_exact, ?_⟩,
    fun o input => ⟨fun _ => commit_exact, ?_⟩, fun tok now => ⟨fun _ => release_exact, ?_⟩⟩
  · intro bal hbal hwraps
    generalize hr : Token.issueToken E ownerID value duration tokenID faults now db = r
    obtain ⟨_ | tok, db'⟩ := r
    · exact ⟨_, rfl⟩
    · obtain ⟨bal', hbal', -, hexact⟩ := issue_exact hr
      cases hbal.symm.trans hbal'
      exact absurd hexact hwraps
  · intro s r hs hr hwraps
    cases hc : commitLedger o input db with
    | error e => exact ⟨e, rfl⟩
    | ok result =>
      obtain ⟨s', r', hs', hr', -, hexact⟩ := commit_exact hc
      cases hs.symm.trans hs'
      cases hr.symm.trans hr'
      exact absurd hexact hwraps
  · intro bal hbal hwraps
    cases hr : Token.releaseExpired tok now db with
    | error e => exact .inl ⟨e, rfl⟩
    | ok result =>
      obtain ⟨_ | _, db'⟩ := result
      · exact .inr (by rw [Token.releaseExpired_false hr])
      · obtain ⟨bal', hbal', -, hexact⟩ := release_exact hr
        cases hbal.symm.trans hbal'
        exact absurd hexact hwraps

/-! ## A balance that is full -/

/-- `alice` holds a token of 100, and `carol` has an account to which no more than 7 can be added. -/
def fullDB : DB :=
  ((World.start (E := .simple fun _ => none) ()).exec
    (Label.setup ["K"] ++ [.createAccount "carol" 9223372036854775800 none 0])).db

/-- `alice` pays 30 to `carol`. -/
def fullOrder : Order where
  env := ⟨"", "", "N", "", "T", ""⟩
  hopCount := 0
  payload := ⟨"T", "alice", "carol", 30, "USD", "N", 1000000000000, "phone", "K"⟩
  token := ⟨"K", "alice", 100, 1000000000000, false, none, "", 0, none, 0, .held⟩
  token_eq := rfl
  owner_eq := rfl
  unconsumed := rfl
  covered := by decide

def aliceBalance : AccountBalance := ⟨"alice", 900, 100, 0, by decide, by decide⟩

theorem zero_reserved : 0 ≤ (0 : Int64) := by decide

def carolBalance : AccountBalance :=
  ⟨"carol", 9223372036854775800, 0, 0, by decide, zero_reserved⟩

/-- The sum wraps around, and the payment is refused. -/
theorem money_exact_full : fullDB.accountBalances.find? "alice" = some aliceBalance ∧
    fullDB.accountBalances.find? "carol" = some carolBalance ∧
    (fullOrder.commitSheet aliceBalance carolBalance).map Int64.toInt
      ≠ fullOrder.exactCommitSheet aliceBalance carolBalance ∧
    ∃ e, commitLedger fullOrder { now := 1 } fullDB = .error e := by
  have hs : fullDB.accountBalances.find? "alice" = some aliceBalance := by decide +kernel
  have hr : fullDB.accountBalances.find? "carol" = some carolBalance := by decide +kernel
  have hwraps : (fullOrder.commitSheet aliceBalance carolBalance).map Int64.toInt
      ≠ fullOrder.exactCommitSheet aliceBalance carolBalance := by decide
  exact ⟨hs, hr, hwraps, ((money_exact (.simple fun _ => none) fullDB).2.1 fullOrder { now := 1 }).2
    aliceBalance carolBalance hs hr hwraps⟩

end OfflinePay
