import OfflinePay.Common.Checked
import OfflinePay.Store.Frame

/-!
# Token service

Reference: `internal/token/service.go`.

Issuing a token moves its value from the owner's available to the owner's reserved balance;
releasing an expired one moves it back. `Issued` and `Released` say what a committed transaction of
either kind did, table by table.
-/

namespace OfflinePay.Token

open Tx Repository

variable (E : Externals)

/-! ## Issuing -/

/-- `ComputeOfflineCreditLimit`, on the devices of the owner. -/
def computeOfflineCreditLimit (devices : List Device) : Int64 :=
  if devices.isEmpty then 200
  else
    let active := devices.filter (·.status == .active)
    let bestTrustScore := active.foldl (fun best dev => if best < dev.trustScore then dev.trustScore
      else best) 0
    let hasCompromised := devices.any Device.barred
    if hasCompromised && active.isEmpty then 0
    else
      let limit := E.creditLimit bestTrustScore
      if limit < 0 then 0 else limit

/-- The transaction of `IssueToken` up to the token row: reserve the funds, sign, save. Returns the
token and the new available balance. -/
def reserveFunds (ownerID tokenID : String) (value : Int64) (expiry now : Time) :
    DBTx (OfflineToken × Int64) := do
  let bal ← mapError (.wrap "failed to retrieve account balance: ") (getBalanceForUpdate ownerID)
  check (value ≤ bal.availableBalance)
    ⟨"insufficient available balance: has " ++ toString bal.availableBalance.toInt
      ++ ", requested token of " ++ toString value.toInt, false⟩
  let newAvailable := bal.availableBalance - value
  let newReserved := bal.reservedBalance + value
  mapError (.wrap "failed to update balances: ") (updateBalance ownerID newAvailable newReserved now)
  let signature ← mapError (.wrap "failed to sign token: ")
    (attempt (E.signBank (canonicalTokenData tokenID ownerID value expiry)))
  let tok : OfflineToken :=
    { tokenID, ownerID, value, expiry, consumed := false, consumedAt := none
      tokenSignature := signature, reservedAt := now, releasedAt := none
      riskScoreAtIssue := 0.1, status := .issued }
  mapError (.wrap "failed to save token: ") (createToken tok)
  pure (tok, newAvailable)

/-- The placeholder intent that carries the reservation entry. -/
def placeholderIntent (tok : OfflineToken) (deviceID : String) (now : Time) : PaymentIntent where
  txnID := reservationTxnID tok.tokenID
  senderID := tok.ownerID
  receiverID := "BANK"
  amount := tok.value
  currency := "USD"
  nonce := "nonce-tok-res-" ++ tok.tokenID
  expiry := tok.expiry
  status := .reserved
  deviceID := deviceID
  tokenID := tok.tokenID
  failureReason := none
  settledAt := none
  rejectedAt := none
  relayHops := 0
  signatureHash := ""
  createdAt := now
  updatedAt := now

/-- The rest of the transaction of `IssueToken`: placeholder intent, ledger entry, outbox event. -/
def bookReservation (tok : OfflineToken) (newAvailable : Int64) (deviceID : String) (now : Time) :
    DBTx Unit := do
  mapError (.wrap "failed to create placeholder payment intent: ")
    (createPaymentIntent (placeholderIntent tok deviceID now))
  mapError (.wrap "failed to create ledger entry: ")
    (createLedgerEntry (reservationTxnID tok.tokenID) tok.ownerID .debit tok.value .reservation
      newAvailable)
  mapError (.wrap "failed to write outbox event: ")
    (createOutboxEvent "token.issued" "TokenIssued" tok.json)

/-- What can go wrong around the statements of `IssueToken`: the limit query, the transaction before
and after the device lookup, the lookup itself, and the device insert. -/
structure IssueFaults where
  limit : Option GoError := none
  reserve : Option GoError := none
  lookup : Bool := false
  device : Bool := false
  commit : Option GoError := none

/-- The device of the placeholder intent. An owner without one gets an automatic device, which is
inserted outside the transaction and survives a rollback. -/
def ownerDevice (faults : IssueFaults) (ownerID : String) (now : Time) (db : DB) : String × DB :=
  match faults.lookup, getDevicesByOwner db ownerID with
  | false, dev :: _ => (dev.deviceID, db)
  | _, _ =>
    let deviceID := "device-auto-" ++ ownerID
    let fault := if faults.device then some ⟨"device insert failed", false⟩ else none
    let device : Device := ⟨deviceID, ownerID, "dummy-key", 1, .active, now, none⟩
    (deviceID, (withTx fault (createDevice device) db).2)

/-- `IssueToken`; `tokenID` is a fresh UUID. -/
def issueToken (ownerID : String) (value : Int64) (duration : Int64) (tokenID : String)
    (faults : IssueFaults) (now : Time) (db : DB) : Except GoError OfflineToken × DB :=
  if value ≤ 0 then (.error ⟨"token value must be greater than zero", false⟩, db)
  else
    match faults.limit with
    | some e => (.error (e.wrap "failed to compute credit limit: "), db)
    | none =>
      let limit := computeOfflineCreditLimit E (getDevicesByOwner db ownerID)
      if limit < value then
        (.error ⟨"requested token value " ++ toString value.toInt ++ " exceeds dynamic limit "
          ++ toString limit.toInt, false⟩, db)
      else
        let expiry := now + duration.toInt
        match faults.reserve, reserveFunds E ownerID tokenID value expiry now db with
        | some e, _ | none, .error e => (.error e, db)
        | none, .ok ((tok, newAvailable), reserved) =>
          let (deviceID, db) := ownerDevice faults ownerID now db
          let reserved := { reserved with devices := db.devices }
          match faults.commit, bookReservation tok newAvailable deviceID now reserved with
          | some e, _ | none, .error e => (.error e, db)
          | none, .ok ((), db') => (.ok tok, db')

/-- What a committed `IssueToken` did; `tok` is the row as stored. -/
structure Issued (db db' : DB) (tok : OfflineToken) : Prop extends DB.Unannounced db db' where
  value_pos : 0 < tok.value
  status : tok.status = .issued
  consumed : tok.consumed = false
  releasedAt : tok.releasedAt = none
  account : db.accountBalances.find? tok.ownerID ≠ none
  fresh : db.offlineTokens.find? tok.tokenID = none
  offlineTokens : db'.offlineTokens = db.offlineTokens.insert tok
  shift : db.Shift db' (Pi.single tok.ownerID (-tok.value.toInt))
    (Pi.single tok.ownerID tok.value.toInt) 0
  nonceRegistry : db'.nonceRegistry = db.nonceRegistry
  paymentIntents : ∃ row, row.txnID = reservationTxnID tok.tokenID ∧ row.status = .reserved ∧
    db.paymentIntents.find? (reservationTxnID tok.tokenID) = none ∧
    db'.paymentIntents = db.paymentIntents.insert row
  ledgerEntries : ∃ balanceAfter : Int64, balanceAfter.toInt = db'.available tok.ownerID ∧
    db'.ledgerEntries = db.ledgerEntries ++ [⟨db.nextEntryID, reservationTxnID tok.tokenID,
      tok.ownerID, .debit, tok.value, .reservation, balanceAfter, value_pos⟩]
  nextEntryID : db'.nextEntryID = db.nextEntryID + 1

/-- The automatic device is the only thing that outlives a failed `IssueToken`. -/
theorem ownerDevice_quiet (faults : IssueFaults) (ownerID : String) (now : Time) (db : DB) :
    ∃ devices, (ownerDevice faults ownerID now db).2 = { db with devices := devices } := by
  unfold ownerDevice
  split
  · exact ⟨db.devices, rfl⟩
  · obtain hsame | ⟨-, u, hok⟩ := withTx_state (if faults.device then
        some ⟨"device insert failed", false⟩ else none)
      (createDevice ⟨"device-auto-" ++ ownerID, ownerID, "dummy-key", 1, .active, now, none⟩) db
    · exact ⟨db.devices, hsame⟩
    · exact ⟨_, (createDevice_ok.mp hok).2.2⟩

variable {E}

/-- All that a committed reservation did, and the checks that it passed. -/
theorem reserveFunds_inv {ownerID tokenID : String} {value : Int64} {expiry now : Time}
    {tok : OfflineToken} {newAvailable : Int64} {db db' : DB}
    (h : reserveFunds E ownerID tokenID value expiry now db = .ok ((tok, newAvailable), db')) :
    ∃ bal signature, db.accountBalances.find? ownerID = some bal ∧ value ≤ bal.availableBalance ∧
      E.signBank (canonicalTokenData tokenID ownerID value expiry) = .ok signature ∧
      (Pg.varchar 100 tokenID && Pg.varchar 100 ownerID) = true ∧
      db.offlineTokens.find? tokenID = none ∧
      tok = ⟨tokenID, ownerID, value, expiry, false, none, signature, now, none, 0.1, .issued⟩ ∧
      newAvailable = bal.availableBalance - value ∧
      ∃ (h₁ : 0 ≤ bal.availableBalance - value) (h₂ : 0 ≤ bal.reservedBalance + value),
        db' = { db with
          accountBalances := db.accountBalances.set ⟨ownerID, _, _, now, h₁, h₂⟩
          offlineTokens := db.offlineTokens.insert { tok with expiry := tok.expiry.timestamptz } } := by
  simp only [reserveFunds, bind_ok, mapError_ok, check_ok, getBalanceForUpdate_ok, attempt_ok,
    pure_ok, createToken_ok] at h
  obtain ⟨bal, _, ⟨hbal, rfl⟩, _, _, ⟨hle, rfl⟩, _, db₁, hupd, signature, _, ⟨hsign, rfl⟩, _, _,
    ⟨hfits, hfresh, rfl⟩, htok, rfl⟩ := h
  obtain ⟨h₁, h₂, rfl⟩ := (updateBalance_ok (by simp [hbal])).mp hupd
  obtain ⟨rfl, rfl⟩ := Prod.mk.inj htok
  exact ⟨bal, signature, hbal, hle, hsign, hfits, hfresh, rfl, rfl, h₁, h₂, rfl⟩

/-- Reserving moves the value between the owner's two balances and inserts the token. -/
theorem reserveFunds_ok {ownerID tokenID : String} {value : Int64} {expiry now : Time}
    {tok : OfflineToken} {newAvailable : Int64} {db db' : DB} (hv : 0 < value)
    (h : reserveFunds E ownerID tokenID value expiry now db = .ok ((tok, newAvailable), db')) :
    ∃ accounts, db' = { db with
        accountBalances := accounts
        offlineTokens := db.offlineTokens.insert { tok with expiry := tok.expiry.timestamptz } } ∧
      tok.tokenID = tokenID ∧ tok.ownerID = ownerID ∧ tok.value = value ∧ tok.status = .issued ∧
      tok.consumed = false ∧ tok.releasedAt = none ∧
      db.accountBalances.find? ownerID ≠ none ∧ db.offlineTokens.find? tokenID = none ∧
      newAvailable.toInt = db'.available ownerID ∧
      db.Shift db' (Pi.single ownerID (-value.toInt)) (Pi.single ownerID value.toInt) 0 := by
  obtain ⟨bal, signature, hbal, -, -, -, hfresh, rfl, rfl, h₁, h₂, rfl⟩ := reserveFunds_inv h
  have hvn : 0 ≤ value := Int64.le_of_lt hv
  have hshift : db.Shift _ _ _ _ := DB.shift_set
    { db with
      accountBalances := db.accountBalances.set ⟨ownerID, _, _, now, h₁, h₂⟩
      offlineTokens := db.offlineTokens.insert
        ⟨tokenID, ownerID, value, expiry.timestamptz, false, none, signature, now, none, 0.1, .issued⟩ }
    ⟨ownerID, _, _, now, h₁, h₂⟩ hbal rfl
  simp only [Checked.toInt_sub bal.available_check hvn,
    Checked.toInt_add bal.reserved_check hvn h₂] at hshift
  refine ⟨_, rfl, rfl, rfl, rfl, rfl, rfl, rfl, by simp [hbal], hfresh, ?_, ?_⟩
  · rw [Checked.toInt_sub bal.available_check hvn, hshift.available, DB.available_of_find? hbal,
      Pi.single_eq_same]
    ring
  · convert hshift using 2 <;> ring

/-- Booking a reservation adds the placeholder intent and one debit entry. -/
theorem bookReservation_ok {tok : OfflineToken} {newAvailable : Int64} {deviceID : String}
    {now : Time} {db db' : DB}
    (h : bookReservation tok newAvailable deviceID now db = .ok ((), db')) :
    db.paymentIntents.find? (reservationTxnID tok.tokenID) = none ∧ ∃ hv : 0 < tok.value,
      db' = { db with
        paymentIntents := db.paymentIntents.insert (placeholderIntent tok deviceID now).stored
        ledgerEntries := db.ledgerEntries ++ [⟨db.nextEntryID, reservationTxnID tok.tokenID,
          tok.ownerID, .debit, tok.value, .reservation, newAvailable, hv⟩]
        nextEntryID := db.nextEntryID + 1
        outboxEvents := db.outboxEvents
          ++ [⟨db.nextOutboxID, "token.issued", "TokenIssued", tok.json, false, .pending, 0⟩]
        nextOutboxID := db.nextOutboxID + 1 } := by
  simp only [bookReservation, bind_ok, mapError_ok, createPaymentIntent_ok, createLedgerEntry_ok,
    createOutboxEvent_ok] at h
  obtain ⟨_, _, ⟨-, hfree, -, -, rfl⟩, _, _, ⟨-, -, -, hv, rfl⟩, rfl⟩ := h
  exact ⟨hfree, hv, rfl⟩

/-- `IssueToken` either fails and leaves at most a device behind, or runs both halves. -/
theorem issueToken_cases {ownerID : String} {value duration : Int64} {tokenID : String}
    {faults : IssueFaults} {now : Time} {r : Except GoError OfflineToken} {db db' : DB}
    (h : issueToken E ownerID value duration tokenID faults now db = (r, db')) :
    (∃ e devices, r = .error e ∧ db' = { db with devices := devices }) ∨
      ∃ tok newAvailable reserved deviceID devices, r = .ok tok ∧ 0 < value ∧
        reserveFunds E ownerID tokenID value (now + duration.toInt) now db
          = .ok ((tok, newAvailable), reserved) ∧
        bookReservation tok newAvailable deviceID now { reserved with devices := devices }
          = .ok ((), db') := by
  have failed : ∀ {e : GoError} {devices : Table Device.deviceID},
      ((.error e : Except GoError OfflineToken), { db with devices := devices }) = (r, db') →
      ∃ e devices, r = .error e ∧ db' = { db with devices := devices } := by
    rintro e devices h
    exact ⟨e, devices, (Prod.mk.inj h).1.symm, (Prod.mk.inj h).2.symm⟩
  unfold issueToken at h
  split at h
  · exact .inl (failed h)
  · next hv =>
    split at h
    · exact .inl (failed h)
    · dsimp only at h
      split at h
      · exact .inl (failed h)
      · obtain ⟨devices, hdev⟩ := ownerDevice_quiet faults ownerID now db
        split at h
        · exact .inl (failed h)
        · exact .inl (failed h)
        · next tok newAvailable reserved _ hres =>
          rw [hdev] at h
          split at h
          · exact .inl (failed h)
          · exact .inl (failed h)
          · next hbook =>
            obtain ⟨rfl, rfl⟩ := Prod.mk.inj h
            exact .inr
              ⟨tok, newAvailable, reserved, _, devices, rfl, Int64.not_le.mp hv, hres, hbook⟩

/-- All that `IssueToken` writes: at most a device if it fails; the token and what books it if it
commits. -/
theorem issueToken_writes (ownerID : String) (value duration : Int64) (tokenID : String)
    (faults : IssueFaults) (now : Time) (db : DB) :
    (∃ devices, (issueToken E ownerID value duration tokenID faults now db).2
      = { db with devices }) ∨
    ∃ tok deviceID devices accountBalances ledgerEntries nextEntryID, tok.tokenID = tokenID ∧
      (issueToken E ownerID value duration tokenID faults now db).2 = { db with
        devices, accountBalances, ledgerEntries, nextEntryID
        offlineTokens := db.offlineTokens.insert { tok with expiry := tok.expiry.timestamptz }
        paymentIntents := db.paymentIntents.insert (placeholderIntent tok deviceID now).stored
        outboxEvents := db.outboxEvents
          ++ [⟨db.nextOutboxID, "token.issued", "TokenIssued", tok.json, false, .pending, 0⟩]
        nextOutboxID := db.nextOutboxID + 1 } := by
  generalize h : issueToken E ownerID value duration tokenID faults now db = r
  obtain ⟨res, db'⟩ := r
  obtain ⟨_, devices, -, rfl⟩ | ⟨tok, newAvailable, reserved, deviceID, devices, -, hv, hres, hbook⟩ :=
    issueToken_cases h
  · exact .inl ⟨devices, rfl⟩
  · obtain ⟨accounts, rfl, rfl, -⟩ := reserveFunds_ok hv hres
    obtain ⟨-, _, rfl⟩ := bookReservation_ok hbook
    exact .inr ⟨tok, deviceID, devices, accounts, _, _, rfl, rfl⟩

/-- A committed `IssueToken`. -/
theorem issueToken_ok {ownerID : String} {value duration : Int64} {tokenID : String}
    {faults : IssueFaults} {now : Time} {tok : OfflineToken} {db db' : DB}
    (h : issueToken E ownerID value duration tokenID faults now db = (.ok tok, db')) :
    Issued db db' { tok with expiry := tok.expiry.timestamptz } := by
  rcases issueToken_cases h with ⟨e, _, he, -⟩ | ⟨tok', newAvailable, reserved, deviceID, devices,
    htok, hv, hres, hbook⟩
  · exact absurd he (by simp)
  obtain rfl : tok = tok' := Except.ok.inj htok
  obtain ⟨accounts, rfl, rfl, rfl, rfl, hstatus, hconsumed, hreleased, haccount, hfresh, hafter,
    hshift⟩ := reserveFunds_ok hv hres
  obtain ⟨hfree, hpos, rfl⟩ := bookReservation_ok hbook
  exact {
    toUnannounced := .of_outbox rfl rfl rfl (show "TokenIssued" ≠ _ by decide)
    value_pos := hpos
    status := hstatus
    consumed := hconsumed
    releasedAt := hreleased
    account := haccount
    fresh := hfresh
    offlineTokens := rfl
    shift := hshift.congr rfl
    nonceRegistry := rfl
    paymentIntents := ⟨_, rfl, rfl, hfree, rfl⟩
    ledgerEntries := ⟨newAvailable, hafter, rfl⟩
    nextEntryID := rfl }

/-- A failed `IssueToken` leaves everything but the devices alone. -/
theorem issueToken_error {ownerID : String} {value duration : Int64} {tokenID : String}
    {faults : IssueFaults} {now : Time} {e : GoError} {db db' : DB}
    (h : issueToken E ownerID value duration tokenID faults now db = (.error e, db')) :
    db.Quiet db' := by
  rcases issueToken_cases h with ⟨_, devices, -, rfl⟩ | ⟨tok, _, _, _, _, htok, -⟩
  · exact { DB.Quiet.refl db with }
  · exact absurd htok (by simp)

/-! ## Releasing -/

/-- The error of `ReleaseExpiredTokens` when the owner's reservation does not cover the token. -/
def inconsistentReserved (ownerID : String) (reserved value : Int64) : GoError :=
  ⟨"inconsistent reserved balance for user " ++ ownerID ++ ": has " ++ toString reserved.toInt
    ++ ", token needs " ++ toString value.toInt, false⟩

/-- One transaction of `ReleaseExpiredTokens`, for a token of the list read at the start of the
pass. True if the token was released, false if it had been processed already. -/
def releaseExpired (tok : OfflineToken) (now : Time) : DBTx Bool := do
  let tokLocked ← getTokenForUpdate tok.tokenID
  if tokLocked.consumed || tokLocked.releasedAt.isSome then pure false
  else
    let bal ← getBalanceForUpdate tok.ownerID
    check (tok.value ≤ bal.reservedBalance)
      (inconsistentReserved tok.ownerID bal.reservedBalance tok.value)
    let newAvailable := bal.availableBalance + tok.value
    let newReserved := bal.reservedBalance - tok.value
    updateBalance tok.ownerID newAvailable newReserved now
    releaseToken tok.tokenID now
    createLedgerEntry (reservationTxnID tok.tokenID) tok.ownerID .credit tok.value .release
      newAvailable
    createOutboxEvent "token.expired" "TokenExpiredAndReleased"
      (.obj [("token_id", .str tok.tokenID), ("owner_id", .str tok.ownerID),
        ("amount", .int64 tok.value)])
    pure true

/-- What a transaction that released a token did; `locked` is the row it found. -/
structure Released (db db' : DB) (tok locked : OfflineToken) (now : Time) : Prop
    extends DB.Unannounced db db' where
  value_pos : 0 < tok.value
  find : db.offlineTokens.find? tok.tokenID = some locked
  unconsumed : locked.consumed = false
  unreleased : locked.releasedAt = none
  transition : isValidTokenTransition locked.status .invalidated = true
  offlineTokens : db'.offlineTokens
    = db.offlineTokens.set { locked with releasedAt := some now, status := .invalidated }
  account : db.accountBalances.find? tok.ownerID ≠ none
  shift : db.Shift db' (Pi.single tok.ownerID tok.value.toInt)
    (Pi.single tok.ownerID (-tok.value.toInt)) 0
  nonceRegistry : db'.nonceRegistry = db.nonceRegistry
  paymentIntents : db'.paymentIntents = db.paymentIntents
  ledgerEntries : ∃ balanceAfter : Int64, balanceAfter.toInt = db'.available tok.ownerID ∧
    db'.ledgerEntries = db.ledgerEntries ++ [⟨db.nextEntryID, reservationTxnID tok.tokenID,
      tok.ownerID, .credit, tok.value, .release, balanceAfter, value_pos⟩]
  nextEntryID : db'.nextEntryID = db.nextEntryID + 1

/-- All that a transaction that released a token did, and the checks that it passed. -/
theorem releaseExpired_inv {tok : OfflineToken} {now : Time} {db db' : DB}
    (h : releaseExpired tok now db = .ok (true, db')) :
    ∃ locked bal, db.offlineTokens.find? tok.tokenID = some locked ∧ locked.consumed = false ∧
      locked.releasedAt = none ∧ db.accountBalances.find? tok.ownerID = some bal ∧
      isValidTokenTransition locked.status .invalidated = true ∧
      ∃ (h₁ : 0 ≤ bal.availableBalance + tok.value) (h₂ : 0 ≤ bal.reservedBalance - tok.value)
        (hv : 0 < tok.value), db' = { db with
          accountBalances := db.accountBalances.set ⟨tok.ownerID, _, _, now, h₁, h₂⟩
          offlineTokens := db.offlineTokens.set
            { locked with releasedAt := some now, status := .invalidated }
          ledgerEntries := db.ledgerEntries ++ [⟨db.nextEntryID, reservationTxnID tok.tokenID,
            tok.ownerID, .credit, tok.value, .release, bal.availableBalance + tok.value, hv⟩]
          nextEntryID := db.nextEntryID + 1
          outboxEvents := db.outboxEvents
            ++ [⟨db.nextOutboxID, "token.expired", "TokenExpiredAndReleased",
              .obj [("token_id", .str tok.tokenID), ("owner_id", .str tok.ownerID),
                ("amount", .int64 tok.value)], false, .pending, 0⟩]
          nextOutboxID := db.nextOutboxID + 1 } := by
  obtain ⟨locked, db₀, hlock, h⟩ := bind_ok.mp h
  obtain ⟨hfind, rfl⟩ := getTokenForUpdate_ok.mp hlock
  by_cases hdone : (locked.consumed || locked.releasedAt.isSome) = true
  · rw [if_pos hdone] at h
    cases (pure_ok.mp h).1
  · rw [if_neg hdone] at h
    simp only [bind_ok, check_ok, getBalanceForUpdate_ok, pure_ok, releaseToken, updateToken_ok,
      createLedgerEntry_ok, createOutboxEvent_ok] at h
    obtain ⟨bal, _, ⟨hbal, rfl⟩, _, _, ⟨hle, rfl⟩, _, db₁, hupd, _, _, ⟨row, hrow, htrans, rfl⟩, _,
      _, ⟨-, -, -, hv, rfl⟩, _, _, rfl, -, rfl⟩ := h
    obtain ⟨h₁, h₂, rfl⟩ := (updateBalance_ok (by simp [hbal])).mp hupd
    obtain rfl : locked = row := Option.some.inj (hfind.symm.trans hrow)
    simp only [Bool.or_eq_true, not_or, Bool.not_eq_true, Option.isSome_eq_false_iff,
      Option.isNone_iff_eq_none] at hdone
    exact ⟨locked, bal, hfind, hdone.1, hdone.2, hbal, htrans, h₁, h₂, hv, rfl⟩

/-- A release transaction that found the token processed did nothing. -/
theorem releaseExpired_false {tok : OfflineToken} {now : Time} {db db' : DB}
    (h : releaseExpired tok now db = .ok (false, db')) : db' = db := by
  obtain ⟨locked, db₀, hlock, h⟩ := bind_ok.mp h
  obtain ⟨-, rfl⟩ := getTokenForUpdate_ok.mp hlock
  split at h
  · exact (pure_ok.mp h).2.symm
  · simp only [bind_ok, pure_ok] at h
    obtain ⟨_, _, -, _, _, -, _, _, -, _, _, -, _, _, -, _, _, -, hreleased, -⟩ := h
    cases hreleased

/-- A committed release transaction found the token processed, or released it. -/
theorem releaseExpired_ok {tok : OfflineToken} {now : Time} {released : Bool} {db db' : DB}
    (h : releaseExpired tok now db = .ok (released, db')) :
    (released = false ∧ db' = db) ∨
    (released = true ∧ ∃ locked, Released db db' tok locked now) := by
  cases released with
  | false => exact .inl ⟨rfl, releaseExpired_false h⟩
  | true =>
    obtain ⟨locked, bal, hfind, hunconsumed, hunreleased, hbal, htrans, h₁, h₂, hv, rfl⟩ :=
      releaseExpired_inv h
    have hvn : 0 ≤ tok.value := Int64.le_of_lt hv
    have hshift : db.Shift _ _ _ _ :=
      DB.shift_set { db with accountBalances := _ } ⟨tok.ownerID, _, _, now, h₁, h₂⟩ hbal rfl
    rw [Checked.toInt_add bal.available_check hvn h₁, Checked.toInt_sub bal.reserved_check hvn,
      add_sub_cancel_left, sub_sub_cancel_left, add_neg_cancel] at hshift
    refine .inr ⟨rfl, locked, ?_⟩
    exact {
      toUnannounced := .of_outbox rfl rfl rfl (show "TokenExpiredAndReleased" ≠ _ by decide)
      value_pos := hv
      find := hfind
      unconsumed := hunconsumed
      unreleased := hunreleased
      transition := htrans
      offlineTokens := rfl
      account := by simp [hbal]
      shift := hshift.congr rfl
      nonceRegistry := rfl
      paymentIntents := rfl
      ledgerEntries := by
        refine ⟨_, ?_, rfl⟩
        rw [Checked.toInt_add bal.available_check hvn h₁, ← DB.available_of_find? hbal]
        exact ((hshift.available tok.ownerID).trans (by rw [Pi.single_eq_same])).symm
      nextEntryID := rfl }

end OfflinePay.Token
