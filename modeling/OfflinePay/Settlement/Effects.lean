import OfflinePay.Settlement.Steps

/-!
# What the settlement transactions do

One structure per saga transaction lists, table by table, what it did when it committed, and the
guards that it passed. The system invariants use these and never look at the transaction bodies.

The arithmetic of the source is on `int64`. Amounts that reach a balance row or a ledger entry have
passed a sign check there, which is what makes the balance changes below exact.
-/

namespace OfflinePay.Settlement

open Tx Repository

/-! ## Balance changes -/

namespace Order

variable (o : Order)

/-- What a committed `LEDGER_COMMIT` adds to the available balances. Its second write overwrites the
first one when the sender is the receiver. -/
def dAvailable : String → ℤ :=
  if o.self then Pi.single o.payload.senderID o.payload.amount.toInt
  else Pi.single o.payload.senderID (o.token.value.toInt - o.payload.amount.toInt)
    + Pi.single o.payload.receiverID o.payload.amount.toInt

/-- What a committed `LEDGER_COMMIT` adds to the reserved balances. -/
def dReserved : String → ℤ :=
  if o.self then 0 else Pi.single o.payload.senderID (-o.token.value.toInt)

/-- The money a committed `LEDGER_COMMIT` creates. -/
def minted : ℤ := if o.self then o.payload.amount.toInt else 0

end Order

/-- Writing both balances of an order, the receiver's last, starting from the rows read before. The
two deltas are those of the sender; the receiver gets `gain`. -/
theorem shift_two {db db' : DB} {senderID receiverID : String} {now : Time}
    {s r : AccountBalance} {sa sr ra : Int64} (hs : db.accountBalances.find? senderID = some s)
    (hr : db.accountBalances.find? receiverID = some r) (hsa : 0 ≤ sa) (hsr : 0 ≤ sr) (hra : 0 ≤ ra)
    (h : db'.accountBalances = (db.accountBalances.set ⟨senderID, sa, sr, now, hsa, hsr⟩).set
      ⟨receiverID, ra, r.reservedBalance, now, hra, r.reserved_check⟩) :
    if senderID = receiverID then
      db.Shift db' (Pi.single senderID (ra.toInt - s.availableBalance.toInt)) 0
        (ra.toInt - s.availableBalance.toInt)
    else
      db.Shift db' (Pi.single senderID (sa.toInt - s.availableBalance.toInt)
          + Pi.single receiverID (ra.toInt - r.availableBalance.toInt))
        (Pi.single senderID (sr.toInt - s.reservedBalance.toInt))
        (sa.toInt - s.availableBalance.toInt + (sr.toInt - s.reservedBalance.toInt)
          + (ra.toInt - r.availableBalance.toInt)) := by
  have h₁ : db.Shift { db with
      accountBalances := db.accountBalances.set ⟨senderID, sa, sr, now, hsa, hsr⟩ } _ _ _ :=
    DB.shift_set _ ⟨senderID, sa, sr, now, hsa, hsr⟩ hs rfl
  split
  · next heq =>
    subst heq
    obtain rfl : s = r := Option.some.inj (hs.symm.trans hr)
    -- the second write finds the row of the first
    have hs' := Table.find?_set_self (r := (⟨senderID, sa, sr, now, hsa, hsr⟩ : AccountBalance)) hs
    have h₂ := h₁.trans (DB.shift_set db'
      ⟨senderID, ra, s.reservedBalance, now, hra, s.reserved_check⟩ hs' h)
    convert h₂ using 1
    · rw [← Pi.single_add]
      congr 1
      ring
    · rw [← Pi.single_add, ← Pi.single_zero senderID]
      congr 1
      ring
    · ring
  · next hne =>
    have h₂ := h₁.trans (DB.shift_set db'
      ⟨receiverID, ra, r.reservedBalance, now, hra, r.reserved_check⟩
      ((Table.find?_set_ne _ hne).trans hr) h)
    convert h₂ using 1
    · rw [sub_self, Pi.single_zero, add_zero]
    · ring

/-! ## RESERVE -/

/-- `RESERVE` committed. -/
structure Reserved (o : Order) (db db' : DB) : Prop extends DB.Unannounced db db' where
  sender : db.accountBalances.find? o.payload.senderID ≠ none
  receiver : db.accountBalances.find? o.payload.receiverID ≠ none
  fits : Pg.varchar 100 o.payload.txnID = true
  free : db.paymentIntents.find? o.payload.txnID = none
  paymentIntents : ∃ row, row.txnID = o.payload.txnID ∧ row.status = .reserved ∧
    db'.paymentIntents = db.paymentIntents.insert row
  nonce_free : db.nonceRegistry.find? o.payload.nonce = none
  /-- The nonce refers to the envelope's id, so an intent has to stand under that as well. -/
  linked : o.env.txnID = o.payload.txnID ∨ db.paymentIntents.find? o.env.txnID ≠ none
  nonceRegistry : ∃ row, row.nonce = o.payload.nonce ∧ row.txnID = o.env.txnID ∧
    db'.nonceRegistry = db.nonceRegistry.insert row
  offlineTokens : db'.offlineTokens = db.offlineTokens
  accountBalances : db'.accountBalances = db.accountBalances
  ledgerEntries : db'.ledgerEntries = db.ledgerEntries
  nextEntryID : db'.nextEntryID = db.nextEntryID

theorem reserve_ok {o : Order} {input : Input} {db db' : DB}
    (h : reserve o input db = .ok ((), db')) : Reserved o db db' := by
  simp only [reserve, bind_ok, mapError_ok, lockBalances_ok, check_ok, createPaymentIntent_ok,
    registerNonce_ok] at h
  obtain ⟨bals, _, ⟨hs, hr, rfl⟩, _, _, ⟨hle, rfl⟩, _, _, ⟨hfit, hfree, -, -, rfl⟩, -, hnonce, hlink,
    rfl⟩ := h
  exact {
    toUnannounced := .of_eq rfl rfl rfl
    sender := by simp [hs]
    receiver := by simp [hr]
    fits := by
      simp only [PaymentIntent.columnsFit, Bool.and_eq_true] at hfit
      exact hfit.1.1.1.1.1.1.1.1
    free := hfree
    paymentIntents := ⟨_, rfl, rfl, rfl⟩
    nonce_free := hnonce
    linked := by
      by_cases hid : o.env.txnID = o.payload.txnID
      · exact .inl hid
      · have hnew : db.paymentIntents.find? (o.reservedIntent input.now).stored.txnID = none :=
          hfree
        have hfind := (Table.find?_insert hnew o.env.txnID).trans (if_neg (Ne.symm hid))
        exact .inr (hfind ▸ hlink)
    nonceRegistry := ⟨_, rfl, rfl, rfl⟩
    offlineTokens := rfl
    accountBalances := rfl
    ledgerEntries := rfl
    nextEntryID := rfl }

/-- The compensation of `RESERVE` committed: the nonce is gone, and so is the intent if it was
reserved and no row referenced it. -/
structure Unreserved (o : Order) (db db' : DB) : Prop extends DB.Unannounced db db' where
  nonceRegistry : db'.nonceRegistry = db.nonceRegistry.erase o.payload.nonce
  paymentIntents :
    (∃ row, db.paymentIntents.find? o.payload.txnID = some row ∧ row.status = .reserved ∧
      (∀ e ∈ db.ledgerEntries, e.txnID ≠ o.payload.txnID) ∧
      db'.paymentIntents = db.paymentIntents.erase o.payload.txnID) ∨
    ((∀ row, db.paymentIntents.find? o.payload.txnID = some row → row.status ≠ .reserved) ∧
      db'.paymentIntents = db.paymentIntents)
  offlineTokens : db'.offlineTokens = db.offlineTokens
  accountBalances : db'.accountBalances = db.accountBalances
  ledgerEntries : db'.ledgerEntries = db.ledgerEntries
  nextEntryID : db'.nextEntryID = db.nextEntryID

theorem unreserve_ok {o : Order} {input : Input} {db db' : DB}
    (h : unreserve o input db = .ok ((), db')) : Unreserved o db db' := by
  obtain ⟨_, _, hnonce, h⟩ := bind_ok.mp h
  obtain rfl := deleteNonce_ok.mp hnonce
  obtain ⟨status, _, hview, h⟩ := bind_ok.mp h
  obtain ⟨rfl, rfl⟩ := view_ok.mp hview
  by_cases hst : (db.paymentIntents.find? o.payload.txnID).map PaymentIntent.status = some .reserved
  · rw [if_pos hst] at h
    obtain ⟨hfree, rfl⟩ := deletePaymentIntent_ok.mp h
    obtain ⟨row, hrow, hrs⟩ := Option.map_eq_some_iff.mp hst
    have href := hfree (by simp [hrow])
    simp only [DB.referenced, Bool.or_eq_false_iff, List.any_eq_false, beq_iff_eq] at href
    exact {
      toUnannounced := .of_eq rfl rfl rfl
      nonceRegistry := rfl
      paymentIntents := .inl ⟨row, hrow, hrs, href.1.1.1.2, rfl⟩
      offlineTokens := rfl
      accountBalances := rfl
      ledgerEntries := rfl
      nextEntryID := rfl }
  · rw [if_neg hst] at h
    obtain ⟨-, rfl⟩ := pure_ok.mp h
    exact {
      toUnannounced := .of_eq rfl rfl rfl
      nonceRegistry := rfl
      paymentIntents := .inr ⟨fun row hrow hrs => hst (by simp [hrow, hrs]), rfl⟩
      offlineTokens := rfl
      accountBalances := rfl
      ledgerEntries := rfl
      nextEntryID := rfl }

/-! ## CONSUME_TOKEN -/

/-- `CONSUME_TOKEN` committed. -/
structure Held (o : Order) (db db' : DB) : Prop extends DB.Unannounced db db' where
  offlineTokens : ∃ row, db.offlineTokens.find? o.payload.tokenID = some row ∧ row.status = .issued ∧
    db'.offlineTokens = db.offlineTokens.set { row with status := .held }
  nonceRegistry : db'.nonceRegistry = db.nonceRegistry
  paymentIntents : db'.paymentIntents = db.paymentIntents
  accountBalances : db'.accountBalances = db.accountBalances
  ledgerEntries : db'.ledgerEntries = db.ledgerEntries
  nextEntryID : db'.nextEntryID = db.nextEntryID

theorem hold_ok {o : Order} {input : Input} {db db' : DB} (h : hold o input db = .ok ((), db')) :
    Held o db db' := by
  simp only [hold, bind_ok, getTokenForUpdate_ok, check_ok, holdToken, updateToken_ok] at h
  obtain ⟨row, _, ⟨hrow, rfl⟩, _, _, ⟨hst, rfl⟩, row', hrow', -, rfl⟩ := h
  obtain rfl : row = row' := Option.some.inj (hrow.symm.trans hrow')
  exact {
    toUnannounced := .of_eq rfl rfl rfl
    offlineTokens := ⟨row, hrow, hst, rfl⟩
    nonceRegistry := rfl
    paymentIntents := rfl
    accountBalances := rfl
    ledgerEntries := rfl
    nextEntryID := rfl }

/-- The compensation of `CONSUME_TOKEN` committed. It moves no balance, also when it invalidates the
token. -/
structure Unheld (o : Order) (now : Time) (db db' : DB) : Prop extends DB.Unannounced db db' where
  offlineTokens :
    (∃ row, db.offlineTokens.find? o.payload.tokenID = some row ∧ row.status = .held ∧
      db'.offlineTokens
        = db.offlineTokens.set { row with status := .invalidated, releasedAt := some now }) ∨
    ((∀ row, db.offlineTokens.find? o.payload.tokenID = some row → row.status ≠ .held) ∧
      db'.offlineTokens = db.offlineTokens)
  nonceRegistry : db'.nonceRegistry = db.nonceRegistry
  paymentIntents : db'.paymentIntents = db.paymentIntents
  accountBalances : db'.accountBalances = db.accountBalances
  ledgerEntries : db'.ledgerEntries = db.ledgerEntries
  nextEntryID : db'.nextEntryID = db.nextEntryID

theorem unhold_ok {o : Order} {input : Input} {db db' : DB}
    (h : unhold o input db = .ok ((), db')) : Unheld o input.now db db' := by
  obtain ⟨status, _, hview, h⟩ := bind_ok.mp h
  obtain ⟨rfl, rfl⟩ := view_ok.mp hview
  by_cases hst : (db.offlineTokens.find? o.payload.tokenID).map OfflineToken.status = some .held
  · rw [if_pos hst, invalidateToken, updateToken_ok] at h
    obtain ⟨row, hrow, -, rfl⟩ := h
    rw [hrow, Option.map_some, Option.some.injEq] at hst
    exact {
      toUnannounced := .of_eq rfl rfl rfl
      offlineTokens := .inl ⟨row, hrow, hst, rfl⟩
      nonceRegistry := rfl
      paymentIntents := rfl
      accountBalances := rfl
      ledgerEntries := rfl
      nextEntryID := rfl }
  · rw [if_neg hst] at h
    obtain ⟨-, rfl⟩ := pure_ok.mp h
    exact {
      toUnannounced := .of_eq rfl rfl rfl
      offlineTokens := .inr ⟨fun row hrow hrs => hst (by simp [hrow, hrs]), rfl⟩
      nonceRegistry := rfl
      paymentIntents := rfl
      accountBalances := rfl
      ledgerEntries := rfl
      nextEntryID := rfl }

/-! ## LEDGER_COMMIT -/

/-- The three entries of a `LEDGER_COMMIT`, numbered from `n`. -/
def Order.entries (o : Order) (n : ℕ) (senderAfter receiverAfter : Int64)
    (hamount : 0 < o.payload.amount) (hvalue : 0 < o.token.value) : List LedgerEntry :=
  [⟨n, o.payload.txnID, o.payload.senderID, .debit, o.payload.amount, .settlement, senderAfter,
      hamount⟩,
    ⟨n + 1, o.payload.txnID, o.payload.receiverID, .credit, o.payload.amount, .settlement,
      receiverAfter, hamount⟩,
    ⟨n + 2, reservationTxnID o.payload.tokenID, o.payload.senderID, .credit, o.token.value, .release,
      senderAfter, hvalue⟩]

/-- `LEDGER_COMMIT` committed. -/
structure Committed (o : Order) (now : Time) (db db' : DB) :
    Prop extends DB.Unannounced db db' where
  amount_pos : 0 < o.payload.amount
  value_pos : 0 < o.token.value
  offlineTokens : ∃ row, db.offlineTokens.find? o.payload.tokenID = some row ∧
    isValidTokenTransition row.status .consumed = true ∧
    db'.offlineTokens = db.offlineTokens.set
      { row with consumed := true, consumedAt := some now, status := .consumed }
  sender : db.accountBalances.find? o.payload.senderID ≠ none
  receiver : db.accountBalances.find? o.payload.receiverID ≠ none
  shift : db.Shift db' o.dAvailable o.dReserved o.minted
  paymentIntents : ∃ row, db.paymentIntents.find? o.payload.txnID = some row ∧
    db'.paymentIntents = db.paymentIntents.set (withStatus row .settled none now)
  ledgerEntries : ∃ senderAfter receiverAfter : Int64,
    (¬o.self → senderAfter.toInt = db'.available o.payload.senderID ∧
      receiverAfter.toInt = db'.available o.payload.receiverID) ∧
    db'.ledgerEntries = db.ledgerEntries
      ++ o.entries db.nextEntryID senderAfter receiverAfter amount_pos value_pos
  nextEntryID : db'.nextEntryID = db.nextEntryID + 3
  nonceRegistry : db'.nonceRegistry = db.nonceRegistry

namespace Order

variable {o : Order}

theorem value_pos (ha : 0 < o.payload.amount) : 0 < o.token.value :=
  Int64.lt_of_lt_of_le ha o.covered

theorem dAvailable_sender (h : ¬o.self) :
    o.dAvailable o.payload.senderID = o.token.value.toInt - o.payload.amount.toInt := by
  rw [dAvailable, if_neg h, Pi.add_apply, Pi.single_eq_same, Pi.single_eq_of_ne h, add_zero]

theorem dAvailable_receiver (h : ¬o.self) :
    o.dAvailable o.payload.receiverID = o.payload.amount.toInt := by
  rw [dAvailable, if_neg h, Pi.add_apply, Pi.single_eq_same, Pi.single_eq_of_ne (Ne.symm h),
    zero_add]

theorem changeAmount_toInt (ha : 0 < o.payload.amount) :
    o.changeAmount.toInt = o.token.value.toInt - o.payload.amount.toInt :=
  Checked.toInt_sub (Int64.le_of_lt (value_pos ha)) (Int64.le_of_lt ha)

theorem changeAmount_nonneg (ha : 0 < o.payload.amount) : 0 ≤ o.changeAmount := by
  have h := Checked.toInt_le o.covered
  rw [Int64.le_iff_toInt_le, changeAmount_toInt ha, Int64.toInt_zero]
  omega

end Order

/-- The balance rows that `LEDGER_COMMIT` writes. -/
theorem commit_shift {o : Order} {db db' : DB} {now : Time} {s r : AccountBalance}
    (hamount : 0 < o.payload.amount) (hs : db.accountBalances.find? o.payload.senderID = some s)
    (hr : db.accountBalances.find? o.payload.receiverID = some r)
    (hsa : 0 ≤ s.availableBalance + o.changeAmount) (hsr : 0 ≤ s.reservedBalance - o.token.value)
    (hra : 0 ≤ r.availableBalance + o.payload.amount)
    (h : db'.accountBalances = (db.accountBalances.set
      ⟨o.payload.senderID, _, _, now, hsa, hsr⟩).set
        ⟨o.payload.receiverID, _, r.reservedBalance, now, hra, r.reserved_check⟩) :
    db.Shift db' o.dAvailable o.dReserved o.minted := by
  have hshift := shift_two hs hr hsa hsr hra h
  rw [Checked.toInt_add s.available_check (Order.changeAmount_nonneg hamount) hsa,
    Checked.toInt_add r.available_check (Int64.le_of_lt hamount) hra,
    Checked.toInt_sub s.reserved_check (Int64.le_of_lt (Order.value_pos hamount)),
    Order.changeAmount_toInt hamount] at hshift
  unfold Order.dAvailable Order.dReserved Order.minted
  by_cases hself : o.self
  · have heq : o.payload.senderID = o.payload.receiverID := hself
    have hsr' : s.availableBalance = r.availableBalance := by
      rw [heq, hr, Option.some.injEq] at hs
      rw [hs]
    rw [if_pos heq] at hshift
    rw [if_pos hself, if_pos hself, if_pos hself]
    convert hshift using 1
    · rw [hsr', add_sub_cancel_left]
    · rw [hsr', add_sub_cancel_left]
  · rw [if_neg (show ¬o.payload.senderID = o.payload.receiverID from hself)] at hshift
    rw [if_neg hself, if_neg hself, if_neg hself]
    convert hshift using 1
    · rw [add_sub_cancel_left, add_sub_cancel_left]
    · rw [sub_sub_cancel_left]
    · ring

/-- All that a committed `LEDGER_COMMIT` did, and the checks that it passed. -/
theorem commitLedger_inv {o : Order} {input : Input} {db db' : DB}
    (h : commitLedger o input db = .ok ((), db')) :
    ∃ row s r intent, db.offlineTokens.find? o.payload.tokenID = some row ∧
      isValidTokenTransition row.status .consumed = true ∧
      db.accountBalances.find? o.payload.senderID = some s ∧
      db.accountBalances.find? o.payload.receiverID = some r ∧
      db.paymentIntents.find? o.payload.txnID = some intent ∧
      db.paymentIntents.find? (reservationTxnID o.payload.tokenID) ≠ none ∧
      (Pg.varchar 100 o.payload.txnID = true ∧ Pg.varchar 100 o.payload.senderID = true ∧
        Pg.varchar 100 o.payload.receiverID = true ∧
        Pg.varchar 100 (reservationTxnID o.payload.tokenID) = true) ∧
      ∃ (hamount : 0 < o.payload.amount) (hvalue : 0 < o.token.value)
        (hsa : 0 ≤ s.availableBalance + o.changeAmount)
        (hsr : 0 ≤ s.reservedBalance - o.token.value)
        (hra : 0 ≤ r.availableBalance + o.payload.amount), db' = { db with
          offlineTokens := db.offlineTokens.set
            { row with consumed := true, consumedAt := some input.now, status := .consumed }
          accountBalances := (db.accountBalances.set
            ⟨o.payload.senderID, _, _, input.now, hsa, hsr⟩).set
              ⟨o.payload.receiverID, _, _, input.now, hra, r.reserved_check⟩
          paymentIntents := db.paymentIntents.set (withStatus intent .settled none input.now)
          ledgerEntries := db.ledgerEntries ++ o.entries db.nextEntryID
            (s.availableBalance + o.changeAmount) (r.availableBalance + o.payload.amount)
            hamount hvalue
          nextEntryID := db.nextEntryID + 3 } := by
  simp only [commitLedger, consumeToken, bind_ok, updateToken_ok, lockBalances_ok,
    createLedgerEntry_ok] at h
  obtain ⟨_, _, ⟨row, hrow, htrans, rfl⟩, ⟨s, r⟩, _, ⟨hs, hr, rfl⟩, _, _, hupd₁, _, _, hupd₂, _, _,
    hset, _, _, ⟨hfit₁, hintent, -, hamount, rfl⟩, _, _, ⟨hfit₂, -, -, _, rfl⟩, hfit₃, hbooked, -,
    hvalue, rfl⟩ := h
  rw [Bool.and_eq_true] at hfit₁ hfit₂ hfit₃
  obtain ⟨hsa, hsr, rfl⟩ := (updateBalance_ok (by simp [hs])).mp hupd₁
  have hreceiver := mt (Table.find?_set_eq_none db.accountBalances
    ⟨o.payload.senderID, _, _, input.now, hsa, hsr⟩ o.payload.receiverID).mp (by simp [hr])
  obtain ⟨hra, hrr, rfl⟩ := (updateBalance_ok hreceiver).mp hupd₂
  rw [updatePaymentIntentStatus, write_ok] at hset
  cases hint : db.paymentIntents.find? o.payload.txnID with
  | none =>
    -- without an intent to settle the first ledger entry would have been refused
    simp only [hint] at hset
    subst hset
    exact absurd hint hintent
  | some intent =>
    simp only [hint] at hset
    subst hset
    exact ⟨row, s, r, intent, hrow, htrans, hs, hr, rfl,
      mt (Table.find?_set_eq_none _ _ _).mpr hbooked, ⟨hfit₁.1, hfit₁.2, hfit₂.2, hfit₃.1⟩, hamount,
      hvalue, hsa, hsr, hra, by simp [Order.entries]⟩

theorem commitLedger_ok {o : Order} {input : Input} {db db' : DB}
    (h : commitLedger o input db = .ok ((), db')) : Committed o input.now db db' := by
  obtain ⟨row, s, r, intent, hrow, htrans, hs, hr, hint, -, -, hamount, hvalue, hsa, hsr, hra, rfl⟩ :=
    commitLedger_inv h
  have hshift : db.Shift { db with
      accountBalances := (db.accountBalances.set
        ⟨o.payload.senderID, _, _, input.now, hsa, hsr⟩).set
          ⟨o.payload.receiverID, _, _, input.now, hra, r.reserved_check⟩ } _ _ _ :=
    commit_shift hamount hs hr hsa hsr hra rfl
  exact {
    toUnannounced := .of_eq rfl rfl rfl
    amount_pos := hamount
    value_pos := hvalue
    offlineTokens := ⟨row, hrow, htrans, rfl⟩
    sender := by simp [hs]
    receiver := by simp [hr]
    shift := hshift.congr rfl
    paymentIntents := ⟨intent, hint, rfl⟩
    ledgerEntries := by
      refine ⟨_, _, fun hself => ⟨?_, ?_⟩, rfl⟩
      · rw [Checked.toInt_add s.available_check (Order.changeAmount_nonneg hamount) hsa,
          Order.changeAmount_toInt hamount, ← DB.available_of_find? hs,
          ← Order.dAvailable_sender hself]
        exact (hshift.available _).symm
      · rw [Checked.toInt_add r.available_check (Int64.le_of_lt hamount) hra,
          ← DB.available_of_find? hr, ← Order.dAvailable_receiver hself]
        exact (hshift.available _).symm
    nextEntryID := rfl
    nonceRegistry := rfl }

/-- The compensation of `LEDGER_COMMIT` committed. -/
structure Undone (o : Order) (db db' : DB) : Prop extends DB.Unannounced db db' where
  sender : db.accountBalances.find? o.payload.senderID ≠ none
  receiver : db.accountBalances.find? o.payload.receiverID ≠ none
  shift : db.Shift db' (-o.dAvailable) (-o.dReserved) (-o.minted)
  ledgerEntries : db'.ledgerEntries = db.ledgerEntries.filter fun e =>
    !(e.txnID == o.payload.txnID ||
      (e.txnID == reservationTxnID o.payload.tokenID && e.entryType == .release))
  nextEntryID : db'.nextEntryID = db.nextEntryID
  paymentIntents : db'.paymentIntents = db.paymentIntents.erase o.payload.txnID
  unreferenced : db.paymentIntents.find? o.payload.txnID ≠ none →
    ∀ row ∈ db.nonceRegistry.rows, row.txnID ≠ o.payload.txnID
  offlineTokens : db'.offlineTokens = db.offlineTokens
  nonceRegistry : db'.nonceRegistry = db.nonceRegistry

/-- The balance rows that the compensation of `LEDGER_COMMIT` writes. -/
theorem undo_shift {o : Order} {db db' : DB} {now : Time} {s r : AccountBalance}
    (hamount : 0 < o.payload.amount) (hs : db.accountBalances.find? o.payload.senderID = some s)
    (hr : db.accountBalances.find? o.payload.receiverID = some r)
    (hsa : 0 ≤ s.availableBalance - o.changeAmount) (hsr : 0 ≤ s.reservedBalance + o.token.value)
    (hra : 0 ≤ r.availableBalance - o.payload.amount)
    (h : db'.accountBalances = (db.accountBalances.set
      ⟨o.payload.senderID, _, _, now, hsa, hsr⟩).set
        ⟨o.payload.receiverID, _, r.reservedBalance, now, hra, r.reserved_check⟩) :
    db.Shift db' (-o.dAvailable) (-o.dReserved) (-o.minted) := by
  have hshift := shift_two hs hr hsa hsr hra h
  rw [Checked.toInt_sub s.available_check (Order.changeAmount_nonneg hamount),
    Checked.toInt_sub r.available_check (Int64.le_of_lt hamount),
    Checked.toInt_add s.reserved_check (Int64.le_of_lt (Order.value_pos hamount)) hsr,
    Order.changeAmount_toInt hamount] at hshift
  unfold Order.dAvailable Order.dReserved Order.minted
  by_cases hself : o.self
  · have heq : o.payload.senderID = o.payload.receiverID := hself
    have hsr' : s.availableBalance = r.availableBalance := by
      rw [heq, hr, Option.some.injEq] at hs
      rw [hs]
    rw [if_pos heq] at hshift
    rw [if_pos hself, if_pos hself, if_pos hself]
    convert hshift using 1
    · rw [hsr', sub_sub_cancel_left, Pi.single_neg]
    · rw [neg_zero]
    · rw [hsr', sub_sub_cancel_left]
  · rw [if_neg (show ¬o.payload.senderID = o.payload.receiverID from hself)] at hshift
    rw [if_neg hself, if_neg hself, if_neg hself]
    convert hshift using 1
    · rw [sub_sub_cancel_left, sub_sub_cancel_left, neg_add, Pi.single_neg, Pi.single_neg]
    · rw [add_sub_cancel_left, ← Pi.single_neg, neg_neg]
    · ring

theorem undoLedger_ok {o : Order} {input : Input} {db db' : DB} (hamount : 0 < o.payload.amount)
    (h : undoLedger o input db = .ok ((), db')) : Undone o db db' := by
  simp only [undoLedger, bind_ok, lockBalances_ok, deleteLedgerEntries, write_ok,
    deletePaymentIntent_ok] at h
  obtain ⟨⟨s, r⟩, _, ⟨hs, hr, rfl⟩, _, _, hupd₁, _, _, hupd₂, _, _, rfl, hfree, rfl⟩ := h
  obtain ⟨hsa, hsr, rfl⟩ := (updateBalance_ok (by simp [hs])).mp hupd₁
  have hreceiver := mt (Table.find?_set_eq_none db.accountBalances
    ⟨o.payload.senderID, _, _, input.now, hsa, hsr⟩ o.payload.receiverID).mp (by simp [hr])
  obtain ⟨hra, hrr, rfl⟩ := (updateBalance_ok hreceiver).mp hupd₂
  have hshift : db.Shift { db with
      accountBalances := (db.accountBalances.set
        ⟨o.payload.senderID, _, _, input.now, hsa, hsr⟩).set
          ⟨o.payload.receiverID, _, _, input.now, hra, r.reserved_check⟩ } _ _ _ :=
    undo_shift hamount hs hr hsa hsr hra rfl
  exact {
    toUnannounced := .of_eq rfl rfl rfl
    sender := by simp [hs]
    receiver := by simp [hr]
    shift := hshift.congr rfl
    ledgerEntries := rfl
    nextEntryID := rfl
    paymentIntents := rfl
    unreferenced := by
      intro hrow
      have href := hfree hrow
      simp only [DB.referenced, Bool.or_eq_false_iff, List.any_eq_false, beq_iff_eq] at href
      exact href.1.1.1.1
    offlineTokens := rfl
    nonceRegistry := rfl }

/-! ## PUBLISH -/

/-- `PUBLISH` committed; `readFault` is the failure of its read of the intent, if any. -/
structure Published (o : Order) (readFault : Option GoError) (db db' : DB) : Prop where
  auditEvents : ∃ payload, db'.auditEvents
    = db.auditEvents ++ [⟨o.payload.txnID, "PaymentSettled", payload⟩]
  outboxEvents : ∃ now, db'.outboxEvents = db.outboxEvents ++ [⟨db.nextOutboxID, "payment.settled",
    "PaymentSettled", o.settledJson now, false, .pending, 0⟩]
  paymentEvents :
    if readFault = none ∧ db.paymentIntents.find? o.payload.txnID ≠ none then
      ∃ payload now, db'.paymentEvents
        = db.paymentEvents ++ [⟨o.payload.txnID, "IntentSettled", 1, payload, now⟩]
    else db'.paymentEvents = db.paymentEvents
  offlineTokens : db'.offlineTokens = db.offlineTokens
  nonceRegistry : db'.nonceRegistry = db.nonceRegistry
  paymentIntents : db'.paymentIntents = db.paymentIntents
  accountBalances : db'.accountBalances = db.accountBalances
  ledgerEntries : db'.ledgerEntries = db.ledgerEntries
  nextEntryID : db'.nextEntryID = db.nextEntryID

theorem publish_ok {o : Order} {input : Input} {db db' : DB}
    (h : publish o input db = .ok ((), db')) : Published o input.readFault db db' := by
  obtain ⟨_, _, haudit, h⟩ := bind_ok.mp h
  obtain ⟨-, rfl⟩ := createAuditEvent_ok.mp haudit
  obtain ⟨_, _, houtbox, h⟩ := bind_ok.mp h
  obtain rfl := createOutboxEvent_ok.mp houtbox
  obtain ⟨intentModel, _, hview, h⟩ := bind_ok.mp h
  obtain ⟨rfl, rfl⟩ := view_ok.mp hview
  split at h
  · next hread =>
    obtain ⟨-, -, rfl⟩ := createPaymentEvent_ok.mp (mapError_ok.mp h)
    exact ⟨⟨_, rfl⟩, ⟨_, rfl⟩, (if_pos hread).mpr ⟨_, _, rfl⟩, rfl, rfl, rfl, rfl, rfl, rfl⟩
  · next hread =>
    obtain ⟨-, rfl⟩ := pure_ok.mp h
    exact ⟨⟨_, rfl⟩, ⟨_, rfl⟩, (if_neg hread).mpr rfl, rfl, rfl, rfl, rfl, rfl, rfl⟩

/-- `PUBLISH` of a transaction id that fits its column always succeeds. -/
theorem publish_commits {o : Order} (hfit : Pg.varchar 100 o.payload.txnID = true)
    (input : Input) (db : DB) : ∃ db', publish o input db = .ok ((), db') := by
  have hevent : ∀ db₁ : DB, ∃ db', (if input.readFault = none ∧
      getPaymentIntent db₁ o.payload.txnID ≠ none then
        mapError (.wrap "failed to save versioned event: ")
          (createPaymentEvent o.payload.txnID "IntentSettled" 1 (o.settledJson input.now) input.now)
      else pure () : DBTx Unit) db₁ = .ok ((), db') := by
    intro db₁
    split
    · next h => exact ⟨_, mapError_ok.mpr (createPaymentEvent_ok.mpr ⟨hfit, h.2, rfl⟩)⟩
    · exact ⟨_, pure_ok.mpr ⟨rfl, rfl⟩⟩
  simp only [publish, bind_ok, createAuditEvent_ok, createOutboxEvent_ok, view_ok]
  obtain ⟨db', hok⟩ := hevent _
  exact ⟨db', (), _, ⟨hfit, rfl⟩, (), _, rfl, _, _, ⟨rfl, rfl⟩, hok⟩

/-- The compensation of `PUBLISH` never commits. -/
theorem unpublish_ne_ok {o : Order} {input : Input} {db db' : DB} :
    unpublish o input db ≠ .ok ((), db') := by
  simp [unpublish, bind_ok, write_ok, check_ok]

end OfflinePay.Settlement
