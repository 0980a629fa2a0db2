import OfflinePay.Settlement.Overlay

/-!
# When a call settles

A call that runs alone and in which nothing fails settles in ten steps or never. `settles_iff`
unrolls these steps: the checks that `Settle` makes, and the four actions of the saga one after the
other. `Order.Payable` says what the actions need of the database the call starts from, table by
table.
-/

namespace OfflinePay.Settlement

open Tx Repository

variable {E : Externals}

/-! ## One step at a time -/

namespace Solo

/-- The call settles within the given steps. -/
def Settles (s : Solo E) (inputs : List Input) : Prop := (s.exec inputs).status? = some .settled

/-- A call that has failed never settles. -/
theorem not_settles {s : Solo E} (h : ¬s.call.OnTrack) (inputs : List Input) :
    ¬s.Settles inputs := by
  have hoff := invariant (I := fun s : Solo E => ¬s.call.OnTrack)
    (fun s input hs hon => hs (SettleCall.onTrack_of_step hon).1) h inputs
  exact fun hsettles => hoff (onTrack_of_settled hsettles)

variable {env : EncryptedEnvelope} {hopCount : ℤ} {db : DB} {risk : E.RiskState}
  {signed : SignedPaymentIntent} {o : Order} {input : Input} {inputs : List Input}

theorem settles_cons {s : Solo E} : s.Settles (input :: inputs) ↔ (s.step input).Settles inputs :=
  Iff.rfl

theorem alreadyProcessed_eq_none (hread : input.readFault = none) :
    alreadyProcessed env input db = none ↔
      ∀ row, db.paymentIntents.find? env.txnID = some row → row.status.isFinal = false := by
  rw [alreadyProcessed, hread, getPaymentIntent]
  cases db.paymentIntents.find? env.txnID with
  | none => simp
  | some row => simp

theorem settles_idempotency (hread : input.readFault = none) :
    (start env hopCount db risk).Settles (input :: inputs) ↔
      (∀ row, db.paymentIntents.find? env.txnID = some row → row.status.isFinal = false) ∧
        ∃ signed, openEnvelope E env = .ok signed ∧
          Settles ⟨⟨env, hopCount, none, .create, .attestation signed⟩, db, risk⟩ inputs := by
  rw [settles_cons, ← alreadyProcessed_eq_none hread, step, start, SettleCall.step]
  dsimp only
  cases alreadyProcessed env input db with
  | some err => simpa using not_settles (by simp [SettleCall.OnTrack]) inputs
  | none =>
    cases openEnvelope E env with
    | error f => simpa using not_settles (by simp [SettleCall.OnTrack]) inputs
    | ok signed => simp

theorem settles_attestation (hread : input.readFault = none) :
    Settles ⟨⟨env, hopCount, none, .create, .attestation signed⟩, db, risk⟩ (input :: inputs) ↔
      (∀ att, db.deviceAttestations.find? signed.payload.deviceID = some att →
        att.trustLevel ≠ "UNTRUSTED") ∧
        Settles ⟨⟨env, hopCount, none, .create, .device signed⟩, db, risk⟩ inputs := by
  rw [settles_cons, step, SettleCall.step]
  dsimp only
  rw [checkAttestation, hread, getDeviceAttestation]
  cases db.deviceAttestations.find? signed.payload.deviceID with
  | none => simp
  | some att =>
    by_cases htrust : att.trustLevel = "UNTRUSTED"
    · simpa [htrust] using not_settles (by simp [SettleCall.OnTrack]) inputs
    · simp [htrust]

theorem settles_device :
    Settles ⟨⟨env, hopCount, none, .create, .device signed⟩, db, risk⟩ (input :: inputs) ↔
      ∃ device, findDevice E signed input db = .ok device ∧
        Settles ⟨⟨env, hopCount, none, .create, .token signed device⟩, db, risk⟩ inputs := by
  rw [settles_cons, step, SettleCall.step]
  dsimp only
  cases findDevice E signed input db with
  | error f => simpa using not_settles (by simp [SettleCall.OnTrack]) inputs
  | ok device => simp

theorem settles_token {device : Device} :
    Settles ⟨⟨env, hopCount, none, .create, .token signed device⟩, db, risk⟩ (input :: inputs) ↔
      ∃ o, findToken E env hopCount signed.payload input db = .ok o ∧
        (E.assess risk device signed.payload hopCount).1.action ≠ .reject ∧
        Settles ⟨⟨env, hopCount, some o, .create, .saga⟩, db,
          (E.assess risk device signed.payload hopCount).2⟩ inputs := by
  rw [settles_cons, step, SettleCall.step]
  dsimp only
  cases findToken E env hopCount signed.payload input db with
  | error f => simpa using not_settles (by simp [SettleCall.OnTrack]) inputs
  | ok o =>
    by_cases hreject : (E.assess risk device signed.payload hopCount).1.action = .reject
    · simpa [hreject] using not_settles (by simp [SettleCall.OnTrack]) inputs
    · simp [hreject]

theorem settles_create (hfault : input.fault = none) :
    Settles ⟨⟨env, hopCount, some o, .create, .saga⟩, db, risk⟩ (input :: inputs) ↔
      Pg.varchar 100 o.payload.txnID = true ∧
        Settles ⟨⟨env, hopCount, some o, .running 0, .saga⟩, db, risk⟩ inputs := by
  rw [settles_cons, step, SettleCall.step]
  dsimp only [SettleCall.runSaga, Saga.Pc.step]
  by_cases hfit : Pg.varchar 100 o.payload.txnID = true
  · simp [hfit, hfault, withTx, createSagaState, check, Saga.Pc.result?]
  · simpa [hfit, hfault, withTx, createSagaState, check, Saga.Pc.result?] using
      not_settles (by simp [SettleCall.OnTrack]) inputs

theorem settles_running (hfault : input.fault = none) {k : ℕ} {st : Saga.SagaStep Input DB}
    (hst : (steps o)[k]? = some st) :
    Settles ⟨⟨env, hopCount, some o, .running k, .saga⟩, db, risk⟩ (input :: inputs) ↔
      ∃ db', st.action input db = .ok ((), db') ∧
        Settles ⟨⟨env, hopCount, some o, .running (k + 1), .saga⟩, db', risk⟩ inputs := by
  rw [settles_cons, step, SettleCall.step]
  dsimp only [SettleCall.runSaga, Saga.Pc.step]
  rw [hst, hfault]
  cases haction : st.action input db with
  | error e =>
    simpa [withTx, haction, Saga.Pc.result?] using
      not_settles (by simp [SettleCall.OnTrack, Saga.Pc.Forward]) inputs
  | ok p =>
    obtain ⟨⟨⟩, db'⟩ := p
    simp [withTx, haction, Saga.Pc.result?]

theorem settles_done :
    Settles ⟨⟨env, hopCount, some o, .running 4, .saga⟩, db, risk⟩ (input :: inputs) := by
  refine invariant (I := fun s : Solo E => s.status? = some .settled) ?_ rfl inputs
  intro s input hs
  unfold status? at hs
  split at hs
  · next status err hpc =>
    obtain rfl := Option.some.inj hs
    simp [status?, step, SettleCall.step, hpc]
  · exact absurd hs (by simp)

end Solo

/-! ## What the checks ask -/

/-- In time, the checks on the device are those of `Device.Signed`, and that a token is named. -/
theorem findDevice_ok_iff {signed : SignedPaymentIntent} {input : Input} {db : DB} {device : Device}
    (hread : input.readFault = none) (hnow : input.now ≤ signed.payload.expiry) :
    findDevice E signed input db = .ok device ↔
      db.devices.find? signed.payload.deviceID = some device ∧ device.Signed E signed ∧
        signed.payload.tokenID ≠ "" := by
  refine ⟨fun h => ?_, fun ⟨hfind, hsigned, hnamed⟩ => ?_⟩
  · obtain ⟨hfind, hsigned⟩ := findDevice_ok h
    refine ⟨hfind, hsigned, fun hname => ?_⟩
    obtain ⟨hbarred, hverifies⟩ := hsigned
    unfold Device.verifies at hverifies
    split at hverifies
    · next key hkey =>
      simp [findDevice, hread, getDevice, hfind, checkDevice, hbarred, hkey, hverifies, hname,
        not_lt.mpr hnow] at h
    · exact absurd hverifies (by simp)
  · obtain ⟨hbarred, hverifies⟩ := hsigned
    unfold Device.verifies at hverifies
    split at hverifies
    · next key hkey =>
      simp [findDevice, hread, getDevice, hfind, checkDevice, hbarred, hkey, hverifies, hnamed,
        not_lt.mpr hnow]
    · exact absurd hverifies (by simp)

/-- In time, the checks on the token are those that an order carries, and the bank's signature. -/
theorem findToken_ok_iff {env : EncryptedEnvelope} {hopCount : ℤ} {payload : PaymentIntentPayload}
    {input : Input} {db : DB} {o : Order} (hread : input.readFault = none)
    (hnow : ∀ tok, db.offlineTokens.find? payload.tokenID = some tok → input.now ≤ tok.expiry) :
    findToken E env hopCount payload input db = .ok o ↔
      o.env = env ∧ o.hopCount = hopCount ∧ o.payload = payload ∧
        db.offlineTokens.find? payload.tokenID = some o.token ∧
        E.verify E.bankPublicKey (canonicalTokenData o.token.tokenID o.token.ownerID o.token.value
          o.token.expiry) o.token.tokenSignature = true := by
  refine ⟨fun h => ?_, ?_⟩
  · obtain ⟨henv, hhop, hpayload, hfind⟩ := SettleCall.findToken_ok h
    refine ⟨henv, hhop, hpayload, hfind, ?_⟩
    unfold findToken at h
    split at h
    · exact absurd h (by simp)
    · exact absurd h (by simp)
    · next token _ htok =>
      obtain rfl : token = o.token := Option.some.inj (htok.symm.trans hfind)
      unfold checkToken at h
      split_ifs at h with hverify
      exact by simpa using hverify
  · rintro ⟨rfl, rfl, rfl, hfind, hverify⟩
    unfold findToken
    split
    · next e hfault => exact absurd (hread.symm.trans hfault) (by simp)
    · next hnone => exact absurd (hfind.symm.trans hnone) (by simp)
    · next token _ htok =>
      obtain rfl : token = o.token := Option.some.inj (htok.symm.trans hfind)
      rw [checkToken, if_neg (by simp [hverify]), dif_pos o.owner_eq, if_neg (not_lt.mpr (hnow _ htok)),
        dif_pos o.unconsumed, dif_pos o.covered]

/-! ## What the saga asks -/

/-- Nothing of an earlier attempt at the payment stands in the way of its saga. -/
structure Order.Fresh (o : Order) (db : DB) : Prop where
  free : db.paymentIntents.find? o.payload.txnID = none
  nonce_free : db.nonceRegistry.find? o.payload.nonce = none
  issued : o.token.status = .issued

/-- What else the saga of a payment needs of the database. -/
structure Order.Payable (o : Order) (db : DB) : Prop where
  columns : (o.reservedIntent 0).columnsFit = true
  outer : Pg.varchar 100 o.env.txnID = true
  /-- The nonce can refer to an intent under the envelope's id. -/
  linked : o.env.txnID = o.payload.txnID ∨ db.paymentIntents.find? o.env.txnID ≠ none
  /-- The reservation of the token is on record. -/
  booked : reservationTxnID o.payload.tokenID = o.payload.txnID ∨
    db.paymentIntents.find? (reservationTxnID o.payload.tokenID) ≠ none
  bookedFits : Pg.varchar 100 (reservationTxnID o.payload.tokenID) = true
  amount_pos : 0 < o.payload.amount
  /-- The reserved balance covers the token, and the new balances are in range. -/
  accounts : ∃ s r, db.accountBalances.find? o.payload.senderID = some s ∧
    db.accountBalances.find? o.payload.receiverID = some r ∧
    o.token.value ≤ s.reservedBalance ∧ 0 ≤ s.availableBalance + o.changeAmount ∧
    0 ≤ r.availableBalance + o.payload.amount

variable {o : Order} {db : DB}

/-- When `RESERVE` commits. -/
theorem reserve_commits_iff (input : Input) :
    (∃ db', reserve o input db = .ok ((), db')) ↔
      (∃ s, db.accountBalances.find? o.payload.senderID = some s ∧
        o.token.value ≤ s.reservedBalance) ∧
      db.accountBalances.find? o.payload.receiverID ≠ none ∧
      (o.reservedIntent 0).columnsFit = true ∧ db.paymentIntents.find? o.payload.txnID = none ∧
      db.devices.find? o.payload.deviceID ≠ none ∧ db.offlineTokens.find? o.payload.tokenID ≠ none ∧
      Pg.varchar 100 o.env.txnID = true ∧ db.nonceRegistry.find? o.payload.nonce = none ∧
      (o.env.txnID = o.payload.txnID ∨ db.paymentIntents.find? o.env.txnID ≠ none) := by
  constructor
  · rintro ⟨db', h⟩
    have hlinked := (reserve_ok h).linked
    simp only [reserve, bind_ok, mapError_ok, lockBalances_ok, check_ok, createPaymentIntent_ok,
      registerNonce_ok] at h
    obtain ⟨bals, _, ⟨hs, hr, rfl⟩, _, _, ⟨hle, rfl⟩, _, _, ⟨hfit, hfree, hdev, htok, rfl⟩, hfits,
      hnonce, -, rfl⟩ := h
    rw [Bool.and_eq_true] at hfits
    exact ⟨⟨_, hs, hle⟩, by simp [hr], hfit, hfree, hdev, htok, hfits.2, hnonce, hlinked⟩
  · rintro ⟨⟨s, hs, hle⟩, hr, hfit, hfree, hdev, htok, houter, hnonce, hlinked⟩
    obtain ⟨r, hr⟩ := Option.ne_none_iff_exists'.mp hr
    have hnew : db.paymentIntents.find? (o.reservedIntent input.now).stored.txnID = none := hfree
    have hlink : (db.paymentIntents.insert (o.reservedIntent input.now).stored).find? o.env.txnID
        ≠ none := by
      rw [Table.find?_insert hnew]
      split
      · simp
      · next hne => exact hlinked.resolve_left fun hid => hne hid.symm
    have hfits : (Pg.varchar 100 o.payload.nonce && Pg.varchar 100 o.env.txnID) = true := by
      have hnonceFits : Pg.varchar 100 o.payload.nonce = true := by
        simp only [PaymentIntent.columnsFit, Bool.and_eq_true] at hfit
        exact hfit.1.1.1.1.2
      rw [hnonceFits, houter]
      rfl
    simp only [reserve, bind_ok, mapError_ok, lockBalances_ok, check_ok, createPaymentIntent_ok,
      registerNonce_ok]
    exact ⟨_, (s, r), db, ⟨hs, hr, rfl⟩, (), db, ⟨hle, rfl⟩, (), _, ⟨hfit, hfree, hdev, htok, rfl⟩,
      hfits, hnonce, hlink, rfl⟩

/-- When `CONSUME_TOKEN` commits. -/
theorem hold_commits_iff (input : Input) :
    (∃ db', hold o input db = .ok ((), db')) ↔
      ∃ row, db.offlineTokens.find? o.payload.tokenID = some row ∧ row.status = .issued := by
  constructor
  · rintro ⟨db', h⟩
    obtain ⟨row, hrow, hissued, -⟩ := (hold_ok h).offlineTokens
    exact ⟨row, hrow, hissued⟩
  · rintro ⟨row, hrow, hissued⟩
    have hvalid : isValidTokenTransition row.status .held = true := by
      rw [hissued]
      rfl
    simp only [hold, bind_ok, getTokenForUpdate_ok, check_ok, holdToken, updateToken_ok]
    exact ⟨_, row, db, ⟨hrow, rfl⟩, (), db, ⟨hissued, rfl⟩, row, hrow, hvalid, rfl⟩

/-- When `LEDGER_COMMIT` commits, on a token that is on hold. -/
theorem commitLedger_commits_iff (input : Input) {row : OfflineToken}
    (hrow : db.offlineTokens.find? o.payload.tokenID = some row) (hheld : row.status = .held) :
    (∃ db', commitLedger o input db = .ok ((), db')) ↔
      (∃ s r, db.accountBalances.find? o.payload.senderID = some s ∧
        db.accountBalances.find? o.payload.receiverID = some r ∧
        0 ≤ s.reservedBalance - o.token.value ∧ 0 ≤ s.availableBalance + o.changeAmount ∧
        0 ≤ r.availableBalance + o.payload.amount) ∧
      0 < o.payload.amount ∧ Pg.varchar 100 o.payload.txnID = true ∧
      Pg.varchar 100 o.payload.senderID = true ∧ Pg.varchar 100 o.payload.receiverID = true ∧
      Pg.varchar 100 (reservationTxnID o.payload.tokenID) = true ∧
      db.paymentIntents.find? o.payload.txnID ≠ none ∧
      db.paymentIntents.find? (reservationTxnID o.payload.tokenID) ≠ none := by
  constructor
  · rintro ⟨db', h⟩
    obtain ⟨_, s, r, intent, -, -, hs, hr, hintent, hbooked, ⟨hfit, hsfit, hrfit, hbfit⟩, hamount, -,
      hsa, hsr, hra, -⟩ := commitLedger_inv h
    exact ⟨⟨s, r, hs, hr, hsr, hsa, hra⟩, hamount, hfit, hsfit, hrfit, hbfit, by simp [hintent],
      hbooked⟩
  · rintro ⟨⟨s, r, hs, hr, hsr, hsa, hra⟩, hamount, hfit, hsfit, hrfit, hbfit, hintent, hbooked⟩
    have hbal : ∀ accountID row', db.accountBalances.find? accountID ≠ none →
        (Table.set db.accountBalances row').find? accountID ≠ none :=
      fun accountID row' => mt (Table.find?_set_eq_none _ row' accountID).mp
    obtain ⟨intent, hintent⟩ := Option.ne_none_iff_exists'.mp hintent
    have hvalid : isValidTokenTransition row.status .consumed = true := by
      rw [hheld]
      rfl
    have hreceiver : (db.accountBalances.set ⟨o.payload.senderID, _, _, input.now, hsa, hsr⟩).find?
        o.payload.receiverID ≠ none := hbal _ _ (by simp [hr])
    simp only [commitLedger, consumeToken, bind_ok, updateToken_ok, lockBalances_ok,
      createLedgerEntry_ok]
    refine ⟨_, (), _, ⟨row, hrow, hvalid, rfl⟩, (s, r), _, ⟨hs, hr, rfl⟩, (), _,
      (updateBalance_ok (by simp [hs])).mpr ⟨hsa, hsr, rfl⟩, (), _,
      (updateBalance_ok hreceiver).mpr ⟨hra, r.reserved_check, rfl⟩, (), _,
      (updatePaymentIntentStatus_ok (h := by exact hintent)).mpr rfl,
      (), _, ⟨?_, ?_, ?_, hamount, rfl⟩, (), _,
      ⟨?_, ?_, ?_, hamount, rfl⟩, ?_, ?_, ?_, Order.value_pos hamount, rfl⟩
    · rw [hfit, hsfit]
      rfl
    · exact mt (Table.find?_set_eq_none _ _ _).mp (by simp [hintent])
    · exact mt (Table.find?_set_eq_none _ _ _).mp (hbal _ _ (by simp [hs]))
    · rw [hfit, hrfit]
      rfl
    · exact mt (Table.find?_set_eq_none _ _ _).mp (by simp [hintent])
    · exact mt (Table.find?_set_eq_none _ _ _).mp hreceiver
    · rw [hbfit, hsfit]
      rfl
    · exact mt (Table.find?_set_eq_none _ _ _).mp hbooked
    · exact mt (Table.find?_set_eq_none _ _ _).mp (hbal _ _ (by simp [hs]))

/-- The saga goes through from a database exactly if the payment is new and payable there. -/
theorem saga_commits_iff {i₁ i₂ i₃ i₄ : Input}
    (hdevice : db.devices.find? o.payload.deviceID ≠ none)
    (htoken : db.offlineTokens.find? o.payload.tokenID = some o.token) :
    (∃ db₁, reserve o i₁ db = .ok ((), db₁) ∧ ∃ db₂, hold o i₂ db₁ = .ok ((), db₂) ∧
      ∃ db₃, commitLedger o i₃ db₂ = .ok ((), db₃) ∧ ∃ db₄, publish o i₄ db₃ = .ok ((), db₄)) ↔
      o.Fresh db ∧ o.Payable db := by
  -- the balances stay as they are until `LEDGER_COMMIT`, and the intents gain one row
  have hbefore : ∀ {db₁ db₂}, Reserved o db db₁ → Held o db₁ db₂ →
      db₂.accountBalances = db.accountBalances ∧
      (∃ row, db₂.offlineTokens.find? o.payload.tokenID = some row ∧ row.status = .held) ∧
      ∀ txnID, db₂.paymentIntents.find? txnID ≠ none ↔
        txnID = o.payload.txnID ∨ db.paymentIntents.find? txnID ≠ none := by
    intro db₁ db₂ hres hheld
    obtain ⟨row, hrow, -, htokens⟩ := hheld.offlineTokens
    obtain ⟨intent, hid, -, hintents⟩ := hres.paymentIntents
    refine ⟨hheld.accountBalances.trans hres.accountBalances, ⟨{ row with status := .held }, ?_, rfl⟩,
      fun txnID => ?_⟩
    · obtain hkey := Table.key_of_find? hrow
      rw [htokens, ← hkey]
      exact Table.find?_set_self (r := { row with status := .held }) (hkey ▸ hrow)
    · rw [hheld.paymentIntents, hintents, Table.find?_insert (hid ▸ hres.free), hid]
      by_cases heq : o.payload.txnID = txnID
      · simp [heq]
      · simp [heq, Ne.symm heq]
  constructor
  · rintro ⟨db₁, h₁, db₂, h₂, db₃, h₃, -⟩
    obtain ⟨⟨s, hs, hle⟩, -, hcolumns, hfree, -, -, houter, hnonce, hlinked⟩ :=
      (reserve_commits_iff i₁).mp ⟨db₁, h₁⟩
    have hres := reserve_ok h₁
    obtain ⟨haccounts, ⟨row, hrow, hheld⟩, hintents⟩ := hbefore hres (hold_ok h₂)
    obtain ⟨row₁, hrow₁, hissued⟩ := (hold_commits_iff i₂).mp ⟨db₂, h₂⟩
    rw [hres.offlineTokens, htoken] at hrow₁
    obtain rfl := Option.some.inj hrow₁
    obtain ⟨⟨s', r, hs', hr, -, hsa, hra⟩, hamount, -, -, -, hbfit, -, hbooked⟩ :=
      (commitLedger_commits_iff i₃ hrow hheld).mp ⟨db₃, h₃⟩
    rw [haccounts] at hs' hr
    obtain rfl : s = s' := Option.some.inj (hs.symm.trans hs')
    exact ⟨⟨hfree, hnonce, hissued⟩, hcolumns, houter, hlinked, (hintents _).mp hbooked, hbfit, hamount,
      s, r, hs, hr, hle, hsa, hra⟩
  · rintro ⟨hnew, hp⟩
    obtain ⟨s, r, hs, hr, hle, hsa, hra⟩ := hp.accounts
    have hfits := hp.columns
    simp only [PaymentIntent.columnsFit, Bool.and_eq_true] at hfits
    have hsr : 0 ≤ s.reservedBalance - o.token.value := by
      have hvalue := Int64.le_of_lt (Order.value_pos hp.amount_pos)
      rw [Int64.le_iff_toInt_le, Checked.toInt_sub s.reserved_check hvalue, Int64.toInt_zero]
      have := Checked.toInt_le hle
      omega
    obtain ⟨db₁, h₁⟩ := (reserve_commits_iff i₁).mpr ⟨⟨s, hs, hle⟩, by simp [hr], hp.columns,
      hnew.free, hdevice, by simp [htoken], hp.outer, hnew.nonce_free, hp.linked⟩
    have hres := reserve_ok h₁
    obtain ⟨db₂, h₂⟩ := (hold_commits_iff i₂).mpr
      ⟨o.token, hres.offlineTokens ▸ htoken, hnew.issued⟩
    obtain ⟨haccounts, ⟨row, hrow, hheld⟩, hintents⟩ := hbefore hres (hold_ok h₂)
    obtain ⟨db₃, h₃⟩ := (commitLedger_commits_iff i₃ hrow hheld).mpr
      ⟨⟨s, r, haccounts ▸ hs, haccounts ▸ hr, hsr, hsa, hra⟩, hp.amount_pos, hres.fits, hfits.1.1.1.1.1.1.1.2,
        hfits.1.1.1.1.1.1.2, hp.bookedFits, (hintents _).mpr (.inl rfl), (hintents _).mpr hp.booked⟩
    obtain ⟨db₄, h₄⟩ := publish_commits hres.fits i₄ db₃
    exact ⟨db₁, h₁, db₂, h₂, db₃, h₃, db₄, h₄⟩

/-! ## Calls in which nothing fails -/

/-- The payment passes the checks that `Settle` makes before its saga. -/
structure Order.Admitted (E : Externals) (signed : SignedPaymentIntent) (o : Order) (db : DB)
    (risk : E.RiskState) : Prop where
  attested : ∀ att, db.deviceAttestations.find? signed.payload.deviceID = some att →
    att.trustLevel ≠ "UNTRUSTED"
  device : ∃ device, db.devices.find? signed.payload.deviceID = some device ∧
    device.Signed E signed ∧ (E.assess risk device signed.payload o.hopCount).1.action ≠ .reject
  named : signed.payload.tokenID ≠ ""
  token : db.offlineTokens.find? signed.payload.tokenID = some o.token
  bank : E.verify E.bankPublicKey (canonicalTokenData o.token.tokenID o.token.ownerID o.token.value
    o.token.expiry) o.token.tokenSignature = true

/-- The saga of a call settles it if its four actions commit one after the other. -/
theorem Solo.settles_saga {env : EncryptedEnvelope} {hopCount : ℤ} {risk : E.RiskState}
    {i₁ i₂ i₃ i₄ i₅ : Input} {inputs : List Input} (h₁ : i₁.fault = none) (h₂ : i₂.fault = none)
    (h₃ : i₃.fault = none) (h₄ : i₄.fault = none) :
    Settles ⟨⟨env, hopCount, some o, .running 0, .saga⟩, db, risk⟩
        (i₁ :: i₂ :: i₃ :: i₄ :: i₅ :: inputs) ↔
      ∃ db₁, reserve o i₁ db = .ok ((), db₁) ∧ ∃ db₂, hold o i₂ db₁ = .ok ((), db₂) ∧
        ∃ db₃, commitLedger o i₃ db₂ = .ok ((), db₃) ∧ ∃ db₄, publish o i₄ db₃ = .ok ((), db₄) := by
  rw [settles_running h₁ rfl]
  refine exists_congr fun db₁ => and_congr_right fun _ => ?_
  rw [settles_running h₂ rfl]
  refine exists_congr fun db₂ => and_congr_right fun _ => ?_
  rw [settles_running h₃ rfl]
  refine exists_congr fun db₃ => and_congr_right fun _ => ?_
  rw [settles_running h₄ rfl]
  exact exists_congr fun db₄ => and_iff_left settles_done

/-- Nothing fails in the step, and neither the payload nor the token has expired. -/
structure Input.Quiet (signed : SignedPaymentIntent) (db : DB) (input : Input) : Prop where
  fault : input.fault = none
  readFault : input.readFault = none
  payload : input.now ≤ signed.payload.expiry
  token : ∀ tok, db.offlineTokens.find? signed.payload.tokenID = some tok → input.now ≤ tok.expiry

/-- A call that runs alone and in which nothing fails settles exactly if no final intent stands
under the envelope's id, the payment is admitted, and its saga goes through. -/
theorem Solo.settles_iff {env : EncryptedEnvelope} {signed : SignedPaymentIntent}
    (hopen : openEnvelope E env = .ok signed) (hopCount : ℤ) (db : DB) (risk : E.RiskState)
    {inputs : List Input} (hlen : 10 ≤ inputs.length)
    (hquiet : ∀ input ∈ inputs, input.Quiet signed db) :
    (start env hopCount db risk).Settles inputs ↔
      (∀ row, db.paymentIntents.find? env.txnID = some row → row.status.isFinal = false) ∧
        ∃ o : Order, o.env = env ∧ o.hopCount = hopCount ∧ o.payload = signed.payload ∧
          o.Admitted E signed db risk ∧ o.Fresh db ∧ o.Payable db := by
  match inputs, hlen with
  | i₀ :: i₁ :: i₂ :: i₃ :: i₄ :: i₅ :: i₆ :: i₇ :: i₈ :: i₉ :: rest, _ =>
    simp only [List.forall_mem_cons] at hquiet
    obtain ⟨h₀, h₁, h₂, h₃, h₄, h₅, h₆, h₇, h₈, -, -⟩ := hquiet
    rw [settles_idempotency h₀.readFault]
    refine and_congr_right fun _ => ?_
    simp only [hopen, Except.ok.injEq, exists_eq_left', settles_attestation h₁.readFault,
      settles_device, findDevice_ok_iff h₂.readFault h₂.payload, settles_token,
      findToken_ok_iff h₃.readFault h₃.token, settles_create h₄.fault,
      settles_saga h₅.fault h₆.fault h₇.fault h₈.fault]
    constructor
    · rintro ⟨hattested, device, ⟨hdevice, hsigned, hnamed⟩, o, ⟨rfl, rfl, hpayload, htoken, hbank⟩,
        hrisk, -, hsaga⟩
      rw [← hpayload] at hdevice htoken
      obtain ⟨hfresh, hpayable⟩ := (saga_commits_iff (by simp [hdevice]) htoken).mp hsaga
      rw [hpayload] at hdevice htoken
      exact ⟨o, rfl, rfl, hpayload, ⟨hattested, ⟨device, hdevice, hsigned, hrisk⟩, hnamed, htoken, hbank⟩,
        hfresh, hpayable⟩
    · rintro ⟨o, rfl, rfl, hpayload, hadm, hfresh, hpayable⟩
      obtain ⟨device, hdevice, hsigned, hrisk⟩ := hadm.device
      have hfits := hpayable.columns
      simp only [PaymentIntent.columnsFit, Bool.and_eq_true] at hfits
      refine ⟨hadm.attested, device, ⟨hdevice, hsigned, hadm.named⟩, o,
        ⟨rfl, rfl, hpayload, hadm.token, hadm.bank⟩, hrisk, hfits.1.1.1.1.1.1.1.1, ?_⟩
      refine (saga_commits_iff ?_ ?_).mpr ⟨hfresh, hpayable⟩
      · simp [hpayload, hdevice]
      · rw [hpayload]
        exact hadm.token

end OfflinePay.Settlement
