import OfflinePay.Settlement.Shared
import OfflinePay.Settlement.Success
import OfflinePay.System.World

/-!
# Amounts that cannot be paid

Reference: `internal/settlement/service.go`, step 8 of `Service.Settle` and the saga.

An amount above the token's value is refused before the saga, and nothing is lost. An amount of zero
or less passes that check. Its saga puts the token on hold, `LEDGER_COMMIT` is refused by the check
on `ledger_entries.amount`, and the compensation invalidates the token.
-/

namespace OfflinePay

open Settlement Repository Tx

variable {E : Externals}

/-- The columns of the intent that `RESERVE` creates fit. -/
def PaymentIntentPayload.fits (payload : PaymentIntentPayload) (hopCount : ℤ) : Bool :=
  Pg.varchar 100 payload.txnID && Pg.varchar 100 payload.senderID && Pg.varchar 100 payload.receiverID
    && Pg.varchar 10 payload.currency && Pg.varchar 100 payload.nonce && Pg.varchar 100 payload.deviceID
    && Pg.varchar 100 payload.tokenID && Pg.varchar 100 ("sig-hash-" ++ payload.txnID)
    && Pg.int4 hopCount

namespace Settlement

/-- The envelope is valid, whatever its amount: it passes all checks of `Settle` on the device and
the token, the payment is new, the token is `ISSUED` and covered by the sender's reservation. -/
structure OtherwiseValid (E : Externals) (env : EncryptedEnvelope) (hopCount : ℤ)
    (signed : SignedPaymentIntent) (token : OfflineToken) (db : DB) (risk : E.RiskState) :
    Prop where
  opened : openEnvelope E env = .ok signed
  unprocessed : ∀ row, db.paymentIntents.find? env.txnID = some row → row.status.isFinal = false
  attested : ∀ att, db.deviceAttestations.find? signed.payload.deviceID = some att →
    att.trustLevel ≠ "UNTRUSTED"
  device : ∃ device, db.devices.find? signed.payload.deviceID = some device ∧
    device.Signed E signed ∧ (E.assess risk device signed.payload hopCount).1.action ≠ .reject
  named : signed.payload.tokenID ≠ ""
  found : db.offlineTokens.find? signed.payload.tokenID = some token
  bank : E.verify E.bankPublicKey (canonicalTokenData token.tokenID token.ownerID token.value
    token.expiry) token.tokenSignature = true
  owner : token.ownerID = signed.payload.senderID
  unconsumed : token.consumed = false
  issued : token.status = .issued
  reserved : ∃ s, db.accountBalances.find? signed.payload.senderID = some s ∧
    token.value ≤ s.reservedBalance
  receiver : db.accountBalances.find? signed.payload.receiverID ≠ none
  free : db.paymentIntents.find? signed.payload.txnID = none
  nonce_free : db.nonceRegistry.find? signed.payload.nonce = none
  columns : signed.payload.fits hopCount = true
  outer : Pg.varchar 100 env.txnID = true
  linked : env.txnID = signed.payload.txnID ∨ db.paymentIntents.find? env.txnID ≠ none

/-- The order of a valid envelope whose amount the token covers. -/
def OtherwiseValid.order {env : EncryptedEnvelope} {hopCount : ℤ} {signed : SignedPaymentIntent}
    {token : OfflineToken} {db : DB} {risk : E.RiskState}
    (h : OtherwiseValid E env hopCount signed token db risk)
    (hcovered : signed.payload.amount ≤ token.value) : Order :=
  ⟨env, hopCount, signed.payload, token, Table.key_of_find? h.found, h.owner, h.unconsumed, hcovered⟩

/-- The token's status, the nonces, the balances and the ledger are as they were. -/
structure Costless (tokenID : String) (db db' : DB) : Prop where
  token : (db'.offlineTokens.find? tokenID).map OfflineToken.status
    = (db.offlineTokens.find? tokenID).map OfflineToken.status
  nonceRegistry : db'.nonceRegistry = db.nonceRegistry
  accountBalances : db'.accountBalances = db.accountBalances
  ledgerEntries : db'.ledgerEntries = db.ledgerEntries

theorem costless_of_quiet {tokenID : String} {db db' : DB} (h : db.Quiet db') :
    Costless tokenID db db' where
  token := by rw [h.offlineTokens]
  nonceRegistry := h.nonceRegistry
  accountBalances := h.accountBalances
  ledgerEntries := h.ledgerEntries

namespace Solo

variable {env : EncryptedEnvelope} {hopCount : ℤ} {signed : SignedPaymentIntent}
    {token : OfflineToken}
  {db : DB} {risk : E.RiskState}

/-- A valid envelope gets to the check on its token. -/
theorem exec_checks (h : OtherwiseValid E env hopCount signed token db risk) {device : Device}
    (hdevice : db.devices.find? signed.payload.deviceID = some device)
    (hsigned : device.Signed E signed)
    {i₀ i₁ i₂ : Input} (h₀ : i₀.Quiet signed db) (h₁ : i₁.Quiet signed db) (h₂ : i₂.Quiet signed db)
    (inputs : List Input) :
    (start env hopCount db risk).exec (i₀ :: i₁ :: i₂ :: inputs)
      = exec ⟨⟨env, hopCount, none, .create, .token signed device⟩, db, risk⟩ inputs := by
  have hnew := (alreadyProcessed_eq_none h₀.readFault).mpr h.unprocessed
  have hattested : checkAttestation signed.payload i₁ db = .ok () := by
    rw [checkAttestation, h₁.readFault, getDeviceAttestation]
    cases hatt : db.deviceAttestations.find? signed.payload.deviceID with
    | none => rfl
    | some att => exact if_neg (h.attested att hatt)
  have hfound := (findDevice_ok_iff h₂.readFault h₂.payload).mpr ⟨hdevice, hsigned, h.named⟩
  refine congrArg (exec · inputs) ?_
  simp [start, step, SettleCall.step, hnew, h.opened, hattested, hfound]

/-! ## Too much -/

/-- An amount above the token's value is refused before the saga. -/
theorem exec_above (h : OtherwiseValid E env hopCount signed token db risk)
    (habove : token.value < signed.payload.amount) {i₀ i₁ i₂ i₃ : Input} {inputs : List Input}
    (h₀ : i₀.Quiet signed db) (h₁ : i₁.Quiet signed db) (h₂ : i₂.Quiet signed db) :
    db.Quiet ((start env hopCount db risk).exec (i₀ :: i₁ :: i₂ :: i₃ :: inputs)).db := by
  obtain ⟨device, hdevice, hsigned, -⟩ := h.device
  rw [exec_checks h hdevice hsigned h₀ h₁ h₂]
  cases hfind : findToken E env hopCount signed.payload i₃ db with
  | ok o =>
    obtain ⟨-, -, hpayload, htoken⟩ := SettleCall.findToken_ok hfind
    obtain rfl : token = o.token := Option.some.inj (h.found.symm.trans htoken)
    rw [← hpayload] at habove
    exact absurd o.covered (Int64.not_le.mpr habove)
  | error f =>
    have hstep : step ⟨⟨env, hopCount, none, .create, .token signed device⟩, db, risk⟩ i₃
        = ⟨⟨env, hopCount, none, .create, .saveIntent f false⟩, db, risk⟩ := by
      simp [step, SettleCall.step, hfind]
    rw [exec, Run.exec_cons, hstep]
    have hwf : SettleCall.Wf ⟨env, hopCount, none, .create, .saveIntent f false⟩ := .inl ⟨rfl, rfl⟩
    exact refused_quiet (s := ⟨_, db, risk⟩) hwf rfl (Option.some_ne_none _) inputs

/-! ## Nothing or less -/

theorem step_running {o : Order} {input : Input} {db' : DB} (hfault : input.fault = none) {k : ℕ}
    {st : Saga.SagaStep Input DB} (hst : (steps o)[k]? = some st)
    (haction : st.action input db = .ok ((), db')) :
    step ⟨⟨env, hopCount, some o, .running k, .saga⟩, db, risk⟩ input
      = ⟨⟨env, hopCount, some o, .running (k + 1), .saga⟩, db', risk⟩ := by
  simp [step, SettleCall.step, SettleCall.runSaga, Saga.Pc.step, hst, hfault, withTx, haction,
    Saga.Pc.result?]

/-- The token of the order is no longer `ISSUED`, and the saga has not got past `CONSUME_TOKEN`. -/
structure Spoiled (o : Order) (s : Solo E) : Prop where
  wf : s.call.Wf
  order : s.call.order = some o
  executed : s.call.saga.executed ≤ 2
  token : ∃ row, s.db.offlineTokens.find? o.payload.tokenID = some row ∧ row.status ≠ .issued

/-- Without a positive amount the token stays spoiled. -/
theorem Spoiled.step {o : Order} {s : Solo E} (h : Spoiled o s) (hamount : ¬0 < o.payload.amount)
    (input : Input) : Spoiled o (s.step input) := by
  obtain ⟨hmoved, hwf⟩ := moved h.wf input
  obtain ⟨row, hrow, hstatus⟩ := h.token
  generalize s.step input = s' at hmoved hwf ⊢
  generalize s.commits input = wrote at hmoved
  cases hmoved with
  | quiet _ hdb _ horder hex =>
    exact ⟨hwf, horder.trans h.order, hex ▸ h.executed, row, hdb.offlineTokens ▸ hrow, hstatus⟩
  | begin _ horder => exact absurd (h.order.symm.trans horder) nofun
  | @phase o' p horder horder' hadv heffect =>
    obtain rfl : o = o' := Option.some.inj (h.order.symm.trans horder)
    have hstanding := (h.wf.saga (by simp [h.order])).standing_le
    have hex := h.executed
    cases heffect with
    | reserve hres =>
      exact ⟨hwf, horder', by rw [hadv.2.2.1]; decide, row, hres.offlineTokens ▸ hrow, hstatus⟩
    | hold hheld =>
      obtain ⟨row', hrow', hissued, -⟩ := hheld.offlineTokens
      obtain rfl := Option.some.inj (hrow.symm.trans hrow')
      exact absurd hissued hstatus
    | commitLedger hcommitted => exact absurd hcommitted.amount_pos hamount
    | publish => exact absurd hadv.1 (by omega)
    | unreserve hres =>
      exact ⟨hwf, horder', hadv.2.2 ▸ hex, row, hres.offlineTokens ▸ hrow, hstatus⟩
    | unhold hunheld =>
      refine ⟨hwf, horder', hadv.2.2 ▸ hex, ?_⟩
      obtain ⟨row', hrow', -, hset⟩ | ⟨-, hsame⟩ := hunheld.offlineTokens
      · have hkey := Table.key_of_find? hrow'
        refine ⟨{ row' with status := .invalidated, releasedAt := some input.now }, ?_, nofun⟩
        rw [hset, ← hkey]
        exact Table.find?_set_self (r := { row' with status := .invalidated, releasedAt := some input.now })
          (hkey ▸ hrow')
      · exact ⟨row, hsame ▸ hrow, hstatus⟩
    | undoLedger =>
      have hthree : s.call.saga.standing = 3 := hadv.1
      omega

/-- The saga of a valid envelope gets to put the token on hold. -/
theorem exec_held (h : OtherwiseValid E env hopCount signed token db risk)
    (hcovered : signed.payload.amount ≤ token.value) {i₀ i₁ i₂ i₃ i₄ i₅ i₆ : Input}
    (h₀ : i₀.Quiet signed db) (h₁ : i₁.Quiet signed db) (h₂ : i₂.Quiet signed db)
    (h₃ : i₃.Quiet signed db) (h₄ : i₄.Quiet signed db) (h₅ : i₅.Quiet signed db)
    (h₆ : i₆.Quiet signed db) (inputs : List Input) :
    ∃ s : Solo E, Spoiled (h.order hcovered) s ∧
      (start env hopCount db risk).exec (i₀ :: i₁ :: i₂ :: i₃ :: i₄ :: i₅ :: i₆ :: inputs)
        = s.exec inputs := by
  obtain ⟨device, hdevice, hsigned, hrisk⟩ := h.device
  have hfind : findToken E env hopCount signed.payload i₃ db = .ok (h.order hcovered) :=
    (findToken_ok_iff h₃.readFault h₃.token).mpr ⟨rfl, rfl, rfl, h.found, h.bank⟩
  have hfits := h.columns
  simp only [PaymentIntentPayload.fits, Bool.and_eq_true] at hfits
  obtain ⟨db₁, hreserve⟩ : ∃ db₁, reserve (h.order hcovered) i₅ db = .ok ((), db₁) :=
    (reserve_commits_iff i₅).mpr
    ⟨h.reserved, h.receiver, h.columns, h.free, by simp [OtherwiseValid.order, hdevice],
      by simp [OtherwiseValid.order, h.found], h.outer, h.nonce_free, h.linked⟩
  have hres := reserve_ok hreserve
  obtain ⟨db₂, hhold⟩ : ∃ db₂, hold (h.order hcovered) i₆ db₁ = .ok ((), db₂) :=
    (hold_commits_iff i₆).mpr ⟨token, hres.offlineTokens ▸ h.found, h.issued⟩
  obtain ⟨row, hrow, -, htokens⟩ := (hold_ok hhold).offlineTokens
  refine ⟨⟨⟨env, hopCount, some (h.order hcovered), .running 2, .saga⟩, db₂,
    (E.assess risk device signed.payload hopCount).2⟩, ⟨⟨Option.some_ne_none _,
      Nat.le_of_ble_eq_true rfl, rfl⟩, rfl, le_refl _, { row with status := .held }, ?_, by simp⟩, ?_⟩
  · have hkey := Table.key_of_find? hrow
    rw [htokens, ← hkey]
    exact Table.find?_set_self (r := { row with status := .held }) (hkey ▸ hrow)
  · rw [exec_checks h hdevice hsigned h₀ h₁ h₂]
    have hbegin : step ⟨⟨env, hopCount, none, .create, .token signed device⟩, db, risk⟩ i₃
        = ⟨⟨env, hopCount, some (h.order hcovered), .create, .saga⟩, db,
          (E.assess risk device signed.payload hopCount).2⟩ := by
      simp [step, SettleCall.step, hfind, hrisk]
    have hcreate : step ⟨⟨env, hopCount, some (h.order hcovered), .create, .saga⟩, db,
          (E.assess risk device signed.payload hopCount).2⟩ i₄
        = ⟨⟨env, hopCount, some (h.order hcovered), .running 0, .saga⟩, db,
          (E.assess risk device signed.payload hopCount).2⟩ := by
      simp [step, SettleCall.step, SettleCall.runSaga, Saga.Pc.step, h₄.fault, withTx, createSagaState,
        check, OtherwiseValid.order, hfits.1.1.1.1.1.1.1.1, Saga.Pc.result?]
    simp only [exec, Run.exec_cons]
    rw [hbegin, hcreate, step_running h₅.fault rfl hreserve, step_running h₆.fault rfl hhold]

/-- For every database and every envelope that is valid but for an amount that is not between 1 and
the token's value: a call in which nothing fails returns, and it has cost nothing exactly if the
amount is above the token's value. -/
theorem unpayable_costless_iff (h : OtherwiseValid E env hopCount signed token db risk)
    (hamount : ¬(1 ≤ signed.payload.amount ∧ signed.payload.amount ≤ token.value))
    {inputs : List Input}
    (hlen : 31 ≤ inputs.length) (hquiet : ∀ input ∈ inputs, input.Quiet signed db) :
    ((start env hopCount db risk).exec inputs).status? ≠ none ∧
      (Costless signed.payload.tokenID db ((start env hopCount db risk).exec inputs).db ↔
        token.value < signed.payload.amount) := by
  refine ⟨returns env hopCount db risk hlen, ?_⟩
  match inputs, hlen with
  | i₀ :: i₁ :: i₂ :: i₃ :: i₄ :: i₅ :: i₆ :: rest, _ =>
    simp only [List.forall_mem_cons] at hquiet
    obtain ⟨h₀, h₁, h₂, h₃, h₄, h₅, h₆, -⟩ := hquiet
    by_cases habove : token.value < signed.payload.amount
    · exact iff_of_true (costless_of_quiet (exec_above h habove h₀ h₁ h₂)) habove
    · have hcovered : signed.payload.amount ≤ token.value := Int64.not_lt.mp habove
      refine iff_of_false (fun hcostless => ?_) habove
      have hnegative : ¬0 < signed.payload.amount := fun hpos => hamount ⟨by
        rw [Int64.lt_iff_toInt_lt] at hpos
        rw [Int64.le_iff_toInt_le]
        exact hpos, hcovered⟩
      obtain ⟨s, hspoiled, hexec⟩ := exec_held h hcovered h₀ h₁ h₂ h₃ h₄ h₅ h₆ rest
      have hend := invariant (I := Spoiled (h.order hcovered))
        (fun s input hs => hs.step hnegative input) hspoiled rest
      obtain ⟨row, hrow, hstatus⟩ := hend.token
      have hsame := hcostless.token
      rw [hexec, h.found] at hsame
      change (((s.exec rest).db.offlineTokens.find? (h.order hcovered).payload.tokenID).map _) = _ at hsame
      rw [hrow, Option.map_some, Option.map_some, h.issued] at hsame
      exact hstatus (Option.some.inj hsame)

end Solo

end Settlement

/-! ## Payments of 130 and of 0 with a token of 100 -/

/-- A payment of `alice` to `bob` with this amount. -/
def unpayable (amount : Int64) : SignedPaymentIntent :=
  PaymentIntentPayload.signedBy ⟨"T", "alice", "bob", amount, "USD", "N", 1000000000000, "phone", "K"⟩
    "alice-key"

/-- `alice`'s token as it was issued. -/
def unpaidToken : OfflineToken :=
  ⟨"K", "alice", 100, 1000000000000, false, none,
    "bank/" ++ canonicalTokenData "K" "alice" 100 1000000000000, 0, none, 1 / 10, .issued⟩

/-- `alice` holds the token. -/
def unpaidDB : DB :=
  ((World.start (E := .simple fun _ => none) ()).exec (Label.setup ["K"])).db

theorem unpaidDB_rows :
    unpaidDB.paymentIntents.find? "T" = none ∧ unpaidDB.deviceAttestations.find? "phone" = none ∧
      unpaidDB.devices.find? "phone" = some ⟨"phone", "alice", "alice-key", 1, .active, 0, none⟩ ∧
      unpaidDB.offlineTokens.find? "K" = some unpaidToken ∧
      unpaidDB.accountBalances.find? "bob" ≠ none ∧ unpaidDB.nonceRegistry.find? "N" = none ∧
      (unpaidDB.accountBalances.find? "alice").any (fun s => 100 ≤ s.reservedBalance) = true := by
  decide +kernel

/-- The envelope is valid but for its amount. -/
theorem otherwiseValid_unpayable (amount : Int64) :
    OtherwiseValid (.simple fun _ => some (unpayable amount)) ⟨"", "", "N", "", "T", ""⟩ 0 (unpayable amount)
      unpaidToken unpaidDB () := by
  obtain ⟨hintent, hattestation, hdevice, htoken, hbob, hnonce, halice⟩ := unpaidDB_rows
  exact {
    opened := rfl
    unprocessed := fun row hrow => absurd (hintent.symm.trans hrow) nofun
    attested := fun att hatt => absurd (hattestation.symm.trans hatt) nofun
    device := ⟨_, hdevice, ⟨rfl, beq_self_eq_true _⟩, nofun⟩
    named := show "K" ≠ "" by decide
    found := htoken
    bank := by
      change (unpaidToken.tokenSignature
        == "bank" ++ "/" ++ canonicalTokenData "K" "alice" 100 1000000000000) = true
      decide +kernel
    owner := rfl
    unconsumed := rfl
    issued := rfl
    reserved := by
      obtain ⟨s, hs, hle⟩ := (Option.any_eq_true _ _).mp halice
      exact ⟨s, hs, of_decide_eq_true hle⟩
    receiver := hbob
    free := hintent
    nonce_free := hnonce
    columns := by
      change PaymentIntentPayload.fits ⟨"T", "alice", "bob", 0, "USD", "N", 1000000000000, "phone", "K"⟩ 0 = true
      decide +kernel
    outer := by decide
    linked := .inl rfl }

/-- The payment, in which nothing fails. -/
def unpayableRun (amount : Int64) : Solo (.simple fun _ => some (unpayable amount)) :=
  (Solo.start ⟨"", "", "N", "", "T", ""⟩ 0 unpaidDB ()).exec (List.replicate 31 { now := 1 })

/-- The payment of 130 costs nothing. -/
theorem unpayable_costless_iff_above : Costless "K" unpaidDB (unpayableRun 130).db := by
  refine (Solo.unpayable_costless_iff (otherwiseValid_unpayable 130) (by decide) ?_ ?_).2.mpr (by decide)
  · decide
  · intro input hinput
    obtain rfl := List.eq_of_mem_replicate hinput
    refine ⟨rfl, rfl, by decide, fun tok htok => ?_⟩
    obtain rfl := Option.some.inj (unpaidDB_rows.2.2.2.1.symm.trans htok)
    decide

/-- The payment of 0 fails and costs the token. -/
theorem nothing_costs_token :
    OtherwiseValid (.simple fun _ => some (unpayable 0)) ⟨"", "", "N", "", "T", ""⟩ 0 (unpayable 0)
        unpaidToken unpaidDB () ∧
      (unpayableRun 0).status? = some .failed ∧
      ((unpayableRun 0).db.offlineTokens.find? "K").map OfflineToken.status = some .invalidated :=
  ⟨otherwiseValid_unpayable 0, by decide +kernel⟩

end OfflinePay
