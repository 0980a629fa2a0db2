import OfflinePay.Settlement.Errors
import OfflinePay.Settlement.Shared
import OfflinePay.Settlement.Success

/-!
# Deliveries of one payment

Reference: `internal/settlement/service.go`, `Settle`; `cmd/replaystorm/main.go`.

An envelope may be delivered any number of times, over different relays. `SettlesAlone` says that
`Settle` would settle it if no other delivery came in between. A delivery that comes too late for
that, as another one has committed its `RESERVE` (`Reserved`), goes on to be reported as a duplicate
(`Late.step`), and touches nothing that the other one reads.
-/

namespace OfflinePay

open Tx Repository Settlement

variable {E : Externals}

/-! ## The same books -/

/-- The databases differ in events only. -/
def DB.SameBooks (db db' : DB) : Prop := ∀ ids, DB.Overlaid ids db db'

instance : IsPreorder DB DB.SameBooks where
  refl db ids := .refl ids db
  trans _ _ _ hab hbc ids := (hab ids).trans (hbc ids)

namespace DB.SameBooks

variable {db db' : DB}

theorem refl (db : DB) : db.SameBooks db := Std.Refl.refl db

theorem trans {db'' : DB} (h : db.SameBooks db') (h' : db'.SameBooks db'') : db.SameBooks db'' :=
  IsTrans.trans _ _ _ h h'

theorem of_overlaid {ids : List String} (h : ∀ ids', DB.Overlaid (ids ++ ids') db db') :
    db.SameBooks db' := fun ids' =>
  { h ids' with same := fun txnID ht => (h ids').same txnID (List.mem_append_right _ ht) }

theorem intents (h : db.SameBooks db') (txnID : String) :
    db'.paymentIntents.find? txnID = db.paymentIntents.find? txnID :=
  (h [txnID]).same txnID List.mem_cons_self

end DB.SameBooks

theorem Repository.createOutboxEvent_books (streamName eventType : String) (payload : Json) :
    Keeps DB.SameBooks (createOutboxEvent streamName eventType payload) :=
  keeps_createOutboxEvent (fun db _ _ ids => { DB.Overlaid.refl ids db with }) _ _ _

theorem Repository.createPaymentEvent_books (txnID eventType : String) (eventVersion : ℕ)
    (payload : Json) (now : Time) :
    Keeps DB.SameBooks (createPaymentEvent txnID eventType eventVersion payload now) :=
  keeps_createPaymentEvent (fun db _ ids => { DB.Overlaid.refl ids db with }) _ _ _ _ _

/-- A recorded failure is not in the books. -/
theorem Recovery.recordFailure_books (classifier : Classifier) (policy : Policy)
    (event : FailureEvent) (failureID recoveryID : String) (now : Time) :
    Keeps DB.SameBooks (recordFailure classifier policy event failureID recoveryID now) := by
  refine keeps_bind (keeps_check _ _) fun _ =>
    keeps_bind (keeps_insertFailure (fun db _ ids => { DB.Overlaid.refl ids db with }) _ _ _) fun _ =>
    keeps_bind (keeps_insertOperation (fun db _ ids => { DB.Overlaid.refl ids db with }) _)
      fun fresh => ?_
  cases fresh with
  | true =>
    exact keeps_bind (keeps_createAuditEvent (fun db _ ids => { DB.Overlaid.refl ids db with }) _ _ _)
      fun _ => keeps_bind (createPaymentEvent_books _ _ _ _ _) fun _ => createOutboxEvent_books _ _ _
  | false => exact keeps_pure ()

/-! ## A payment that settles when it runs alone -/

/-- `Settle` settles the envelope over this many hops if it runs alone, whatever the risk engine has
seen. -/
def SettlesAlone (E : Externals) (db : DB) (env : EncryptedEnvelope) (signed : SignedPaymentIntent)
    (hopCount : ℤ) : Prop :=
  ∀ (risk : E.RiskState) (inputs : List Input), 10 ≤ inputs.length →
    (∀ input ∈ inputs, input.Quiet signed db) → (Solo.start env hopCount db risk).Settles inputs

section Alone

variable {db₀ : DB} {env : EncryptedEnvelope} {signed : SignedPaymentIntent} {hopCount : ℤ}

theorem SettlesAlone.exists_order (h : SettlesAlone E db₀ env signed hopCount)
    (hopen : openEnvelope E env = .ok signed) {input : Input} (hquiet : input.Quiet signed db₀)
    (risk : E.RiskState) : ∃ o : Order, o.env = env ∧ o.hopCount = hopCount ∧
      o.payload = signed.payload ∧ o.Admitted E signed db₀ risk ∧ o.Fresh db₀ ∧ o.Payable db₀ := by
  have hlen : 10 ≤ (List.replicate 10 input).length := by simp
  have hall : ∀ i ∈ List.replicate 10 input, i.Quiet signed db₀ := by simp [hquiet]
  exact ((Solo.settles_iff hopen hopCount db₀ risk hlen hall).mp (h risk _ hlen hall)).2

/-- Nothing fails on the way. -/
theorem SettlesAlone.onTrack (h : SettlesAlone E db₀ env signed hopCount) (risk : E.RiskState)
    {inputs : List Input} (hquiet : ∀ input ∈ inputs, input.Quiet signed db₀) :
    ((Solo.start env hopCount db₀ risk).exec inputs).call.OnTrack := by
  cases inputs with
  | nil => trivial
  | cons input inputs =>
    by_contra hoff
    have hpadded : ∀ i ∈ (input :: inputs) ++ List.replicate 10 input, i.Quiet signed db₀ := by
      intro i hi
      rcases List.mem_append.mp hi with hi | hi
      · exact hquiet i hi
      · rw [List.eq_of_mem_replicate hi]
        exact hquiet input List.mem_cons_self
    have hsettles := h risk _ (by simp) hpadded
    rw [Solo.Settles, Solo.exec, Run.exec_append] at hsettles
    exact Solo.not_settles hoff _ hsettles

/-- The risk engine does not reject the payment. -/
theorem SettlesAlone.not_rejected (h : SettlesAlone E db₀ env signed hopCount)
    (hopen : openEnvelope E env = .ok signed) {input : Input} (hquiet : input.Quiet signed db₀)
    {device : Device} (hdevice : db₀.devices.find? signed.payload.deviceID = some device)
    (risk : E.RiskState) : (E.assess risk device signed.payload hopCount).1.action ≠ .reject := by
  obtain ⟨o, -, rfl, -, hadmitted, -⟩ := h.exists_order hopen hquiet risk
  obtain ⟨device', hdevice', -, hrisk⟩ := hadmitted.device
  rw [hdevice] at hdevice'
  rw [Option.some.inj hdevice']
  exact hrisk

end Alone

/-! ## After the first reservation -/

/-- What a payment does not change of what its deliveries read. -/
structure Lasting (payload : PaymentIntentPayload) (db₀ db : DB) : Prop where
  devices : db.devices = db₀.devices
  deviceAttestations : db.deviceAttestations = db₀.deviceAttestations
  accounts : ∀ accountID, db₀.accountBalances.find? accountID ≠ none →
    db.accountBalances.find? accountID ≠ none
  token : ∀ tok, db₀.offlineTokens.find? payload.tokenID = some tok →
    ∃ tok', db.offlineTokens.find? payload.tokenID = some tok' ∧ tok'.ownerID = tok.ownerID ∧
      tok'.value = tok.value ∧ tok'.expiry = tok.expiry ∧ tok'.tokenSignature = tok.tokenSignature

theorem Lasting.sameBooks {payload : PaymentIntentPayload} {db₀ db db' : DB}
    (h : Lasting payload db₀ db) (hsame : db.SameBooks db') : Lasting payload db₀ db' where
  devices := (hsame []).devices.trans h.devices
  deviceAttestations := (hsame []).deviceAttestations.trans h.deviceAttestations
  accounts := by
    rw [(hsame []).accountBalances]
    exact h.accounts
  token := by
    rw [(hsame []).offlineTokens]
    exact h.token

namespace Settlement

/-- A delivery that has not reserved: it is on its way to `RESERVE`, or it has failed as a duplicate.
-/
def SettleCall.Late (db₀ : DB) (env : EncryptedEnvelope) (signed : SignedPaymentIntent)
    (call : SettleCall) : Prop :=
  call.env = env ∧
    match call.pc with
    | .idempotency => True
    | .attestation signed' | .device signed' => signed' = signed
    | .token signed' device =>
      signed' = signed ∧ db₀.devices.find? signed.payload.deviceID = some device
    | .saga => (∃ o, call.order = some o ∧ o.env = env ∧ o.payload = signed.payload ∧
          o.hopCount = call.hopCount) ∧
        match call.saga with
        | .create | .running 0 => True
        | .compensating executed remaining _ err =>
          executed = 0 ∧ remaining = 0 ∧ (sagaFailure err).status = .duplicate
        | _ => False
    | .saveIntent f _ | .saveOutbox f _ | .saveEvent f _ | .lookup f | .record f _ =>
      f.status = .duplicate
    | .returned status _ => status = .duplicate

theorem sagaFailure_of_looksDuplicate {err : GoError} (h : err.looksDuplicate = true) :
    (sagaFailure err).status = .duplicate := by
  by_cases htext : err.text = "token_already_consumed_concurrent"
  · unfold sagaFailure
    split_ifs
    · rfl
    · rfl
    · rfl
    · next hnot _ => simp [htext] at hnot
  · exact (sagaFailure_status htext).mpr h

theorem containsText_append {s phrase : String} (h : containsText s phrase = true) (t : String) :
    containsText (s ++ t) phrase = true := by
  simp only [containsText, Recovery.contains, decide_eq_true_eq, String.toList_append] at h ⊢
  exact h.trans (List.prefix_append _ _).isInfix

theorem insufficientReserved_looksDuplicate (reserved value : Int64) :
    (insufficientReserved reserved value).looksDuplicate = true := by
  have hphrase : containsText "insufficient reserved balance: has " "insufficient reserved balance"
      = true := by
    decide +kernel
  have hcontains : containsText (insufficientReserved reserved value).text
      "insufficient reserved balance" = true :=
    containsText_append (containsText_append (containsText_append hphrase _) _) _
  simp [GoError.looksDuplicate, duplicatePhrases, hcontains]

/-- An insert under an id that is taken. -/
theorem createPaymentIntent_taken {intent : PaymentIntent} {db : DB} {e : GoError}
    (hfit : intent.columnsFit = true) (htaken : db.paymentIntents.find? intent.txnID ≠ none)
    (h : createPaymentIntent intent db = .error e) : e = Pg.uniqueViolation "payment_intents_pkey" := by
  simp only [createPaymentIntent, bind_error, check_error, check_ok, view_ok, view_ne_error,
    false_or] at h
  rcases h with ⟨hunfit, -⟩ | ⟨_, _, ⟨-, rfl⟩, _, _, ⟨rfl, rfl⟩, ⟨-, rfl⟩ | ⟨_, _, ⟨hfree, -⟩, -⟩⟩
  · exact absurd hfit hunfit
  · rfl
  · exact absurd hfree htaken

/-- `RESERVE` fails on an intent that is there, and looks like a duplicate. -/
theorem reserve_late {o : Order} (input : Input) {db : DB}
    (hfit : (o.reservedIntent 0).columnsFit = true)
    (hintent : db.paymentIntents.find? o.payload.txnID ≠ none)
    (haccounts : ¬o.MissesAccount db) :
    ∃ e, reserve o input db = .error e ∧ e.looksDuplicate = true := by
  cases h : reserve o input db with
  | ok result =>
    have hres : Reserved o db result.2 := reserve_ok h
    exact absurd hres.free hintent
  | error e =>
    refine ⟨e, rfl, ?_⟩
    simp only [reserve, bind_error, lockBalances_ok, check_ok, check_error, mapError_error, mapError_ok,
      createPaymentIntent_ok] at h
    rcases h with h | ⟨bals, _, ⟨-, -, rfl⟩, ⟨-, rfl⟩ | ⟨_, _, ⟨-, rfl⟩, ⟨e, h, rfl⟩ |
      ⟨_, _, ⟨-, hfree, -⟩, -⟩⟩⟩
    · exact absurd (missesAccount_of_lock h) haccounts
    · exact insufficientReserved_looksDuplicate _ _
    · have hfit' : (o.reservedIntent input.now).columnsFit = true := hfit
      rw [createPaymentIntent_taken hfit' hintent h]
      decide +kernel
    · exact absurd hfree hintent

/-- The checks on the token let a late delivery through, or take it for a duplicate. -/
theorem findToken_late {env : EncryptedEnvelope} {hopCount : ℤ} {payload : PaymentIntentPayload}
    {input : Input} {db : DB} {tok : OfflineToken} {f : Failure}
    (hread : input.readFault = none) (htok : db.offlineTokens.find? payload.tokenID = some tok)
    (hbank : E.verify E.bankPublicKey (canonicalTokenData tok.tokenID tok.ownerID tok.value
      tok.expiry) tok.tokenSignature = true)
    (howner : tok.ownerID = payload.senderID) (hnow : input.now ≤ tok.expiry)
    (hcovered : payload.amount ≤ tok.value)
    (h : findToken E env hopCount payload input db = .error f) : f.status = .duplicate := by
  unfold findToken at h
  split at h
  · next e hfault =>
    rw [hread] at hfault
    cases hfault
  · next hnone =>
    rw [getToken, htok] at hnone
    cases hnone
  · next token _ htoken =>
    obtain rfl : token = tok := Option.some.inj (htoken.symm.trans htok)
    rw [checkToken, if_neg (by simp [hbank]), dif_pos howner, if_neg (not_lt.mpr hnow)] at h
    split_ifs at h
    obtain rfl := Except.error.inj h
    rfl

namespace SettleCall

section Late

variable {db₀ db : DB} {env : EncryptedEnvelope} {signed : SignedPaymentIntent} {call : SettleCall}

/-- A write whose error is ignored, if it keeps the books. -/
theorem Late.write {body : DBTx Unit} {next : Pc} (hnext : { call with pc := next }.Late db₀ env signed)
    (fault : Option GoError) (hbody : db.SameBooks (withTx fault body db).2) :
    (call.write fault body next db).1.Late db₀ env signed ∧
      db.SameBooks (call.write fault body next db).2.1 := by
  unfold SettleCall.write
  split
  · next db' h =>
    rw [h] at hbody
    exact ⟨hnext, hbody⟩
  · next e db' h =>
    rw [h] at hbody
    exact ⟨hnext, hbody⟩

/-- The saga of a late delivery gets as far as `RESERVE`, and commits nothing. -/
theorem Late.runSaga (hlate : call.Late db₀ env signed) (hpc : call.pc = .saga) {o : Order}
    (hfit : (o.reservedIntent 0).columnsFit = true)
    (hintent : db.paymentIntents.find? o.payload.txnID ≠ none) (haccounts : ¬o.MissesAccount db)
    {input : Input} (hfault : input.fault = none) :
    (call.runSaga o input db).1.Late db₀ env signed ∧ (call.runSaga o input db).2.1 = db := by
  obtain ⟨henv, hsaga⟩ := hlate
  simp only [hpc] at hsaga
  obtain ⟨hfound, hstage⟩ := hsaga
  have hid : Pg.varchar 100 o.payload.txnID = true := by
    simp only [PaymentIntent.columnsFit, Bool.and_eq_true] at hfit
    exact hfit.1.1.1.1.1.1.1.1
  unfold SettleCall.runSaga
  dsimp only
  rw [hfault]
  split at hstage
  · next hcreate =>
    have hstep : Saga.Pc.step (createSagaState o.payload.txnID) (steps o) none input .create db
        = (.running 0, db, none) := by
      simp [Saga.Pc.step, withTx, createSagaState, check, hid]
    rw [hcreate, hstep]
    exact ⟨⟨henv, hfound, trivial⟩, rfl⟩
  · next hrunning =>
    obtain ⟨e, he, hlooks⟩ := reserve_late input hfit hintent haccounts
    have hstep : Saga.Pc.step (createSagaState o.payload.txnID) (steps o) none input (.running 0) db
        = (.compensating 0 0 1 (e.wrap "saga aborted on step RESERVE: "), db, none) := by
      have htx : withTx none (reserve o input) db = (.error e, db) := by simp [withTx, he]
      simp only [Saga.Pc.step, steps, List.getElem?_cons_zero, htx]
      rfl
    rw [hrunning, hstep]
    refine ⟨⟨henv, hfound, rfl, rfl, sagaFailure_of_looksDuplicate ?_⟩, rfl⟩
    rw [← hlooks]
    exact looksDuplicate_wrap (p := "saga aborted on step RESERVE") (by decide +kernel) e
  · next executed remaining attempt err hcompensating =>
    obtain ⟨rfl, rfl, hduplicate⟩ := hstage
    rw [hcompensating]
    exact ⟨⟨henv, hduplicate⟩, rfl⟩
  · exact hstage.elim

/-- A late delivery stays one, and keeps the books. -/
theorem Late.step (hlate : call.Late db₀ env signed) (hwf : call.Wf) (hopen : openEnvelope E env = .ok signed)
    (halone : SettlesAlone E db₀ env signed call.hopCount) (hid : env.txnID = signed.payload.txnID)
    (hlasting : Lasting signed.payload db₀ db)
    (hintent : db.paymentIntents.find? signed.payload.txnID ≠ none) {input : Input}
    (hquiet : input.Quiet signed db₀) (risk : E.RiskState) :
    (call.step E input db risk).1.Late db₀ env signed ∧ db.SameBooks (call.step E input db risk).2.1 := by
  obtain ⟨o, hoenv, hohop, hopayload, hadmitted, -, hpayable⟩ := halone.exists_order hopen hquiet risk
  obtain ⟨device, hdevice, hsigned, -⟩ := hadmitted.device
  obtain ⟨tok, htok, htokOwner, htokValue, htokExpiry, htokSignature⟩ :=
    hlasting.token o.token hadmitted.token
  have hrefl := DB.SameBooks.refl db
  obtain ⟨rfl, hlate⟩ := hlate
  have hwrite : ∀ {body next}, { call with pc := next }.Late db₀ call.env signed →
      Keeps DB.SameBooks body →
      (call.write input.fault body next db).1.Late db₀ call.env signed ∧
        db.SameBooks (call.write input.fault body next db).2.1 :=
    fun hnext hbody => Late.write hnext _ (keeps_withTx hbody _ db)
  unfold SettleCall.step
  cases hpc : call.pc with
  | idempotency =>
    dsimp only
    split
    · exact ⟨⟨rfl, rfl⟩, hrefl⟩
    · simp only [hopen]
      exact ⟨⟨rfl, rfl⟩, hrefl⟩
  | attestation signed' =>
    obtain rfl : signed' = signed := by simpa only [hpc] using hlate
    have hok : checkAttestation signed'.payload input db = .ok () := by
      rw [checkAttestation, hquiet.readFault, getDeviceAttestation, hlasting.deviceAttestations]
      cases hatt : db₀.deviceAttestations.find? signed'.payload.deviceID with
      | none => rfl
      | some att => exact if_neg (hadmitted.attested att hatt)
    simp only [hok]
    exact ⟨⟨rfl, rfl⟩, hrefl⟩
  | device signed' =>
    obtain rfl : signed' = signed := by simpa only [hpc] using hlate
    have hok : findDevice E signed' input db = .ok device :=
      (findDevice_ok_iff hquiet.readFault hquiet.payload).mpr
        ⟨by rw [hlasting.devices]; exact hdevice, hsigned, hadmitted.named⟩
    simp only [hok]
    exact ⟨⟨rfl, rfl, hdevice⟩, hrefl⟩
  | token signed' device' =>
    obtain ⟨rfl, hdevice'⟩ : signed' = signed ∧
        db₀.devices.find? signed.payload.deviceID = some device' := by
      simpa only [hpc] using hlate
    have hrisk := halone.not_rejected hopen hquiet hdevice' risk
    cases hfound : findToken E call.env call.hopCount signed'.payload input db with
    | error f =>
      have hkey : tok.tokenID = o.token.tokenID :=
        (Table.key_of_find? htok).trans (Table.key_of_find? hadmitted.token).symm
      simp only [hfound]
      refine ⟨⟨rfl, findToken_late hquiet.readFault htok ?_ ?_ ?_ ?_ hfound⟩, hrefl⟩
      · rw [hkey, htokOwner, htokValue, htokExpiry, htokSignature]
        exact hadmitted.bank
      · rw [htokOwner, o.owner_eq, hopayload]
      · rw [htokExpiry]
        exact hquiet.token o.token hadmitted.token
      · rw [htokValue, ← hopayload]
        exact o.covered
    | ok o' =>
      obtain ⟨hoenv', hohop', hopayload', -⟩ := SettleCall.findToken_ok hfound
      have hcreate : call.saga = .create := by
        rw [SettleCall.Wf, hpc] at hwf
        exact hwf.2
      simp only [hfound, if_neg hrisk]
      refine ⟨⟨rfl, ⟨o', rfl, hoenv', hopayload', hohop'⟩, ?_⟩, hrefl⟩
      simp only [hcreate]
  | saga =>
    have hsaga := hlate
    simp only [hpc] at hsaga
    obtain ⟨o', horder, -, hopayload', hohop'⟩ := hsaga.1
    have hpayloads : o'.payload = o.payload := hopayload'.trans hopayload.symm
    have hfit : (o'.reservedIntent 0).columnsFit = true := by
      have hsame : o'.reservedIntent 0 = o.reservedIntent 0 := by
        simp only [Order.reservedIntent, hpayloads, hohop'.trans hohop.symm]
      rw [hsame]
      exact hpayable.columns
    have haccounts : ¬o'.MissesAccount db := by
      obtain ⟨s, r, hs, hr, -⟩ := hpayable.accounts
      rw [Order.MissesAccount, hpayloads, not_or]
      exact ⟨hlasting.accounts _ (by simp [hs]), hlasting.accounts _ (by simp [hr])⟩
    obtain ⟨hnext, hsame⟩ := Late.runSaga ⟨rfl, hlate⟩ hpc hfit (hopayload' ▸ hintent) haccounts
      hquiet.fault
    simp only [horder]
    rw [hsame]
    exact ⟨hnext, hrefl⟩
  | saveIntent f recover =>
    have hduplicate : f.status = .duplicate := by simpa only [hpc] using hlate
    refine Late.write ⟨rfl, hduplicate⟩ _ ?_
    -- the id is taken, so nothing is inserted
    cases hrun : withTx input.fault
      (createPaymentIntent (failedIntent call.env call.hopCount f input.now)) db with
    | mk result db' =>
      cases result with
      | error e =>
        rw [withTx_error hrun]
        exact hrefl
      | ok u =>
        obtain ⟨-, hfree, -⟩ := createPaymentIntent_ok.mp (withTx_ok.mp hrun).2
        exact absurd (hid ▸ hfree) hintent
  | saveOutbox f recover =>
    have hduplicate : f.status = .duplicate := by simpa only [hpc] using hlate
    exact hwrite ⟨rfl, hduplicate⟩ (createOutboxEvent_books _ _ _)
  | saveEvent f recover =>
    have hduplicate : f.status = .duplicate := by simpa only [hpc] using hlate
    refine hwrite ⟨rfl, ?_⟩ (createPaymentEvent_books _ _ _ _ _)
    cases recover <;> exact hduplicate
  | lookup f =>
    have hduplicate : f.status = .duplicate := by simpa only [hpc] using hlate
    dsimp only
    split <;> exact ⟨⟨rfl, hduplicate⟩, hrefl⟩
  | record f current =>
    have hduplicate : f.status = .duplicate := by simpa only [hpc] using hlate
    exact hwrite ⟨rfl, hduplicate⟩ (Recovery.recordFailure_books _ _ _ _ _ _)
  | returned status err =>
    have hduplicate : status = .duplicate := by simpa only [hpc] using hlate
    exact ⟨⟨rfl, hduplicate⟩, hrefl⟩

/-- A delivery that is on track has still to reserve, or has just done so. -/
theorem Late.onTrack (hlate : call.Late db₀ env signed) (hwf : call.Wf)
    (hopen : openEnvelope E env = .ok signed) (hdevices : db.devices = db₀.devices) {input : Input}
    {risk : E.RiskState} (hnext : (call.step E input db risk).1.OnTrack)
    (hexecuted : (call.step E input db risk).1.saga.executed = 0) :
    (call.step E input db risk).1.Late db₀ env signed := by
  have hon := (onTrack_of_step hnext).1
  obtain ⟨rfl, hlate⟩ := hlate
  unfold SettleCall.step at hnext hexecuted ⊢
  cases hpc : call.pc with
  | idempotency =>
    dsimp only
    split
    · exact ⟨rfl, rfl⟩
    · simp only [hopen]
      exact ⟨rfl, rfl⟩
  | attestation signed' =>
    obtain rfl : signed' = signed := by simpa only [hpc] using hlate
    simp only [hpc] at hnext ⊢
    split at hnext
    · exact hnext.elim
    · exact ⟨rfl, rfl⟩
  | device signed' =>
    obtain rfl : signed' = signed := by simpa only [hpc] using hlate
    simp only [hpc] at hnext ⊢
    split at hnext
    · exact hnext.elim
    · next device hfound =>
      exact ⟨rfl, rfl, hdevices ▸ (findDevice_ok hfound).1⟩
  | token signed' device' =>
    obtain ⟨rfl, -⟩ : signed' = signed ∧
        db₀.devices.find? signed.payload.deviceID = some device' := by
      simpa only [hpc] using hlate
    have hcreate : call.saga = .create := by
      rw [SettleCall.Wf, hpc] at hwf
      exact hwf.2
    simp only [hpc] at hnext ⊢
    split at hnext
    · exact hnext.elim
    · next o hfound =>
      obtain ⟨hoenv, hohop, hopayload, -⟩ := SettleCall.findToken_ok hfound
      split at hnext
      · exact hnext.elim
      · next hrisk =>
        simp only [if_neg hrisk]
        refine ⟨rfl, ⟨o, rfl, hoenv, hopayload, hohop⟩, ?_⟩
        simp only [hcreate]
  | saga =>
    have hsaga := hlate
    simp only [hpc] at hsaga
    obtain ⟨hfound, hstage⟩ := hsaga
    obtain ⟨o, horder, -⟩ := id hfound
    simp only [hpc, horder] at hnext hexecuted ⊢
    have hforward := forward_of_runSaga hnext
    unfold SettleCall.runSaga at hexecuted ⊢
    generalize hstep : call.saga.step (createSagaState o.payload.txnID) (steps o) input.fault input db
      = r at hforward hexecuted ⊢
    obtain ⟨saga, db', phase⟩ := r
    dsimp only at hforward hexecuted ⊢
    split at hstage
    · next hcreate =>
      simp only [hcreate, Saga.Pc.step] at hstep
      split at hstep
      · obtain ⟨rfl, -⟩ := Prod.mk.inj hstep
        exact hforward.elim
      · obtain ⟨rfl, -⟩ := Prod.mk.inj hstep
        exact ⟨rfl, hfound, trivial⟩
    · next hrunning =>
      simp only [hrunning, Saga.Pc.step, steps, List.getElem?_cons_zero] at hstep
      split at hstep
      · obtain ⟨rfl, -⟩ := Prod.mk.inj hstep
        exact hforward.elim
      · obtain ⟨rfl, -⟩ := Prod.mk.inj hstep
        cases hexecuted
    · next executed remaining attempt err hcompensating =>
      obtain ⟨rfl, rfl, -⟩ := hstage
      simp only [hcompensating, Saga.Pc.step] at hstep
      obtain ⟨rfl, -⟩ := Prod.mk.inj hstep
      exact hforward.elim
    · exact hstage.elim
  | saveIntent | saveOutbox | saveEvent | lookup | record => simp [OnTrack, hpc] at hon
  | returned status err =>
    obtain rfl : status = .duplicate := by simpa only [hpc] using hlate
    simp [OnTrack, hpc] at hon

end Late

/-- Before its risk assessment and after it, a call does not look at the risk engine; and it goes on
the same way after any assessment that does not reject it. -/
theorem step_risk {call : SettleCall} (input : Input) (db : DB) {risk risk' : E.RiskState}
    (h : ∀ signed device, call.pc = .token signed device →
      (E.assess risk device signed.payload call.hopCount).1.action ≠ .reject ∧
        (E.assess risk' device signed.payload call.hopCount).1.action ≠ .reject) :
    (call.step E input db risk').1 = (call.step E input db risk).1 ∧
      (call.step E input db risk').2.1 = (call.step E input db risk).2.1 ∧
      (call.step E input db risk').2.2.2 = (call.step E input db risk).2.2.2 := by
  unfold SettleCall.step
  cases hpc : call.pc with
  | token signed device =>
    obtain ⟨hrisk, hrisk'⟩ := h signed device hpc
    dsimp only
    split
    · exact ⟨rfl, rfl, rfl⟩
    · simp only [if_neg hrisk, if_neg hrisk', and_self]
  | idempotency =>
    dsimp only
    split
    · exact ⟨rfl, rfl, rfl⟩
    · split <;> exact ⟨rfl, rfl, rfl⟩
  | attestation | device | lookup =>
    dsimp only
    split <;> exact ⟨rfl, rfl, rfl⟩
  | saga =>
    dsimp only
    split <;> exact ⟨rfl, rfl, rfl⟩
  | saveIntent | saveOutbox | saveEvent | record | returned => exact ⟨rfl, rfl, rfl⟩

end SettleCall

/-! ## The delivery that reserves -/

/-- No device, attestation or account has come or gone. -/
structure Registered (db db' : DB) : Prop where
  devices : db'.devices = db.devices
  deviceAttestations : db'.deviceAttestations = db.deviceAttestations
  accounts : ∀ accountID, db.accountBalances.find? accountID ≠ none →
    db'.accountBalances.find? accountID ≠ none

theorem Registered.refl (db : DB) : Registered db db := ⟨rfl, rfl, fun _ h => h⟩

instance : IsPreorder DB Registered where
  refl := .refl
  trans _ _ _ hab hbc := ⟨hbc.devices.trans hab.devices,
    hbc.deviceAttestations.trans hab.deviceAttestations,
    fun accountID h => hbc.accounts accountID (hab.accounts accountID h)⟩

theorem updateBalance_registered (accountID : String) (available reserved : Int64) (now : Time) :
    Keeps Registered (updateBalance accountID available reserved now) := by
  intro db u db' h
  by_cases hrow : db.accountBalances.find? accountID = none
  · rw [updateBalance, hrow] at h
    obtain ⟨-, rfl⟩ := Prod.mk.inj (Except.ok.inj h)
    exact .refl _
  · obtain ⟨_, _, rfl⟩ := (updateBalance_ok hrow).mp h
    exact ⟨rfl, rfl, fun _ => mt (Table.find?_set_eq_none _ _ _).mp⟩

theorem registered : Recovery.Statements Registered where
  createPaymentIntent := keeps_createPaymentIntent fun db _ => { Registered.refl db with }
  updatePaymentIntentStatus := keeps_updatePaymentIntentStatus fun db _ => { Registered.refl db with }
  deletePaymentIntent := keeps_deletePaymentIntent fun db _ => { Registered.refl db with }
  registerNonce := keeps_registerNonce fun db _ => { Registered.refl db with }
  deleteNonce := keeps_deleteNonce fun db _ => { Registered.refl db with }
  updateToken := keeps_updateToken fun db _ => { Registered.refl db with }
  updateBalance := updateBalance_registered
  createLedgerEntry := keeps_createLedgerEntry fun db _ _ => { Registered.refl db with }
  deleteLedgerEntries := keeps_deleteLedgerEntries fun db _ _ => { Registered.refl db with }
  createAuditEvent := keeps_createAuditEvent fun db _ => { Registered.refl db with }
  createOutboxEvent := keeps_createOutboxEvent fun db _ _ => { Registered.refl db with }
  createPaymentEvent := keeps_createPaymentEvent fun db _ => { Registered.refl db with }
  insertFailure := Recovery.keeps_insertFailure fun db _ => { Registered.refl db with }
  insertOperation := Recovery.keeps_insertOperation fun db _ => { Registered.refl db with }

/-- A delivery that has run alone so far. -/
structure Followed (db₀ : DB) (env : EncryptedEnvelope) (signed : SignedPaymentIntent) (s : Solo E) :
    Prop where
  lasting : Lasting signed.payload db₀ s.db
  early : s.call.saga.executed = 0 → s.db = db₀ ∧ s.call.Late db₀ env signed
  reserved : s.call.saga.executed ≠ 0 → s.db.paymentIntents.find? signed.payload.txnID ≠ none

/-- A saga in which nothing has failed has compensated nothing. -/
theorem standing_of_forward {n : ℕ} {pc : Saga.Pc} (h : pc.Forward) (hwf : pc.Wf n) :
    pc.standing = pc.executed := by
  cases pc with
  | create | running => rfl
  | compensating => exact h.elim
  | done executed standing err =>
    cases err with
    | none => exact hwf.2.trans hwf.1.symm
    | some err => exact h.elim

theorem SettleCall.OnTrack.standing {call : SettleCall} (h : call.OnTrack) (hwf : call.Wf) :
    call.saga.standing = call.saga.executed := by
  by_cases horder : call.order = none
  · rw [hwf.create horder]
    rfl
  · refine standing_of_forward ?_ (hwf.saga horder)
    unfold SettleCall.OnTrack at h
    unfold SettleCall.Wf at hwf
    cases hpc : call.pc with
    | idempotency | attestation | device | token =>
      rw [hpc] at hwf
      exact absurd hwf.1 horder
    | saga =>
      rw [hpc] at h
      exact h
    | returned status err =>
      rw [hpc] at h hwf
      cases status with
      | settled =>
        have hresult := hwf.2.2
        cases hsaga : call.saga with
        | done executed standing err =>
          rw [hsaga] at hresult
          cases hresult
          trivial
        | create | running | compensating =>
          rw [hsaga] at hresult
          cases hresult
      | _ => exact h.elim
    | _ =>
      rw [hpc] at h
      exact h.elim

theorem Followed.step {db₀ : DB} {env : EncryptedEnvelope} {signed : SignedPaymentIntent} {s : Solo E}
    (h : Followed db₀ env signed s) (hwf : s.call.Wf) (hopen : openEnvelope E env = .ok signed)
    (horder : ∀ o ∈ s.call.order, o.payload = signed.payload) {input : Input}
    (hnext : (s.step input).call.OnTrack) : Followed db₀ env signed (s.step input) := by
  have hregistered : Registered s.db (s.step input).db :=
    s.call.step_keeps (K := {}) (.ofStatements registered) input s.db s.risk
  obtain ⟨hon, hnote⟩ := SettleCall.onTrack_of_step hnext
  -- a step that changes nothing in the database
  have hquiet : (s.step input).db = s.db →
      (s.step input).call.saga.executed = s.call.saga.executed → Followed db₀ env signed (s.step input) := by
    intro hdb hexecuted
    refine ⟨hdb ▸ h.lasting, fun hzero => ?_, fun hne => ?_⟩
    · obtain ⟨hdb₀, hlate⟩ := h.early (hexecuted ▸ hzero)
      exact ⟨hdb.trans hdb₀, hlate.onTrack hwf hopen h.lasting.devices hnext hzero⟩
    · rw [hdb]
      exact h.reserved (hexecuted ▸ hne)
  -- a phase that leaves the token's note and the intent
  have hphase : ∀ {k}, (s.step input).call.saga.executed = k + 1 →
      (∀ tok, s.db.offlineTokens.find? signed.payload.tokenID = some tok →
        ∃ tok', (s.step input).db.offlineTokens.find? signed.payload.tokenID = some tok' ∧
          tok'.ownerID = tok.ownerID ∧ tok'.value = tok.value ∧ tok'.expiry = tok.expiry ∧
          tok'.tokenSignature = tok.tokenSignature) →
      (s.step input).db.paymentIntents.find? signed.payload.txnID ≠ none →
      Followed db₀ env signed (s.step input) := by
    intro k hexecuted htoken hintent
    refine ⟨⟨hregistered.devices.trans h.lasting.devices,
      hregistered.deviceAttestations.trans h.lasting.deviceAttestations,
      fun accountID hne => hregistered.accounts accountID (h.lasting.accounts accountID hne),
      fun tok htok => ?_⟩, fun hzero => ?_, fun _ => hintent⟩
    · obtain ⟨tok₁, htok₁, howner₁, hvalue₁, hexpiry₁, hsignature₁⟩ := h.lasting.token tok htok
      obtain ⟨tok₂, htok₂, howner₂, hvalue₂, hexpiry₂, hsignature₂⟩ := htoken tok₁ htok₁
      exact ⟨tok₂, htok₂, howner₂.trans howner₁, hvalue₂.trans hvalue₁, hexpiry₂.trans hexpiry₁,
        hsignature₂.trans hsignature₁⟩
    · rw [hexecuted] at hzero
      cases hzero
  have hmoved := (Solo.moved hwf input).1
  generalize hcommits : s.commits input = wrote at hmoved
  cases hmoved with
  | quiet hwrote _ hnone _ hexecuted _ =>
    rcases hwrote with rfl | rfl
    · exact hquiet (hnone rfl) hexecuted
    · exact absurd hcommits hnote
  | begin hdb hnoOrder _ hsaga _ =>
    refine hquiet hdb ?_
    rw [hsaga, hwf.create hnoOrder]
  | @phase o p hsome _ hadvances heffect =>
    have hpayload := horder o hsome
    cases p with
    | compensation k =>
      have hbefore := hon.standing hwf
      have hafter := hnext.standing (Solo.moved hwf input).2
      obtain ⟨hstanding, hstanding', hexecuted⟩ := hadvances
      omega
    | action k =>
      have hintent : k ≠ 0 → s.db.paymentIntents.find? signed.payload.txnID ≠ none := fun hne =>
        h.reserved (hadvances.1 ▸ hne)
      have hupdated : ∀ {row row' : OfflineToken},
          s.db.offlineTokens.find? o.payload.tokenID = some row →
          (s.step input).db.offlineTokens = s.db.offlineTokens.set row' →
          row'.tokenID = row.tokenID →
          (s.step input).db.offlineTokens.find? signed.payload.tokenID = some row' := by
        intro row row' hrow htokens hkey
        have hid : row'.tokenID = signed.payload.tokenID := by
          rw [hkey, ← hpayload]
          exact Table.key_of_find? hrow
        rw [htokens, ← hid]
        rw [← hpayload] at hid
        exact Table.find?_set_self (hid ▸ hrow)
      cases heffect with
      | reserve heffect =>
        obtain ⟨intent, hid, -, hintents⟩ := heffect.paymentIntents
        refine hphase hadvances.2.2.1 (fun tok htok => ?_) ?_
        · rw [heffect.offlineTokens]
          exact ⟨tok, htok, rfl, rfl, rfl, rfl⟩
        · rw [hintents, ← hpayload, ← hid, Table.find?_insert_self (hid ▸ heffect.free)]
          simp
      | hold heffect =>
        obtain ⟨row, hrow, -, htokens⟩ := heffect.offlineTokens
        refine hphase hadvances.2.2.1 (fun tok htok => ?_) ?_
        · obtain rfl : row = tok := Option.some.inj (hrow.symm.trans (hpayload ▸ htok))
          exact ⟨_, hupdated hrow htokens rfl, rfl, rfl, rfl, rfl⟩
        · rw [heffect.paymentIntents]
          exact hintent (by decide)
      | commitLedger heffect =>
        obtain ⟨row, hrow, -, htokens⟩ := heffect.offlineTokens
        obtain ⟨intent, -, hintents⟩ := heffect.paymentIntents
        refine hphase hadvances.2.2.1 (fun tok htok => ?_) ?_
        · obtain rfl : row = tok := Option.some.inj (hrow.symm.trans (hpayload ▸ htok))
          exact ⟨_, hupdated hrow htokens rfl, rfl, rfl, rfl, rfl⟩
        · rw [hintents]
          exact mt (Table.find?_set_eq_none _ _ _).mp (hintent (by decide))
      | publish heffect =>
        refine hphase hadvances.2.2.1 (fun tok htok => ?_) ?_
        · rw [heffect.offlineTokens]
          exact ⟨tok, htok, rfl, rfl, rfl, rfl⟩
        · rw [heffect.paymentIntents]
          exact hintent (by decide)

end Settlement

/-- A delivery of a payment that settles alone, as long as it does run alone. -/
theorem SettlesAlone.followed {db₀ : DB} {env : EncryptedEnvelope} {signed : SignedPaymentIntent}
    {hopCount : ℤ} (h : SettlesAlone E db₀ env signed hopCount)
    (hopen : openEnvelope E env = .ok signed) (risk : E.RiskState) {inputs : List Input}
    (hquiet : ∀ input ∈ inputs, input.Quiet signed db₀) :
    Followed db₀ env signed ((Solo.start env hopCount db₀ risk).exec inputs) := by
  induction inputs using List.reverseRecOn with
  | nil =>
    exact ⟨⟨rfl, rfl, fun _ h => h, fun tok htok => ⟨tok, htok, rfl, rfl, rfl, rfl⟩⟩,
      fun _ => ⟨rfl, rfl, trivial⟩, fun hne => absurd rfl hne⟩
  | append_singleton inputs input ih =>
    have hearlier := ih fun i hi => hquiet i (List.mem_append_left _ hi)
    have hnext := h.onTrack risk hquiet
    rw [Solo.exec_concat] at hnext ⊢
    exact hearlier.step (Solo.wf_exec (Solo.wf_start env hopCount db₀ risk) inputs) hopen
      (fun o ho => ((Solo.order_exec hopCount db₀ risk hopen inputs).2 o ho).2) hnext

end OfflinePay
