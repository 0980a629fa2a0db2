import OfflinePay.Settlement.Vetting

/-!
# One call on two databases

`DB.Overlaid ids db db'` says that `db'` is `db` with more payment intents, none of them under one
of the ids, and with other events. A payment that settles on `db` makes the same moves on `db'`
(`Solo.exec_overlaid`): everything its steps read is the same, and no additional row can make one of
them fail.

A payment whose `RESERVE` cannot commit on the database it starts from never settles
(`Solo.never_settled`): until then it only reads.
-/

namespace OfflinePay

open Tx Repository Settlement

/-- `db'` is `db` with more payment intents, though not under `ids`, and with other events. -/
structure DB.Overlaid (ids : List String) (db db' : DB) : Prop where
  devices : db'.devices = db.devices
  deviceAttestations : db'.deviceAttestations = db.deviceAttestations
  offlineTokens : db'.offlineTokens = db.offlineTokens
  nonceRegistry : db'.nonceRegistry = db.nonceRegistry
  accountBalances : db'.accountBalances = db.accountBalances
  ledgerEntries : db'.ledgerEntries = db.ledgerEntries
  nextEntryID : db'.nextEntryID = db.nextEntryID
  rows : ∀ txnID row, db.paymentIntents.find? txnID = some row →
    db'.paymentIntents.find? txnID = some row
  same : ∀ txnID ∈ ids, db'.paymentIntents.find? txnID = db.paymentIntents.find? txnID

namespace DB.Overlaid

variable {ids : List String} {db db' : DB}

theorem refl (ids : List String) (db : DB) : Overlaid ids db db :=
  ⟨rfl, rfl, rfl, rfl, rfl, rfl, rfl, fun _ _ h => h, fun _ _ => rfl⟩

theorem trans {a b c : DB} (hab : Overlaid ids a b) (hbc : Overlaid ids b c) :
    Overlaid ids a c where
  devices := hbc.devices.trans hab.devices
  deviceAttestations := hbc.deviceAttestations.trans hab.deviceAttestations
  offlineTokens := hbc.offlineTokens.trans hab.offlineTokens
  nonceRegistry := hbc.nonceRegistry.trans hab.nonceRegistry
  accountBalances := hbc.accountBalances.trans hab.accountBalances
  ledgerEntries := hbc.ledgerEntries.trans hab.ledgerEntries
  nextEntryID := hbc.nextEntryID.trans hab.nextEntryID
  rows txnID row h := hbc.rows txnID row (hab.rows txnID row h)
  same txnID h := (hbc.same txnID h).trans (hab.same txnID h)

theorem kept (h : Overlaid ids db db') {txnID : String}
    (hrow : db.paymentIntents.find? txnID ≠ none) : db'.paymentIntents.find? txnID ≠ none := by
  obtain ⟨row, hrow⟩ := Option.ne_none_iff_exists'.mp hrow
  rw [h.rows txnID row hrow]
  simp

/-- The same new intent on both sides. -/
theorem insert (h : Overlaid ids db db') (row : PaymentIntent) (hid : row.txnID ∈ ids)
    (hfree : db.paymentIntents.find? row.txnID = none) :
    Overlaid ids { db with paymentIntents := db.paymentIntents.insert row }
      { db' with paymentIntents := db'.paymentIntents.insert row } := by
  have hfree' : db'.paymentIntents.find? row.txnID = none := (h.same _ hid).trans hfree
  refine { h with rows := fun txnID x hx => ?_, same := fun txnID ht => ?_ }
  · simp only [Table.find?_insert hfree, Table.find?_insert hfree'] at hx ⊢
    by_cases hk : row.txnID = txnID
    · rwa [if_pos hk] at hx ⊢
    · rw [if_neg hk] at hx ⊢
      exact h.rows txnID x hx
  · simp only [Table.find?_insert hfree, Table.find?_insert hfree', h.same txnID ht]

/-- The same new version of an intent on both sides. -/
theorem set (h : Overlaid ids db db') (row : PaymentIntent) :
    Overlaid ids { db with paymentIntents := db.paymentIntents.set row }
      { db' with paymentIntents := db'.paymentIntents.set row } := by
  refine { h with rows := fun txnID x hx => ?_, same := fun txnID ht => ?_ }
  · simp only [Table.find?_set] at hx ⊢
    by_cases hk : row.txnID = txnID
    · rw [if_pos hk] at hx ⊢
      obtain ⟨y, hy, rfl⟩ := Option.map_eq_some_iff.mp hx
      rw [h.rows txnID y hy, Option.map_some]
    · rw [if_neg hk] at hx ⊢
      exact h.rows txnID x hx
  · simp only [Table.find?_set, h.same txnID ht]

end DB.Overlaid

/-! ## Statements -/

namespace Repository

variable {ids : List String}

theorem createPaymentIntent_follows {intent : PaymentIntent} (hid : intent.txnID ∈ ids) :
    Follows (DB.Overlaid ids) (createPaymentIntent intent) := by
  intro db db₁ u db' hR h
  obtain ⟨hfit, hfree, hdev, htok, rfl⟩ := createPaymentIntent_ok.mp h
  refine ⟨_, createPaymentIntent_ok.mpr ⟨hfit, (hR.same _ hid).trans hfree, ?_, ?_, rfl⟩,
    hR.insert intent.stored hid hfree⟩
  · rwa [hR.devices]
  · rwa [hR.offlineTokens]

theorem registerNonce_follows (nonce txnID : String) (expiry : Time) :
    Follows (DB.Overlaid ids) (registerNonce nonce txnID expiry) := by
  intro db db₁ u db' hR h
  obtain ⟨hfit, hfree, hrow, rfl⟩ := registerNonce_ok.mp h
  refine ⟨_, registerNonce_ok.mpr ⟨hfit, ?_, hR.kept hrow, rfl⟩, ?_⟩
  · rwa [hR.nonceRegistry]
  · exact { hR with nonceRegistry := by simp only [hR.nonceRegistry] }

theorem updateToken_follows (target : TokenStatus) (update : OfflineToken → OfflineToken)
    (tokenID : String) : Follows (DB.Overlaid ids) (updateToken target update tokenID) := by
  intro db db₁ u db' hR h
  obtain ⟨tok, hfind, hvalid, rfl⟩ := updateToken_ok.mp h
  refine ⟨_, updateToken_ok.mpr ⟨tok, ?_, hvalid, rfl⟩, ?_⟩
  · rwa [hR.offlineTokens]
  · exact { hR with offlineTokens := by simp only [hR.offlineTokens] }

theorem updateBalance_follows (accountID : String) (available reserved : Int64) (now : Time) :
    Follows (DB.Overlaid ids) (updateBalance accountID available reserved now) := by
  intro db db₁ u db' hR h
  by_cases hrow : db.accountBalances.find? accountID = none
  · unfold updateBalance at h ⊢
    rw [hrow] at h
    rw [hR.accountBalances, hrow]
    obtain rfl : db = db' := by simpa using h
    exact ⟨db₁, rfl, hR⟩
  · obtain ⟨h₁, h₂, rfl⟩ := (updateBalance_ok hrow).mp h
    refine ⟨_, (updateBalance_ok ?_).mpr ⟨h₁, h₂, rfl⟩, ?_⟩
    · rwa [hR.accountBalances]
    · exact { hR with accountBalances := by simp only [hR.accountBalances] }

theorem updatePaymentIntentStatus_follows {txnID : String} (hid : txnID ∈ ids)
    (status : PaymentStatus) (reason : Option String) (now : Time) :
    Follows (DB.Overlaid ids) (updatePaymentIntentStatus txnID status reason now) := by
  refine follows_write fun db db₁ hR => ?_
  rw [hR.same txnID hid]
  split
  · exact hR
  · exact hR.set _

theorem createLedgerEntry_follows (txnID accountID : String) (direction : Direction)
    (amount : Int64) (entryType : EntryType) (balanceAfter : Int64) : Follows (DB.Overlaid ids)
      (createLedgerEntry txnID accountID direction amount entryType balanceAfter) := by
  intro db db₁ u db' hR h
  obtain ⟨hfit, hrow, hacc, hpos, rfl⟩ := createLedgerEntry_ok.mp h
  refine ⟨_, createLedgerEntry_ok.mpr ⟨hfit, hR.kept hrow, ?_, hpos, rfl⟩, ?_⟩
  · rwa [hR.accountBalances]
  · exact { hR with
      ledgerEntries := by simp only [hR.ledgerEntries, hR.nextEntryID]
      nextEntryID := by simp only [hR.nextEntryID] }

theorem createAuditEvent_follows (txnID eventType : String) (payload : Json) :
    Follows (DB.Overlaid ids) (createAuditEvent txnID eventType payload) :=
  follows_bind (follows_check _ _) fun _ => follows_write fun _ _ hR => { hR with }

theorem createOutboxEvent_follows (streamName eventType : String) (payload : Json) :
    Follows (DB.Overlaid ids) (createOutboxEvent streamName eventType payload) :=
  follows_write fun _ _ hR => { hR with }

theorem createPaymentEvent_follows {txnID : String} (hid : txnID ∈ ids) (eventType : String)
    (eventVersion : ℕ) (payload : Json) (now : Time) : Follows (DB.Overlaid ids)
      (createPaymentEvent txnID eventType eventVersion payload now) :=
  follows_bind (follows_check _ _) fun _ => follows_bind (follows_view fun _ _ hR => hR.same _ hid)
    fun _ => follows_bind (follows_check _ _) fun _ => follows_write fun _ _ hR => { hR with }

end Repository

namespace Settlement

variable {E : Externals} {ids : List String}

/-! ## Steps of the saga -/

theorem lockBalances_follows (failed : String → GoError → GoError) (senderID receiverID : String) :
    Follows (DB.Overlaid ids) (lockBalances failed senderID receiverID) := by
  intro db db₁ bals db' hR h
  obtain ⟨hs, hr, rfl⟩ := lockBalances_ok.mp h
  refine ⟨db₁, lockBalances_ok.mpr ⟨?_, ?_, rfl⟩, hR⟩
  · rwa [hR.accountBalances]
  · rwa [hR.accountBalances]

/-- An action that commits on a database commits on everything laid over it. -/
theorem steps_follow {o : Order} (hid : o.payload.txnID ∈ ids) (input : Input)
    (st : Saga.SagaStep Input DB) (hst : st ∈ steps o) :
    Follows (DB.Overlaid ids) (st.action input) := by
  simp only [steps, List.mem_cons, List.not_mem_nil, or_false] at hst
  rcases hst with rfl | rfl | rfl | rfl
  · exact follows_bind (lockBalances_follows _ _ _) fun _ => follows_bind (follows_check _ _) fun _ =>
      follows_bind (follows_mapError (createPaymentIntent_follows hid)) fun _ =>
      follows_mapError (registerNonce_follows _ _ _)
  · refine follows_bind (follows_select fun _ _ hR => ?_) fun _ =>
      follows_bind (follows_check _ _) fun _ => updateToken_follows _ _ _
    rw [getToken, hR.offlineTokens, getToken]
  · exact follows_bind (updateToken_follows _ _ _) fun _ =>
      follows_bind (lockBalances_follows _ _ _) fun _ =>
      follows_bind (updateBalance_follows _ _ _ _) fun _ =>
      follows_bind (updateBalance_follows _ _ _ _) fun _ =>
      follows_bind (updatePaymentIntentStatus_follows hid _ _ _) fun _ =>
      follows_bind (createLedgerEntry_follows _ _ _ _ _ _) fun _ =>
      follows_bind (createLedgerEntry_follows _ _ _ _ _ _) fun _ =>
      createLedgerEntry_follows _ _ _ _ _ _
  · refine follows_bind (createAuditEvent_follows _ _ _) fun _ =>
      follows_bind (createOutboxEvent_follows _ _ _) fun _ =>
      follows_bind (follows_view fun _ _ hR => hR.same _ hid) fun _ => ?_
    split
    · exact follows_mapError (createPaymentEvent_follows hid _ _ _ _)
    · exact follows_pure ()

/-! ## Calls that have not failed -/

namespace SettleCall

/-- Nothing has failed so far. -/
def OnTrack (call : SettleCall) : Prop :=
  match call.pc with
  | .idempotency | .attestation _ | .device _ | .token _ _ | .returned .settled _ => True
  | .saga => call.saga.Forward
  | _ => False

theorem not_onTrack_returned (call : SettleCall) (f : Failure) (err : Option GoError) :
    ¬({ call with pc := .returned f.status err } : SettleCall).OnTrack := by
  obtain ⟨status, -, -, hs⟩ := f
  cases status with
  | settled => exact absurd rfl hs
  | _ => exact id

theorem not_onTrack_afterSave (call : SettleCall) (f : Failure) (recover : Bool) :
    ¬({ call with pc := afterSave f recover } : SettleCall).OnTrack := by
  cases recover with
  | true => exact id
  | false => exact not_onTrack_returned call f _

/-- The saga of a call that is on track after a saga step has not failed. -/
theorem forward_of_runSaga {call : SettleCall} {o : Order} {input : Input} {db : DB}
    (h : (call.runSaga o input db).1.OnTrack) :
    (call.saga.step (createSagaState o.payload.txnID) (steps o) input.fault input db).1.Forward := by
  revert h
  unfold runSaga
  dsimp only
  generalize (call.saga.step _ _ _ _ _).1 = saga
  match saga with
  | .create | .running _ | .compensating _ _ _ _ => exact id
  | .done _ _ none => exact fun _ => trivial
  | .done _ _ (some _) => exact id

/-- A call that has failed does not get back on track, and one that saves a failure is off it. -/
theorem onTrack_of_step {call : SettleCall} {input : Input} {db : DB} {risk : E.RiskState}
    (h : (call.step E input db risk).1.OnTrack) :
    call.OnTrack ∧ (call.step E input db risk).2.2.2 ≠ some .note := by
  unfold step at h ⊢
  unfold OnTrack
  match hpc : call.pc with
  | .idempotency =>
    simp only [hpc, true_and] at h ⊢
    split
    · simp
    · split <;> simp
  | .attestation signed =>
    simp only [hpc, true_and] at h ⊢
    split <;> simp
  | .device signed =>
    simp only [hpc, true_and] at h ⊢
    split <;> simp
  | .token signed device =>
    simp only [hpc, true_and] at h ⊢
    split
    · simp
    · split <;> simp
  | .saga =>
    simp only [hpc] at h ⊢
    split at h
    · next horder =>
      rw [OnTrack] at h
      exact ⟨h, by simp⟩
    · next o horder =>
      refine ⟨Saga.Pc.forward_of_step (forward_of_runSaga h), ?_⟩
      unfold runSaga
      dsimp only
      cases (call.saga.step _ _ _ _ _).2.2 <;> simp
  | .saveIntent f recover =>
    simp only [hpc, write_call] at h
    exact h.elim
  | .saveOutbox f recover =>
    simp only [hpc, write_call] at h
    exact h.elim
  | .saveEvent f recover =>
    simp only [hpc, write_call] at h
    exact (not_onTrack_afterSave call f recover h).elim
  | .lookup f =>
    simp only [hpc] at h
    split at h
    · exact h.elim
    · exact (not_onTrack_returned call f _ h).elim
  | .record f current =>
    simp only [hpc, write_call] at h
    exact (not_onTrack_returned call f _ h).elim
  | .returned status err =>
    simp only [hpc] at h ⊢
    exact ⟨h, by simp⟩

/-- A step after which the call is on track goes the same way on everything laid over the database.
-/
theorem step_overlaid {call : SettleCall} {input : Input} {db db₁ : DB} {risk : E.RiskState}
    (hR : DB.Overlaid ids db db₁) (henv : call.env.txnID ∈ ids)
    (horder : ∀ o ∈ call.order, o.payload.txnID ∈ ids)
    (h : (call.step E input db risk).1.OnTrack) :
    (call.step E input db₁ risk).1 = (call.step E input db risk).1 ∧
      (call.step E input db₁ risk).2.2.1 = (call.step E input db risk).2.2.1 ∧
      DB.Overlaid ids (call.step E input db risk).2.1 (call.step E input db₁ risk).2.1 := by
  have hon := (onTrack_of_step h).1
  unfold step at h ⊢
  unfold OnTrack at hon
  match hpc : call.pc with
  | .idempotency =>
    have heq : alreadyProcessed call.env input db₁ = alreadyProcessed call.env input db := by
      rw [alreadyProcessed, getPaymentIntent, hR.same _ henv, alreadyProcessed, getPaymentIntent]
    simp only [heq]
    split
    · exact ⟨rfl, rfl, hR⟩
    · split <;> exact ⟨rfl, rfl, hR⟩
  | .attestation signed =>
    have heq : checkAttestation signed.payload input db₁
        = checkAttestation signed.payload input db := by
      rw [checkAttestation, getDeviceAttestation, hR.deviceAttestations, checkAttestation,
        getDeviceAttestation]
    simp only [heq]
    split <;> exact ⟨rfl, rfl, hR⟩
  | .device signed =>
    have heq : findDevice E signed input db₁ = findDevice E signed input db := by
      rw [findDevice, getDevice, hR.devices, findDevice, getDevice]
    simp only [heq]
    split <;> exact ⟨rfl, rfl, hR⟩
  | .token signed device =>
    have heq : findToken E call.env call.hopCount signed.payload input db₁
        = findToken E call.env call.hopCount signed.payload input db := by
      -- the proof inside the match depends on the row, so the two databases have to be taken apart
      obtain ⟨htokens⟩ : PLift (db₁.offlineTokens = db.offlineTokens) := ⟨hR.offlineTokens⟩
      cases db
      cases db₁
      cases htokens
      rfl
    simp only [heq]
    split
    · exact ⟨rfl, rfl, hR⟩
    · split <;> exact ⟨rfl, rfl, hR⟩
  | .saga =>
    simp only [hpc] at h ⊢
    split at h
    · exact ⟨rfl, rfl, hR⟩
    · next o ho =>
      have htrack : Follows (DB.Overlaid ids) (createSagaState o.payload.txnID) := follows_check _ _
      obtain ⟨hsaga, hdb⟩ := Saga.Pc.step_follows htrack (steps_follow (horder o ho) input) hR
        (forward_of_runSaga h)
      refine ⟨?_, rfl, hdb⟩
      unfold runSaga
      dsimp only
      rw [hsaga]
  | .saveIntent f recover => simp [hpc] at hon
  | .saveOutbox f recover => simp [hpc] at hon
  | .saveEvent f recover => simp [hpc] at hon
  | .lookup f => simp [hpc] at hon
  | .record f current => simp [hpc] at hon
  | .returned status err => exact ⟨rfl, rfl, hR⟩

end SettleCall

/-! ## Calls that run alone -/

namespace Solo

variable {env : EncryptedEnvelope} {hopCount : ℤ} {db db₁ : DB} {risk : E.RiskState}
  {signed : SignedPaymentIntent}

theorem onTrack_of_settled {s : Solo E} (h : s.status? = some .settled) : s.call.OnTrack := by
  unfold status? at h
  split at h
  · next status err hpc =>
    obtain rfl := Option.some.inj h
    rw [SettleCall.OnTrack, hpc]
    trivial
  · exact absurd h (by simp)

theorem exec_concat (s : Solo E) (inputs : List Input) (input : Input) :
    s.exec (inputs ++ [input]) = (s.exec inputs).step input :=
  Run.exec_append s inputs [input]

/-- The order of a call is the payload of its envelope. -/
theorem order_exec (hopCount : ℤ) (db : DB) (risk : E.RiskState)
    (hopen : openEnvelope E env = .ok signed) (inputs : List Input) :
    ((start env hopCount db risk).exec inputs).call.env = env ∧
      ∀ o ∈ ((start env hopCount db risk).exec inputs).call.order,
        o.env = env ∧ o.payload = signed.payload := by
  have hv := Vetted.exec env hopCount db risk inputs
  refine ⟨hv.env_eq, fun o ho => ?_⟩
  obtain ⟨henv, signed', device, hopen', hpayload, -⟩ := hv.order o ho
  obtain rfl : signed = signed' := Except.ok.inj (hopen.symm.trans hopen')
  exact ⟨henv, hpayload.symm⟩

/-- A call that is on track has made the same moves on everything laid over the database. -/
theorem exec_overlaid (hopen : openEnvelope E env = .ok signed)
    (hR : DB.Overlaid ids db db₁) (henv : env.txnID ∈ ids) (hid : signed.payload.txnID ∈ ids)
    (inputs : List Input) (h : ((start env hopCount db risk).exec inputs).call.OnTrack) :
    ((start env hopCount db₁ risk).exec inputs).call
        = ((start env hopCount db risk).exec inputs).call ∧
      ((start env hopCount db₁ risk).exec inputs).risk
        = ((start env hopCount db risk).exec inputs).risk ∧
      DB.Overlaid ids ((start env hopCount db risk).exec inputs).db
        ((start env hopCount db₁ risk).exec inputs).db := by
  induction inputs using List.reverseRecOn with
  | nil => exact ⟨rfl, rfl, hR⟩
  | append_singleton inputs input ih =>
    rw [exec_concat] at h
    obtain ⟨hcall, hrisk, hdb⟩ := ih (SettleCall.onTrack_of_step h).1
    obtain ⟨henv', horder⟩ := order_exec hopCount db risk hopen inputs
    rw [exec_concat, exec_concat, step, step, hcall, hrisk]
    refine SettleCall.step_overlaid hdb ?_ (fun o ho => ?_) h
    · rw [henv']
      exact henv
    · rw [(horder o ho).2]
      exact hid

/-- A payment whose `RESERVE` cannot commit on the database it starts from never settles. -/
theorem never_settled (hopen : openEnvelope E env = .ok signed)
    (hno : ∀ o db', o.env = env → o.payload = signed.payload → ¬Reserved o db db')
    (inputs : List Input) : ((start env hopCount db risk).exec inputs).status? ≠ some .settled := by
  have hstay : ((start env hopCount db risk).exec inputs).call.OnTrack →
      ((start env hopCount db risk).exec inputs).call.saga.executed = 0 ∧
        ((start env hopCount db risk).exec inputs).db = db := by
    induction inputs using List.reverseRecOn with
    | nil => exact fun _ => ⟨rfl, rfl⟩
    | append_singleton inputs input ih =>
      rw [exec_concat]
      intro h
      obtain ⟨hon, hnote⟩ := SettleCall.onTrack_of_step h
      obtain ⟨hex, hdb⟩ := ih hon
      have hwf := wf_exec (wf_start env hopCount db risk) inputs
      have hmoved := (moved hwf input).1
      -- before `RESERVE` a call on track only reads
      cases hw : ((start env hopCount db risk).exec inputs).commits input with
      | none =>
        rw [hw] at hmoved
        cases hmoved with
        | quiet _ _ hnone _ hex' _ => exact ⟨hex'.trans hex, (hnone rfl).trans hdb⟩
        | begin hdb' _ _ hsaga _ => exact ⟨by rw [hsaga]; rfl, hdb'.trans hdb⟩
      | some wrote =>
        rw [hw] at hmoved
        cases hmoved with
        | quiet hwrote _ _ _ _ _ =>
          exact absurd hw (by rw [hwrote.resolve_left (by simp)]; exact hnote)
        | @phase o p horder _ hadv heffect =>
          cases p with
          | action k =>
            obtain rfl : k = 0 := hadv.1.symm.trans hex
            cases heffect with
            | reserve hh =>
              obtain ⟨henv, hpayload⟩ := (order_exec hopCount db risk hopen inputs).2 o horder
              exact absurd (hdb ▸ hh) (hno o _ henv hpayload)
          | compensation k =>
            have hle := (hwf.saga (by rw [horder]; simp)).standing_le
            rw [hex, hadv.1] at hle
            exact absurd hle (by simp)
  intro hsettled
  unfold status? at hsettled
  split at hsettled
  · next status err hpc =>
    obtain rfl := Option.some.inj hsettled
    have hwf := wf_exec (wf_start env hopCount db risk) inputs
    obtain ⟨hex, -⟩ := hstay (by rw [SettleCall.OnTrack, hpc]; trivial)
    rw [SettleCall.Wf, hpc] at hwf
    obtain ⟨-, hsaga, hres⟩ := hwf
    generalize ((start env hopCount db risk).exec inputs).call.saga = saga at hex hsaga hres
    match saga with
    | .create | .running _ | .compensating _ _ _ _ => simp [Saga.Pc.result?] at hres
    | .done _ _ (some _) => simp [Saga.Pc.result?] at hres
    | .done executed _ none =>
      obtain rfl : executed = 4 := hsaga.1
      exact absurd (show 4 = 0 from hex) (by decide)
  · exact absurd hsettled (by simp)

end Solo

end Settlement

end OfflinePay
