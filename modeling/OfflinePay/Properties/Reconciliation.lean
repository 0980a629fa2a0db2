import OfflinePay.Reconciliation.Service
import OfflinePay.System.Reserved

/-!
# What a reconciliation scan repairs

A release can fail for many reasons: the owner's balance, its range, the transition of the token, the
payment intent that the ledger entry refers to, the width of a column. In no state that the system
reaches does one of them apply, so a scan releases every expired token whose transaction is not lost
to a fault, and a token it has missed is due in the next scan.
-/

namespace OfflinePay

open Tx Repository

variable {E : Externals}

/-! ## Columns -/

/-- The keys of the payment intents and of the accounts fit their columns. -/
structure DB.Fits (db : DB) : Prop where
  intents : ∀ txnID, db.paymentIntents.find? txnID ≠ none → Pg.varchar 100 txnID = true
  accounts : ∀ a, db.accountBalances.find? a ≠ none → Pg.varchar 100 a = true

/-- The step from `db` to `db'` adds no key that does not fit. -/
def DB.KeepsFits (db db' : DB) : Prop := db.Fits → db'.Fits

instance : IsPreorder DB DB.KeepsFits where
  refl _ := id
  trans _ _ _ hab hbc := hbc ∘ hab

namespace DB.KeepsFits

variable {db db' : DB}

theorem of_intents (haccounts : db'.accountBalances = db.accountBalances)
    (hintents : ∀ txnID, db'.paymentIntents.find? txnID ≠ none →
      db.paymentIntents.find? txnID ≠ none ∨ Pg.varchar 100 txnID = true) : db.KeepsFits db' := by
  intro h
  refine ⟨fun txnID hrow => ?_, by rw [haccounts]; exact h.accounts⟩
  rcases hintents txnID hrow with hold | hfits
  · exact h.intents txnID hold
  · exact hfits

theorem of_accounts (hintents : db'.paymentIntents = db.paymentIntents)
    (haccounts : ∀ a, db'.accountBalances.find? a ≠ none →
      db.accountBalances.find? a ≠ none ∨ Pg.varchar 100 a = true) : db.KeepsFits db' := by
  intro h
  refine ⟨by rw [hintents]; exact h.intents, fun a hrow => ?_⟩
  rcases haccounts a hrow with hold | hfits
  · exact h.accounts a hold
  · exact hfits

theorem of_eq (hintents : db'.paymentIntents = db.paymentIntents)
    (haccounts : db'.accountBalances = db.accountBalances) : db.KeepsFits db' :=
  .of_intents haccounts fun _ hrow => .inl (hintents ▸ hrow)

end DB.KeepsFits

theorem Recovery.keepsFits : Recovery.Statements DB.KeepsFits where
  createPaymentIntent intent db u db' h := by
    obtain ⟨hfits, hfree, -, -, rfl⟩ := createPaymentIntent_ok.mp h
    refine .of_intents rfl fun txnID hrow => ?_
    by_cases hid : intent.txnID = txnID
    · simp only [PaymentIntent.columnsFit, Bool.and_eq_true] at hfits
      exact .inr (hid ▸ hfits.1.1.1.1.1.1.1.1)
    · exact .inl (by rwa [Table.find?_insert_ne _ (show intent.stored.txnID ≠ txnID from hid)] at hrow)
  updatePaymentIntentStatus txnID status reason now := by
    refine keeps_write fun db => ?_
    cases db.paymentIntents.find? txnID with
    | none => exact id
    | some intent =>
      exact .of_intents rfl fun id hrow => .inl (mt (Table.find?_set_eq_none _ _ _).mpr hrow)
  deletePaymentIntent txnID db u db' h := by
    obtain ⟨-, rfl⟩ := deletePaymentIntent_ok.mp h
    refine .of_intents rfl fun id hrow => .inl ?_
    rw [Table.find?_erase] at hrow
    split at hrow
    · exact absurd rfl hrow
    · exact hrow
  registerNonce := keeps_registerNonce fun _ _ => .of_eq rfl rfl
  deleteNonce := keeps_deleteNonce fun _ _ => .of_eq rfl rfl
  updateToken := keeps_updateToken fun _ _ => .of_eq rfl rfl
  updateBalance accountID available reserved now db u db' h := by
    by_cases hnone : db.accountBalances.find? accountID = none
    · rw [updateBalance, hnone] at h
      obtain ⟨-, rfl⟩ := Prod.mk.inj (Except.ok.inj h)
      exact id
    · obtain ⟨_, _, rfl⟩ := (updateBalance_ok hnone).mp h
      exact .of_accounts rfl fun a hrow => .inl (mt (Table.find?_set_eq_none _ _ _).mpr hrow)
  createLedgerEntry := keeps_createLedgerEntry fun _ _ _ => .of_eq rfl rfl
  deleteLedgerEntries := keeps_deleteLedgerEntries fun _ _ _ => .of_eq rfl rfl
  createAuditEvent := keeps_createAuditEvent fun _ _ => .of_eq rfl rfl
  createOutboxEvent := keeps_createOutboxEvent fun _ _ _ => .of_eq rfl rfl
  createPaymentEvent := keeps_createPaymentEvent fun _ _ => .of_eq rfl rfl
  insertFailure := Recovery.keeps_insertFailure fun _ _ => .of_eq rfl rfl
  insertOperation := Recovery.keeps_insertOperation fun _ _ => .of_eq rfl rfl

theorem World.keepsFits : World.Statements E DB.KeepsFits where
  toRecovery := Recovery.keepsFits
  createDevice := keeps_createDevice fun _ _ => .of_eq rfl rfl
  updateDeviceStatus := keeps_updateDeviceStatus fun _ _ => .of_eq rfl rfl
  createDeviceAttestation := keeps_createDeviceAttestation fun _ _ => .of_eq rfl rfl
  createAccount accountID initialBalance now db u db' h := by
    obtain ⟨hfits, _, rfl⟩ := createAccount_ok.mp h
    refine .of_accounts rfl fun a hrow => ?_
    by_cases hid : accountID = a
    · exact .inr (hid ▸ hfits)
    · exact .inl (by rwa [Table.find?_insert_ne _ hid] at hrow)
  issueToken ownerID value duration tokenID faults now db := by
    cases h : Token.issueToken E ownerID value duration tokenID faults now db with
    | mk r db' =>
      obtain ⟨e, devices, -, rfl⟩ | ⟨tok, newAvailable, reserved, deviceID, devices, -, -, hres,
        hbook⟩ := Token.issueToken_cases h
      · exact .of_eq rfl rfl
      · obtain ⟨bal, _, hbal, -, -, -, -, -, -, _, _, rfl⟩ := Token.reserveFunds_inv hres
        have hbooks : Keeps DB.KeepsFits (Token.bookReservation tok newAvailable deviceID now) :=
          keeps_bind (keeps_mapError (Recovery.keepsFits.createPaymentIntent _)) fun _ =>
            keeps_bind (keeps_mapError (Recovery.keepsFits.createLedgerEntry _ _ _ _ _ _)) fun _ =>
            keeps_mapError (Recovery.keepsFits.createOutboxEvent _ _ _)
        exact fun hfits => hbooks _ _ _ hbook ⟨hfits.intents, fun a hrow =>
          hfits.accounts a (mt (Table.find?_set_eq_none _ _ _).mpr hrow)⟩

theorem World.fits {w : World E} (hi : w.Initial) (ls : List Label) : (w.exec ls).db.Fits := by
  have hstart : w.db.Fits :=
    ⟨fun txnID h => absurd (by rw [hi.paymentIntents, Table.find?_empty]) h,
      fun a h => absurd (by rw [hi.accountBalances, Table.find?_empty]) h⟩
  exact Run.exec_invariant (I := fun w : World E => w.db.Fits)
    (fun w l hw _ => World.keepsFits.step w l hw) hstart (Run.steps_true w ls)

/-! ## A release goes through -/

/-- The two balances of no account together exceed an `int64`. -/
def DB.Roomy (db : DB) : Prop :=
  ∀ row ∈ db.accountBalances.rows,
    row.availableBalance.toInt + row.reservedBalance.toInt ≤ Int64.maxValue.toInt

theorem DB.roomy_iff {db : DB} :
    db.Roomy ↔ ∀ a, db.available a + db.reserved a ≤ Int64.maxValue.toInt := by
  constructor
  · intro h a
    cases hrow : db.accountBalances.find? a with
    | some row =>
      rw [DB.available_of_find? hrow, DB.reserved_of_find? hrow]
      exact h row (Table.mem_of_find? hrow)
    | none => simp only [DB.available, DB.reserved, hrow]; decide
  · intro h row hrow
    have hfind := Table.find?_of_mem hrow
    rw [← DB.available_of_find? hfind, ← DB.reserved_of_find? hfind]
    exact h row.accountID

/-- What a release needs of the state it starts from, beyond what it finds in the token. -/
structure World.Ready (w : World E) : Prop where
  wf : w.CallsWf
  sound : w.bank.Sound
  backed : w.bank.Backed
  owners : w.bank.Owners
  fits : w.db.Fits
  room : w.db.Roomy

namespace World

variable {w : World E} {j : ℕ} {fault : Option GoError} {now : Time} {tok : OfflineToken}

theorem ready (hi : w.Initial) {ls : List Label} (hown : w.OwnRows ls)
    (hroom : (w.exec ls).db.Roomy) : (w.exec ls).Ready :=
  have hsound := bank_invariant (I := Bank.Sound) (P := fun _ _ => True)
    (fun _ _ hs _ h => hs.step h) hi.callsWf hi.sound (Run.steps_true w ls)
  ⟨hsound.2, hsound.1, (money hi ls).2.2.2, owners hi hown, fits hi ls, hroom⟩

/-- An unprocessed token is worth something and stands for reserved money. -/
theorem Ready.unprocessed (hw : w.Ready) (hfind : w.db.offlineTokens.find? tok.tokenID = some tok)
    (hconsumed : tok.consumed = false) (hreleased : tok.releasedAt = none) :
    0 < tok.value ∧ tok.outstanding = true ∧
      isValidTokenTransition tok.status .invalidated = true := by
  cases hw.sound.tokens.state _ tok hfind with
  | spent hrow => exact absurd (hrow.1.symm.trans hconsumed) (by decide)
  | issued hv hs => exact ⟨hv, by simp [OfflineToken.outstanding, hs], by rw [hs]; decide⟩
  | held _ _ hv hs => exact ⟨hv, by simp [OfflineToken.outstanding, hs], by rw [hs]; decide⟩
  | consumed _ _ _ _ hc => exact absurd (hc.symm.trans hconsumed) (by decide)
  | released _ _ _ hr => exact absurd hreleased hr
  | stranded _ _ _ hr => exact absurd hreleased hr

/-- The owner of an outstanding token has an account. -/
theorem Ready.account (hw : w.Ready) (hfind : w.db.offlineTokens.find? tok.tokenID = some tok)
    (hv : 0 < tok.value) (hout : tok.outstanding = true) :
    ∃ bal, w.db.accountBalances.find? tok.ownerID = some bal := by
  cases hbal : w.db.accountBalances.find? tok.ownerID with
  | some bal => exact ⟨bal, rfl⟩
  | none =>
    have hone : tok.value.toInt ≤ w.db.outstanding tok.ownerID := by
      refine List.single_le_sum (hw.sound.values_nonneg _) _ ?_
      exact List.mem_map.mpr ⟨tok, Table.mem_of_find? hfind, by simp [hout]⟩
    have hsplit := hw.backed.reserved_eq hw.sound tok.ownerID
    have hstuck := hw.sound.stuck_nonneg tok.ownerID
    have hzero : w.bank.db.reserved tok.ownerID = 0 := by
      rw [DB.reserved, show w.bank.db.accountBalances.find? tok.ownerID = none from hbal]
    have hpos := Checked.toInt_pos hv
    rw [hzero] at hsplit
    exact absurd hsplit (by
      have : w.bank.db.outstanding tok.ownerID = w.db.outstanding tok.ownerID := rfl
      omega)

/-- The release of an unprocessed token commits, unless the transaction itself is lost. -/
theorem Ready.releases (hw : w.Ready) (hfind : w.db.offlineTokens.find? tok.tokenID = some tok)
    (hconsumed : tok.consumed = false) (hreleased : tok.releasedAt = none) (now : Time) :
    ∃ db', Token.releaseExpired tok now w.db = .ok (true, db') := by
  obtain ⟨hv, hout, htrans⟩ := hw.unprocessed hfind hconsumed hreleased
  obtain ⟨bal, hbal⟩ := hw.account hfind hv hout
  have hcov := hw.backed.covers hw.sound hfind hout hbal
  have hvn : 0 ≤ tok.value := Int64.le_of_lt hv
  have hacc : w.db.accountBalances.find? tok.ownerID ≠ none := by simp [hbal]
  obtain ⟨hintent, -⟩ := hw.owners.placeholder _ tok hfind hv
  have h₁ : 0 ≤ bal.availableBalance + tok.value := by
    have hroom := DB.roomy_iff.mp hw.room tok.ownerID
    rw [DB.available_of_find? hbal, DB.reserved_of_find? hbal] at hroom
    exact Checked.nonneg_add bal.available_check hvn
      (le_trans (by have := Int64.le_iff_toInt_le.mp hcov; omega) hroom)
  have h₂ : 0 ≤ bal.reservedBalance - tok.value := by
    have hle := Int64.le_iff_toInt_le.mp hcov
    rw [Int64.le_iff_toInt_le, Checked.toInt_sub bal.reserved_check hvn, Int64.toInt_zero]
    omega
  have hacc' : (w.db.accountBalances.set ⟨tok.ownerID, _, _, now, h₁, h₂⟩).find? tok.ownerID
      ≠ none := mt (Table.find?_set_eq_none _ _ _).mp hacc
  rw [Token.releaseExpired, bind_of_ok (getTokenForUpdate_ok.mpr ⟨hfind, rfl⟩),
    if_neg (by simp [hconsumed, hreleased])]
  simp only [bind_ok, getBalanceForUpdate_ok, check_ok, releaseToken, updateToken_ok,
    createLedgerEntry_ok, createOutboxEvent_ok, pure_ok]
  refine ⟨_, bal, w.db, ⟨hbal, rfl⟩, (), w.db, ⟨hcov, rfl⟩, (), _,
    (updateBalance_ok hacc).mpr ⟨h₁, h₂, rfl⟩, (), _, ⟨tok, hfind, htrans, rfl⟩, (), _,
    ⟨?_, hintent, hacc', hv, rfl⟩, (), _, rfl, trivial, rfl⟩
  rw [hw.fits.intents _ hintent, hw.fits.accounts _ hacc]
  rfl

/-! ## A pass of releases -/

theorem passes_release {rest : List OfflineToken} (hpass : w.passes[j]? = some (tok :: rest))
    (fault : Option GoError) (now : Time) :
    (w.step (.release j fault now)).passes = w.passes.set j rest := by
  simp only [step, release, hpass]
  split <;> rfl

theorem db_release {rest : List OfflineToken} (hpass : w.passes[j]? = some (tok :: rest))
    (fault : Option GoError) (now : Time) :
    (w.step (.release j fault now)).db = (withTx fault (Token.releaseExpired tok now) w.db).2 := by
  simp only [step, release, hpass]
  split
  · next h => exact (congrArg Prod.snd h).symm
  · next h => exact (congrArg Prod.snd h).symm
  · next h => exact ((congrArg Prod.snd h).trans (withTx_error h)).symm

/-- A move that adds nothing to the history commits nothing. -/
theorem commits_of_history {l : Label} (h : (w.step l).history = w.history) : w.commits l = none := by
  rw [commits, h, List.drop_length]
  rfl

/-- A step of a pass commits a release or nothing. -/
theorem commits_release (hpass : ∃ rest, w.passes[j]? = some (tok :: rest))
    (fault : Option GoError) (now : Time) :
    w.commits (.release j fault now) = none ∨ w.commits (.release j fault now) = some (.release tok) := by
  obtain ⟨rest, hpass⟩ := hpass
  have hstep : w.step (.release j fault now) = w.release j fault now := rfl
  simp only [release, hpass] at hstep
  split at hstep
  · next db' h =>
    have hhistory : (w.step (.release j fault now)).history
        = w.history ++ [⟨.release tok, w.db, db'⟩] := by rw [hstep]; rfl
    exact .inr (commits_eq hhistory)
  · exact .inl (commits_of_history (by rw [hstep]))
  · exact .inl (commits_of_history (by rw [hstep]))

/-- A step of a pass leaves a state that is ready for the next one. -/
theorem Ready.release (hw : w.Ready) {rest : List OfflineToken}
    (hpass : w.passes[j]? = some (tok :: rest)) (fault : Option GoError) (now : Time) :
    (w.step (.release j fault now)).Ready := by
  have hown : w.bank.OwnRow (w.commits (.release j fault now)) := by
    intro x hx
    rcases commits_release ⟨rest, hpass⟩ fault now with h | h <;> simp [h, Txn.reserveUndo?] at hx
  obtain ⟨h, hwf⟩ := step_refines hw.wf (.release j fault now)
  refine ⟨hwf, hw.sound.step h, hw.backed.step hw.sound h, hw.owners.step hw.sound.counters hown h,
    World.keepsFits.step w _ hw.fits, ?_⟩
  rw [db_release hpass]
  obtain hsame | ⟨-, released, hok⟩ := withTx_state fault (Token.releaseExpired tok now) w.db
  · rw [hsame]
    exact hw.room
  · rcases Token.releaseExpired_ok hok with ⟨-, hsame⟩ | ⟨-, locked, hrel⟩
    · rw [hsame]
      exact hw.room
    · refine DB.roomy_iff.mpr fun a => ?_
      rw [hrel.shift.available, hrel.shift.reserved, Pi.single_neg, Pi.neg_apply]
      have hroom := DB.roomy_iff.mp hw.room a
      omega

/-- The moves of a pass over the tokens. -/
def passLabels (j : ℕ) (fate : String → Fate) (clock : String → Time) (toks : List OfflineToken) :
    List Label :=
  toks.map fun tok => .release j (fate tok.tokenID).fault (clock tok.tokenID)

/-- So does the start of a pass. -/
theorem Ready.startRelease (hw : w.Ready) (now : Time) : (w.step (.startRelease now)).Ready := by
  obtain ⟨h, hwf⟩ := step_refines hw.wf (.startRelease now)
  have hown : w.bank.OwnRow (w.commits (.startRelease now)) := by
    have hnone : w.commits (.startRelease now) = none := commits_of_history rfl
    intro x hx
    simp [hnone] at hx
  exact ⟨hwf, hw.sound.step h, hw.backed.step hw.sound h,
    hw.owners.step hw.sound.counters hown h, hw.fits, hw.room⟩

/-- What a pass over unprocessed tokens does: all those whose transaction is not lost are released,
and all that get to the end of the body are counted. -/
theorem Ready.pass (hw : w.Ready) {toks : List OfflineToken} (hpass : w.passes[j]? = some toks)
    (hnodup : (toks.map OfflineToken.tokenID).Nodup)
    (hrows : ∀ tok ∈ toks, w.db.offlineTokens.find? tok.tokenID = some tok ∧
      tok.consumed = false ∧ tok.releasedAt = none) (fate : String → Fate) (clock : String → Time)
    (n : ℕ) :
    let s := toks.foldl (Token.releaseTurn fate clock) (n, w.db)
    s.1 = n + toks.countP (fun tok => (fate tok.tokenID).runs) ∧
      Token.Freed clock (toks.filter fun tok => fate tok.tokenID = .fine) w.db s.2 ∧
      (w.exec (passLabels j fate clock toks)).db = s.2 := by
  induction toks generalizing w n with
  | nil => exact ⟨rfl, .refl clock w.db, rfl⟩
  | cons tok toks ih =>
    obtain ⟨hnew, hnodup⟩ := List.nodup_cons.mp hnodup
    obtain ⟨hfind, hconsumed, hreleased⟩ := hrows tok List.mem_cons_self
    obtain ⟨db', hok⟩ := hw.releases hfind hconsumed hreleased (clock tok.tokenID)
    obtain ⟨locked, hrel⟩ : ∃ locked, Token.Released w.db db' tok locked (clock tok.tokenID) := by
      simpa using Token.releaseExpired_ok hok
    have hkey : locked.tokenID = tok.tokenID := Table.key_of_find? hrel.find
    -- the next turn starts from the state of this step
    have hw' := hw.release hpass (fate tok.tokenID).fault (clock tok.tokenID)
    have hdb := db_release hpass (fate tok.tokenID).fault (clock tok.tokenID)
    have hpass' : (w.step (.release j (fate tok.tokenID).fault (clock tok.tokenID))).passes[j]?
        = some toks := by
      rw [passes_release hpass, List.getElem?_set_self (List.getElem?_eq_some_iff.mp hpass).1]
    have hrest : ∀ tok' ∈ toks, db'.offlineTokens.find? tok'.tokenID
        = w.db.offlineTokens.find? tok'.tokenID := by
      intro tok' htok'
      rw [hrel.offlineTokens, Table.find?_set_ne]
      exact fun hid => hnew (List.mem_map.mpr ⟨tok', htok', hid.symm.trans hkey⟩)
    have hsub : ((toks.filter fun tok => fate tok.tokenID = .fine).map OfflineToken.tokenID).Sublist
        (toks.map OfflineToken.tokenID) := List.filter_sublist.map _
    rw [List.foldl_cons, Token.releaseTurn_eq hok, ← hdb]
    by_cases hfine : fate tok.tokenID = .fine
    · have hdb' : (w.step (.release j (fate tok.tokenID).fault (clock tok.tokenID))).db = db' := by
        rw [hdb, hfine]
        exact congrArg Prod.snd (withTx_ok.mpr ⟨rfl, hok⟩)
      obtain ⟨hcount, hfreed, hexec⟩ := ih hw' hpass' hnodup (fun tok' htok' => by
        rw [hdb', hrest tok' htok']
        exact hrows tok' (List.mem_cons_of_mem _ htok')) (n + (fate tok.tokenID).runs.toNat)
      refine ⟨hcount.trans ?_, ?_, hexec⟩
      · rw [List.countP_cons_of_pos (by simp [hfine, Fate.runs]), hfine, Fate.runs, Bool.toNat_true]
        omega
      · rw [List.filter_cons_of_pos (by simpa using hfine)]
        rw [hdb'] at hfreed ⊢
        exact .cons hrel hfreed fun h => hnew (hsub.subset h)
    · have hdb' : (w.step (.release j (fate tok.tokenID).fault (clock tok.tokenID))).db = w.db := by
        rw [hdb]
        cases hf : fate tok.tokenID with
        | fine => exact absurd hf hfine
        | refused err => rfl
        | lost err => rfl
      obtain ⟨hcount, hfreed, hexec⟩ := ih hw' hpass' hnodup (fun tok' htok' => by
        rw [hdb']
        exact hrows tok' (List.mem_cons_of_mem _ htok')) (n + (fate tok.tokenID).runs.toNat)
      refine ⟨hcount.trans ?_, ?_, hexec⟩
      · rw [List.countP_cons]
        cases (fate tok.tokenID).runs <;> simp; omega
      · rw [List.filter_cons_of_neg (by simpa using hfine)]
        rw [hdb'] at hfreed ⊢
        exact hfreed

/-- The moves of a scan over the intents. -/
def scanLabels (j : ℕ) (fault : String → Option GoError) (clock : String → Time)
    (intents : List PaymentIntent) : List Label :=
  intents.map fun i => .scan j (fault i.txnID) (clock i.txnID)

/-- The loop over the stuck intents is a run of scan steps. -/
theorem exec_scanLabels {intents : List PaymentIntent} (hscan : w.scans[j]? = some intents)
    (fault : String → Option GoError) (clock : String → Time) (n : ℕ) :
    (w.exec (scanLabels j fault clock intents)).db
      = (intents.foldl (Reconciliation.expireTurn fault clock) (n, w.db)).2 := by
  induction intents generalizing w n with
  | nil => rfl
  | cons i intents ih =>
    have hstep : (w.step (.scan j (fault i.txnID) (clock i.txnID))).scans[j]? = some intents ∧
        (w.step (.scan j (fault i.txnID) (clock i.txnID))).db
          = (Reconciliation.expireTurn fault clock (n, w.db) i).2 := by
      have hj := (List.getElem?_eq_some_iff.mp hscan).1
      simp only [step, scan, hscan, Reconciliation.expireTurn]
      by_cases hexp : i.expiry < clock i.txnID
      · rw [if_pos hexp, if_pos hexp]
        split
        · next h => exact ⟨List.getElem?_set_self hj, (congrArg Prod.snd h).symm⟩
        · next h =>
          exact ⟨List.getElem?_set_self hj, ((congrArg Prod.snd h).trans (withTx_error h)).symm⟩
      · rw [if_neg hexp, if_neg hexp]
        exact ⟨List.getElem?_set_self hj, rfl⟩
    rw [List.foldl_cons]
    exact (ih hstep.1 (Reconciliation.expireTurn fault clock (n, w.db) i).1).trans
      (by rw [hstep.2])

end World

namespace Reconciliation

variable {db db' mid : DB} {input : Input}

theorem Input.mem_due {tok : OfflineToken} : tok ∈ input.due db ↔
    db.offlineTokens.find? tok.tokenID = some tok ∧ tok.consumed = false ∧
      tok.releasedAt = none ∧ ∃ now, input.tokens = .ok now ∧ tok.expiry < now := by
  rw [Input.due]
  cases input.tokens with
  | error e => simp
  | ok now =>
    simp only [Token.mem_getExpiredTokens, Except.ok.injEq, exists_eq_left']
    tauto

theorem Input.nodup_due (input : Input) (db : DB) :
    ((input.due db).map OfflineToken.tokenID).Nodup := by
  rw [Input.due]
  cases input.tokens with
  | error e => exact List.nodup_nil
  | ok now => exact Token.nodup_getExpiredTokens db now

theorem Input.nodup_stuck (input : Input) (db : DB) :
    ((input.stuck db).map PaymentIntent.txnID).Nodup := by
  rw [Input.stuck]
  cases input.intents with
  | some e => exact List.nodup_nil
  | none => exact nodup_getStuckPaymentIntents db _

/-- What is due after a release: what was due and has not been released. -/
theorem due_of_freed (h : Token.Freed input.releaseClock
      ((input.due db).filter fun tok => input.release tok.tokenID = .fine) db mid)
    (hmid : db'.offlineTokens = mid.offlineTokens) (tok : OfflineToken) :
    tok ∈ input.due db' ↔ tok ∈ input.due db ∧ input.release tok.tokenID ≠ .fine := by
  rw [Input.mem_due, Input.mem_due, hmid, h.offlineTokens]
  have hfreed : tok.tokenID ∈ ((input.due db).filter fun tok =>
      input.release tok.tokenID = .fine).map OfflineToken.tokenID ↔
      input.release tok.tokenID = .fine ∧ ∃ tok' ∈ input.due db, tok'.tokenID = tok.tokenID := by
    simp only [List.mem_map, List.mem_filter, decide_eq_true_eq]
    constructor
    · rintro ⟨tok', ⟨hdue, hfine⟩, hid⟩
      exact ⟨hid ▸ hfine, tok', hdue, hid⟩
    · rintro ⟨hfine, tok', hdue, hid⟩
      exact ⟨tok', ⟨hdue, hid.symm ▸ hfine⟩, hid⟩
  constructor
  · rintro ⟨hfind, hconsumed, hreleased, now, hnow, hexp⟩
    obtain ⟨row, hrow, hmap⟩ := Option.map_eq_some_iff.mp hfind
    split at hmap
    · rw [← hmap] at hreleased
      exact absurd hreleased (by simp [OfflineToken.released])
    · next hnot =>
      subst hmap
      refine ⟨⟨hrow, hconsumed, hreleased, now, hnow, hexp⟩, fun hfine => hnot (hfreed.mpr
        ⟨hfine, row, Input.mem_due.mpr ⟨hrow, hconsumed, hreleased, now, hnow, hexp⟩, rfl⟩)⟩
  · rintro ⟨⟨hrow, hrest⟩, hnot⟩
    refine ⟨?_, hrest⟩
    rw [hrow, Option.map_some, if_neg fun hmem => hnot (hfreed.mp hmem).1]

/-- What the first part of a scan does, and the moves that do it. -/
theorem releasePart_of_ready {w : World E} (hw : w.Ready) (input : Input) :
    (releasePart input w.db).1
        = (input.due w.db).countP (fun tok => (input.release tok.tokenID).runs) ∧
      Token.Freed input.releaseClock
        ((input.due w.db).filter fun tok => input.release tok.tokenID = .fine) w.db
        (releasePart input w.db).2 ∧
      ∃ ls, (w.exec ls).db = (releasePart input w.db).2 := by
  have hdue := input.nodup_due w.db
  have hrows : ∀ tok ∈ input.due w.db, w.db.offlineTokens.find? tok.tokenID = some tok ∧
      tok.consumed = false ∧ tok.releasedAt = none := by
    intro tok htok
    obtain ⟨hfind, hconsumed, hreleased, -⟩ := Input.mem_due.mp htok
    exact ⟨hfind, hconsumed, hreleased⟩
  rw [releasePart_eq]
  cases hq : input.tokens with
  | error e =>
    rw [show input.due w.db = [] by rw [Input.due, hq]]
    exact ⟨rfl, .refl _ _, [], rfl⟩
  | ok now =>
    have hpass : (w.step (.startRelease now)).passes[w.passes.length]? = some (input.due w.db) := by
      rw [show input.due w.db = getExpiredTokens w.db now by rw [Input.due, hq]]
      exact List.getElem?_concat_length
    obtain ⟨hcount, hfreed, hexec⟩ := (hw.startRelease now).pass hpass hdue hrows input.release
      input.releaseClock 0
    exact ⟨hcount.trans (Nat.zero_add _), hfreed, .startRelease now :: _, hexec⟩

/-- The moves of the second part of a scan. -/
theorem expirePart_exec (w : World E) (input : Input) :
    ∃ ls, (w.exec ls).db = (expirePart input w.db).2 := by
  rw [expirePart, Input.stuck]
  cases hq : input.intents with
  | some e => exact ⟨[], rfl⟩
  | none =>
    refine ⟨.startScan input.now :: _, World.exec_scanLabels (w := w.step (.startScan input.now))
      (j := w.scans.length) ?_ input.expire input.expireClock 0⟩
    exact List.getElem?_concat_length

/-- A scan after a faultless one has nothing to do. -/
theorem runScan_again (hfreed : ∀ tok, tok ∉ input.due db')
    (hlapsed : Lapsed input.expireClock ((input.stuck mid).filter fun i =>
      i.expiry < input.expireClock i.txnID ∧ input.expire i.txnID = none) mid db')
    (hexpire : ∀ txnID, input.expire txnID = none) : (runScan input db').2 = db' := by
  have hnone : input.due db' = [] := List.eq_nil_iff_forall_not_mem.mpr hfreed
  have hcurrent : ∀ i ∈ input.stuck db', ¬i.expiry < input.expireClock i.txnID := by
    intro i hi hexp
    rw [Input.stuck] at hi
    cases hq : input.intents with
    | some e =>
      rw [hq] at hi
      exact List.not_mem_nil hi
    | none =>
      rw [hq] at hi
      obtain ⟨hfind, hstuck, hold⟩ := mem_getStuckPaymentIntents.mp hi
      rw [hlapsed.paymentIntents] at hfind
      obtain ⟨row, hrow, hmap⟩ := Option.map_eq_some_iff.mp hfind
      split at hmap
      · rw [← hmap] at hstuck
        exact absurd hstuck Bool.false_ne_true
      · next hnot =>
        subst hmap
        refine hnot (List.mem_map_of_mem (List.mem_filter.mpr ⟨?_, by simp [hexp, hexpire]⟩))
        rw [Input.stuck, hq]
        exact mem_getStuckPaymentIntents.mpr ⟨hrow, hstuck, hold⟩
  have hrelease : releasePart input db' = (0, db') := by
    rw [releasePart_eq, hnone]
    rfl
  simp only [runScan, hrelease, expirePart]
  rw [foldl_expireTurn_current hcurrent]

end Reconciliation

open Reconciliation

/-- In every state the system reaches under `OwnRow`, and with room in the accounts, a scan releases
exactly the expired tokens whose transaction does not fail on the way, books each release once and
moves its value back to its owner; it marks exactly the stuck and expired payment intents whose
update does not fail, and touches nothing else in these tables. What is due afterwards is what a fault
kept it from releasing. It counts the releases whose commit was lost and the updates that failed as
repairs. The state it leaves is again one the system reaches, and a second scan after a faultless one
changes nothing. -/
theorem reconciliation_repairs (w : World E) (hi : w.Initial) (ls : List Label)
    (hown : w.OwnRows ls) (hroom : (w.exec ls).db.Roomy) (input : Input) :
    let db := (w.exec ls).db
    let mid := (releasePart input db).2
    let scan := runScan input db
    Token.Freed input.releaseClock
      ((input.due db).filter fun tok => input.release tok.tokenID = .fine) db mid ∧
    Lapsed input.expireClock ((input.stuck mid).filter fun i =>
      i.expiry < input.expireClock i.txnID ∧ input.expire i.txnID = none) mid scan.2 ∧
    (∀ tok, tok ∈ input.due scan.2 ↔ tok ∈ input.due db ∧ input.release tok.tokenID ≠ .fine) ∧
    scan.1.released = (input.due db).countP (fun tok => (input.release tok.tokenID).runs) ∧
    scan.1.autoFailed = (input.stuck mid).countP (fun i => i.expiry < input.expireClock i.txnID) ∧
    (∃ ls', (w.exec (ls ++ ls')).db = scan.2) ∧
    ((∀ tokenID, input.release tokenID = .fine) → (∀ txnID, input.expire txnID = none) →
      (runScan input scan.2).2 = scan.2) := by
  intro db mid scan
  obtain ⟨hcount, hfreed, ls₁, hls₁⟩ := releasePart_of_ready (World.ready hi hown hroom) input
  obtain ⟨ls₂, hls₂⟩ := expirePart_exec (w.exec (ls ++ ls₁)) input
  obtain ⟨hfailed, hlapsed⟩ :=
    foldl_expireTurn input.expire input.expireClock (input.nodup_stuck mid) 0 mid
  have hsame : scan.2.offlineTokens = mid.offlineTokens := by
    have h := congrArg DB.offlineTokens hlapsed.frame
    exact h
  have hdue := due_of_freed hfreed hsame
  refine ⟨hfreed, hlapsed, hdue, hcount, hfailed.trans (Nat.zero_add _), ⟨ls₁ ++ ls₂, ?_⟩, ?_⟩
  · rw [← List.append_assoc, World.exec, Run.exec_append]
    refine hls₂.trans ?_
    rw [World.exec, Run.exec_append]
    exact congrArg (fun db => (expirePart input db).2) hls₁
  · intro hfine hnone
    exact runScan_again (fun tok htok => ((hdue tok).mp htok).2 (hfine _)) hlapsed hnone

/-- A scan after the tokens of `Label.setup` have expired, in which the commit for `K` is lost. -/
def lossyScan : Input where
  tokens := .ok 2000000000000
  release tokenID := if tokenID = "K" then .lost ⟨"driver: bad connection", false⟩ else .fine
  releaseClock _ := 2000000000000
  now := 2000000000000
  intents := none
  expire _ := none
  expireClock _ := 2000000000000
  ledger := none
  outbox := none

/-- Of two expired tokens one is released and both are counted; the other one is still due. -/
theorem reconciliation_repairs_lossy :
    let db := ((World.start (E := .simple fun _ => none) ()).exec (Label.setup ["J", "K"])).db
    let scan := runScan lossyScan db
    (∀ tok, tok ∈ lossyScan.due scan.2 ↔
      tok ∈ lossyScan.due db ∧ lossyScan.release tok.tokenID ≠ .fine) ∧
    (lossyScan.due scan.2).map OfflineToken.tokenID = ["K"] ∧ scan.1.released = 2 ∧
    scan.2.available "alice" = 900 ∧ scan.2.reserved "alice" = 100 := by
  have h : (World.start (E := .simple fun _ => none) ()).OwnRows (Label.setup ["J", "K"]) ∧
      ((World.start (E := .simple fun _ => none) ()).exec (Label.setup ["J", "K"])).db.Roomy := by
    unfold DB.Roomy
    decide +kernel
  exact ⟨(reconciliation_repairs _ (World.start_initial _) _ h.1 h.2 lossyScan).2.2.1,
    by decide +kernel⟩

end OfflinePay
