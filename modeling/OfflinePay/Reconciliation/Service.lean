import OfflinePay.Token.Service
import OfflinePay.Validator.Audit

/-!
# Reconciliation

Reference: `internal/reconciliation/service.go`, and `ReleaseExpiredTokens` of
`internal/token/service.go`.

A scan reads the expired tokens and releases them one transaction at a time, then reads the stuck
payment intents and marks the expired ones, and then compares the ledger with itself. A turn of a
loop that fails is logged and skipped. `Freed` and `Lapsed` say what the two loops have done to the
tables.
-/

namespace OfflinePay

open Tx Repository

/-- How the transaction of one turn of a loop ends: with `Commit`, with an error before it, or with
an error of `Commit` itself, when the body has already run. -/
inductive Fate where
  | fine
  | refused (err : GoError)
  | lost (err : GoError)
deriving DecidableEq

/-- The error of `WithTx`, where it does not come from the body. -/
def Fate.fault : Fate → Option GoError
  | fine => none
  | refused err | lost err => some err

/-- The body of the transaction runs to its end. -/
def Fate.runs : Fate → Bool
  | refused _ => false
  | fine | lost _ => true

/-- The row that `ReleaseToken` leaves. -/
def OfflineToken.released (tok : OfflineToken) (now : Time) : OfflineToken :=
  { tok with releasedAt := some now, status := .invalidated }

namespace Token

/-- One turn of the loop of `ReleaseExpiredTokens`. The counter goes up in the body, so a release
whose commit is lost is counted. -/
def releaseTurn (fate : String → Fate) (clock : String → Time) (s : ℕ × DB) (tok : OfflineToken) :
    ℕ × DB :=
  match fate tok.tokenID, releaseExpired tok (clock tok.tokenID) s.2 with
  | .fine, .ok (released, db') => (s.1 + released.toNat, db')
  | .lost _, .ok (released, _) => (s.1 + released.toNat, s.2)
  | _, _ => s

/-- A turn whose body runs through. -/
theorem releaseTurn_eq {fate : String → Fate} {clock : String → Time} {db db' : DB}
    {tok : OfflineToken} (h : releaseExpired tok (clock tok.tokenID) db = .ok (true, db')) (n : ℕ) :
    releaseTurn fate clock (n, db) tok = (n + (fate tok.tokenID).runs.toNat,
      (withTx (fate tok.tokenID).fault (releaseExpired tok (clock tok.tokenID)) db).2) := by
  rw [releaseTurn, h]
  cases fate tok.tokenID with
  | fine => simp [Fate.runs, Fate.fault, withTx, h]
  | refused err => rfl
  | lost err => rfl

/-- `ReleaseExpiredTokens`: how many tokens it says it has released, and the state it leaves. -/
def releaseExpiredTokens (fate : String → Fate) (clock : String → Time) (now : Time) (db : DB) :
    ℕ × DB :=
  (getExpiredTokens db now).foldl (releaseTurn fate clock) (0, db)

theorem mem_getExpiredTokens {db : DB} {now : Time} {tok : OfflineToken} :
    tok ∈ getExpiredTokens db now ↔ db.offlineTokens.find? tok.tokenID = some tok ∧
      tok.expiry < now ∧ tok.consumed = false ∧ tok.releasedAt = none := by
  rw [getExpiredTokens, List.mem_filter]
  simp only [Bool.and_eq_true, Bool.not_eq_true', decide_eq_true_eq, Option.isNone_iff_eq_none,
    and_assoc]
  exact and_congr_left fun _ => ⟨Table.find?_of_mem, Table.mem_of_find?⟩

/-- A token is listed once. -/
theorem nodup_getExpiredTokens (db : DB) (now : Time) :
    ((getExpiredTokens db now).map OfflineToken.tokenID).Nodup :=
  db.offlineTokens.nodup.sublist (List.filter_sublist.map _)

/-- The value of the tokens that belong to an account. -/
def valueOf (toks : List OfflineToken) (ownerID : String) : ℤ :=
  ((toks.filter (·.ownerID = ownerID)).map (·.value.toInt)).sum

theorem valueOf_cons (tok : OfflineToken) (toks : List OfflineToken) (ownerID : String) :
    valueOf (tok :: toks) ownerID
      = (Pi.single tok.ownerID tok.value.toInt : String → ℤ) ownerID + valueOf toks ownerID := by
  by_cases h : tok.ownerID = ownerID
  · subst h
    simp [valueOf]
  · simp [valueOf, h]

/-- The ledger entries of releases, without their ids and balances. -/
def entriesOf (toks : List OfflineToken) : List (String × String × Direction × Int64 × EntryType) :=
  toks.map fun tok => (reservationTxnID tok.tokenID, tok.ownerID, .credit, tok.value, .release)

/-- The tokens of the list have been released, and nothing else has happened to the tokens, the
balances, the ledger and the payment intents. -/
structure Freed (clock : String → Time) (freed : List OfflineToken) (db db' : DB) : Prop where
  offlineTokens : ∀ tokenID, db'.offlineTokens.find? tokenID
    = (db.offlineTokens.find? tokenID).map fun row =>
      if tokenID ∈ freed.map OfflineToken.tokenID then row.released (clock tokenID) else row
  available : ∀ a, db'.available a = db.available a + valueOf freed a
  reserved : ∀ a, db'.reserved a = db.reserved a - valueOf freed a
  ledgerEntries : ∃ entries, db'.ledgerEntries = db.ledgerEntries ++ entries ∧
    entries.map (fun e => (e.txnID, e.accountID, e.direction, e.amount, e.entryType))
      = entriesOf freed
  paymentIntents : db'.paymentIntents = db.paymentIntents

namespace Freed

variable {clock : String → Time} {db db₁ db₂ : DB} {tok : OfflineToken} {toks : List OfflineToken}

theorem refl (clock : String → Time) (db : DB) : Freed clock [] db db where
  offlineTokens tokenID := by simp
  available a := by simp [valueOf]
  reserved a := by simp [valueOf]
  ledgerEntries := ⟨[], by simp, rfl⟩
  paymentIntents := rfl

/-- A release, and then those of the other tokens. -/
theorem cons {locked : OfflineToken} (h₁ : Released db db₁ tok locked (clock tok.tokenID))
    (h₂ : Freed clock toks db₁ db₂) (hnew : tok.tokenID ∉ toks.map OfflineToken.tokenID) :
    Freed clock (tok :: toks) db db₂ where
  offlineTokens tokenID := by
    have hkey : locked.tokenID = tok.tokenID := Table.key_of_find? h₁.find
    rw [h₂.offlineTokens, h₁.offlineTokens, Table.find?_set, List.map_cons]
    by_cases hid : tokenID = tok.tokenID
    · subst hid
      simp [h₁.find, hkey, hnew, OfflineToken.released]
    · have hid' : ¬locked.tokenID = tokenID := fun h => hid (h.symm.trans hkey)
      simp [hid, hid']
  available a := by
    rw [h₂.available, h₁.shift.available, valueOf_cons, add_assoc]
  reserved a := by
    rw [h₂.reserved, h₁.shift.reserved, valueOf_cons, Pi.single_neg, Pi.neg_apply]
    ring
  ledgerEntries := by
    obtain ⟨after, -, hone⟩ := h₁.ledgerEntries
    obtain ⟨entries, hentries, hmap⟩ := h₂.ledgerEntries
    refine ⟨_, (hentries.trans (congrArg (· ++ entries) hone)).trans (List.append_assoc _ _ _), ?_⟩
    rw [List.map_append, hmap]
    rfl
  paymentIntents := h₂.paymentIntents.trans h₁.paymentIntents

end Freed

end Token

namespace Reconciliation

/-- One turn of the loop over the stuck intents: an expired one counts as a repair, whether or not
the update goes through. -/
def expireTurn (fault : String → Option GoError) (clock : String → Time) (s : ℕ × DB)
    (intent : PaymentIntent) : ℕ × DB :=
  if intent.expiry < clock intent.txnID then
    (s.1 + 1, (withTx (fault intent.txnID) (updatePaymentIntentStatus intent.txnID .expired
      (some "expired_during_relay") (clock intent.txnID)) s.2).2)
  else s

/-- What a scan reads from its surroundings: the database's clock where it looks for expired tokens,
its own clock elsewhere, and which of its statements and transactions fail. -/
structure Input where
  tokens : Except GoError Time
  release : String → Fate
  releaseClock : String → Time
  now : Time
  intents : Option GoError
  expire : String → Option GoError
  expireClock : String → Time
  ledger : Option GoError
  outbox : Option GoError

/-- What a scan reports: the three parts of `ReconciliationRepairsTotal`, and the new value of
`OutboxQueueSize`. -/
structure Report where
  released : ℕ
  autoFailed : ℕ
  imbalances : ℕ
  outboxQueueSize : Option ℕ
deriving DecidableEq

/-- `verifyLedgerConsistency`: the number of imbalances it reports. -/
def verifyLedgerConsistency (fault : Option GoError) (db : DB) : Except GoError ℕ :=
  match fault with
  | some err => .error err
  | none => (Validator.checkLedgerInconsistencies db).map List.length

/-- `GetPendingOutboxEventsCount`. -/
def getPendingOutboxEventsCount (db : DB) : ℕ :=
  db.outboxEvents.countP (·.status == .pending)

/-- The tokens that a scan finds expired. -/
def Input.due (input : Input) (db : DB) : List OfflineToken :=
  match input.tokens with
  | .error _ => []
  | .ok now => getExpiredTokens db now

/-- The payment intents that a scan finds stuck: untouched for ten seconds. -/
def Input.stuck (input : Input) (db : DB) : List PaymentIntent :=
  match input.intents with
  | some _ => []
  | none => getStuckPaymentIntents db (input.now - 10000000000)

/-- The first part of a scan. -/
def releasePart (input : Input) (db : DB) : ℕ × DB :=
  match input.tokens with
  | .error _ => (0, db)
  | .ok now => Token.releaseExpiredTokens input.release input.releaseClock now db

theorem releasePart_eq (input : Input) (db : DB) : releasePart input db
    = (input.due db).foldl (Token.releaseTurn input.release input.releaseClock) (0, db) := by
  rw [releasePart, Input.due]
  cases input.tokens <;> rfl

/-- The second part of a scan. -/
def expirePart (input : Input) (db : DB) : ℕ × DB :=
  (input.stuck db).foldl (expireTurn input.expire input.expireClock) (0, db)

/-- `runScan`. -/
def runScan (input : Input) (db : DB) : Report × DB :=
  let (released, db) := releasePart input db
  let (autoFailed, db) := expirePart input db
  (⟨released, autoFailed, (verifyLedgerConsistency input.ledger db).toOption.getD 0,
    if input.outbox = none then some (getPendingOutboxEventsCount db) else none⟩, db)

/-- The intents of the list are marked expired, and nothing else has happened. -/
structure Lapsed (clock : String → Time) (failed : List PaymentIntent) (db db' : DB) : Prop where
  paymentIntents : ∀ txnID, db'.paymentIntents.find? txnID
    = (db.paymentIntents.find? txnID).map fun row =>
      if txnID ∈ failed.map PaymentIntent.txnID then
        { row with status := .expired, updatedAt := clock txnID } else row
  frame : db' = { db with paymentIntents := db'.paymentIntents }

namespace Lapsed

variable {clock : String → Time} {db db₁ db₂ : DB} {intent : PaymentIntent}
  {intents : List PaymentIntent}

theorem refl (clock : String → Time) (db : DB) : Lapsed clock [] db db where
  paymentIntents txnID := by simp
  frame := rfl

theorem cons (h₁ : updatePaymentIntentStatus intent.txnID .expired (some "expired_during_relay")
      (clock intent.txnID) db = .ok ((), db₁)) (h₂ : Lapsed clock intents db₁ db₂)
    (hnew : intent.txnID ∉ intents.map PaymentIntent.txnID) :
    Lapsed clock (intent :: intents) db db₂ := by
  cases hrow : db.paymentIntents.find? intent.txnID with
  | none =>
    have hdb : db₁ = db := by rwa [updatePaymentIntentStatus, write_ok, hrow] at h₁
    subst hdb
    refine ⟨fun txnID => ?_, h₂.frame⟩
    rw [h₂.paymentIntents, List.map_cons]
    by_cases hid : txnID = intent.txnID
    · rw [hid, hrow, Option.map_none, Option.map_none]
    · simp [hid]
  | some row =>
    obtain rfl := (updatePaymentIntentStatus_ok hrow).mp h₁
    refine ⟨fun txnID => ?_, h₂.frame⟩
    have hkey : row.txnID = intent.txnID := Table.key_of_find? hrow
    rw [h₂.paymentIntents, Table.find?_set, withStatus_txnID, List.map_cons]
    by_cases hid : txnID = intent.txnID
    · subst hid
      simp [hrow, hkey, hnew, withStatus]
    · have hid' : ¬row.txnID = txnID := fun h => hid (h.symm.trans hkey)
      simp [hid, hid']

end Lapsed

/-- What the loop over the stuck intents does: it counts the expired ones, and marks those whose
update does not fail. -/
theorem foldl_expireTurn (fault : String → Option GoError) (clock : String → Time)
    {intents : List PaymentIntent} (hnodup : (intents.map PaymentIntent.txnID).Nodup) (n : ℕ)
    (db : DB) :
    let s := intents.foldl (expireTurn fault clock) (n, db)
    s.1 = n + intents.countP (fun i => i.expiry < clock i.txnID) ∧
      Lapsed clock (intents.filter fun i => i.expiry < clock i.txnID ∧ fault i.txnID = none)
        db s.2 := by
  induction intents generalizing n db with
  | nil => exact ⟨rfl, .refl clock db⟩
  | cons intent intents ih =>
    obtain ⟨hnew, hnodup⟩ := List.nodup_cons.mp hnodup
    rw [List.foldl_cons]
    by_cases hexp : intent.expiry < clock intent.txnID
    · obtain ⟨hcount, hlapsed⟩ := ih hnodup (n + 1) (withTx (fault intent.txnID)
        (updatePaymentIntentStatus intent.txnID .expired (some "expired_during_relay")
          (clock intent.txnID)) db).2
      rw [expireTurn, if_pos hexp]
      refine ⟨hcount.trans ?_, ?_⟩
      · rw [List.countP_cons_of_pos (by simpa using hexp)]
        omega
      · cases hfault : fault intent.txnID with
        | some err =>
          rw [List.filter_cons_of_neg (by simp [hfault])]
          rwa [hfault] at hlapsed
        | none =>
          rw [List.filter_cons_of_pos (by simp [hexp, hfault])]
          have hsub := (List.filter_sublist (p := fun i : PaymentIntent =>
            decide (i.expiry < clock i.txnID ∧ fault i.txnID = none))
            (l := intents)).map PaymentIntent.txnID
          exact .cons rfl (by rwa [hfault] at hlapsed) (fun h => hnew (hsub.subset h))
    · obtain ⟨hcount, hlapsed⟩ := ih hnodup n db
      rw [expireTurn, if_neg hexp]
      rw [List.countP_cons_of_neg (by simpa using hexp),
        List.filter_cons_of_neg (by simp [hexp])]
      exact ⟨hcount, hlapsed⟩

/-- A loop over intents that have not expired does nothing. -/
theorem foldl_expireTurn_current {fault : String → Option GoError} {clock : String → Time}
    {intents : List PaymentIntent} (h : ∀ i ∈ intents, ¬i.expiry < clock i.txnID) (s : ℕ × DB) :
    intents.foldl (expireTurn fault clock) s = s := by
  induction intents with
  | nil => rfl
  | cons i intents ih =>
    rw [List.foldl_cons, expireTurn, if_neg (h i List.mem_cons_self)]
    exact ih fun i hi => h i (List.mem_cons_of_mem _ hi)

theorem mem_getStuckPaymentIntents {db : DB} {cutoff : Time} {intent : PaymentIntent} :
    intent ∈ getStuckPaymentIntents db cutoff ↔
      db.paymentIntents.find? intent.txnID = some intent ∧ stuckStatus intent.status = true ∧
        intent.updatedAt < cutoff := by
  rw [getStuckPaymentIntents, List.mem_filter, Bool.and_eq_true, decide_eq_true_eq]
  exact and_congr_left fun _ => ⟨Table.find?_of_mem, Table.mem_of_find?⟩

/-- An intent is listed once. -/
theorem nodup_getStuckPaymentIntents (db : DB) (cutoff : Time) :
    ((getStuckPaymentIntents db cutoff).map PaymentIntent.txnID).Nodup :=
  db.paymentIntents.nodup.sublist (List.filter_sublist.map _)

end Reconciliation

end OfflinePay
