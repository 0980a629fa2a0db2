import OfflinePay.Common.Locks
import OfflinePay.System.Intents

/-!
# The row locks of the transactions

Reference: `internal/settlement/service.go`, `internal/token/service.go`,
`internal/repository/repository.go`, `internal/db/migrations`.

Which rows each transaction locks and in which order: by `SELECT … FOR UPDATE`, by the statement
that writes the row, or by the foreign key of a new row. A statement on a row that the transaction
has locked at least as strongly before, or that it has inserted itself, is left out.
`DbTxn.confined` relates the lists to the transactions themselves: what a transaction writes, it has
locked.
-/

namespace OfflinePay

open Tx Repository Settlement

/-- The rows that transactions lock. -/
inductive Row where
  | account (accountID : String)
  | token (tokenID : String)
  | device (deviceID : String)
  | intent (txnID : String)
  | nonce (nonce : String)
  | entry (entryID : ℕ)
deriving DecidableEq

/-- The accounts of a payment in the order in which they are locked. -/
def Settlement.Order.accounts (o : Order) : List String :=
  if o.self then [o.payload.senderID]
  else if o.payload.senderID < o.payload.receiverID then [o.payload.senderID, o.payload.receiverID]
  else [o.payload.receiverID, o.payload.senderID]

/-- The transactions that lock rows. -/
inductive DbTxn where
  | reserve (o : Order)
  | unreserve (o : Order)
  | hold (o : Order)
  | unhold (o : Order)
  | commitLedger (o : Order)
  /-- `found` are the ledger entries that the compensation deletes. -/
  | undoLedger (o : Order) (found : Finset ℕ)
  /-- `deviceID` is the device of the placeholder intent. -/
  | issueToken (ownerID tokenID deviceID : String)
  | releaseExpired (tok : OfflineToken)

namespace DbTxn

/-- The locks of a transaction. -/
def locks : DbTxn → List (Lock.Request Row)
  | reserve o => o.accounts.map (⟨.account ·, .forUpdate⟩) ++
      [⟨.intent o.payload.txnID, .insert⟩, ⟨.device o.payload.deviceID, .keyShare⟩,
        ⟨.token o.payload.tokenID, .keyShare⟩, ⟨.nonce o.payload.nonce, .insert⟩,
        ⟨.intent o.env.txnID, .keyShare⟩]
  | unreserve o => [⟨.nonce o.payload.nonce, .delete⟩, ⟨.intent o.payload.txnID, .delete⟩]
  | hold o => [⟨.token o.payload.tokenID, .forUpdate⟩]
  | unhold o => [⟨.token o.payload.tokenID, .forUpdate⟩]
  | commitLedger o => ⟨.token o.payload.tokenID, .forUpdate⟩ ::
      (o.accounts.map (⟨.account ·, .forUpdate⟩) ++
        [⟨.intent o.payload.txnID, .noKeyUpdate⟩,
          ⟨.intent (reservationTxnID o.payload.tokenID), .keyShare⟩])
  | undoLedger o found => o.accounts.map (⟨.account ·, .forUpdate⟩) ++
      ((found.sort (· ≤ ·)).map (⟨.entry ·, .delete⟩) ++ [⟨.intent o.payload.txnID, .delete⟩])
  | issueToken ownerID tokenID deviceID =>
    [⟨.account ownerID, .forUpdate⟩, ⟨.token tokenID, .insert⟩,
      ⟨.intent (reservationTxnID tokenID), .insert⟩, ⟨.device deviceID, .keyShare⟩]
  | releaseExpired tok => [⟨.token tok.tokenID, .forUpdate⟩, ⟨.account tok.ownerID, .forUpdate⟩,
      ⟨.intent (reservationTxnID tok.tokenID), .keyShare⟩]

/-- The transaction locks the row to write it. -/
def Writes (t : DbTxn) (row : Row) : Prop := ∃ q ∈ t.locks, q.row = row ∧ q.mode ≠ .keyShare

end DbTxn

/-! ## What is written is locked -/

/-- From `db` to `db'` only rows in `W` changed, and only ledger entries in `D` are gone. -/
structure DB.Confined (W : Row → Prop) (D : LedgerEntry → Prop) (db db' : DB) : Prop where
  account : ∀ a, ¬W (.account a) → db'.accountBalances.find? a = db.accountBalances.find? a
  token : ∀ k, ¬W (.token k) → db'.offlineTokens.find? k = db.offlineTokens.find? k
  device : ∀ d, ¬W (.device d) → db'.devices.find? d = db.devices.find? d
  intent : ∀ t, ¬W (.intent t) → db'.paymentIntents.find? t = db.paymentIntents.find? t
  nonce : ∀ n, ¬W (.nonce n) → db'.nonceRegistry.find? n = db.nonceRegistry.find? n
  entry : ∀ e ∈ db.ledgerEntries, ¬D e → e ∈ db'.ledgerEntries

namespace DB.Confined

variable {W : Row → Prop} {D : LedgerEntry → Prop}

theorem refl (db : DB) : db.Confined W D db :=
  ⟨fun _ _ => rfl, fun _ _ => rfl, fun _ _ => rfl, fun _ _ => rfl, fun _ _ => rfl, fun _ h _ => h⟩

instance : IsPreorder DB (DB.Confined W D) where
  refl := refl
  trans _ _ _ h h' := {
    account := fun a ha => (h'.account a ha).trans (h.account a ha)
    token := fun k hk => (h'.token k hk).trans (h.token k hk)
    device := fun d hd => (h'.device d hd).trans (h.device d hd)
    intent := fun t ht => (h'.intent t ht).trans (h.intent t ht)
    nonce := fun n hn => (h'.nonce n hn).trans (h.nonce n hn)
    entry := fun e he hD => h'.entry e (h.entry e he hD) hD }

end DB.Confined

section Statements

variable {W : Row → Prop} {D : LedgerEntry → Prop}

theorem updateBalance_confined {a : String} (hW : W (.account a)) (available reserved : Int64)
    (now : Time) : Keeps (DB.Confined W D) (updateBalance a available reserved now) := by
  intro db u db' h
  by_cases hrow : db.accountBalances.find? a = none
  · simp only [updateBalance, hrow, Except.ok.injEq, Prod.mk.injEq] at h
    exact h.2 ▸ DB.Confined.refl db
  · obtain ⟨h₁, h₂, rfl⟩ := (updateBalance_ok hrow).mp h
    refine { DB.Confined.refl db with account := fun a' ha' => Table.find?_set_ne _ ?_ }
    rintro rfl
    exact ha' hW

theorem updateToken_confined {k : String} (hW : W (.token k)) (target : TokenStatus)
    {update : OfflineToken → OfflineToken} (hid : ∀ tok, (update tok).tokenID = tok.tokenID) :
    Keeps (DB.Confined W D) (updateToken target update k) := by
  intro db u db' h
  obtain ⟨tok, htok, -, rfl⟩ := updateToken_ok.mp h
  refine { DB.Confined.refl db with token := fun k' hk' => Table.find?_set_ne _ ?_ }
  rw [hid, Table.key_of_find? htok]
  rintro rfl
  exact hk' hW

theorem createToken_confined {tok : OfflineToken} (hW : W (.token tok.tokenID)) :
    Keeps (DB.Confined W D) (createToken tok) := by
  intro db u db' h
  obtain ⟨-, -, rfl⟩ := createToken_ok.mp h
  refine { DB.Confined.refl db with token := fun k hk => Table.find?_insert_ne _ ?_ }
  rintro rfl
  exact hk hW

theorem createPaymentIntent_confined {intent : PaymentIntent} (hW : W (.intent intent.txnID)) :
    Keeps (DB.Confined W D) (createPaymentIntent intent) := by
  intro db u db' h
  obtain ⟨-, -, -, -, rfl⟩ := createPaymentIntent_ok.mp h
  refine { DB.Confined.refl db with intent := fun t ht => Table.find?_insert_ne _ ?_ }
  rintro rfl
  exact ht hW

theorem updatePaymentIntentStatus_confined {txnID : String} (hW : W (.intent txnID))
    (status : PaymentStatus) (reason : Option String) (now : Time) :
    Keeps (DB.Confined W D) (updatePaymentIntentStatus txnID status reason now) := by
  refine keeps_write fun db => ?_
  cases hrow : db.paymentIntents.find? txnID with
  | none => exact DB.Confined.refl db
  | some row =>
    refine { DB.Confined.refl db with intent := fun t ht => Table.find?_set_ne _ ?_ }
    rw [withStatus_txnID, Table.key_of_find? hrow]
    rintro rfl
    exact ht hW

theorem deletePaymentIntent_confined {txnID : String} (hW : W (.intent txnID)) :
    Keeps (DB.Confined W D) (deletePaymentIntent txnID) := by
  intro db u db' h
  obtain ⟨-, rfl⟩ := deletePaymentIntent_ok.mp h
  refine { DB.Confined.refl db with intent := fun t ht => Table.find?_erase_ne _ ?_ }
  rintro rfl
  exact ht hW

theorem registerNonce_confined {nonce : String} (hW : W (.nonce nonce)) (txnID : String)
    (expiry : Time) : Keeps (DB.Confined W D) (registerNonce nonce txnID expiry) := by
  intro db u db' h
  obtain ⟨-, -, -, rfl⟩ := registerNonce_ok.mp h
  refine { DB.Confined.refl db with nonce := fun n hn => Table.find?_insert_ne _ ?_ }
  rintro rfl
  exact hn hW

theorem deleteNonce_confined {nonce : String} (hW : W (.nonce nonce)) :
    Keeps (DB.Confined W D) (deleteNonce nonce) := by
  refine keeps_write fun db => { DB.Confined.refl db with
    nonce := fun n hn => Table.find?_erase_ne _ ?_ }
  rintro rfl
  exact hn hW

theorem createLedgerEntry_confined (txnID accountID : String) (direction : Direction)
    (amount : Int64) (entryType : EntryType) (balanceAfter : Int64) : Keeps (DB.Confined W D)
      (createLedgerEntry txnID accountID direction amount entryType balanceAfter) := by
  intro db u db' h
  obtain ⟨-, -, -, -, rfl⟩ := createLedgerEntry_ok.mp h
  exact { DB.Confined.refl (W := W) (D := D) db with
    entry := fun e he _ => List.mem_append_left _ he }

theorem createOutboxEvent_confined (streamName eventType : String) (payload : Json) :
    Keeps (DB.Confined W D) (createOutboxEvent streamName eventType payload) :=
  keeps_write fun db => { DB.Confined.refl db with }

theorem deleteLedgerEntries_confined {txnID reservationID : String}
    (hD : ∀ e : LedgerEntry, e.txnID = txnID ∨ e.txnID = reservationID ∧ e.entryType = .release →
      D e) : Keeps (DB.Confined W D) (deleteLedgerEntries txnID reservationID) := by
  refine keeps_write fun db => { DB.Confined.refl (W := W) (D := D) db with
    entry := fun e he hne => ?_ }
  refine List.mem_filter.mpr ⟨he, ?_⟩
  simpa [imp_iff_not_or] using mt (hD e) hne

end Statements

namespace DbTxn

/-- The transaction runs on `db` and gives `db'`. `IssueToken` inserts a device on another
connection between the two halves of its transaction, so each half has its own line. -/
def Runs (E : Externals) : DbTxn → DB → DB → Prop
  | reserve o, db, db' => ∃ input, Settlement.reserve o input db = .ok ((), db')
  | unreserve o, db, db' => ∃ input, Settlement.unreserve o input db = .ok ((), db')
  | hold o, db, db' => ∃ input, Settlement.hold o input db = .ok ((), db')
  | unhold o, db, db' => ∃ input, Settlement.unhold o input db = .ok ((), db')
  | commitLedger o, db, db' => ∃ input, Settlement.commitLedger o input db = .ok ((), db')
  | undoLedger o found, db, db' => (∃ input, Settlement.undoLedger o input db = .ok ((), db')) ∧
      ∀ e ∈ db.ledgerEntries, e.txnID = o.payload.txnID ∨
        e.txnID = reservationTxnID o.payload.tokenID ∧ e.entryType = .release → e.entryID ∈ found
  | issueToken ownerID tokenID deviceID, db, db' =>
      (∃ value expiry now r, Token.reserveFunds E ownerID tokenID value expiry now db = .ok (r, db')) ∨
      ∃ tok newAvailable now, tok.tokenID = tokenID ∧
        Token.bookReservation tok newAvailable deviceID now db = .ok ((), db')
  | releaseExpired tok, db, db' =>
    ∃ now released, Token.releaseExpired tok now db = .ok (released, db')

variable {E : Externals}

theorem sender_mem (o : Order) : o.payload.senderID ∈ o.accounts := by
  unfold Order.accounts
  split
  · simp
  · split <;> simp

theorem receiver_mem (o : Order) : o.payload.receiverID ∈ o.accounts := by
  unfold Order.accounts
  split
  · next h => simp [Order.self] at h; simp [h]
  · split <;> simp

/-- What a transaction writes, it has locked. -/
theorem confined {t : DbTxn} {db db' : DB} (h : t.Runs E db db') :
    db.Confined t.Writes (fun e => t.Writes (.entry e.entryID)) db' := by
  cases t with
  | reserve o =>
    obtain ⟨input, h⟩ := h
    suffices hk : Keeps (DB.Confined _ _) (Settlement.reserve o input) from hk db () db' h
    refine keeps_bind (lockBalances_keeps _ _ _) fun _ => keeps_bind (keeps_check _ _) fun _ =>
      keeps_bind (keeps_mapError (createPaymentIntent_confined ?_)) fun _ =>
      keeps_mapError (registerNonce_confined ?_ _ _)
    · exact ⟨⟨_, .insert⟩, by simp [locks, Order.reservedIntent], rfl, by simp⟩
    · exact ⟨⟨_, .insert⟩, by simp [locks], rfl, by simp⟩
  | unreserve o =>
    obtain ⟨input, h⟩ := h
    suffices hk : Keeps (DB.Confined _ _) (Settlement.unreserve o input) from hk db () db' h
    refine keeps_bind (deleteNonce_confined ?_) fun _ => keeps_bind (keeps_view _) fun status => ?_
    · exact ⟨⟨_, .delete⟩, by simp [locks], rfl, by simp⟩
    · split
      · exact deletePaymentIntent_confined ⟨⟨_, .delete⟩, by simp [locks], rfl, by simp⟩
      · exact keeps_pure ()
  | hold o =>
    obtain ⟨input, h⟩ := h
    suffices hk : Keeps (DB.Confined _ _) (Settlement.hold o input) from hk db () db' h
    exact keeps_bind (keeps_select _ _) fun _ => keeps_bind (keeps_check _ _) fun _ =>
      updateToken_confined ⟨⟨_, .forUpdate⟩, by simp [locks], rfl, by simp⟩ _ fun _ => rfl
  | unhold o =>
    obtain ⟨input, h⟩ := h
    suffices hk : Keeps (DB.Confined _ _) (Settlement.unhold o input) from hk db () db' h
    refine keeps_bind (keeps_view _) fun status => ?_
    split
    · exact updateToken_confined ⟨⟨_, .forUpdate⟩, by simp [locks], rfl, by simp⟩ _ fun _ => rfl
    · exact keeps_pure ()
  | commitLedger o =>
    obtain ⟨input, h⟩ := h
    suffices hk : Keeps (DB.Confined _ _) (Settlement.commitLedger o input) from hk db () db' h
    refine keeps_bind (updateToken_confined ?_ _ fun _ => rfl) fun _ =>
      keeps_bind (lockBalances_keeps _ _ _) fun _ =>
      keeps_bind (updateBalance_confined ?_ _ _ _) fun _ =>
      keeps_bind (updateBalance_confined ?_ _ _ _) fun _ =>
      keeps_bind (updatePaymentIntentStatus_confined ?_ _ _ _) fun _ =>
      keeps_bind (createLedgerEntry_confined _ _ _ _ _ _) fun _ =>
      keeps_bind (createLedgerEntry_confined _ _ _ _ _ _) fun _ =>
      createLedgerEntry_confined _ _ _ _ _ _
    · exact ⟨⟨_, .forUpdate⟩, by simp [locks], rfl, by simp⟩
    · exact ⟨⟨_, .forUpdate⟩, by simp [locks, sender_mem], rfl, by simp⟩
    · exact ⟨⟨_, .forUpdate⟩, by simp [locks, receiver_mem], rfl, by simp⟩
    · exact ⟨⟨_, .noKeyUpdate⟩, by simp [locks], rfl, by simp⟩
  | undoLedger o found =>
    obtain ⟨⟨input, h⟩, hfound⟩ := h
    have hk : Keeps (DB.Confined (undoLedger o found).Writes fun e => e.txnID = o.payload.txnID ∨
        e.txnID = reservationTxnID o.payload.tokenID ∧ e.entryType = .release)
        (Settlement.undoLedger o input) := by
      refine keeps_bind (lockBalances_keeps _ _ _) fun _ =>
        keeps_bind (updateBalance_confined ?_ _ _ _) fun _ =>
        keeps_bind (updateBalance_confined ?_ _ _ _) fun _ =>
        keeps_bind (deleteLedgerEntries_confined fun _ => id) fun _ => deletePaymentIntent_confined ?_
      · exact ⟨⟨_, .forUpdate⟩, by simp [locks, sender_mem], rfl, by simp⟩
      · exact ⟨⟨_, .forUpdate⟩, by simp [locks, receiver_mem], rfl, by simp⟩
      · exact ⟨⟨_, .delete⟩, by simp [locks], rfl, by simp⟩
    have hc := hk db () db' h
    refine { hc with entry := fun e he hne => hc.entry e he fun hdel => hne ?_ }
    exact ⟨⟨_, .delete⟩, by simp [locks, hfound e he hdel], rfl, by simp⟩
  | issueToken ownerID tokenID deviceID =>
    rcases h with ⟨value, expiry, now, r, h⟩ | ⟨tok, newAvailable, now, rfl, h⟩
    · suffices hk : Keeps (DB.Confined _ _) (Token.reserveFunds E ownerID tokenID value expiry now)
        from hk db r db' h
      refine keeps_bind (keeps_mapError (keeps_select _ _)) fun _ => keeps_bind (keeps_check _ _) fun _ =>
        keeps_bind (keeps_mapError (updateBalance_confined ?_ _ _ _)) fun _ =>
        keeps_bind (keeps_mapError (keeps_attempt _)) fun _ =>
        keeps_bind (keeps_mapError (createToken_confined ?_)) fun _ => keeps_pure _
      · exact ⟨⟨_, .forUpdate⟩, by simp [locks], rfl, by simp⟩
      · exact ⟨⟨_, .insert⟩, by simp [locks], rfl, by simp⟩
    · suffices hk : Keeps (DB.Confined _ _) (Token.bookReservation tok newAvailable deviceID now)
        from hk db () db' h
      refine keeps_bind (keeps_mapError (createPaymentIntent_confined ?_)) fun _ =>
        keeps_bind (keeps_mapError (createLedgerEntry_confined _ _ _ _ _ _)) fun _ =>
        keeps_mapError (createOutboxEvent_confined _ _ _)
      exact ⟨⟨_, .insert⟩, by simp [locks, Token.placeholderIntent], rfl, by simp⟩
  | releaseExpired tok =>
    obtain ⟨now, released, h⟩ := h
    suffices hk : Keeps (DB.Confined _ _) (Token.releaseExpired tok now) from hk db released db' h
    refine keeps_bind (keeps_select _ _) fun locked => ?_
    split
    · exact keeps_pure _
    · refine keeps_bind (keeps_select _ _) fun _ => keeps_bind (keeps_check _ _) fun _ =>
        keeps_bind (updateBalance_confined ?_ _ _ _) fun _ =>
        keeps_bind (updateToken_confined ?_ _ fun _ => rfl) fun _ =>
        keeps_bind (createLedgerEntry_confined _ _ _ _ _ _) fun _ =>
        keeps_bind (createOutboxEvent_confined _ _ _) fun _ => keeps_pure _
      · exact ⟨⟨_, .forUpdate⟩, by simp [locks], rfl, by simp⟩
      · exact ⟨⟨_, .forUpdate⟩, by simp [locks], rfl, by simp⟩

end DbTxn

end OfflinePay
