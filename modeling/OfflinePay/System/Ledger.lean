import OfflinePay.System.Calls
import OfflinePay.Validator.Audit

/-!
# The ledger

What the ledger holds in runs in which every saga keeps its own row and settled payments go between
two accounts. `Ledger` says it transaction id by transaction id: a standing payment has its debit
and its credit, a token has its reservation and, while its value is out, a release; there is nothing
else. The compensation of `LEDGER_COMMIT` deletes by transaction id, so it needs all of this to
delete what its action wrote and no more.
-/

namespace OfflinePay

open Settlement

/-! ## Flows -/

namespace DB

/-- What the entries that satisfy `p` take from the accounts, each account weighed by `g`. -/
def flow (db : DB) (p : LedgerEntry → Bool) (g : String → ℤ) : ℤ :=
  ((db.ledgerEntries.filter p).map fun e => g e.accountID * e.debited).sum

variable {db db' : DB} {p q : LedgerEntry → Bool}

theorem flow_congr (h : ∀ e ∈ db.ledgerEntries, p e = q e) (g : String → ℤ) :
    db.flow p g = db.flow q g := by
  rw [flow, flow, List.filter_congr h]

theorem flow_eq_zero (h : ∀ e ∈ db.ledgerEntries, p e = false) (g : String → ℤ) :
    db.flow p g = 0 := by
  rw [flow, List.filter_eq_nil_iff.mpr (by simpa using h)]
  rfl

theorem flow_same (h : db'.ledgerEntries = db.ledgerEntries) : db'.flow p = db.flow p := by
  funext g
  rw [flow, flow, h]

theorem flow_append {new : List LedgerEntry} (h : db'.ledgerEntries = db.ledgerEntries ++ new)
    (p : LedgerEntry → Bool) (g : String → ℤ) :
    db'.flow p g = db.flow p g + ((new.filter p).map fun e => g e.accountID * e.debited).sum := by
  rw [flow, h, List.filter_append, List.map_append, List.sum_append, flow]

theorem flow_filter {keep : LedgerEntry → Bool}
    (h : db'.ledgerEntries = db.ledgerEntries.filter keep) (p : LedgerEntry → Bool)
    (g : String → ℤ) :
    db'.flow p g = db.flow (fun e => p e && keep e) g := by
  rw [flow, h, List.filter_filter, flow]

/-- The flow of two kinds of entries that have none in common. -/
theorem flow_or (h : ∀ e, p e = true → q e = false) (g : String → ℤ) :
    db.flow (fun e => p e || q e) g = db.flow p g + db.flow q g := by
  unfold flow
  induction db.ledgerEntries with
  | nil => rfl
  | cons e es ih =>
    cases hp : p e with
    | true => simp [hp, h e hp, ih, add_assoc]
    | false =>
      cases hq : q e with
      | true => simp [hp, hq, ih, add_left_comm]
      | false => simp [hp, hq, ih]

/-- The imbalance of a transaction id is the flow of its entries, all accounts weighed alike. -/
theorem imbalance_eq (txnID : String) : db.imbalance txnID = db.flow (·.txnID == txnID) 1 := by
  simp [imbalance, flow]

end DB

/-- The entries of a transaction id that are not releases, and those that are. -/
def LedgerEntry.books (e : LedgerEntry) (txnID : String) : Bool :=
  e.txnID == txnID && e.entryType != .release

/-- See `LedgerEntry.books`. -/
def LedgerEntry.releases (e : LedgerEntry) (txnID : String) : Bool :=
  e.txnID == txnID && e.entryType == .release

theorem reservationTxnID_inj {tokenID tokenID' : String} :
    reservationTxnID tokenID = reservationTxnID tokenID' ↔ tokenID = tokenID' := by
  rw [reservationTxnID, reservationTxnID, String.append_right_inj]

/-! ## What a move does to the ledger -/

/-- The order of a committed `LEDGER_COMMIT`, with the call. -/
def Txn.ledgerCommit? : Txn → Option (ℕ × Order)
  | .ledgerCommit i o => some (i, o)
  | _ => none

/-- If the transaction is a `LEDGER_COMMIT`, it pays somebody else. -/
def PaysOther (txn : Option Txn) : Prop := ∀ x ∈ txn.bind Txn.ledgerCommit?, ¬x.2.self

instance (txn : Option Txn) : Decidable (PaysOther txn) :=
  inferInstanceAs (Decidable (∀ x ∈ txn.bind Txn.ledgerCommit?, ¬x.2.self))

/-- The transaction writes or deletes ledger entries. -/
def Txn.posts : Txn → Bool
  | .issueToken _ | .release _ | .ledgerCommit _ _ | .ledgerUndo _ _ => true
  | _ => false

/-- A transaction without ledger entries takes nothing out and gives opening balances only. -/
theorem Txn.of_not_posts {t : Txn} (h : t.posts = false) (a : String) :
    t.dAvailable a = t.opening a ∧ t.out a = 0 := by
  cases t with
  | createAccount id opening =>
    refine ⟨?_, rfl⟩
    simp only [dAvailable, Txn.opening, Pi.single_apply, eq_comm]
  | issueToken tok => simp [posts] at h
  | release tok => simp [posts] at h
  | phase i o p =>
    unfold posts at h
    unfold dAvailable out Txn.opening
    split at h <;> simp_all
  | _ => exact ⟨rfl, rfl⟩

namespace Bank

variable {b b' : Bank} {txn : Option Txn}

/-- Everything a move can do to the ledger. -/
inductive Entered (b b' : Bank) : Option Txn → Prop where
  | none {txn : Option Txn} (htxn : ∀ t ∈ txn, t.posts = false)
      (hdb : b'.db.ledgerEntries = b.db.ledgerEntries) : Entered b b' txn
  | issue {tok : OfflineToken} (hdb : Token.Issued b.db b'.db tok) :
      Entered b b' (some (.issueToken tok))
  | release {tok locked : OfflineToken} {now : Time} (htok : SameToken tok locked)
      (hdb : Token.Released b.db b'.db tok locked now) : Entered b b' (some (.release tok))
  | commit {i : ℕ} {pr : Progress} {now : Time} {row : OfflineToken} (hpr : b.progress i = some pr)
      (hst : pr.executed = 2 ∧ pr.standing = 2)
      (hrow : b.db.offlineTokens.find? pr.tokenID = some row) (htok : SameToken pr.order.token row)
      (hdb : Committed pr.order now b.db b'.db) : Entered b b' (some (.ledgerCommit i pr.order))
  | undo {i : ℕ} {pr : Progress} {row : OfflineToken} (hpr : b.progress i = some pr)
      (hset : pr.settled) (hrow : b.db.offlineTokens.find? pr.tokenID = some row)
      (htok : SameToken pr.order.token row) (hdb : Undone pr.order b.db b'.db)
      (hun : ∀ pr', b'.progress i = some pr' → ¬pr'.settled) :
      Entered b b' (some (.ledgerUndo i pr.order))

theorem Step.entered (hs : b.Sound) (h : Step b txn b') : Entered b b' txn := by
  cases h.effect with
  | quiet hplain hdb hnone hprogress =>
    refine .none (fun t ht => ?_) hdb.ledgerEntries
    have hp := hplain t ht
    cases t <;> first | rfl | simp [Txn.plain] at hp
  | begin hnew hdb hprogress htoken => exact .none (by simp) (by rw [hdb])
  | createAccount row hnew hreserved hdb hprogress =>
    exact .none (by rintro t ⟨⟩; rfl) (by rw [hdb])
  | issueToken hdb hprogress => exact .issue hdb
  | @release tok locked now htok hdb hprogress =>
    obtain ⟨row, hrow, hsame⟩ := hs.tokens.snapshots tok htok
    obtain rfl : locked = row := Option.some.inj (hdb.find.symm.trans hrow)
    exact .release hsame hdb
  | phase before after hbefore horder hadv hdb hprogress =>
    obtain ⟨row, hrow, hsame⟩ := hs.tokens.orders _ before hbefore
    subst horder
    cases hdb with
    | reserve hh => exact .none (by rintro t ⟨⟩; rfl) hh.ledgerEntries
    | hold hh => exact .none (by rintro t ⟨⟩; rfl) hh.ledgerEntries
    | publish hh => exact .none (by rintro t ⟨⟩; rfl) hh.ledgerEntries
    | unreserve hh => exact .none (by rintro t ⟨⟩; rfl) hh.ledgerEntries
    | unhold hh => exact .none (by rintro t ⟨⟩; rfl) hh.ledgerEntries
    | commitLedger hh => exact .commit hbefore ⟨hadv.2.1, hadv.2.2.1⟩ hrow hsame hh
    | undoLedger hh =>
      refine .undo hbefore ?_ hrow hsame (hs.counters.undone hbefore rfl hadv.2.1 hh) ?_
      · rw [Progress.settled, hadv.2.1]
        decide
      · intro pr' hpr'
        rw [progress_self hprogress, Option.some.injEq] at hpr'
        rw [← hpr', Progress.settled, hadv.2.2.1]
        decide

/-- The two tables have the same tokens, in possibly different situations. -/
structure Carried (t t' : Table OfflineToken.tokenID) : Prop where
  kept : ∀ tokenID row, t.find? tokenID = some row →
    ∃ row', t'.find? tokenID = some row' ∧ SameToken row row'
  only : ∀ tokenID row', t'.find? tokenID = some row' →
    ∃ row, t.find? tokenID = some row ∧ SameToken row row'

theorem Carried.of_eq {t t' : Table OfflineToken.tokenID} (h : t' = t) : Carried t t' :=
  ⟨fun _ row hrow => ⟨row, h ▸ hrow, rfl, rfl, rfl⟩, fun _ row hrow => ⟨row, h ▸ hrow, rfl, rfl, rfl⟩⟩

theorem Carried.set {t t' : Table OfflineToken.tokenID} {tokenID : String} {row row' : OfflineToken}
    (hfind : t.find? tokenID = some row) (h : t' = t.set row') (hsame : SameToken row row') :
    Carried t t' := by
  have hset := find?_set_of_find? hfind (hsame.1.trans (Table.key_of_find? hfind))
  constructor
  · intro k x hx
    rw [h, hset]
    split
    · next hk =>
      obtain rfl : row = x := Option.some.inj (hfind.symm.trans (hk ▸ hx))
      exact ⟨row', rfl, hsame⟩
    · exact ⟨x, hx, rfl, rfl, rfl⟩
  · intro k x hx
    rw [h, hset] at hx
    split at hx
    · next hk =>
      obtain rfl := Option.some.inj hx
      exact ⟨row, hk ▸ hfind, hsame⟩
    · exact ⟨x, hx, rfl, rfl, rfl⟩

/-- A move carries the tokens over, or issues one. -/
theorem Step.tokens (hc : b.Counters) (h : Step b txn b') :
    Carried b.db.offlineTokens b'.db.offlineTokens ∨
      ∃ tok, txn = some (.issueToken tok) ∧ Token.Issued b.db b'.db tok := by
  cases h.effect with
  | quiet hplain hdb hnone hprogress => exact .inl (.of_eq hdb.offlineTokens)
  | begin hnew hdb hprogress htoken => exact .inl (.of_eq (by rw [hdb]))
  | createAccount row hnew hreserved hdb hprogress => exact .inl (.of_eq (by rw [hdb]))
  | issueToken hdb hprogress => exact .inr ⟨_, rfl, hdb⟩
  | release htok hdb hprogress => exact .inl (.set hdb.find hdb.offlineTokens ⟨rfl, rfl, rfl⟩)
  | phase before after hbefore horder hadv hdb hprogress =>
    left
    cases hdb with
    | reserve hh => exact .of_eq hh.offlineTokens
    | publish hh => exact .of_eq hh.offlineTokens
    | unreserve hh => exact .of_eq hh.offlineTokens
    | undoLedger hh => exact .of_eq (hc.undone hbefore horder hadv.2.1 hh).offlineTokens
    | hold hh =>
      obtain ⟨row, hrow, -, hset⟩ := hh.offlineTokens
      exact .set hrow hset ⟨rfl, rfl, rfl⟩
    | commitLedger hh =>
      obtain ⟨row, hrow, -, hset⟩ := hh.offlineTokens
      exact .set hrow hset ⟨rfl, rfl, rfl⟩
    | unhold hh =>
      rcases hh.offlineTokens with ⟨row, hrow, -, hset⟩ | ⟨-, heq⟩
      · exact .set hrow hset ⟨rfl, rfl, rfl⟩
      · exact .of_eq heq

theorem Step.token_kept (hc : b.Counters) (h : Step b txn b') {tokenID : String}
    {row : OfflineToken} (hrow : b.db.offlineTokens.find? tokenID = some row) :
    ∃ row', b'.db.offlineTokens.find? tokenID = some row' ∧ SameToken row row' := by
  rcases h.tokens hc with hcar | ⟨tok, -, hdb⟩
  · exact hcar.kept tokenID row hrow
  · exact ⟨row, hdb.offlineTokens ▸ Table.find?_insert_of_find? hrow, rfl, rfl, rfl⟩

/-- The value of a token is out once or not at all. -/
theorem Sound.out_cases (hs : b.Sound) (tokenID : String) :
    History.out tokenID b.history = 0 ∨ History.out tokenID b.history = 1 := by
  cases hrow : b.db.offlineTokens.find? tokenID with
  | none => exact .inl (hs.tokens.unknown tokenID hrow).out
  | some row =>
    obtain rfl := Table.key_of_find? hrow
    cases hs.tokens.state _ row hrow with
    | spent _ _ ht => exact .inl ht.out
    | issued _ _ _ _ _ ht => exact .inl ht.out
    | held _ _ _ _ _ _ _ _ _ _ ht => exact .inl ht.out
    | consumed i pr _ _ _ _ _ _ _ ht =>
      rw [ht.out]
      split
      · exact .inl rfl
      · exact .inr rfl
    | released _ _ _ _ _ ht => exact .inr ht.out
    | stranded _ _ _ _ _ ht => exact .inl ht.out

/-! ## The entries of each transaction id -/

/-- What the ledger holds. -/
structure Ledger (b : Bank) : Prop where
  /-- A standing payment goes to somebody else, and has its debit and its credit. -/
  payments : ∀ i pr, b.progress i = some pr → pr.settled → ¬pr.order.self ∧
    ∀ g, b.db.flow (·.txnID == pr.txnID) g = pr.order.payload.amount.toInt
      * (g pr.order.payload.senderID - g pr.order.payload.receiverID)
  reservations : ∀ tokenID row, b.db.offlineTokens.find? tokenID = some row → 0 < row.value →
    ∀ g, b.db.flow (·.books (reservationTxnID tokenID)) g
      = row.value.toInt * g row.ownerID
  releases : ∀ tokenID row, b.db.offlineTokens.find? tokenID = some row → 0 < row.value →
    ∀ g, b.db.flow (·.releases (reservationTxnID tokenID)) g
      = -(row.value.toInt * History.out tokenID b.history * g row.ownerID)
  rest : ∀ e ∈ b.db.ledgerEntries,
    (∃ i pr, b.progress i = some pr ∧ pr.settled ∧ pr.txnID = e.txnID) ∨
      ∃ tokenID row, b.db.offlineTokens.find? tokenID = some row ∧ 0 < row.value ∧
        e.txnID = reservationTxnID tokenID
  available : ∀ a, b.db.available a
    = History.opening a b.history - b.db.flow (fun _ => true) (Pi.single a 1)

/-- An entry that stays is still accounted for. -/
theorem Ledger.rest_kept (hs : b.Sound) (hl : b.Ledger) (h : Step b txn b') {e : LedgerEntry}
    (he : e ∈ b.db.ledgerEntries) (he' : e ∈ b'.db.ledgerEntries) :
    (∃ i pr, b'.progress i = some pr ∧ pr.settled ∧ pr.txnID = e.txnID) ∨
      ∃ tokenID row, b'.db.offlineTokens.find? tokenID = some row ∧ 0 < row.value ∧
        e.txnID = reservationTxnID tokenID := by
  rcases hl.rest e he with ⟨i, pr, hpr, hset, htxn⟩ | ⟨tokenID, row, hrow, hv, htxn⟩
  · obtain ⟨pr', hpr', horder, hun⟩ := h.unsettles hs.counters hpr
    refine .inl ⟨i, pr', hpr', ?_, by rw [Progress.txnID, horder]; exact htxn⟩
    by_contra hset'
    rcases hun hset' with hset₀ | hrem
    · exact hset₀ hset
    · exact hrem.entries e he' (.inl htxn.symm)
  · obtain ⟨row', hrow', hsame⟩ := h.token_kept hs.counters hrow
    exact .inr ⟨tokenID, row', hrow', hsame.2.1 ▸ hv, htxn⟩

/-- An id that belongs to no standing payment and to no token has no entries. -/
theorem Ledger.free (hl : b.Ledger) {txnID : String}
    (hpay : ∀ i pr, b.progress i = some pr → pr.settled → pr.txnID ≠ txnID)
    (htok : ∀ tokenID row, b.db.offlineTokens.find? tokenID = some row → 0 < row.value →
      txnID ≠ reservationTxnID tokenID) : ∀ e ∈ b.db.ledgerEntries, e.txnID ≠ txnID := by
  rintro e he rfl
  rcases hl.rest e he with ⟨i, pr, hpr, hset, htxn⟩ | ⟨tokenID, row, hrow, hv, htxn⟩
  · exact hpay i pr hpr hset htxn
  · exact htok tokenID row hrow hv htxn

/-- What has to be shown of a move. -/
theorem Ledger.of_flows (hs : b.Sound) (hl : b.Ledger) (h : Step b txn b')
    (hpay : ∀ i pr pr', b.progress i = some pr → pr.settled → b'.progress i = some pr' → pr'.settled →
      ∀ g, b'.db.flow (·.txnID == pr.txnID) g = b.db.flow (·.txnID == pr.txnID) g)
    (hcommit : ∀ i o, txn = some (.ledgerCommit i o) → ¬o.self ∧ ∀ g,
      b'.db.flow (·.txnID == o.payload.txnID) g
        = o.payload.amount.toInt * (g o.payload.senderID - g o.payload.receiverID))
    (hbooks : ∀ tokenID row, b.db.offlineTokens.find? tokenID = some row → 0 < row.value → ∀ g,
      b'.db.flow (·.books (reservationTxnID tokenID)) g
        = b.db.flow (·.books (reservationTxnID tokenID)) g)
    (hrel : ∀ tokenID row, b.db.offlineTokens.find? tokenID = some row → 0 < row.value → ∀ g,
      b'.db.flow (·.releases (reservationTxnID tokenID)) g
        = b.db.flow (·.releases (reservationTxnID tokenID)) g
          - row.value.toInt * (txn.map (Txn.out tokenID)).getD 0 * g row.ownerID)
    (hissue : ∀ tok, txn = some (.issueToken tok) → ∀ g,
      b'.db.flow (·.books (reservationTxnID tok.tokenID)) g = tok.value.toInt * g tok.ownerID ∧
        b'.db.flow (·.releases (reservationTxnID tok.tokenID)) g = 0)
    (hnew : ∀ e ∈ b'.db.ledgerEntries, e ∈ b.db.ledgerEntries ∨
      (∃ i pr, b'.progress i = some pr ∧ pr.settled ∧ pr.txnID = e.txnID) ∨
        ∃ tokenID row, b'.db.offlineTokens.find? tokenID = some row ∧ 0 < row.value ∧
          e.txnID = reservationTxnID tokenID)
    (hav : ∀ a, (txn.map Txn.dAvailable).getD 0 a = (txn.map (Txn.opening a)).getD 0
      - (b'.db.flow (fun _ => true) (Pi.single a 1) - b.db.flow (fun _ => true) (Pi.single a 1))) :
    b'.Ledger := by
  have hout : ∀ k, History.out k b'.history
      = History.out k b.history + (txn.map (Txn.out k)).getD 0 := fun k => h.total (Txn.out k)
  -- a token of the new state was there before, or has just been issued
  have hold : ∀ tokenID row', b'.db.offlineTokens.find? tokenID = some row' →
      (∃ row, b.db.offlineTokens.find? tokenID = some row ∧ SameToken row row') ∨
        txn = some (.issueToken row') ∧ row'.tokenID = tokenID ∧
          b.db.offlineTokens.find? tokenID = none := by
    intro tokenID row' hrow'
    rcases h.tokens hs.counters with hcar | ⟨tok, rfl, hdb⟩
    · exact .inl (hcar.only tokenID row' hrow')
    · rw [hdb.offlineTokens, Table.find?_insert hdb.fresh] at hrow'
      split at hrow'
      · next hk =>
        obtain rfl := Option.some.inj hrow'
        exact .inr ⟨rfl, hk, hk ▸ hdb.fresh⟩
      · exact .inl ⟨row', hrow', rfl, rfl, rfl⟩
  constructor
  · intro i pr hpr hset
    rcases h.settles hpr hset with ⟨pr₀, hpr₀, horder, hset₀⟩ | ⟨htxn, -⟩
    · obtain ⟨hself, hflow⟩ := hl.payments i pr₀ hpr₀ hset₀
      rw [horder] at hself
      refine ⟨hself, fun g => ?_⟩
      have hsame := hpay i pr₀ pr hpr₀ hset₀ hpr hset g
      rw [hflow g, Progress.txnID, horder] at hsame
      exact hsame
    · exact hcommit i pr.order htxn
  · intro tokenID row' hrow' hv g
    rcases hold tokenID row' hrow' with ⟨row, hrow, hsame⟩ | ⟨htxn, rfl, -⟩
    · rw [hsame.2.1] at hv
      rw [hbooks tokenID row hrow hv, hl.reservations tokenID row hrow hv, hsame.2.1, hsame.2.2]
    · exact (hissue row' htxn g).1
  · intro tokenID row' hrow' hv g
    rcases hold tokenID row' hrow' with ⟨row, hrow, hsame⟩ | ⟨htxn, rfl, hnone⟩
    · rw [hsame.2.1] at hv
      rw [hrel tokenID row hrow hv, hl.releases tokenID row hrow hv, hout, hsame.2.1, hsame.2.2]
      ring
    · rw [(hissue row' htxn g).2, hout, (hs.tokens.unknown _ hnone).out, htxn]
      simp [Txn.out]
  · intro e he
    rcases hnew e he with hmem | hmem
    · exact hl.rest_kept hs h hmem he
    · exact hmem
  · intro a
    have hopen : History.opening a b'.history
        = History.opening a b.history + (txn.map (Txn.opening a)).getD 0 := h.total (Txn.opening a)
    rw [(h.posts hs.counters).available, hl.available, hopen, hav]
    ring

/-- A move that writes and deletes no entry. -/
theorem Ledger.same (hs : b.Sound) (hl : b.Ledger) (h : Step b txn b')
    (htxn : ∀ t ∈ txn, t.posts = false) (hdb : b'.db.ledgerEntries = b.db.ledgerEntries) :
    b'.Ledger := by
  have hne : ∀ t : Txn, t.posts = true → txn ≠ some t := by
    rintro t ht rfl
    exact absurd (ht.symm.trans (htxn t rfl)) (by decide)
  refine hl.of_flows hs h (fun i pr pr' _ _ _ _ g => by rw [DB.flow_same hdb])
    (fun i o ht => absurd ht (hne _ rfl)) (fun tokenID row _ _ g => by rw [DB.flow_same hdb])
    (fun tokenID row _ _ g => ?_) (fun tok ht => absurd ht (hne _ rfl))
    (fun e he => .inl (hdb ▸ he))
    fun a => ?_
  · rw [DB.flow_same hdb]
    cases txn with
    | none => simp
    | some t => simp [(Txn.of_not_posts (htxn t rfl) tokenID).2]
  · rw [DB.flow_same hdb, sub_self, sub_zero]
    cases txn with
    | none => rfl
    | some t => exact (Txn.of_not_posts (htxn t rfl) a).1

/-- A token is issued. -/
theorem Ledger.issue (hs : b.Sound) (ho : b.Owners) (hl : b.Ledger) {tok : OfflineToken}
    (h : Step b (some (.issueToken tok)) b') (hdb : Token.Issued b.db b'.db tok) : b'.Ledger := by
  obtain ⟨row, hrow, -, hfree, -⟩ := hdb.paymentIntents
  obtain ⟨balance, -, hent⟩ := hdb.ledgerEntries
  -- no payment stands under the id of the placeholder
  have hpay : ∀ i pr, b.progress i = some pr → pr.settled →
      pr.txnID ≠ reservationTxnID tok.tokenID := by
    intro i pr hpr hset heq
    exact ho.row i pr hpr hset.owns (heq ▸ hfree)
  have htok : ∀ tokenID row, b.db.offlineTokens.find? tokenID = some row →
      reservationTxnID tok.tokenID ≠ reservationTxnID tokenID := by
    intro tokenID row hrow heq
    rw [reservationTxnID_inj] at heq
    rw [← heq, hdb.fresh] at hrow
    exact absurd hrow (by simp)
  have hnone := hl.free hpay fun tokenID row hrow _ => htok tokenID row hrow
  refine hl.of_flows hs h (fun i pr pr' hpr hset _ _ g => ?_) (by simp)
    (fun tokenID row hrow _ g => ?_) (fun tokenID row hrow _ g => ?_) ?_
    (fun e he => ?_) fun a => ?_
  · simp [DB.flow_append hent, Ne.symm (hpay i pr hpr hset)]
  · simp [DB.flow_append hent, LedgerEntry.books, htok tokenID row hrow]
  · simp [DB.flow_append hent, LedgerEntry.releases, Txn.out]
  · rintro _ ⟨⟩ g
    have hzero : ∀ p : LedgerEntry → Bool, (∀ e, p e = true → e.txnID = reservationTxnID tok.tokenID) →
        b.db.flow p g = 0 := by
      intro p hp
      refine DB.flow_eq_zero (fun e he => ?_) g
      by_contra hne
      exact hnone e he (hp e (by simpa using hne))
    constructor
    · rw [DB.flow_append hent, hzero _ fun e he => by simp [LedgerEntry.books] at he; exact he.1]
      simp [LedgerEntry.books, LedgerEntry.debited, mul_comm]
    · rw [DB.flow_append hent, hzero _ fun e he => by simp [LedgerEntry.releases] at he; exact he.1]
      simp [LedgerEntry.releases]
  · rw [hent, List.mem_append, List.mem_singleton] at he
    refine he.imp_right ?_
    rintro rfl
    exact .inr ⟨tok.tokenID, tok, by
      rw [hdb.offlineTokens, Table.find?_insert_self hdb.fresh], hdb.value_pos, rfl⟩
  · simp only [DB.flow_append hent, Option.map_some, Option.getD_some, Txn.dAvailable, Txn.opening]
    by_cases ha : a = tok.ownerID
    · simp [ha, LedgerEntry.debited]
    · simp [ha, Ne.symm ha]

/-- A token is released. -/
theorem Ledger.release (hs : b.Sound) (ho : b.Owners) (hl : b.Ledger) {tok locked : OfflineToken}
    {now : Time} (h : Step b (some (.release tok)) b') (hsame : SameToken tok locked)
    (hdb : Token.Released b.db b'.db tok locked now) : b'.Ledger := by
  obtain ⟨balance, -, hent⟩ := hdb.ledgerEntries
  have hv : 0 < locked.value := hsame.2.1 ▸ hdb.value_pos
  refine hl.of_flows hs h (fun i pr pr' hpr hset _ _ g => ?_) (by simp)
    (fun tokenID row hrow _ g => ?_) (fun tokenID row hrow _ g => ?_) (by simp) (fun e he => ?_)
    fun a => ?_
  · have hne := (ho.placeholder tok.tokenID locked hdb.find hv).2 i pr hpr hset.owns
    simp [DB.flow_append hent, Ne.symm hne]
  · simp [DB.flow_append hent, LedgerEntry.books]
  · rw [DB.flow_append hent]
    by_cases hk : tokenID = tok.tokenID
    · subst hk
      obtain rfl : locked = row := Option.some.inj (hdb.find.symm.trans hrow)
      simp [LedgerEntry.releases, LedgerEntry.debited, Txn.out, hsame.2.1, hsame.2.2]
      ring
    · simp [LedgerEntry.releases, Txn.out, reservationTxnID_inj, Ne.symm hk]
  · rw [hent, List.mem_append, List.mem_singleton] at he
    refine he.imp_right ?_
    rintro rfl
    obtain ⟨row', hrow', hsame'⟩ := h.token_kept hs.counters hdb.find
    exact .inr ⟨tok.tokenID, row', hrow', hsame'.2.1 ▸ hv, rfl⟩
  · simp only [DB.flow_append hent, Option.map_some, Option.getD_some, Txn.dAvailable, Txn.opening]
    by_cases ha : a = tok.ownerID
    · simp [ha, LedgerEntry.debited]
    · simp [ha, Ne.symm ha]

/-- `LEDGER_COMMIT` commits. -/
theorem Ledger.commit (hs : b.Sound) (ho : b.Owners) (hl : b.Ledger) {i : ℕ} {pr : Progress}
    {now : Time} {row : OfflineToken} (h : Step b (some (.ledgerCommit i pr.order)) b')
    (hpr : b.progress i = some pr) (hst : pr.executed = 2 ∧ pr.standing = 2)
    (hrow : b.db.offlineTokens.find? pr.tokenID = some row) (hsame : SameToken pr.order.token row)
    (hdb : Committed pr.order now b.db b'.db) (hself : ¬pr.order.self) : b'.Ledger := by
  obtain ⟨senderAfter, receiverAfter, -, hent⟩ := hdb.ledgerEntries
  have hv : 0 < row.value := hsame.2.1 ▸ hdb.value_pos
  have howner : row.ownerID = pr.order.payload.senderID := hsame.2.2.trans pr.order.owner_eq
  have howns : pr.owns := ⟨by omega, by omega⟩
  have hpay : ∀ j pr', b.progress j = some pr' → pr'.settled → pr'.txnID ≠ pr.txnID := by
    intro j pr' hpr' hset heq
    obtain rfl := ho.unique j i pr' pr hpr' hpr hset.owns howns heq
    obtain rfl : pr = pr' := Option.some.inj (hpr.symm.trans hpr')
    rw [Progress.settled, hst.2] at hset
    exact absurd hset (by decide)
  have htok : ∀ tokenID row, b.db.offlineTokens.find? tokenID = some row → 0 < row.value →
      pr.txnID ≠ reservationTxnID tokenID :=
    fun tokenID row hrow hv => (ho.placeholder tokenID row hrow hv).2 i pr hpr howns
  refine hl.of_flows hs h (fun j pr' _ hpr' hset _ _ g => ?_) ?_
    (fun tokenID row' hrow' hv' g => ?_) (fun tokenID row' hrow' hv' g => ?_) (by simp)
    (fun e he => ?_) fun a => ?_
  · have hne := (ho.placeholder pr.tokenID row hrow hv).2 j pr' hpr' hset.owns
    simp [DB.flow_append hent, Order.entries, Ne.symm hne, Ne.symm (hpay j pr' hpr' hset)]
  · rintro _ _ ⟨⟩
    refine ⟨hself, fun g => ?_⟩
    rw [DB.flow_append hent, DB.flow_eq_zero fun e he => by simpa using hl.free hpay htok e he]
    simp [Order.entries, LedgerEntry.debited, Ne.symm (htok _ row hrow hv)]
    ring
  · simp [DB.flow_append hent, Order.entries, LedgerEntry.books, htok tokenID row' hrow' hv']
  · rw [DB.flow_append hent]
    by_cases hk : tokenID = pr.tokenID
    · subst hk
      obtain rfl : row = row' := Option.some.inj (hrow.symm.trans hrow')
      simp [Order.entries, LedgerEntry.releases, LedgerEntry.debited, Txn.out, hself, hsame.2.1, howner]
      ring
    · simp [Order.entries, LedgerEntry.releases, Txn.out, reservationTxnID_inj, Ne.symm hk]
  · rw [hent, List.mem_append] at he
    refine he.imp_right fun hmem => ?_
    obtain ⟨pr', hpr', horder, hset'⟩ : ∃ pr', b'.progress i = some pr' ∧ pr'.order = pr.order ∧
        pr'.settled := by
      have hlive : (i, pr.order) ∈ History.live b'.history := by
        rw [h.history]
        simp [History.track]
      exact ((hs.step h).live.mem_iff i pr.order).mp hlive
    obtain ⟨row', hrow', hsame'⟩ := h.token_kept hs.counters hrow
    simp only [Order.entries, List.mem_cons, List.not_mem_nil, or_false] at hmem
    rcases hmem with rfl | rfl | rfl
    · exact .inl ⟨i, pr', hpr', hset', by rw [Progress.txnID, horder]⟩
    · exact .inl ⟨i, pr', hpr', hset', by rw [Progress.txnID, horder]⟩
    · exact .inr ⟨pr.tokenID, row', hrow', hsame'.2.1 ▸ hv, rfl⟩
  · simp only [DB.flow_append hent, Option.map_some, Option.getD_some, Txn.dAvailable, Txn.opening,
      Order.dAvailable, if_neg hself, Order.entries]
    simp [LedgerEntry.debited, Pi.single_apply, eq_comm]
    split_ifs <;> ring

/-- `LEDGER_COMMIT` is compensated. -/
theorem Ledger.undo (hs : b.Sound) (ho : b.Owners) (hl : b.Ledger) {i : ℕ} {pr : Progress}
    {row : OfflineToken} (h : Step b (some (.ledgerUndo i pr.order)) b')
    (hpr : b.progress i = some pr) (hset : pr.settled)
    (hrow : b.db.offlineTokens.find? pr.tokenID = some row) (hsame : SameToken pr.order.token row)
    (hdb : Undone pr.order b.db b'.db) (hun : ∀ pr', b'.progress i = some pr' → ¬pr'.settled) :
    b'.Ledger := by
  have hent : b'.db.ledgerEntries = b.db.ledgerEntries.filter fun e =>
      !(e.txnID == pr.txnID || e.releases (reservationTxnID pr.tokenID)) := hdb.ledgerEntries
  obtain ⟨hself, hflow⟩ := hl.payments i pr hpr hset
  have hwf := hs.counters i pr hpr
  have hv : 0 < row.value :=
    hsame.2.1 ▸ Order.value_pos (hwf.amount_pos (lt_of_lt_of_le hset hwf.standing_le))
  have howner : row.ownerID = pr.order.payload.senderID := hsame.2.2.trans pr.order.owner_eq
  have htok : ∀ tokenID row, b.db.offlineTokens.find? tokenID = some row → 0 < row.value →
      pr.txnID ≠ reservationTxnID tokenID :=
    fun tokenID row hrow hv => (ho.placeholder tokenID row hrow hv).2 i pr hpr hset.owns
  -- the value of the token is out, and comes back
  have hout : History.out pr.tokenID b.history = 1 := by
    have hafter : History.out pr.tokenID b'.history = History.out pr.tokenID b.history - 1 := by
      rw [h.history]
      simp [Txn.out, hself, sub_eq_add_neg]
    have h₀ := hs.out_cases pr.tokenID
    have h₁ := (hs.step h).out_cases pr.tokenID
    omega
  refine hl.of_flows hs h (fun j pr' pr₁ hpr' hset' hpr₁ hset₁ g => ?_) (by simp)
    (fun tokenID row' hrow' hv' g => ?_) (fun tokenID row' hrow' hv' g => ?_) (by simp)
    (fun e he => .inl (List.mem_filter.mp (hent ▸ he)).1) fun a => ?_
  · have hj : j ≠ i := by
      rintro rfl
      exact hun pr₁ hpr₁ hset₁
    have hne : pr'.txnID ≠ pr.txnID :=
      fun heq => hj (ho.unique j i pr' pr hpr' hpr hset'.owns hset.owns heq)
    have hne' := (ho.placeholder pr.tokenID row hrow hv).2 j pr' hpr' hset'.owns
    rw [DB.flow_filter hent]
    refine DB.flow_congr (fun e _ => ?_) g
    by_cases he : e.txnID = pr'.txnID
    · simp [LedgerEntry.releases, he, hne, hne']
    · simp [he]
  · have hne := htok tokenID row' hrow' hv'
    rw [DB.flow_filter hent]
    refine DB.flow_congr (fun e _ => ?_) g
    by_cases he : e.txnID = reservationTxnID tokenID
    · cases ht : e.entryType <;> simp [LedgerEntry.books, LedgerEntry.releases, he, ht, Ne.symm hne]
    · simp [LedgerEntry.books, he]
  · have hne := htok tokenID row' hrow' hv'
    rw [DB.flow_filter hent]
    by_cases hk : tokenID = pr.tokenID
    · subst hk
      have hgone : ∀ e ∈ b.db.ledgerEntries, (e.releases (reservationTxnID pr.tokenID)
          && !(e.txnID == pr.txnID || e.releases (reservationTxnID pr.tokenID))) = false := by
        intro e _
        cases e.releases (reservationTxnID pr.tokenID) <;> simp
      rw [DB.flow_eq_zero hgone, hl.releases _ row' hrow' hv', hout]
      simp [Txn.out, hself]
    · rw [DB.flow_congr (q := (·.releases (reservationTxnID tokenID)))]
      · simp [Txn.out, Ne.symm hk]
      · intro e _
        by_cases he : e.txnID = reservationTxnID tokenID
        · simp [LedgerEntry.releases, he, Ne.symm hne, reservationTxnID_inj, hk]
        · simp [LedgerEntry.releases, he]
  · -- what is deleted is the payment and the release
    have hsplit : ∀ g, b.db.flow (fun _ => true) g = b.db.flow (·.txnID == pr.txnID) g
        + b.db.flow (·.releases (reservationTxnID pr.tokenID)) g
        + b'.db.flow (fun _ => true) g := by
      intro g
      rw [DB.flow_filter hent, ← DB.flow_or, ← DB.flow_or]
      · refine DB.flow_congr (fun e _ => ?_) g
        simp only [Bool.true_and, Bool.or_not_self]
      · intro e he
        simp only [he, Bool.not_true, Bool.and_false]
      · intro e he
        simp only [beq_iff_eq] at he
        simp [LedgerEntry.releases, he, htok _ row hrow hv]
    have hall := hsplit (Pi.single a 1)
    rw [hflow, hl.releases _ row hrow hv, hout, howner, hsame.2.1] at hall
    simp only [Option.map_some, Option.getD_some, Txn.dAvailable, Txn.opening, Order.dAvailable,
      if_neg hself, Pi.neg_apply, Pi.add_apply, Pi.single_apply, eq_comm (a := a)] at hall ⊢
    split_ifs at hall ⊢ <;> linarith

theorem Ledger.step (hs : b.Sound) (ho : b.Owners) (hl : b.Ledger) (hother : PaysOther txn)
    (h : Step b txn b') : b'.Ledger := by
  cases h.entered hs with
  | none htxn hdb => exact hl.same hs h htxn hdb
  | issue hdb => exact hl.issue hs ho h hdb
  | release htok hdb => exact hl.release hs ho h htok hdb
  | @commit i pr _ _ hpr hst hrow htok hdb =>
    exact hl.commit hs ho h hpr hst hrow htok hdb (hother (i, pr.order) rfl)
  | undo hpr hset hrow htok hdb hun => exact hl.undo hs ho h hpr hset hrow htok hdb hun

/-! ## Imbalances -/

/-- The entries of an id that is not the reservation of a token cancel out. -/
theorem Ledger.imbalance_payment (hl : b.Ledger) {txnID : String}
    (htok : ∀ tokenID row, b.db.offlineTokens.find? tokenID = some row → 0 < row.value →
      txnID ≠ reservationTxnID tokenID) : b.db.imbalance txnID = 0 := by
  rw [DB.imbalance_eq]
  by_cases hlive : ∃ i pr, b.progress i = some pr ∧ pr.settled ∧ pr.txnID = txnID
  · obtain ⟨i, pr, hpr, hset, rfl⟩ := hlive
    rw [(hl.payments i pr hpr hset).2, Pi.one_apply, Pi.one_apply, sub_self, mul_zero]
  · refine DB.flow_eq_zero (fun e he => ?_) 1
    have hne := hl.free (fun i pr hpr hset heq => hlive ⟨i, pr, hpr, hset, heq⟩) htok e he
    simpa using hne

/-- The entries of a reservation add up to the part of the value that is not out. -/
theorem Ledger.imbalance_token (hl : b.Ledger) {tokenID : String} {row : OfflineToken}
    (hrow : b.db.offlineTokens.find? tokenID = some row) (hv : 0 < row.value) :
    b.db.imbalance (reservationTxnID tokenID)
      = row.value.toInt * (1 - History.out tokenID b.history) := by
  have hsplit : b.db.flow (·.txnID == reservationTxnID tokenID) 1
      = b.db.flow (·.books (reservationTxnID tokenID)) 1
        + b.db.flow (·.releases (reservationTxnID tokenID)) 1 := by
    rw [← DB.flow_or]
    · refine DB.flow_congr (fun e _ => ?_) 1
      cases ht : e.entryType == .release <;> simp [LedgerEntry.books, LedgerEntry.releases, bne, ht]
    · intro e he
      simp only [LedgerEntry.books, Bool.and_eq_true, bne_iff_ne] at he
      simp [LedgerEntry.releases, he.2]
  rw [DB.imbalance_eq, hsplit, hl.reservations tokenID row hrow hv, hl.releases tokenID row hrow hv]
  simp only [Pi.one_apply]
  ring

end Bank

/-! ## All runs -/

namespace World

variable {E : Externals} {w : World E}

/-- Every `LEDGER_COMMIT` of the run pays somebody else. -/
abbrev PaysOthers (w : World E) (ls : List Label) : Prop :=
  Steps (fun w l => PaysOther (w.commits l)) w ls

theorem Initial.ledger (hi : w.Initial) : w.bank.Ledger := by
  have hempty : w.bank.db.ledgerEntries = [] := hi.ledgerEntries
  have hnone : ∀ tokenID row, w.bank.db.offlineTokens.find? tokenID = some row → ¬0 < row.value := by
    intro tokenID row hrow
    rw [(hi.offlineTokens row (Table.mem_of_find? hrow)).2.1]
    decide
  refine ⟨fun i pr hpr => by simp [hi.progress] at hpr,
    fun tokenID row hrow hv => absurd hv (hnone tokenID row hrow),
    fun tokenID row hrow hv => absurd hv (hnone tokenID row hrow), by simp [hempty], fun a => ?_⟩
  have hav : w.bank.db.available a = 0 := hi.available a
  rw [hav, hi.history_nil, DB.flow, hempty]
  rfl

/-- What the ledger holds, after every run in which sagas keep their rows and pay others. -/
theorem ledger (hi : w.Initial) {ls : List Label} (hown : w.OwnRows ls) (hother : w.PaysOthers ls) :
    (w.exec ls).bank.Ledger := by
  refine (bank_invariant (I := fun b => b.Sound ∧ b.Owners ∧ b.Ledger) ?_ hi.callsWf
    ⟨hi.sound, hi.owners, hi.ledger⟩ (Run.steps_and hown hother)).1.2.2
  rintro w l ⟨hs, ho, hl⟩ ⟨hp, hq⟩ h
  exact ⟨hs.step h, ho.step hs.counters hp h, hl.step hs ho hq h⟩

end World

end OfflinePay
