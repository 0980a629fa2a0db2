import OfflinePay.Properties.Ledger
import OfflinePay.System.Faultless

/-!
# What the financial validator reports

`IssueToken` posts one entry, the debit of the reservation; its credit follows when the token is
spent or released. `CheckLedgerInconsistencies` asks every transaction id to balance, so it reports
each token that is out in somebody's wallet. Nothing else makes the validator complain in a run
without faults: the newest entry of every account records its balance, and reservations match the
outstanding tokens.
-/

namespace OfflinePay

open Settlement

/-! ## Newest entries -/

/-- The newest entry of an account is one of those appended last, if any of them is of this account.
-/
theorem DB.newestEntry_append {db db' : DB} {new : List LedgerEntry}
    (hent : db'.ledgerEntries = db.ledgerEntries ++ new)
    (hlt : ∀ c ∈ db.ledgerEntries, ∀ e ∈ new, c.entryID < e.entryID) {a : String} {e : LedgerEntry}
    (h : db'.newestEntry a = some e) :
    (e ∈ new ∧ e.accountID = a) ∨ (∀ e ∈ new, e.accountID ≠ a) ∧ db.newestEntry a = some e := by
  have hmem := List.argmax_mem h
  rw [hent, List.filter_append, List.mem_append, List.mem_filter, List.mem_filter, beq_iff_eq] at hmem
  rcases hmem with ⟨hold, -⟩ | hnew
  · have hnone : ∀ x ∈ new, x.accountID ≠ a := by
      intro x hx hxa
      have hmem' : x ∈ db'.ledgerEntries.filter (·.accountID == a) :=
        List.mem_filter.mpr ⟨hent ▸ List.mem_append_right _ hx, beq_iff_eq.mpr hxa⟩
      exact absurd (hlt e hold x hx) (not_lt.mpr (List.le_of_mem_argmax hmem' h))
    refine .inr ⟨hnone, ?_⟩
    have hfilter : new.filter (·.accountID == a) = [] := by simpa using hnone
    rwa [newestEntry, hent, List.filter_append, hfilter, List.append_nil] at h
  · exact .inl hnew

namespace Bank

variable {b b' : Bank} {txn : Option Txn}

/-- Accounts stay, and an account that is there gets no opening balance. -/
theorem Step.account_kept (hc : b.Counters) (h : Step b txn b') {a : String}
    (ha : b.db.accountBalances.find? a ≠ none) : b'.db.accountBalances.find? a ≠ none ∧
      (txn.map (Txn.opening a)).getD 0 = 0 := by
  have same : b'.db.accountBalances = b.db.accountBalances → b'.db.accountBalances.find? a ≠ none :=
    fun heq => heq ▸ ha
  cases h.effect with
  | quiet hplain hdb hnone hprogress =>
    refine ⟨same hdb.accountBalances, ?_⟩
    cases txn with
    | none => rfl
    | some t =>
      have ht := hplain t rfl
      cases t <;> first | rfl | simp [Txn.plain] at ht
  | begin hnew hdb hprogress htoken => exact ⟨same (by rw [hdb]), rfl⟩
  | createAccount row hnew hreserved hdb hprogress =>
    have hne : row.accountID ≠ a := by
      rintro rfl
      exact ha hnew
    exact ⟨by rwa [hdb, Table.find?_insert hnew, if_neg hne], if_neg hne⟩
  | issueToken hdb hprogress => exact ⟨mt (hdb.shift.accounts a).mp ha, rfl⟩
  | release htok hdb hprogress => exact ⟨mt (hdb.shift.accounts a).mp ha, rfl⟩
  | phase before after hbefore horder hadv hdb hprogress =>
    refine ⟨?_, rfl⟩
    cases hdb with
    | reserve hh => exact same hh.accountBalances
    | hold hh => exact same hh.accountBalances
    | publish hh => exact same hh.accountBalances
    | unreserve hh => exact same hh.accountBalances
    | unhold hh => exact same hh.accountBalances
    | commitLedger hh => exact mt (hh.shift.accounts a).mp ha
    | undoLedger hh => exact mt ((hc.undone hbefore horder hadv.2.1 hh).shift.accounts a).mp ha

/-- The newest entry of every account records its available balance. -/
structure Newest (b : Bank) : Prop where
  account : ∀ e ∈ b.db.ledgerEntries, b.db.accountBalances.find? e.accountID ≠ none
  recorded : ∀ a e, b.db.newestEntry a = some e → e.balanceAfter.toInt = b.db.available a

/-- A move that appends entries with the new balances, and changes no other balance. -/
theorem Newest.append (hc : b.Counters) (he : b.Entries) (hn : b.Newest) (h : Step b txn b')
    {new : List LedgerEntry} (hent : b'.db.ledgerEntries = b.db.ledgerEntries ++ new)
    (hnum : ∀ e ∈ new, b.db.nextEntryID ≤ e.entryID)
    (hacc : ∀ e ∈ new, b.db.accountBalances.find? e.accountID ≠ none)
    (hrec : ∀ e ∈ new, e.balanceAfter.toInt = b'.db.available e.accountID)
    (hrest : ∀ a, (∀ e ∈ new, e.accountID ≠ a) →
      (txn.map Txn.dAvailable).getD 0 a = (txn.map (Txn.opening a)).getD 0) : b'.Newest := by
  constructor
  · intro e hmem
    rw [hent, List.mem_append] at hmem
    rcases hmem with hmem | hmem
    · exact (h.account_kept hc (hn.account e hmem)).1
    · exact (h.account_kept hc (hacc e hmem)).1
  · intro a e hnewest
    have hlt : ∀ c ∈ b.db.ledgerEntries, ∀ e ∈ new, c.entryID < e.entryID :=
      fun c hc e he' => lt_of_lt_of_le (he.numbered c hc) (hnum e he')
    rcases DB.newestEntry_append hent hlt hnewest with ⟨hmem, rfl⟩ | ⟨hother, hold⟩
    · exact hrec e hmem
    · obtain ⟨hmem, ha⟩ := List.mem_filter.mp (List.argmax_mem hold)
      obtain rfl := beq_iff_eq.mp ha
      rw [(h.posts hc).available, hrest _ hother, (h.account_kept hc (hn.account e hmem)).2, add_zero]
      exact hn.recorded _ e hold

theorem Newest.step (hs : b.Sound) (he : b.Entries) (hn : b.Newest) (hother : PaysOther txn)
    (hundo : ∀ i o, txn ≠ some (.ledgerUndo i o)) (h : Step b txn b') : b'.Newest := by
  cases h.entered hs with
  | none htxn hdb =>
    have hent : b'.db.ledgerEntries = b.db.ledgerEntries ++ [] := by rw [hdb, List.append_nil]
    refine hn.append hs.counters he h hent (by simp) (by simp) (by simp) fun a _ => ?_
    cases txn with
    | none => rfl
    | some t => exact (Txn.of_not_posts (htxn t rfl) a).1
  | @issue tok hdb =>
    obtain ⟨balance, hbal, hent⟩ := hdb.ledgerEntries
    refine hn.append hs.counters he h hent (by simp) (by simpa using hdb.account)
      (by simpa using hbal) fun a ha => ?_
    exact Pi.single_eq_of_ne (Ne.symm (by simpa using ha)) _
  | @release tok locked now htok hdb =>
    obtain ⟨balance, hbal, hent⟩ := hdb.ledgerEntries
    refine hn.append hs.counters he h hent (by simp) (by simpa using hdb.account)
      (by simpa using hbal) fun a ha => ?_
    exact Pi.single_eq_of_ne (Ne.symm (by simpa using ha)) _
  | @commit i pr now row hpr hst hrow htok hdb =>
    have hself : ¬pr.order.self := hother (i, pr.order) rfl
    obtain ⟨senderAfter, receiverAfter, hbal, hent⟩ := hdb.ledgerEntries
    obtain ⟨hsender, hreceiver⟩ := hbal hself
    refine hn.append hs.counters he h hent (by simp [Order.entries])
      (by simpa [Order.entries] using ⟨hdb.sender, hdb.receiver, hdb.sender⟩)
      (by simpa [Order.entries] using ⟨hsender, hreceiver, hsender⟩) fun a ha => ?_
    obtain ⟨hsa, hra, -⟩ : pr.order.payload.senderID ≠ a ∧ pr.order.payload.receiverID ≠ a ∧
        pr.order.payload.senderID ≠ a := by
      simpa [Order.entries] using ha
    simp [Txn.dAvailable, Txn.opening, Order.dAvailable, hself, Ne.symm hsa, Ne.symm hra]
  | @undo i pr => exact absurd rfl (hundo i pr.order)

/-! ## What the audit compares -/

/-- A token whose value is out, if it has any, has no stranded value. -/
theorem TokenState.not_stranded {row : OfflineToken} (h : b.TokenState row)
    (hout : row.value ≠ 0 → History.out row.tokenID b.history = 1) :
    ¬History.Stranded row.tokenID b.history := by
  have hne : 0 < row.value → row.value ≠ 0 := by
    intro hv hz
    rw [hz] at hv
    exact absurd hv (by decide)
  cases h with
  | spent _ _ ht => exact fun hst => ht.stranded.mp hst
  | issued _ _ _ _ _ ht => exact fun hst => ht.stranded.mp hst
  | held _ _ _ _ _ _ _ _ _ _ ht => exact fun hst => ht.stranded.mp hst
  | consumed i pr hv _ _ _ _ _ _ ht =>
    intro hst
    have hone := hout (hne hv)
    rw [ht.out, if_pos (ht.stranded.mp hst)] at hone
    exact absurd hone (by decide)
  | released _ _ _ _ _ ht => exact fun hst => ht.stranded.mp hst
  | stranded hv _ _ _ _ ht =>
    have hone := hout (hne hv)
    rw [ht.out] at hone
    exact absurd hone (by decide)

/-- The books of every account agree with its balances, if no token has stranded value. -/
theorem Newest.agrees (hs : b.Sound) (hb : b.Backed) (hn : b.Newest)
    (hst : ∀ tokenID, ¬History.Stranded tokenID b.history) {row : AccountBalance}
    (hrow : row ∈ b.db.accountBalances.rows) : Validator.Agrees b.db row := by
  have hfind := Table.find?_of_mem hrow
  constructor
  · unfold Validator.expectedAvailable
    split
    · next e he =>
      have hrec := hn.recorded _ e he
      rw [DB.available_of_find? hfind] at hrec
      exact Int64.toInt_inj.mp hrec
    · rfl
  · have hres := hb.reserved_eq hs row.accountID
    rw [stuck_eq_zero hst, add_zero, DB.reserved_of_find? hfind] at hres
    exact hres.symm

end Bank

namespace World

variable {E : Externals} {w : World E}

/-- The newest entries record the balances after every run without faults in which payments go to
others. -/
theorem newest (hi : w.Initial) {ls : List Label} (hff : w.FaultFree ls)
    (hother : w.PaysOthers ls) :
    (w.exec ls).bank.Newest := by
  refine (bank_invariant (I := fun b => b.Sound ∧ b.Entries ∧ b.Newest) ?_ hi.callsWf ?_
    (Run.steps_and (hff.early hi) hother)).1.2.2
  · rintro w l ⟨hs, he, hn⟩ ⟨hearly, hpays⟩ h
    exact ⟨hs.step h, he.step hs.counters h, hn.step hs he hpays hearly.2 h⟩
  · have hempty : w.bank.db.ledgerEntries = [] := hi.ledgerEntries
    exact ⟨hi.sound, (calls_net hi []).2, by simp [hempty], by simp [DB.newestEntry, hempty]⟩

end World

/-- After every run without faults in which payments go between two accounts: the validator finds no
inconsistent transaction and no discrepancy, and reports a valid ledger, if and only if every token
with a value has been released or is spent in a standing payment. -/
theorem audit_passes_iff {E : Externals} (w : World E) (hi : w.Initial) (ls : List Label)
    (hff : w.FaultFree ls) (hother : w.PaysOthers ls) :
    (Validator.checkLedgerInconsistencies (w.exec ls).db = .ok [] ∧
        Validator.auditAccountBalances (w.exec ls).db = .ok [] ∧
        Validator.runAudit (w.exec ls).db = some 1) ↔
      ∀ tok ∈ (w.exec ls).db.offlineTokens.rows, tok.value ≠ 0 →
        History.Resolved tok.tokenID (w.exec ls).history := by
  obtain ⟨hs, -, ht, hb⟩ := World.money hi ls
  have hl := World.ledger hi (hff.ownRows hi) hother
  have hn := World.newest hi hff hother
  have hreservation : ∀ tok ∈ (w.exec ls).db.offlineTokens.rows,
      (w.exec ls).db.imbalance (reservationTxnID tok.tokenID)
        = if History.Resolved tok.tokenID (w.exec ls).history then 0 else tok.value.toInt :=
    fun tok htok => hl.reservation hs ht htok
  rw [Validator.runAudit_eq_one, Validator.checkLedgerInconsistencies_nil,
    Validator.auditAccountBalances_nil]
  constructor
  · rintro ⟨hbalanced, -⟩ tok htok hv
    by_contra hres
    have hzero := hbalanced (reservationTxnID tok.tokenID)
    rw [hreservation tok htok, if_neg hres] at hzero
    exact hv (Int64.toInt_inj.mp hzero)
  · intro hres
    have hbalanced : ∀ txnID, (w.exec ls).db.imbalance txnID = 0 := by
      intro txnID
      by_cases htok : ∃ tok ∈ (w.exec ls).db.offlineTokens.rows,
          txnID = reservationTxnID tok.tokenID
      · obtain ⟨tok, hmem, rfl⟩ := htok
        rw [hreservation tok hmem]
        split
        · rfl
        · next hnot =>
          have hv : tok.value = 0 := not_not.mp (mt (hres tok hmem) hnot)
          rw [hv]
          rfl
      · refine hl.imbalance_payment fun tokenID row hrow _ heq => htok ⟨row, ?_, ?_⟩
        · exact Table.mem_of_find? hrow
        · rw [Table.key_of_find? hrow, heq]
    have hstranded : ∀ tokenID, ¬History.Stranded tokenID (w.exec ls).bank.history := by
      intro tokenID
      cases hrow : (w.exec ls).bank.db.offlineTokens.find? tokenID with
      | none => exact fun hst => (hs.tokens.unknown tokenID hrow).stranded.mp hst
      | some row =>
        obtain rfl := Table.key_of_find? hrow
        refine (hs.tokens.state _ row hrow).not_stranded fun hv => ?_
        exact (hl.out_iff hs ht row.tokenID).mpr (hres row (Table.mem_of_find? hrow) hv)
    have hagrees : ∀ row ∈ (w.exec ls).db.accountBalances.rows, Validator.Agrees (w.exec ls).db row :=
      fun row hrow => hn.agrees hs hb hstranded hrow
    exact ⟨hbalanced, hagrees, hbalanced, hagrees⟩

/-! ## A false alarm -/

/-- `alice` pays 30 to `bob`. -/
def auditDecode : String → Option SignedPaymentIntent
  | "pay" => some (PaymentIntentPayload.signedBy
      ⟨"T", "alice", "bob", 30, "USD", "N", 1000000000000, "phone", "K"⟩ "alice-key")
  | _ => none

/-- `alice` has been issued a token, and nothing else has happened. -/
theorem issued_token_reported :
    (World.start (E := .simple auditDecode) ()).Initial ∧
    (World.start (E := .simple auditDecode) ()).FaultFree (Label.setup ["K"]) ∧
    (World.start (E := .simple auditDecode) ()).PaysOthers (Label.setup ["K"]) ∧
    Validator.checkLedgerInconsistencies
      ((World.start (E := .simple auditDecode) ()).exec (Label.setup ["K"])).db
        = .ok [("tok-res-K", 100)] ∧
    Validator.runAudit ((World.start (E := .simple auditDecode) ()).exec (Label.setup ["K"])).db
      = some 0 :=
  ⟨World.start_initial _, by decide +kernel, by decide +kernel, by decide +kernel, by decide +kernel⟩

/-- The token has been spent. -/
theorem audit_passes_iff_spent :
    Validator.runAudit ((World.start (E := .simple auditDecode) ()).exec (Label.setup ["K"]
      ++ [.startSettle ⟨"", "pay", "N", "", "T", ""⟩ 0] ++ Label.settles 0 10)).db = some 1 :=
  ((audit_passes_iff _ (World.start_initial _) _ (by decide +kernel) (by decide +kernel)).mpr
    (by decide +kernel)).2.2

end OfflinePay
