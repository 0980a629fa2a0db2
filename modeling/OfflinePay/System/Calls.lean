import OfflinePay.System.Money

/-!
# What one call leaves behind

The transactions of a single `Settle` call are spread over the history, with those of others in
between. This module adds up their effect on the balances, follows the ledger entries they wrote,
and says which payment intents they created. All three come down to one question about the call:
whether its `LEDGER_COMMIT` stands.
-/

namespace OfflinePay

open Settlement Repository

/-! ## The transactions of a call -/

/-- The call that a transaction belongs to. -/
def Txn.call? : Txn → Option ℕ
  | .phase i _ _ => some i
  | .note i => some i
  | _ => none

/-- A quantity of the transaction, if it belongs to the call. -/
def Txn.of (i : ℕ) (f : Txn → ℤ) (t : Txn) : ℤ := if t.call? = some i then f t else 0

namespace History

/-- The net effect of the transactions of a call on a quantity of the database. -/
def net (f : DB → ℤ) (i : ℕ) (h : List Commit) : ℤ :=
  ((h.filter fun c => c.txn.call? = some i).map fun c => f c.after - f c.before).sum

/-- A transaction of the call wrote this ledger entry. -/
def Wrote (i : ℕ) (e : LedgerEntry) (h : List Commit) : Prop :=
  ∃ c ∈ h, c.txn.call? = some i ∧ e ∈ c.after.ledgerEntries ∧ e ∉ c.before.ledgerEntries

/-- What one more transaction does to the knowledge of who created the payment intent `txnID`. -/
def credit (txnID : String) (author : Option ℕ) (c : Commit) : Option ℕ :=
  match c.before.paymentIntents.find? txnID, c.after.paymentIntents.find? txnID with
  | _, none => none
  | none, some _ => c.txn.call?
  | some _, some _ => author

/-- The call that created the payment intent that now stands under `txnID`. -/
def author (txnID : String) (h : List Commit) : Option ℕ := h.foldl (credit txnID) none

theorem author_append (txnID : String) (h : List Commit) (c : Commit) :
    author txnID (h ++ [c]) = credit txnID (author txnID h) c := by
  simp [author]

/-- If every transaction changes `f` by what `d` says of it, the net effect of a call is the sum of
`d` over its transactions. -/
theorem net_eq_total {f : DB → ℤ} {d : Txn → ℤ} {h : List Commit}
    (hd : ∀ c ∈ h, f c.after = f c.before + d c.txn) (i : ℕ) :
    net f i h = total (Txn.of i d) h := by
  induction h with
  | nil => rfl
  | cons c h ih =>
    have hrec := ih fun c' hc' => hd c' (List.mem_cons_of_mem _ hc')
    have hhead := hd c List.mem_cons_self
    simp only [net, total, List.map_cons, List.sum_cons, List.filter_cons] at hrec ⊢
    by_cases hi : c.txn.call? = some i
    · simp only [hi, decide_true, if_true, List.map_cons, List.sum_cons, Txn.of, hrec]
      omega
    · simp only [hi, decide_false, Bool.false_eq_true, if_false, Txn.of, zero_add, hrec]

end History

namespace Bank

variable {b b' : Bank} {txn : Option Txn}

/-! ## Balances -/

/-- What stands of an order: all of it, once `LEDGER_COMMIT` is committed and not compensated. -/
def standing (f : Order → ℤ) : Option Progress → ℤ
  | some pr => if pr.settled then f pr.order else 0
  | none => 0

/-- What the transactions of a call add up to is what stands of its order. -/
def Net (b : Bank) : Prop := ∀ f i,
  History.total (Txn.of i (Txn.settled f)) b.history = standing f (b.progress i)

theorem of_settled_eq_zero {t : Txn} {f : Order → ℤ} (h : t.settled f = 0) (i : ℕ) :
    t.of i (Txn.settled f) = 0 := by
  rw [Txn.of]
  split
  · exact h
  · rfl

/-- A move of a transaction that settles and unsettles nothing, and leaves the calls alone. -/
theorem Net.keep (hn : b.Net) (h : Step b txn b') (hsettled : ∀ t ∈ txn, ∀ f, t.settled f = 0)
    (hprogress : ∀ f i, standing f (b'.progress i) = standing f (b.progress i)) : b'.Net := by
  intro f i
  rw [h.total, hn f i, hprogress]
  cases txn with
  | none => simp
  | some t => simp [of_settled_eq_zero (hsettled t rfl f) i]

theorem Net.step (hn : b.Net) (h : Step b txn b') : b'.Net := by
  cases h.effect with
  | quiet hplain hdb hnone hprogress =>
    exact hn.keep h (fun t ht => (plain_money (hplain t ht)).2.2.2) (by simp [hprogress])
  | @begin i o hnew hdb hprogress htoken =>
    refine hn.keep h (by simp) fun f j => ?_
    by_cases hj : j = i
    · subst hj
      rw [progress_self hprogress, hnew]
      simp [standing, Progress.settled]
    · rw [progress_ne hprogress hj]
  | createAccount row hnew hreserved hdb hprogress =>
    exact hn.keep h (by rintro t ⟨⟩ f; rfl) (by simp [hprogress])
  | issueToken hdb hprogress => exact hn.keep h (by rintro t ⟨⟩ f; rfl) (by simp [hprogress])
  | release htok hdb hprogress => exact hn.keep h (by rintro t ⟨⟩ f; rfl) (by simp [hprogress])
  | @phase i o p input before after hbefore horder hadv hdb hprogress =>
    obtain ⟨hord, hadv⟩ := hadv
    intro f j
    rw [h.total, hn f j]
    by_cases hj : j = i
    · subst hj
      rw [progress_self hprogress, hbefore]
      simp only [Option.map_some, Option.getD_some, Txn.of, Txn.call?, if_true, standing,
        Progress.settled, hord, horder]
      -- only the two `LEDGER_COMMIT` phases change whether the payment stands
      cases hdb with
      | commitLedger hh => simp [hadv.2.1, hadv.2.2.2, Txn.settled]
      | undoLedger hh => simp [hadv.1, hadv.2.1, Txn.settled]
      | reserve hh => simp [hadv.2.1, hadv.2.2.2, Txn.settled]
      | hold hh => simp [hadv.2.1, hadv.2.2.2, Txn.settled]
      | publish hh => simp [hadv.2.1, hadv.2.2.2, Txn.settled]
      | unreserve hh => simp [hadv.1, hadv.2.1, Txn.settled]
      | unhold hh => simp [hadv.1, hadv.2.1, Txn.settled]
    · rw [progress_ne hprogress hj]
      simp [Txn.of, Txn.call?, Ne.symm hj]

/-- A transaction of a call changes the balances by what its order says. -/
theorem call_money {t : Txn} {i : ℕ} (h : t.call? = some i) (a : String) :
    t.dAvailable a = t.settled (fun o => o.dAvailable a) ∧
      t.dReserved a = t.settled (fun o => o.dReserved a) := by
  cases t with
  | note => exact ⟨rfl, rfl⟩
  | phase j o p =>
    unfold Txn.dAvailable Txn.dReserved Txn.settled
    split <;> simp_all
  | _ => simp [Txn.call?] at h

theorem of_congr {i : ℕ} {f g : Txn → ℤ} (h : ∀ t : Txn, t.call? = some i → f t = g t) :
    Txn.of i f = Txn.of i g := by
  funext t
  by_cases ht : t.call? = some i
  · rw [Txn.of, Txn.of, if_pos ht, if_pos ht, h t ht]
  · rw [Txn.of, Txn.of, if_neg ht, if_neg ht]

/-- The net effect of a call on an account is what stands of its order. -/
theorem Net.balances (hn : b.Net) (hb : b.Books) (i : ℕ) (a : String) :
    History.net (DB.available · a) i b.history
        = standing (fun o => o.dAvailable a) (b.progress i) ∧
      History.net (DB.reserved · a) i b.history
        = standing (fun o => o.dReserved a) (b.progress i) := by
  have hav : ∀ c ∈ b.history, c.after.available a = c.before.available a + c.txn.dAvailable a :=
    fun c hc => (hb.posts c hc).available a
  have hre : ∀ c ∈ b.history, c.after.reserved a = c.before.reserved a + c.txn.dReserved a :=
    fun c hc => (hb.posts c hc).reserved a
  constructor
  · rw [History.net_eq_total (d := fun t => t.dAvailable a) hav,
      of_congr fun t ht => (call_money ht a).1]
    exact hn _ i
  · rw [History.net_eq_total (d := fun t => t.dReserved a) hre,
      of_congr fun t ht => (call_money ht a).2]
    exact hn _ i

/-! ## Ledger entries -/

/-- The ledger entries of `db'` are among those of `db`, or numbered since. -/
structure Appends (db db' : DB) : Prop where
  entries : ∀ e ∈ db'.ledgerEntries, e ∈ db.ledgerEntries ∨
    db.nextEntryID ≤ e.entryID ∧ e.entryID < db'.nextEntryID
  next_le : db.nextEntryID ≤ db'.nextEntryID

theorem Appends.of_subset {db db' : DB} (h : ∀ e ∈ db'.ledgerEntries, e ∈ db.ledgerEntries)
    (hn : db'.nextEntryID = db.nextEntryID) : Appends db db' :=
  ⟨fun e he => .inl (h e he), hn.ge⟩

theorem Appends.of_append {db db' : DB} {new : List LedgerEntry}
    (h : db'.ledgerEntries = db.ledgerEntries ++ new)
    (hnew : ∀ e ∈ new, db.nextEntryID ≤ e.entryID ∧ e.entryID < db'.nextEntryID)
    (hn : db.nextEntryID ≤ db'.nextEntryID) : Appends db db' := by
  refine ⟨fun e he => ?_, hn⟩
  rw [h, List.mem_append] at he
  exact he.imp_right (hnew e)

theorem Step.appends (hc : b.Counters) (h : Step b txn b') : Appends b.db b'.db := by
  have same : b'.db.ledgerEntries = b.db.ledgerEntries → b'.db.nextEntryID = b.db.nextEntryID →
      Appends b.db b'.db := fun he => .of_subset (by rw [he]; exact fun _ => id)
  cases h.effect with
  | quiet hplain hdb hnone hprogress => exact same hdb.ledgerEntries hdb.nextEntryID
  | begin hnew hdb hprogress htoken => exact same (by rw [hdb]) (by rw [hdb])
  | createAccount row hnew hreserved hdb hprogress => exact same (by rw [hdb]) (by rw [hdb])
  | issueToken hdb hprogress =>
    obtain ⟨balance, -, he⟩ := hdb.ledgerEntries
    have hn := hdb.nextEntryID
    exact .of_append he (by simp [hn]) (by omega)
  | release htok hdb hprogress =>
    obtain ⟨balance, -, he⟩ := hdb.ledgerEntries
    have hn := hdb.nextEntryID
    exact .of_append he (by simp [hn]) (by omega)
  | phase before after hbefore horder hadv hdb hprogress =>
    cases hdb with
    | reserve hh => exact same hh.ledgerEntries hh.nextEntryID
    | hold hh => exact same hh.ledgerEntries hh.nextEntryID
    | publish hh => exact same hh.ledgerEntries hh.nextEntryID
    | unreserve hh => exact same hh.ledgerEntries hh.nextEntryID
    | unhold hh => exact same hh.ledgerEntries hh.nextEntryID
    | commitLedger hh =>
      obtain ⟨sa, ra, -, he⟩ := hh.ledgerEntries
      have hn := hh.nextEntryID
      exact .of_append he (by simp [Order.entries, hn]) (by omega)
    | undoLedger hh =>
      have hun := hc.undone hbefore horder hadv.2.1 hh
      exact .of_subset (by rw [hun.ledgerEntries]; exact fun e he => (List.mem_filter.mp he).1)
        hun.nextEntryID

/-- The entry is one that the compensation of `LEDGER_COMMIT` of this order deletes. -/
def Deletes (o : Order) (e : LedgerEntry) : Prop :=
  e.txnID = o.payload.txnID ∨ e.txnID = reservationTxnID o.payload.tokenID ∧ e.entryType = .release

/-- The only transaction of a call that writes entries is its `LEDGER_COMMIT`, and its compensation
deletes what it writes. -/
theorem Step.writes (hc : b.Counters) (h : Step b txn b') {i : ℕ} (hi : ∃ t ∈ txn, t.call? = some i)
    {e : LedgerEntry} (he : e ∈ b'.db.ledgerEntries) (hnew : e ∉ b.db.ledgerEntries) :
    ∃ pr, b'.progress i = some pr ∧ pr.settled ∧ Deletes pr.order e := by
  have same : b'.db.ledgerEntries ≠ b.db.ledgerEntries := fun heq => hnew (heq ▸ he)
  obtain ⟨t, rfl, ht⟩ := hi
  cases h.effect with
  | quiet hplain hdb hnone hprogress => exact absurd hdb.ledgerEntries same
  | createAccount row hnew hreserved hdb hprogress => simp [Txn.call?] at ht
  | issueToken hdb hprogress => simp [Txn.call?] at ht
  | release htok hdb hprogress => simp [Txn.call?] at ht
  | phase before after hbefore horder hadv hdb hprogress =>
    obtain rfl := Option.some.inj ht
    cases hdb with
    | commitLedger hh =>
      refine ⟨after, progress_self hprogress, by rw [Progress.settled, hadv.2.2.2.2]; decide, ?_⟩
      obtain ⟨sa, ra, -, hent⟩ := hh.ledgerEntries
      rw [hent, List.mem_append] at he
      have hmem := he.resolve_left hnew
      simp only [Order.entries, List.mem_cons, List.not_mem_nil, or_false] at hmem
      rw [hadv.1, horder]
      rcases hmem with rfl | rfl | rfl
      · exact .inl rfl
      · exact .inl rfl
      · exact .inr ⟨rfl, rfl⟩
    | undoLedger hh =>
      have hun := hc.undone hbefore horder hadv.2.1 hh
      rw [hun.ledgerEntries] at he
      exact absurd (List.mem_filter.mp he).1 hnew
    | reserve hh => exact absurd hh.ledgerEntries same
    | hold hh => exact absurd hh.ledgerEntries same
    | publish hh => exact absurd hh.ledgerEntries same
    | unreserve hh => exact absurd hh.ledgerEntries same
    | unhold hh => exact absurd hh.ledgerEntries same

/-- Where the entries are that the transactions of a call wrote. -/
structure Entries (b : Bank) : Prop where
  numbered : ∀ e ∈ b.db.ledgerEntries, e.entryID < b.db.nextEntryID
  past : ∀ i e, History.Wrote i e b.history → e.entryID < b.db.nextEntryID
  own : ∀ i e, History.Wrote i e b.history → ∃ pr, b.progress i = some pr ∧ Deletes pr.order e ∧
    (¬pr.settled → e ∉ b.db.ledgerEntries)

theorem Step.wrote (h : Step b txn b') {i : ℕ} {e : LedgerEntry}
    (hw : History.Wrote i e b'.history) : History.Wrote i e b.history ∨
      (∃ t ∈ txn, t.call? = some i) ∧ e ∈ b'.db.ledgerEntries ∧ e ∉ b.db.ledgerEntries := by
  obtain ⟨c, hc, hi, hafter, hbefore⟩ := hw
  rw [h.history, List.mem_append] at hc
  rcases hc with hc | hc
  · exact .inl ⟨c, hc, hi, hafter, hbefore⟩
  · obtain ⟨t, ht, rfl⟩ := List.mem_map.mp hc
    exact .inr ⟨⟨t, Option.mem_toList.mp ht, hi⟩, hafter, hbefore⟩

/-- The entries and the payment intent of an order are gone. -/
structure Removed (db : DB) (o : Order) : Prop where
  entries : ∀ e ∈ db.ledgerEntries, ¬Deletes o e
  intent : db.paymentIntents.find? o.payload.txnID = none

/-- When a payment stops standing, its entries and its intent go. -/
theorem Step.unsettles (hc : b.Counters) (h : Step b txn b') {i : ℕ} {pr : Progress}
    (hpr : b.progress i = some pr) : ∃ pr', b'.progress i = some pr' ∧ pr'.order = pr.order ∧
      (¬pr'.settled → ¬pr.settled ∨ Removed b'.db pr.order) := by
  obtain hpr' | ⟨after, p, input, hafter, hadv, hdb, -⟩ := h.progress_after hpr
  · exact ⟨pr, hpr', rfl, .inl⟩
  · refine ⟨after, hafter, hadv.1, fun hset => ?_⟩
    cases hdb with
    | undoLedger hh =>
      have hun := hc.undone hpr rfl hadv.2.1 hh
      refine .inr ⟨fun e he hdel => ?_, by rw [hun.paymentIntents, Table.find?_erase, if_pos rfl]⟩
      rw [hun.ledgerEntries, List.mem_filter] at he
      rcases hdel with hdel | ⟨hdel, hrel⟩
      · simp [hdel] at he
      · simp [hdel, hrel] at he
    | commitLedger hh =>
      rw [Progress.settled, hadv.2.2.2.2] at hset
      exact absurd (by decide) hset
    | _ =>
      refine .inl fun hb => hset ?_
      obtain ⟨-, hadv⟩ := hadv
      simp only [Progress.settled] at hb ⊢
      simp only at hadv
      omega

/-- A payment that stands after a move stood before it, or its `LEDGER_COMMIT` has just committed.
-/
theorem Step.settles (h : Step b txn b') {i : ℕ} {pr : Progress} (hpr : b'.progress i = some pr)
    (hset : pr.settled) : (∃ pr₀, b.progress i = some pr₀ ∧ pr₀.order = pr.order ∧ pr₀.settled) ∨
      txn = some (.ledgerCommit i pr.order) ∧ ∃ now, Committed pr.order now b.db b'.db := by
  obtain hpr | ⟨o, rfl⟩ | ⟨before, p, input, hbefore, ⟨hord, hadv⟩, hdb, htxn⟩ :=
    h.progress_before hpr
  · exact .inl ⟨pr, hpr, rfl, hset⟩
  · exact absurd hset (by simp [Progress.settled])
  · cases hdb with
    | commitLedger hh => exact .inr ⟨htxn, _, hh⟩
    | _ =>
      refine .inl ⟨before, hbefore, hord.symm, ?_⟩
      simp only [Progress.settled] at hset ⊢
      simp only at hadv
      omega

theorem Entries.step (hc : b.Counters) (he : b.Entries) (h : Step b txn b') : b'.Entries := by
  have happ := h.appends hc
  have hnumbered : ∀ e ∈ b'.db.ledgerEntries, e.entryID < b'.db.nextEntryID := by
    intro e hmem
    rcases happ.entries e hmem with hold | hnew
    · exact lt_of_lt_of_le (he.numbered e hold) happ.next_le
    · exact hnew.2
  refine ⟨hnumbered, fun i e hw => ?_, fun i e hw => ?_⟩
  · rcases h.wrote hw with hold | ⟨-, hmem, -⟩
    · exact lt_of_lt_of_le (he.past i e hold) happ.next_le
    · exact hnumbered e hmem
  · rcases h.wrote hw with hold | ⟨hi, hmem, hnew⟩
    · obtain ⟨pr, hpr, hdel, hgone⟩ := he.own i e hold
      obtain ⟨pr', hpr', horder, hun⟩ := h.unsettles hc hpr
      refine ⟨pr', hpr', by rwa [horder], fun hset hmem => ?_⟩
      rcases hun hset with hset₀ | hall
      · -- an entry that was gone would have to come back under an old number
        rcases happ.entries e hmem with hback | hback
        · exact hgone hset₀ hback
        · exact absurd (he.past i e hold) (not_lt.mpr hback.1)
      · exact hall.entries e hmem hdel
    · obtain ⟨pr, hpr, hset, hdel⟩ := h.writes hc hi hmem hnew
      exact ⟨pr, hpr, hdel, fun hun => absurd hset hun⟩

/-! ## Payment intents -/

/-- Who has a row of its own after a move had it before, or just reserved it. -/
theorem Step.owner_cases (hc : b.Counters) (h : Step b txn b') {i : ℕ} {pr : Progress}
    (hpr : b'.progress i = some pr) (hown : pr.owns) :
    (∃ pr₀, b.progress i = some pr₀ ∧ pr₀.order = pr.order ∧ pr₀.owns) ∨
      (txn = some (.phase i pr.order (.action 0)) ∧ Reserved pr.order b.db b'.db) := by
  obtain hpr | ⟨o, rfl⟩ | ⟨before, p, input, hbefore, ⟨hord, hadv⟩, hdb, htxn⟩ :=
    h.progress_before hpr
  · exact .inl ⟨pr, hpr, rfl, hown⟩
  · exact absurd hown.1 (lt_irrefl 0)
  · have hle := (hc i before hbefore).standing_le
    cases hdb with
    | reserve hh => exact .inr ⟨htxn, hh⟩
    | _ =>
      -- nothing but `RESERVE` makes an owner
      refine .inl ⟨before, hbefore, hord.symm, ?_⟩
      obtain ⟨hpos, hdone⟩ := hown
      simp only at hadv
      exact ⟨by omega, by omega⟩

/-- A payment intent that is settled after a move was settled before it, or its payment has just
been committed. -/
theorem Step.settled_row (hc : b.Counters) (h : Step b txn b') {txnID : String}
    {row : PaymentIntent} (hrow : b'.db.paymentIntents.find? txnID = some row)
    (hst : row.status = .settled) :
    (∃ row₀, b.db.paymentIntents.find? txnID = some row₀ ∧ row₀.status = .settled) ∨
      ∃ i pr, b'.progress i = some pr ∧ pr.settled ∧ pr.txnID = txnID := by
  have erased : ∀ k, b'.db.paymentIntents = b.db.paymentIntents.erase k →
      b.db.paymentIntents.find? txnID = some row := by
    intro k heq
    rw [heq, Table.find?_erase] at hrow
    split at hrow
    · cases hrow
    · exact hrow
  cases h.intents hc with
  | calm hsettled hrows => exact .inl ⟨row, hsettled txnID row hrow hst, hst⟩
  | inserted new hfree hreserved hins =>
    rw [hins, Table.find?_insert hfree] at hrow
    split at hrow
    · obtain rfl := Option.some.inj hrow
      cases hreserved.symm.trans hst
    · exact .inl ⟨row, hrow, hst⟩
  | @settled i now before after hbefore hafter hadv hcommitted =>
    obtain ⟨old, hold, hset⟩ := hcommitted.paymentIntents
    by_cases ht : txnID = before.txnID
    · refine .inr ⟨i, after, hafter, ?_, ?_⟩
      · rw [Progress.settled, hadv.2.2.2.2]
        decide
      · rw [Progress.txnID, hadv.1, ht, Progress.txnID]
    · rw [hset, Table.find?_set_ne] at hrow
      · exact .inl ⟨row, hrow, hst⟩
      · rw [withStatus_txnID, Table.key_of_find? hold]
        exact Ne.symm ht
  | undone before after hbefore hafter hadv hdel => exact .inl ⟨row, erased _ hdel, hst⟩
  | unreserved old hold hreserved hdel => exact .inl ⟨row, erased _ hdel, hst⟩

/-- The intents of the standing payments are the settled ones, and each was created by the call that
owns it. -/
structure Authors (b : Bank) : Prop where
  owner : ∀ i pr, b.progress i = some pr → pr.owns → History.author pr.txnID b.history = some i
  settled : ∀ txnID row, b.db.paymentIntents.find? txnID = some row → row.status = .settled →
    ∃ i pr, b.progress i = some pr ∧ pr.settled ∧ pr.txnID = txnID

/-- A row that stays keeps its author. -/
theorem Step.author_kept (h : Step b txn b') {txnID : String}
    (hrow : b.db.paymentIntents.find? txnID ≠ none)
    (hrow' : b'.db.paymentIntents.find? txnID ≠ none) :
    History.author txnID b'.history = History.author txnID b.history := by
  obtain ⟨row, hrow⟩ := Option.ne_none_iff_exists'.mp hrow
  obtain ⟨row', hrow'⟩ := Option.ne_none_iff_exists'.mp hrow'
  rw [h.history]
  cases txn with
  | none => simp
  | some t => simp [History.author_append, History.credit, hrow, hrow']

theorem Authors.step (hc : b.Counters) (ho : b.Owners) (ha : b.Authors) (hrow : b.OwnRow txn)
    (h : Step b txn b') : b'.Authors where
  owner i pr hpr hown := by
    have hrow' := (ho.step hc hrow h).row i pr hpr hown
    rcases h.owner_cases hc hpr hown with ⟨pr₀, hpr₀, horder, hown₀⟩ | ⟨rfl, hres⟩
    · have hold := ho.row i pr₀ hpr₀ hown₀
      have hauthor := ha.owner i pr₀ hpr₀ hown₀
      rw [Progress.txnID, horder] at hold hauthor
      rw [h.author_kept hold hrow', hauthor]
    · obtain ⟨row', hrow'⟩ := Option.ne_none_iff_exists'.mp hrow'
      rw [h.history]
      simp [History.author_append, History.credit, hres.free, hrow', Txn.call?]
  settled txnID row hfind hst := by
    rcases h.settled_row hc hfind hst with ⟨row₀, hfind₀, hst₀⟩ | hnew
    · obtain ⟨i, pr, hpr, hset, rfl⟩ := ha.settled txnID row₀ hfind₀ hst₀
      obtain ⟨pr', hpr', horder, hun⟩ := h.unsettles hc hpr
      refine ⟨i, pr', hpr', ?_, by rw [Progress.txnID, horder]⟩
      by_contra hset'
      rcases hun hset' with hset₀ | hrem
      · exact hset₀ hset
      · rw [hrem.intent] at hfind
        exact absurd hfind (by simp)
    · exact hnew

/-- No intent of a call whose payment does not stand is settled. -/
theorem Authors.unsettled (ha : b.Authors) {i : ℕ} (hun : ∀ pr ∈ b.progress i, ¬pr.settled)
    {txnID : String} (hauthor : History.author txnID b.history = some i) {row : PaymentIntent}
    (hrow : b.db.paymentIntents.find? txnID = some row) : row.status ≠ .settled := by
  intro hst
  obtain ⟨j, pr, hpr, hset, rfl⟩ := ha.settled txnID row hrow hst
  have hj := ha.owner j pr hpr hset.owns
  obtain rfl : i = j := Option.some.inj (hauthor.symm.trans hj)
  exact hun pr hpr hset

end Bank

/-! ## All runs -/

namespace World

variable {E : Externals} {w : World E}

/-- What the transactions of the calls left behind, after every run. -/
theorem calls_net (hi : w.Initial) (ls : List Label) :
    (w.exec ls).bank.Net ∧ (w.exec ls).bank.Entries := by
  refine (bank_invariant (P := fun _ _ => True) (I := fun b => b.Sound ∧ b.Net ∧ b.Entries) ?_
    hi.callsWf ?_ (Run.steps_true w ls)).1.2
  · rintro w l ⟨hs, hn, he⟩ - h
    exact ⟨hs.step h, hn.step h, he.step hs.counters h⟩
  · refine ⟨hi.sound, fun f i => ?_, ?_⟩
    · rw [hi.history_nil, hi.progress]
      rfl
    · have hledger : w.bank.db.ledgerEntries = [] := hi.ledgerEntries
      exact ⟨by simp [hledger], by simp [hi.history_nil, History.Wrote],
        by simp [hi.history_nil, History.Wrote]⟩

/-- Who created the payment intents, after every run that keeps `OwnRow`. -/
theorem authors (hi : w.Initial) {ls : List Label} (hown : w.OwnRows ls) :
    (w.exec ls).bank.Authors := by
  refine (bank_invariant (I := fun b => b.Sound ∧ b.Owners ∧ b.Authors) ?_ hi.callsWf ?_ hown).1.2.2
  · rintro w l ⟨hs, ho, ha⟩ hp h
    exact ⟨hs.step h, ho.step hs.counters hp h, ha.step hs.counters ho hp h⟩
  · have hintents : w.bank.db.paymentIntents = .empty := hi.paymentIntents
    exact ⟨hi.sound, hi.owners, fun i pr hpr => by simp [hi.progress] at hpr, fun t row hrow => by
      simp [hintents] at hrow⟩

end World

end OfflinePay
