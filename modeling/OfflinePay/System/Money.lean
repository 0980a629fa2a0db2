import OfflinePay.System.Intents

/-!
# Money

What each committed transaction does to the balances, and what that adds up to over a run. `Books`
says that the balances are the sums of these changes. From it follow the two accounts the properties
need: the total is the deposits plus what live payments to oneself created, and a reserved balance
is the value of the owner's tokens that is not out.
-/

namespace OfflinePay

open Settlement

/-! ## Single transactions -/

namespace Txn

/-- What the transaction adds to the available balances. -/
def dAvailable : Txn → String → ℤ
  | .createAccount accountID opening => Pi.single accountID opening.toInt
  | .issueToken tok => Pi.single tok.ownerID (-tok.value.toInt)
  | .ledgerCommit _ o => o.dAvailable
  | .ledgerUndo _ o => -o.dAvailable
  | .release tok => Pi.single tok.ownerID tok.value.toInt
  | _ => 0

/-- What the transaction adds to the reserved balances. -/
def dReserved : Txn → String → ℤ
  | .issueToken tok => Pi.single tok.ownerID tok.value.toInt
  | .ledgerCommit _ o => o.dReserved
  | .ledgerUndo _ o => -o.dReserved
  | .release tok => Pi.single tok.ownerID (-tok.value.toInt)
  | _ => 0

/-- A quantity of the order, counted when its `LEDGER_COMMIT` commits and taken back when that is
compensated. -/
def settled (f : Order → ℤ) : Txn → ℤ
  | .ledgerCommit _ o => f o
  | .ledgerUndo _ o => -f o
  | _ => 0

/-- A `LEDGER_COMMIT` of a payment to oneself, or its compensation. -/
def paysSelf : Txn → Prop
  | .ledgerCommit _ o | .ledgerUndo _ o => o.self
  | _ => False

end Txn

/-- The transaction creates and destroys no money; the opening balance of a new account is brought
in from outside. -/
def Commit.Conserves (c : Commit) : Prop :=
  c.after.totalMoney = c.before.totalMoney + c.txn.deposit

theorem Settlement.Order.minted_ne_zero {o : Order} (h : 0 < o.payload.amount) :
    o.minted ≠ 0 ↔ o.self := by
  have hpos := Checked.toInt_pos h
  by_cases hself : o.self
  · simp only [Order.minted, hself, if_true, iff_true]
    omega
  · simp [Order.minted, hself]

namespace Bank

variable {b b' : Bank} {txn : Option Txn}

/-- A transaction that changes no balance and no books. -/
theorem plain_money {t : Txn} (h : t.plain = true) :
    t.dAvailable = 0 ∧ t.dReserved = 0 ∧ t.deposit = 0 ∧ ∀ f, t.settled f = 0 := by
  cases t <;> first | exact ⟨rfl, rfl, rfl, fun _ => rfl⟩ | simp [Txn.plain] at h

/-- A move changes the balances by what its transaction says. -/
structure Posts (db db' : DB) (txn : Option Txn) : Prop where
  available : ∀ a, db'.available a = db.available a + (txn.map Txn.dAvailable).getD 0 a
  reserved : ∀ a, db'.reserved a = db.reserved a + (txn.map Txn.dReserved).getD 0 a
  total : db'.totalMoney = db.totalMoney + (txn.map Txn.deposit).getD 0
    + (txn.map (Txn.settled Order.minted)).getD 0

section Posts

variable {db db' : DB}

/-- A move that leaves the account rows alone. -/
theorem Posts.same (h : db'.accountBalances = db.accountBalances)
    (hav : (txn.map Txn.dAvailable).getD 0 = 0) (hre : (txn.map Txn.dReserved).getD 0 = 0)
    (hde : (txn.map Txn.deposit).getD 0 = 0)
    (hmi : (txn.map (Txn.settled Order.minted)).getD 0 = 0) : Posts db db' txn where
  available a := by rw [hav, DB.available, h, Pi.zero_apply, add_zero, DB.available]
  reserved a := by rw [hre, DB.reserved, h, Pi.zero_apply, add_zero, DB.reserved]
  total := by rw [hde, hmi, DB.totalMoney, h, add_zero, add_zero, DB.totalMoney]

/-- A move that shifts the balances. -/
theorem Posts.shift {t : Txn} (h : db.Shift db' t.dAvailable t.dReserved (t.settled Order.minted))
    (hde : t.deposit = 0) : Posts db db' (some t) where
  available := h.available
  reserved := h.reserved
  total := by
    rw [h.totalMoney]
    simp [hde]

/-- A new account. -/
theorem Posts.createAccount (row : AccountBalance)
    (hnew : db.accountBalances.find? row.accountID = none) (hreserved : row.reservedBalance = 0)
    (hdb : db'.accountBalances = db.accountBalances.insert row) :
    Posts db db' (some (.createAccount row.accountID row.availableBalance)) where
  available a := by
    simp only [DB.available, hdb, Table.find?_insert hnew, Option.map_some, Option.getD_some,
      Txn.dAvailable]
    by_cases ha : row.accountID = a
    · subst ha
      simp [hnew]
    · rw [if_neg ha, Pi.single_eq_of_ne (Ne.symm ha), add_zero]
  reserved a := by
    simp only [DB.reserved, hdb, Table.find?_insert hnew, Option.map_some, Option.getD_some,
      Txn.dReserved, Pi.zero_apply, add_zero]
    by_cases ha : row.accountID = a
    · subst ha
      simp [hnew, hreserved]
    · rw [if_neg ha]
  total := by
    simp [DB.totalMoney, hdb, Table.sum_insert hnew, hreserved, Txn.deposit, Txn.settled]

end Posts

theorem Step.posts (hc : b.Counters) (h : Step b txn b') : Posts b.db b'.db txn := by
  cases h.effect with
  | quiet hplain hdb hnone hprogress =>
    cases txn with
    | none => exact .same hdb.accountBalances rfl rfl rfl rfl
    | some t =>
      obtain ⟨hav, hre, hde, hmi⟩ := plain_money (hplain t rfl)
      exact .same hdb.accountBalances hav hre hde (hmi _)
  | begin hnew hdb hprogress htoken => exact .same (by rw [hdb]) rfl rfl rfl rfl
  | createAccount row hnew hreserved hdb hprogress =>
    exact .createAccount row hnew hreserved (by rw [hdb])
  | issueToken hdb hprogress => exact .shift hdb.shift rfl
  | release htok hdb hprogress => exact .shift hdb.shift rfl
  | phase before after hbefore horder hadv hdb hprogress =>
    cases hdb with
    | reserve hh => exact .same hh.accountBalances rfl rfl rfl rfl
    | hold hh => exact .same hh.accountBalances rfl rfl rfl rfl
    | commitLedger hh => exact .shift hh.shift rfl
    | publish hh => exact .same hh.accountBalances rfl rfl rfl rfl
    | unreserve hh => exact .same hh.accountBalances rfl rfl rfl rfl
    | unhold hh => exact .same hh.accountBalances rfl rfl rfl rfl
    | undoLedger hh => exact .shift (hc.undone hbefore horder hadv.2.1 hh).shift rfl

/-- Only payments to oneself create money, and only their compensations destroy it. -/
theorem Step.minted (hc : b.Counters) {t : Txn} (h : Step b (some t) b') :
    t.settled Order.minted = 0 ↔ ¬t.paysSelf := by
  cases h.effect with
  | quiet hplain hdb hnone hprogress =>
    have ht := hplain t rfl
    cases t <;> first | exact ⟨fun _ => id, fun _ => rfl⟩ | simp [Txn.plain] at ht
  | createAccount row hnew hreserved hdb hprogress => exact ⟨fun _ => id, fun _ => rfl⟩
  | issueToken hdb hprogress => exact ⟨fun _ => id, fun _ => rfl⟩
  | release htok hdb hprogress => exact ⟨fun _ => id, fun _ => rfl⟩
  | @phase i o p input before after hbefore horder hadv hdb hprogress =>
    cases hdb with
    | commitLedger hh =>
      exact not_ne_iff.symm.trans (not_congr (Order.minted_ne_zero hh.amount_pos))
    | undoLedger hh =>
      have hwf := hc i before hbefore
      have hle := hwf.standing_le
      have hst : before.standing = 3 := hadv.2.1
      have hamount := hwf.amount_pos (by omega)
      rw [horder] at hamount
      exact neg_eq_zero.trans (not_ne_iff.symm.trans (not_congr (Order.minted_ne_zero hamount)))
    | _ => exact ⟨fun _ => id, fun _ => rfl⟩

/-- A sum over the history after one more move. -/
theorem Step.total (h : Step b txn b') (f : Txn → ℤ) :
    History.total f b'.history = History.total f b.history + (txn.map f).getD 0 := by
  rw [h.history]
  cases txn <;> simp

/-! ## The balances are what the history says -/

/-- Every balance is the sum of what the committed transactions added to it. -/
structure Books (b : Bank) : Prop where
  available : ∀ a, b.db.available a = History.total (Txn.dAvailable · a) b.history
  total : b.db.totalMoney
    = History.deposits b.history + History.total (Txn.settled Order.minted) b.history
  posts : ∀ c ∈ b.history, Posts c.before c.after (some c.txn)
  conserves : ∀ c ∈ b.history, c.Conserves ↔ ¬c.txn.paysSelf

/-- A fact about every committed transaction, from the same about the transaction of one move. -/
theorem Step.forall_commit {P : Commit → Prop} (h : Step b txn b') (hold : ∀ c ∈ b.history, P c)
    (hnew : ∀ t ∈ txn, P ⟨t, b.db, b'.db⟩) : ∀ c ∈ b'.history, P c := by
  intro c hmem
  rw [h.history, List.mem_append] at hmem
  rcases hmem with hmem | hmem
  · exact hold c hmem
  · obtain ⟨t, ht, rfl⟩ := List.mem_map.mp hmem
    exact hnew t (Option.mem_toList.mp ht)

theorem Books.step (hc : b.Counters) (hb : b.Books) (h : Step b txn b') : b'.Books where
  available a := by
    rw [(h.posts hc).available, hb.available, h.total]
    cases txn <;> rfl
  total := by
    have hdep := h.total Txn.deposit
    rw [(h.posts hc).total, hb.total, History.deposits, History.deposits, hdep, h.total]
    ring
  posts := h.forall_commit hb.posts (by rintro t ⟨⟩; exact h.posts hc)
  conserves := by
    refine h.forall_commit hb.conserves ?_
    rintro t ⟨⟩
    have htotal := (h.posts hc).total
    simp only [Option.map_some, Option.getD_some] at htotal
    rw [← h.minted hc, Commit.Conserves, htotal]
    exact add_eq_left

/-- Counting a quantity over commits and compensations is adding it up over the live payments. -/
def LiveTotal (b : Bank) : Prop := ∀ f : Order → ℤ,
  History.total (Txn.settled f) b.history = ((History.live b.history).map fun x => f x.2).sum

theorem LiveTotal.step (hl : b.Live) (ht : b.LiveTotal) (h : Step b txn b') : b'.LiveTotal := by
  intro f
  rw [h.total, ht f, h.history]
  have hkeep : ∀ t : Txn, (∀ l, History.track l t = l) → t.settled f = 0 → txn = some t →
      ((History.live b.history).map fun x => f x.2).sum + (txn.map (Txn.settled f)).getD 0
        = ((History.live (b.history ++ txn.toList.map (⟨·, b.db, b'.db⟩))).map
            fun x => f x.2).sum := by
    rintro t htrack hzero rfl
    simp [htrack, hzero]
  cases h.effect with
  | quiet hplain hdb hnone hprogress =>
    cases txn with
    | none => simp
    | some t => exact hkeep t (track_plain (hplain t rfl)) ((plain_money (hplain t rfl)).2.2.2 f) rfl
  | begin hnew hdb hprogress htoken => simp
  | createAccount row hnew hreserved hdb hprogress => exact hkeep _ (fun _ => rfl) rfl rfl
  | issueToken hdb hprogress => exact hkeep _ (fun _ => rfl) rfl rfl
  | release htok hdb hprogress => exact hkeep _ (fun _ => rfl) rfl rfl
  | @phase i o p input before after hbefore horder hadv hdb hprogress =>
    cases hdb with
    | commitLedger hh => simp [History.track, Txn.settled]
    | undoLedger hh =>
      -- what is taken back had been counted
      have hmem : (i, o) ∈ History.live b.history :=
        (hl.mem_iff i o).mpr ⟨before, hbefore, horder, by
          rw [Progress.settled, hadv.2.1]; decide⟩
      have hsum : f o + (((History.live b.history).erase (i, o)).map fun x => f x.2).sum
          = ((History.live b.history).map fun x => f x.2).sum :=
        ((List.perm_cons_erase hmem).map fun x : ℕ × Order => f x.2).sum_eq.symm
      simp only [Option.map_some, Option.getD_some, Txn.settled, Option.toList_some,
        List.map_singleton, History.live_append, History.track]
      omega
    | _ => exact hkeep _ (fun _ => rfl) rfl rfl

/-! ## Reserved balances -/

/-- The part of a token's value that is in the reserved balance of `a`. -/
def backing (h : List Commit) (a : String) (row : OfflineToken) : ℤ :=
  if row.ownerID = a then row.value.toInt * (1 - History.out row.tokenID h) else 0

theorem backing_same {h : List Commit} {a : String} {row row' : OfflineToken}
    (hs : SameToken row row') : backing h a row' = backing h a row := by
  obtain ⟨hid, hv, ho⟩ := hs
  rw [backing, backing, hid, hv, ho]

/-- Every reserved balance is the value of the owner's tokens that is not out. -/
def Backed (b : Bank) : Prop := ∀ a,
  b.db.reserved a = b.db.offlineTokens.sum (backing b.history a)

/-- The tokens after a move that overwrites one row and puts `d` times its value out. -/
theorem backing_sum {h h' : List Commit} {t t' : Table OfflineToken.tokenID} {tokenID : String}
    {row row' : OfflineToken} {d : ℤ} (hfind : t.find? tokenID = some row) (hset : t' = t.set row')
    (hsame : SameToken row row')
    (hout : ∀ k, History.out k h' = History.out k h + if k = tokenID then d else 0) (a : String) :
    t'.sum (backing h' a)
      = t.sum (backing h a) - (Pi.single row.ownerID (row.value.toInt * d) : String → ℤ) a := by
  have hkey : row.tokenID = tokenID := Table.key_of_find? hfind
  have hfind' : t.find? row'.tokenID = some row := by rw [hsame.1, hkey, hfind]
  have hoff : t.sum (backing h' a) = t.sum (backing h a) - backing h a row + backing h' a row := by
    refine Table.sum_congr_off hfind fun r _ hr => ?_
    rw [backing, backing, hout, if_neg hr, add_zero]
  rw [hset, Table.sum_set hfind', hoff, backing_same hsame, backing, backing, hout, if_pos hkey]
  by_cases ha : row.ownerID = a
  · subst ha
    rw [if_pos rfl, if_pos rfl, Pi.single_eq_same]
    ring
  · rw [if_neg ha, if_neg ha, Pi.single_eq_of_ne (Ne.symm ha)]
    ring

/-- A move that overwrites one token row keeps the reserved balances backed, if they change by what
it puts out. -/
theorem Backed.set (hb : b.Backed) (hc : b.Counters) (h : Step b txn b') {tokenID : String}
    {row row' : OfflineToken} (hfind : b.db.offlineTokens.find? tokenID = some row)
    (hset : b'.db.offlineTokens = b.db.offlineTokens.set row') (hsame : SameToken row row') (d : ℤ)
    (hout : ∀ k, (txn.map (Txn.out k)).getD 0 = if k = tokenID then d else 0)
    (hres : (txn.map Txn.dReserved).getD 0 = Pi.single row.ownerID (-(row.value.toInt * d))) :
    b'.Backed := by
  intro a
  have hout' : ∀ k, History.out k b'.history
      = History.out k b.history + if k = tokenID then d else 0 := by
    intro k
    rw [← hout k]
    exact h.total (Txn.out k)
  rw [(h.posts hc).reserved, hb a, hres, backing_sum hfind hset hsame hout' a, Pi.single_neg,
    Pi.neg_apply, sub_eq_add_neg]

/-- A move that leaves the token rows alone and puts nothing out. -/
theorem Backed.keep (hb : b.Backed) (hc : b.Counters) (h : Step b txn b')
    (htok : b'.db.offlineTokens = b.db.offlineTokens)
    (hout : ∀ k, (txn.map (Txn.out k)).getD 0 = 0) (hres : (txn.map Txn.dReserved).getD 0 = 0) :
    b'.Backed := by
  intro a
  rw [(h.posts hc).reserved, hb a, hres, htok, Pi.zero_apply, add_zero]
  refine Table.sum_congr fun row _ => ?_
  rw [backing, backing, History.out, History.out, h.total, hout, add_zero]

/-- What a `LEDGER_COMMIT` takes out of the reserved balance is the value of the token. -/
theorem dReserved_eq {o : Order} {row : OfflineToken} (hs : SameToken o.token row) :
    o.dReserved = Pi.single row.ownerID (-(row.value.toInt * if o.self then 0 else 1)) := by
  obtain ⟨-, hv, ho⟩ := hs
  rw [hv, ho, o.owner_eq, Order.dReserved]
  by_cases hself : o.self
  · simp [hself]
  · simp [hself]

theorem Backed.step (hs : b.Sound) (hb : b.Backed) (h : Step b txn b') : b'.Backed := by
  have hc := hs.counters
  cases h.effect with
  | quiet hplain hdb hnone hprogress =>
    refine hb.keep hc h hdb.offlineTokens ?_ ?_ <;> cases txn with
    | none => simp
    | some t =>
      first
        | exact (plain_money (hplain t rfl)).2.1
        | exact fun k => (neutral_plain (hplain t rfl) k b.db b'.db).2.1
  | begin hnew hdb hprogress htoken => exact hb.keep hc h (by rw [hdb]) (fun _ => rfl) rfl
  | createAccount row hnew hreserved hdb hprogress =>
    exact hb.keep hc h (by rw [hdb]) (fun _ => rfl) rfl
  | @issueToken tok hdb hprogress =>
    intro a
    have hzero : History.out tok.tokenID b.history = 0 := (hs.tokens.unknown _ hdb.fresh).out
    have hsame : ∀ row, backing b'.history a row = backing b.history a row := by
      intro row
      rw [backing, backing, History.out, History.out, h.total]
      simp [Txn.out]
    rw [(h.posts hc).reserved, hb a, hdb.offlineTokens, Table.sum_insert hdb.fresh, hsame tok,
      Table.sum_congr fun row _ => hsame row, backing, hzero, sub_zero, mul_one]
    simp only [Option.map_some, Option.getD_some, Txn.dReserved, Pi.single_apply, eq_comm]
  | @release tok locked now htok hdb hprogress =>
    obtain ⟨row, hrow, hsame⟩ := hs.tokens.snapshots tok htok
    obtain rfl : locked = row := Option.some.inj (hdb.find.symm.trans hrow)
    refine hb.set hc h hdb.find hdb.offlineTokens ⟨rfl, rfl, rfl⟩ 1 (fun k => ?_) ?_
    · simp [Txn.out, eq_comm]
    · simp [Txn.dReserved, hsame.2.1, hsame.2.2]
  | @phase i o p input before after hbefore horder hadv hdb hprogress =>
    obtain ⟨row, hrow, hsame⟩ := hs.tokens.orders i before hbefore
    rw [Progress.tokenID, horder] at hrow
    rw [horder] at hsame
    cases hdb with
    | reserve hh => exact hb.keep hc h hh.offlineTokens (fun _ => rfl) rfl
    | publish hh => exact hb.keep hc h hh.offlineTokens (fun _ => rfl) rfl
    | unreserve hh => exact hb.keep hc h hh.offlineTokens (fun _ => rfl) rfl
    | hold hh =>
      obtain ⟨row', hrow', -, hset⟩ := hh.offlineTokens
      exact hb.set hc h hrow' hset ⟨rfl, rfl, rfl⟩ 0 (by simp [Txn.out]) (by simp [Txn.dReserved])
    | unhold hh =>
      rcases hh.offlineTokens with ⟨row', hrow', -, hset⟩ | ⟨-, hset⟩
      · exact hb.set hc h hrow' hset ⟨rfl, rfl, rfl⟩ 0 (by simp [Txn.out]) (by simp [Txn.dReserved])
      · exact hb.keep hc h hset (fun _ => rfl) rfl
    | commitLedger hh =>
      obtain ⟨row', hrow', -, hset⟩ := hh.offlineTokens
      obtain rfl : row = row' := Option.some.inj (hrow.symm.trans hrow')
      refine hb.set hc h hrow hset ⟨rfl, rfl, rfl⟩ (if o.self then 0 else 1) (fun k => ?_) ?_
      · by_cases hself : o.self <;> simp [Txn.out, hself, eq_comm]
      · exact dReserved_eq hsame
    | undoLedger hh =>
      have hun := hc.undone hbefore horder hadv.2.1 hh
      have hset : b'.db.offlineTokens = b.db.offlineTokens.set row := by
        rw [hun.offlineTokens, Table.set_self]
        rw [Table.key_of_find? hrow, hrow]
      refine hb.set hc h hrow hset ⟨rfl, rfl, rfl⟩ (if o.self then 0 else -1) (fun k => ?_) ?_
      · by_cases hself : o.self <;> simp [Txn.out, hself, eq_comm]
      · show -o.dReserved = _
        rw [dReserved_eq hsame, ← Pi.single_neg]
        by_cases hself : o.self <;> simp [hself]

end Bank

/-! ## All runs -/

namespace World

variable {E : Externals} {w : World E}

theorem Initial.available (hi : w.Initial) (a : String) : w.db.available a = 0 := by
  rw [DB.available, hi.accountBalances]
  rfl

theorem Initial.reserved (hi : w.Initial) (a : String) : w.db.reserved a = 0 := by
  rw [DB.reserved, hi.accountBalances]
  rfl

theorem Initial.backed (hi : w.Initial) : w.bank.Backed := by
  intro a
  have hzero : ∀ row ∈ w.db.offlineTokens.rows, Bank.backing w.bank.history a row = 0 := by
    intro row hrow
    rw [Bank.backing, (hi.offlineTokens row hrow).2.1]
    simp
  show w.db.reserved a = w.db.offlineTokens.sum _
  rw [hi.reserved, Table.sum_congr hzero, Table.sum]
  simp

/-- The money invariants hold after every run. -/
theorem money (hi : w.Initial) (ls : List Label) : (w.exec ls).bank.Sound ∧
    (w.exec ls).bank.Books ∧ (w.exec ls).bank.LiveTotal ∧ (w.exec ls).bank.Backed := by
  refine (bank_invariant (P := fun _ _ => True)
    (I := fun b => b.Sound ∧ b.Books ∧ b.LiveTotal ∧ b.Backed) ?_ hi.callsWf ?_
    (Run.steps_true w ls)).1
  · rintro w l ⟨hs, hb, hl, hk⟩ - h
    exact ⟨hs.step h, hb.step hs.counters h, hl.step hs.live h, hk.step hs h⟩
  · refine ⟨hi.sound, ⟨fun a => ?_, ?_, by simp [hi.history_nil], by simp [hi.history_nil]⟩,
      fun f => ?_, hi.backed⟩
    · rw [hi.history_nil]
      exact hi.available a
    · rw [hi.history_nil]
      show w.db.totalMoney = 0
      rw [DB.totalMoney, hi.accountBalances]
      rfl
    · rw [hi.history_nil]
      rfl

end World

end OfflinePay
