import OfflinePay.System.Reserved

/-!
# The bank as one atomic machine

`TokenBank` is what the services are for, without calls, sagas, locks or tables: accounts with a
balance, and tokens whose value is set aside until they are paid out, expire, or are lost. Each of its
operations happens at once. `Bank.shown` is what a state of the system looks like in these terms, and
`Step.shown` says that every committed transaction is one of the operations, or changes nothing there.
-/

namespace OfflinePay

/-! ## The abstract bank -/

/-- What a token stands for. -/
inductive Coin (α : Type) where
  /-- Its value is set aside for its owner. -/
  | outstanding (owner : α) (value : ℤ)
  /-- It was used for a payment; the owner got the change. -/
  | paid (owner : α) (value : ℤ) (receiver : α) (amount : ℤ)
  /-- Its value stays set aside for ever. -/
  | lost (owner : α) (value : ℤ)
  /-- Nothing. -/
  | closed

/-- Accounts and tokens, with accounts of type `α` and tokens named by `κ`. -/
structure TokenBank (κ α : Type) where
  balance : α → Option ℤ
  coins : κ → Option (Coin α)

namespace TokenBank

variable {κ α : Type}

/-- The operations of the bank. -/
inductive Op (κ α : Type) where
  | openAccount (account : α) (amount : ℤ)
  | issue (coin : κ) (owner : α) (value : ℤ)
  | pay (coin : κ) (receiver : α) (amount : ℤ)
  | expire (coin : κ)
  /-- A token that was about to be used for a payment is given up. -/
  | forfeit (coin : κ)
  /-- A payment is taken back; its token is not. -/
  | revert (coin : κ)
deriving DecidableEq

/-- The balances after changes to some of them. -/
def shift (a : TokenBank κ α) (d : α → ℤ) : α → Option ℤ := fun x => (a.balance x).map (· + d x)

variable [DecidableEq κ] [DecidableEq α]

/-- What a payment adds to the balances. Who pays oneself gets the amount, and the value of the token
stays set aside. -/
def payment (owner : α) (value : ℤ) (receiver : α) (amount : ℤ) : α → ℤ :=
  if owner = receiver then Pi.single owner amount
  else Pi.single owner (value - amount) + Pi.single receiver amount

/-- One operation: when it is possible, and what it does. -/
inductive Step : TokenBank κ α → Op κ α → TokenBank κ α → Prop where
  | openAccount {a : TokenBank κ α} {x : α} {n : ℤ} (hnew : a.balance x = none) (hn : 0 ≤ n) :
      Step a (.openAccount x n) ⟨Function.update a.balance x (some n), a.coins⟩
  | issue {a : TokenBank κ α} {k : κ} {x : α} {v b : ℤ} (hnew : a.coins k = none) (hv : 0 < v)
      (hbalance : a.balance x = some b) (hfunds : v ≤ b) :
      Step a (.issue k x v)
        ⟨a.shift (Pi.single x (-v)), Function.update a.coins k (some (.outstanding x v))⟩
  | pay {a : TokenBank κ α} {k : κ} {x r : α} {v n : ℤ} (hcoin : a.coins k = some (.outstanding x v))
      (hn : 0 < n) (hle : n ≤ v) (hx : a.balance x ≠ none) (hr : a.balance r ≠ none) :
      Step a (.pay k r n)
        ⟨a.shift (payment x v r n), Function.update a.coins k (some (.paid x v r n))⟩
  | expire {a : TokenBank κ α} {k : κ} {x : α} {v : ℤ} (hcoin : a.coins k = some (.outstanding x v))
      (hx : a.balance x ≠ none) :
      Step a (.expire k) ⟨a.shift (Pi.single x v), Function.update a.coins k (some .closed)⟩
  | forfeit {a : TokenBank κ α} {k : κ} {x : α} {v : ℤ}
      (hcoin : a.coins k = some (.outstanding x v)) :
      Step a (.forfeit k) ⟨a.balance, Function.update a.coins k (some (.lost x v))⟩
  | revert {a : TokenBank κ α} {k : κ} {x r : α} {v n : ℤ} (hcoin : a.coins k = some (.paid x v r n))
      (hfunds : ∀ y b, a.shift (-payment x v r n) y = some b → 0 ≤ b) :
      Step a (.revert k)
        ⟨a.shift (-payment x v r n), Function.update a.coins k (some (.lost x v))⟩

/-- A sequence of operations. -/
inductive Runs (a : TokenBank κ α) : List (Op κ α) → TokenBank κ α → Prop where
  | nil : Runs a [] a
  | snoc {ops : List (Op κ α)} {op : Op κ α} {a₁ a₂ : TokenBank κ α} (hruns : Runs a ops a₁)
      (hstep : Step a₁ op a₂) : Runs a (ops ++ [op]) a₂

end TokenBank

/-- What is set aside for an account on behalf of a token. -/
def Coin.held {α : Type} [DecidableEq α] (x : α) : Coin α → ℤ
  | .outstanding owner value | .lost owner value => if owner = x then value else 0
  | .paid owner value receiver _ => if owner = receiver ∧ owner = x then value else 0
  | .closed => 0

/-! ## What the system shows of it -/

open Settlement

/-- The operation that a committed transaction is. -/
def Commit.op? (c : Commit) : Option (TokenBank.Op String String) :=
  match c.txn with
  | .createAccount accountID opening => some (.openAccount accountID opening.toInt)
  | .issueToken tok => some (.issue tok.tokenID tok.ownerID tok.value.toInt)
  | .release tok => some (.expire tok.tokenID)
  | .ledgerCommit _ o =>
    some (.pay o.payload.tokenID o.payload.receiverID o.payload.amount.toInt)
  | .ledgerUndo _ o => some (.revert o.payload.tokenID)
  | .phase _ o (.compensation 1) =>
    if (c.before.offlineTokens.find? o.payload.tokenID).map OfflineToken.status = some .held
    then some (.forfeit o.payload.tokenID) else none
  | _ => none

/-- The token that a transaction is about. -/
def Txn.tokenID? : Txn → Option String
  | .issueToken tok | .release tok => some tok.tokenID
  | .phase _ o _ => some o.payload.tokenID
  | _ => none

/-- A token that was used for a payment. -/
def Settlement.Order.coin (o : Order) : Coin String :=
  .paid o.payload.senderID o.token.value.toInt o.payload.receiverID o.payload.amount.toInt

/-- The token can still be paid with or expire. The spent tokens of the failure records cannot. -/
def OfflineToken.Usable (row : OfflineToken) : Prop := row.outstanding = true ∧ row.consumed = false

instance (row : OfflineToken) : Decidable row.Usable := inferInstanceAs (Decidable (_ ∧ _))

namespace Bank

variable {b b' : Bank} {txn : Option Txn} {k : String} {row : OfflineToken}

/-- The standing payment that used a token, with the index of its call. -/
def payer (b : Bank) (k : String) : Option (ℕ × Order) :=
  (History.live b.history).find? fun x => x.2.payload.tokenID = k

open Classical in
/-- What a token stands for. -/
noncomputable def coin (b : Bank) (k : String) : Option (Coin String) :=
  (b.db.offlineTokens.find? k).map fun row =>
    if row.Usable then .outstanding row.ownerID row.value.toInt
    else match b.payer k with
      | some x => x.2.coin
      | none =>
        if History.Stranded k b.history then .lost row.ownerID row.value.toInt else .closed

/-- The available balances, and what each token stands for. -/
noncomputable def shown (b : Bank) : TokenBank String String where
  balance x := (b.db.accountBalances.find? x).map fun row => row.availableBalance.toInt
  coins := b.coin

/-! ## Reading a token -/

theorem coin_unknown (h : b.db.offlineTokens.find? k = none) : b.coin k = none := by
  rw [coin, h, Option.map_none]

theorem coin_outstanding (h : b.db.offlineTokens.find? k = some row) (hrow : row.Usable) :
    b.coin k = some (.outstanding row.ownerID row.value.toInt) := by
  rw [coin, h, Option.map_some, if_pos hrow]

theorem coin_paid {x : ℕ × Order} (h : b.db.offlineTokens.find? k = some row) (hrow : ¬row.Usable)
    (hx : b.payer k = some x) : b.coin k = some x.2.coin := by
  rw [coin, h, Option.map_some, if_neg hrow, hx]

theorem coin_lost (h : b.db.offlineTokens.find? k = some row) (hrow : ¬row.Usable)
    (hx : b.payer k = none) (hst : History.Stranded k b.history) :
    b.coin k = some (.lost row.ownerID row.value.toInt) := by
  simp only [coin, h, Option.map_some, if_neg hrow, hx, if_pos hst]

theorem coin_closed (h : b.db.offlineTokens.find? k = some row) (hrow : ¬row.Usable)
    (hx : b.payer k = none) (hst : ¬History.Stranded k b.history) : b.coin k = some .closed := by
  simp only [coin, h, Option.map_some, if_neg hrow, hx, if_neg hst]

/-- At most one standing payment used a token. -/
theorem Sound.payer_iff (hs : b.Sound) {x : ℕ × Order} :
    b.payer k = some x ↔ x ∈ History.live b.history ∧ x.2.payload.tokenID = k := by
  constructor
  · intro h
    exact ⟨List.mem_of_find?_eq_some h, by simpa using List.find?_some h⟩
  · rintro ⟨hx, hk⟩
    obtain ⟨y, hy⟩ : ∃ y, b.payer k = some y :=
      Option.isSome_iff_exists.mp (List.find?_isSome.mpr ⟨x, hx, by simpa using hk⟩)
    have hmem : y ∈ History.live b.history := List.mem_of_find?_eq_some hy
    have hyk : y.2.payload.tokenID = k := by simpa using List.find?_some hy
    obtain ⟨pr, hpr, ho, hset⟩ := (hs.live.mem_iff x.1 x.2).mp hx
    obtain ⟨pr', hpr', ho', hset'⟩ := (hs.live.mem_iff y.1 y.2).mp hmem
    have hex : ∀ {i p}, b.progress i = some p → p.settled → 1 < p.executed := fun hp hset =>
      lt_trans (by decide) (lt_of_lt_of_le hset (hs.counters _ _ hp).standing_le)
    have hid : x.1 = y.1 := by
      refine hs.tokens.unique x.1 y.1 pr pr' hpr hpr' ?_ (hex hpr hset) (hex hpr' hset')
      rw [Progress.tokenID, Progress.tokenID, ho, ho', hk, hyk]
    rw [hid] at hpr
    obtain rfl := Option.some.inj (hpr.symm.trans hpr')
    rw [hy, Option.some.injEq]
    exact Prod.ext hid.symm (ho'.symm.trans ho)

/-- The saga of a standing payment. -/
theorem Sound.payer_saga (hs : b.Sound) {x : ℕ × Order} (h : b.payer k = some x) :
    ∃ pr, b.progress x.1 = some pr ∧ pr.order = x.2 ∧ pr.tokenID = k ∧ pr.settled ∧
      2 < pr.executed := by
  obtain ⟨hx, hk⟩ := hs.payer_iff.mp h
  obtain ⟨pr, hpr, ho, hset⟩ := (hs.live.mem_iff x.1 x.2).mp hx
  refine ⟨pr, hpr, ho, ?_, hset, lt_of_lt_of_le hset (hs.counters _ _ hpr).standing_le⟩
  rw [Progress.tokenID, ho, hk]

/-- The saga that had the token on hold is the only one that can have paid with it. -/
theorem Sound.payer_eq_none_of_unsettled (hs : b.Sound) {i : ℕ} {pr : Progress}
    (hpr : b.progress i = some pr) (htok : pr.tokenID = k) (hex : 1 < pr.executed)
    (hset : ¬pr.settled) : b.payer k = none := by
  refine Option.eq_none_iff_forall_ne_some.mpr fun x hx => ?_
  obtain ⟨pr', hpr', -, htok', hset', hex'⟩ := hs.payer_saga hx
  obtain rfl := hs.tokens.unique i x.1 pr pr' hpr hpr' (htok.trans htok'.symm) hex (by omega)
  obtain rfl := Option.some.inj (hpr.symm.trans hpr')
  exact hset hset'

/-- A standing payment consumed its token. -/
theorem Sound.payer_eq_none (hs : b.Sound) (h : b.db.offlineTokens.find? k = some row)
    (hrow : row.consumed = false) : b.payer k = none := by
  obtain rfl := Table.key_of_find? h
  have hbound : ∀ n ≤ 2, (∀ i pr, b.progress i = some pr → pr.tokenID = row.tokenID →
      pr.executed ≤ n) → b.payer row.tokenID = none := by
    intro n hn hle
    refine Option.eq_none_iff_forall_ne_some.mpr fun x hx => ?_
    obtain ⟨pr, hpr, -, htok, -, hex⟩ := hs.payer_saga hx
    have := hle _ pr hpr htok
    omega
  cases hs.tokens.state _ row h with
  | spent hsp => exact absurd (hsp.1.symm.trans hrow) (by simp)
  | issued _ _ _ _ hnone => exact hbound 1 (by omega) hnone
  | held i pr _ _ _ _ hpr htok hex hst =>
    exact hs.payer_eq_none_of_unsettled hpr htok (by omega) (by simp [Progress.settled, hst])
  | consumed _ _ _ _ hc => exact absurd (hc.symm.trans hrow) (by simp)
  | released _ _ _ _ hnone => exact hbound 2 le_rfl hnone
  | stranded _ _ _ _ hnone => exact hbound 2 le_rfl hnone

/-- A token that can be used has lost nothing. -/
theorem Sound.usable_of_unreleased (hs : b.Sound) (h : b.db.offlineTokens.find? k = some row)
    (hc : row.consumed = false) (hr : row.releasedAt = none) :
    row.Usable ∧ ¬History.Stranded k b.history := by
  obtain rfl := Table.key_of_find? h
  cases hs.tokens.state _ row h with
  | spent hsp => exact absurd (hsp.1.symm.trans hc) (by simp)
  | issued _ hst _ _ _ ht => exact ⟨⟨by simp [OfflineToken.outstanding, hst], hc⟩, ht.stranded.mp⟩
  | held _ _ _ hst _ _ _ _ _ _ ht =>
    exact ⟨⟨by simp [OfflineToken.outstanding, hst], hc⟩, ht.stranded.mp⟩
  | consumed _ _ _ _ hc' => exact absurd (hc'.symm.trans hc) (by simp)
  | released _ _ _ hr' => exact absurd hr hr'
  | stranded _ _ _ hr' => exact absurd hr hr'

/-! ## Frames -/

/-- The row of a token after it has been overwritten. -/
theorem find?_of_set {row₁ : OfflineToken} (hfind : b.db.offlineTokens.find? k = some row)
    (hset : b'.db.offlineTokens = b.db.offlineTokens.set row₁) (hid : row₁.tokenID = row.tokenID) :
    b'.db.offlineTokens.find? k = some row₁ := by
  rw [hset, find?_set_of_find? hfind (hid.trans (Table.key_of_find? hfind)), if_pos rfl]

/-- A token keeps its meaning when its row, its standing payment and its loss do. -/
theorem coin_congr
    (hrow : (b'.db.offlineTokens.find? k).map (fun r => (r.ownerID, r.value, decide r.Usable))
      = (b.db.offlineTokens.find? k).map fun r => (r.ownerID, r.value, decide r.Usable))
    (hpayer : b'.payer k = b.payer k)
    (hstranded : History.Stranded k b'.history ↔ History.Stranded k b.history) :
    b'.coin k = b.coin k := by
  cases h : b.db.offlineTokens.find? k with
  | none =>
    rw [h, Option.map_none, Option.map_eq_none_iff] at hrow
    rw [coin_unknown h, coin_unknown hrow]
  | some row =>
    rw [h, Option.map_some, Option.map_eq_some_iff] at hrow
    obtain ⟨row', h', hface⟩ := hrow
    simp only [Prod.mk.injEq, decide_eq_decide] at hface
    obtain ⟨ho, hv, hu⟩ := hface
    have hst := propext hstranded
    simp only [coin, h, h', Option.map_some, ho, hv, hu, hpayer]
    rw [hst]

/-- Only a `LEDGER_COMMIT` and its compensation change what has been paid with a token. -/
theorem Step.payer (hs : b.Sound) (h : Step b txn b')
    (hpay : ∀ i o, txn = some (.ledgerCommit i o) → o.payload.tokenID ≠ k)
    (hundo : ∀ i o, txn = some (.ledgerUndo i o) → o.payload.tokenID ≠ k) :
    b'.payer k = b.payer k := by
  ext x
  rw [hs.payer_iff, (hs.step h).payer_iff, h.history]
  refine and_congr_left fun hk => ?_
  cases txn with
  | none => simp
  | some t =>
    rw [Option.toList_some, List.map_singleton, History.live_append]
    unfold History.track
    split
    · next i o ht =>
      have hne : x ≠ (i, o) := by
        rintro rfl
        exact hpay i o (congrArg some ht) hk
      simp [hne]
    · next i o ht =>
      have hne : x ≠ (i, o) := by
        rintro rfl
        exact hundo i o (congrArg some ht) hk
      exact List.mem_erase_of_ne hne
    · rfl

/-- A move that strands nothing. -/
theorem Step.stranded (h : Step b txn b') (hn : ∀ t ∈ txn, ¬Commit.Strands k ⟨t, b.db, b'.db⟩) :
    History.Stranded k b'.history ↔ History.Stranded k b.history := by
  rw [h.history]
  cases txn with
  | none => simp
  | some t => simp [hn t rfl]

/-- A transaction leaves the rows of the tokens alone that it is not about. -/
theorem Step.find?_other (hs : b.Sound) (h : Step b txn b')
    (hk : ∀ t ∈ txn, t.tokenID? ≠ some k) :
    b'.db.offlineTokens.find? k = b.db.offlineTokens.find? k := by
  have hset : ∀ {j : String} {row row₁ : OfflineToken}, b.db.offlineTokens.find? j = some row →
      b'.db.offlineTokens = b.db.offlineTokens.set row₁ → row₁.tokenID = row.tokenID → k ≠ j →
      b'.db.offlineTokens.find? k = b.db.offlineTokens.find? k := by
    intro j row row₁ hrow hdb hid hne
    rw [hdb, find?_set_of_find? hrow (hid.trans (Table.key_of_find? hrow)), if_neg hne]
  cases h.effect with
  | quiet hplain hdb => rw [hdb.offlineTokens]
  | begin hnew hdb => rw [hdb]
  | createAccount row hnew hreserved hdb => rw [hdb]
  | @issueToken tok hdb =>
    have hne : tok.tokenID ≠ k := fun h => hk _ rfl (congrArg some h)
    rw [hdb.offlineTokens, Table.find?_insert_ne _ hne]
  | @release tok locked now htok hdb =>
    have hne : k ≠ tok.tokenID := fun h => hk _ rfl (congrArg some h.symm)
    exact hset hdb.find hdb.offlineTokens rfl hne
  | @phase i o p input before after hbefore horder hadv hdb =>
    have hne : k ≠ o.payload.tokenID := fun h => hk _ rfl (congrArg some h.symm)
    cases hdb with
    | reserve hh => rw [hh.offlineTokens]
    | publish hh => rw [hh.offlineTokens]
    | unreserve hh => rw [hh.offlineTokens]
    | hold hh =>
      obtain ⟨row, hrow, -, hdb⟩ := hh.offlineTokens
      exact hset hrow hdb rfl hne
    | commitLedger hh =>
      obtain ⟨row, hrow, -, hdb⟩ := hh.offlineTokens
      exact hset hrow hdb rfl hne
    | unhold hh =>
      rcases hh.offlineTokens with ⟨row, hrow, -, hdb⟩ | ⟨-, hdb⟩
      · exact hset hrow hdb rfl hne
      · rw [hdb]
    | undoLedger hh => rw [(hs.counters.undone hbefore horder hadv.2.1 hh).offlineTokens]

theorem neutral_other {t : Txn} (h : t.tokenID? ≠ some k) (db db' : DB) :
    ¬Commit.Strands k ⟨t, db, db'⟩ := by
  cases t with
  | phase i o p => exact (neutral_phase (fun heq => h (congrArg some heq)) db db').2.2
  | _ => exact id

/-- A transaction says nothing about the tokens that it is not about. -/
theorem Step.coin_other (hs : b.Sound) (h : Step b txn b')
    (hk : ∀ t ∈ txn, t.tokenID? ≠ some k) : b'.coin k = b.coin k := by
  refine coin_congr (by rw [h.find?_other hs hk]) (h.payer hs ?_ ?_)
    (h.stranded fun t ht => neutral_other (hk t ht) _ _)
  · rintro i o rfl heq
    exact hk _ rfl (congrArg some heq)
  · rintro i o rfl heq
    exact hk _ rfl (congrArg some heq)

/-- The balances after a shift. -/
theorem shown_balance {d d' : String → ℤ} {t : ℤ} (h : b.db.Shift b'.db d d' t) :
    b'.shown.balance = b.shown.shift d := by
  funext x
  simp only [shown, TokenBank.shift]
  cases hx : b.db.accountBalances.find? x with
  | none => simp [(h.accounts x).mpr hx]
  | some row =>
    cases hx' : b'.db.accountBalances.find? x with
    | none => exact absurd (hx.symm.trans ((h.accounts x).mp hx')) (by simp)
    | some row' =>
      have hav := h.available x
      rw [DB.available_of_find? hx, DB.available_of_find? hx'] at hav
      simp [hav]

theorem shown_balance_nonneg {x : String} {n : ℤ} (h : b.shown.balance x = some n) : 0 ≤ n := by
  simp only [shown, Option.map_eq_some_iff] at h
  obtain ⟨row, -, rfl⟩ := h
  simpa using Int64.le_iff_toInt_le.mp row.available_check

theorem shown_balance_ne_none {x : String} (h : b.db.accountBalances.find? x ≠ none) :
    b.shown.balance x ≠ none := by
  simpa [shown] using h

/-- One transaction about one token. -/
theorem Step.shown_update (hs : b.Sound) {t : Txn} (h : Step b (some t) b')
    (hk : t.tokenID? = some k) {c : Coin String} (hc : b'.coin k = some c) :
    b'.shown = ⟨b'.shown.balance, Function.update b.shown.coins k (some c)⟩ := by
  have hcoins : b'.coin = Function.update b.coin k (some c) := by
    funext j
    by_cases hj : j = k
    · rw [hj, Function.update_self, hc]
    · rw [Function.update_of_ne hj]
      refine h.coin_other hs ?_
      rintro _ ⟨⟩ heq
      exact hj (Option.some.inj (heq.symm.trans hk))
  rw [shown, hcoins]
  rfl

/-! ## One move -/

theorem Step.shown_createAccount (hs : b.Sound) {account : AccountBalance}
    (h : Step b (some (.createAccount account.accountID account.availableBalance)) b')
    (hnew : b.db.accountBalances.find? account.accountID = none)
    (hdb : b'.db.accountBalances = b.db.accountBalances.insert account) :
    TokenBank.Step b.shown (.openAccount account.accountID account.availableBalance.toInt)
      b'.shown := by
  have hcoins : b'.coin = b.coin := by
    funext k
    refine h.coin_other hs ?_
    rintro _ ⟨⟩
    simp [Txn.tokenID?]
  have hbalance : b'.shown.balance = Function.update b.shown.balance account.accountID
      (some account.availableBalance.toInt) := by
    funext x
    simp only [shown, hdb, Table.find?_insert hnew]
    by_cases hx : account.accountID = x
    · subst hx
      simp
    · rw [if_neg hx, Function.update_of_ne (Ne.symm hx)]
  have hshown : b'.shown = ⟨b'.shown.balance, b.shown.coins⟩ := by
    simp only [shown, hcoins]
  rw [hshown, hbalance]
  exact .openAccount (by simp [shown, hnew])
    (by simpa using Int64.le_iff_toInt_le.mp account.available_check)

theorem Step.shown_issueToken (hs : b.Sound) {tok : OfflineToken}
    (h : Step b (some (.issueToken tok)) b') (hdb : Token.Issued b.db b'.db tok) :
    TokenBank.Step b.shown (.issue tok.tokenID tok.ownerID tok.value.toInt) b'.shown := by
  have hfind : b'.db.offlineTokens.find? tok.tokenID = some tok := by
    rw [hdb.offlineTokens, Table.find?_insert_self hdb.fresh]
  have hrow : tok.Usable := ⟨by simp [OfflineToken.outstanding, hdb.status], hdb.consumed⟩
  rw [h.shown_update hs rfl (coin_outstanding hfind hrow), shown_balance hdb.shift]
  obtain ⟨n, hn⟩ := Option.ne_none_iff_exists'.mp (shown_balance_ne_none hdb.account)
  -- the check on the balance column is what keeps the owner within the funds
  have hafter : b'.shown.balance tok.ownerID = some (n + -tok.value.toInt) := by
    rw [shown_balance hdb.shift, TokenBank.shift, hn, Option.map_some, Pi.single_eq_same]
  have hfunds := shown_balance_nonneg hafter
  exact .issue (coin_unknown hdb.fresh) (Checked.toInt_pos hdb.value_pos) hn (by omega)

theorem Step.shown_release (hs : b.Sound) {tok locked : OfflineToken} {now : Time}
    (h : Step b (some (.release tok)) b') (htok : tok ∈ b.snapshots)
    (hdb : Token.Released b.db b'.db tok locked now) :
    TokenBank.Step b.shown (.expire tok.tokenID) b'.shown := by
  obtain ⟨hrow, hkept⟩ := hs.usable_of_unreleased hdb.find hdb.unconsumed hdb.unreleased
  -- what the pass read of the token still holds of its row
  obtain ⟨_, hfind, -, hv, ho⟩ := hs.tokens.snapshots tok htok
  obtain rfl := Option.some.inj (hdb.find.symm.trans hfind)
  have hfind' : b'.db.offlineTokens.find? tok.tokenID
      = some { locked with releasedAt := some now, status := .invalidated } :=
    find?_of_set hdb.find hdb.offlineTokens rfl
  have hcoin : b'.coin tok.tokenID = some .closed := by
    refine coin_closed hfind' (fun hu => absurd hu.1 (by simp [OfflineToken.outstanding]))
      ((hs.step h).payer_eq_none hfind' hdb.unconsumed) ?_
    rw [h.stranded (by rintro _ ⟨⟩; exact id)]
    exact hkept
  rw [h.shown_update hs rfl hcoin, shown_balance hdb.shift, ← ho, ← hv]
  refine .expire (coin_outstanding hdb.find hrow) (shown_balance_ne_none ?_)
  rw [ho]
  exact hdb.account

/-- What a `LEDGER_COMMIT` adds to the available balances is a payment. -/
theorem payment_eq (o : Order) : TokenBank.payment o.payload.senderID o.token.value.toInt
    o.payload.receiverID o.payload.amount.toInt = o.dAvailable := rfl

theorem Step.shown_ledgerCommit (hs : b.Sound) {i : ℕ} {o : Order} {now : Time} {before : Progress}
    (h : Step b (some (.ledgerCommit i o)) b') (hbefore : b.progress i = some before)
    (horder : before.order = o) (hex : before.executed = 2) (hdb : Committed o now b.db b'.db) :
    TokenBank.Step b.shown
      (.pay o.payload.tokenID o.payload.receiverID o.payload.amount.toInt) b'.shown := by
  obtain ⟨row, hfind, htrans, hset⟩ := hdb.offlineTokens
  obtain ⟨row', hfind₁, -, hv, ho⟩ := hs.tokens.orders i before hbefore
  rw [Progress.tokenID, horder] at hfind₁
  obtain rfl : row = row' := Option.some.inj (hfind.symm.trans hfind₁)
  rw [horder] at hv ho
  have hfind' : b'.db.offlineTokens.find? o.payload.tokenID
      = some { row with consumed := true, consumedAt := some now, status := .consumed } :=
    find?_of_set hfind hset rfl
  have hpayer : b'.payer o.payload.tokenID = some (i, o) := by
    rw [(hs.step h).payer_iff, h.history]
    simp [History.track]
  have hcoin : b'.coin o.payload.tokenID = some o.coin :=
    coin_paid hfind' (fun hu => absurd hu.2 (by simp)) hpayer
  -- only a token on hold can be consumed
  have hrow : row.Usable := by
    cases hs.tokens.state _ _ hfind with
    | held _ _ _ hst hc => exact ⟨by simp [OfflineToken.outstanding, hst], hc⟩
    | spent hsp => simp [hsp.2.2.1, isValidTokenTransition, TokenStatus.transitions] at htrans
    | issued _ hst => simp [hst, isValidTokenTransition, TokenStatus.transitions] at htrans
    | consumed j pr _ _ _ _ hpr htok hex' =>
      have htok' : pr.tokenID = before.tokenID := by
        rw [htok, Table.key_of_find? hfind, Progress.tokenID, horder]
      obtain rfl := hs.tokens.unique j i pr before hpr hbefore htok' (by omega) (by omega)
      obtain rfl := Option.some.inj (hpr.symm.trans hbefore)
      omega
    | released _ hst => simp [hst, isValidTokenTransition, TokenStatus.transitions] at htrans
    | stranded _ hst => simp [hst, isValidTokenTransition, TokenStatus.transitions] at htrans
  rw [h.shown_update hs rfl hcoin, shown_balance hdb.shift, ← payment_eq, Order.coin, ← o.owner_eq,
    ← ho, ← hv]
  refine .pay (coin_outstanding hfind hrow) (Checked.toInt_pos hdb.amount_pos) ?_ ?_ ?_
  · rw [hv]
    exact Checked.toInt_le o.covered
  · rw [ho, o.owner_eq]
    exact shown_balance_ne_none hdb.sender
  · exact shown_balance_ne_none hdb.receiver

/-- A compensation of `CONSUME_TOKEN` that finds the token on hold. -/
theorem Step.shown_unhold (hs : b.Sound) {i : ℕ} {o : Order} {now : Time} 
    (h : Step b (some (.phase i o (.compensation 1))) b')
    (hfind : b.db.offlineTokens.find? o.payload.tokenID = some row) (hst : row.status = .held)
    (hset : b'.db.offlineTokens
      = b.db.offlineTokens.set { row with status := .invalidated, releasedAt := some now })
    (hdb : b'.db.accountBalances = b.db.accountBalances) :
    TokenBank.Step b.shown (.forfeit o.payload.tokenID) b'.shown := by
  have hc : row.consumed = false := by
    cases hs.tokens.state _ _ hfind with
    | held _ _ _ _ hc => exact hc
    | spent hsp => exact absurd (hsp.2.2.1.symm.trans hst) (by simp)
    | issued _ hst' => exact absurd (hst'.symm.trans hst) (by simp)
    | consumed _ _ _ hst' => exact absurd (hst'.symm.trans hst) (by simp)
    | released _ hst' => exact absurd (hst'.symm.trans hst) (by simp)
    | stranded _ hst' => exact absurd (hst'.symm.trans hst) (by simp)
  have hfind' : b'.db.offlineTokens.find? o.payload.tokenID
      = some { row with status := .invalidated, releasedAt := some now } :=
    find?_of_set hfind hset rfl
  have hu : ¬OfflineToken.Usable { row with status := .invalidated, releasedAt := some now } :=
    fun hu => absurd hu.1 (by simp [OfflineToken.outstanding])
  have hstranded : History.Stranded o.payload.tokenID b'.history := by
    rw [h.history]
    simp [Commit.Strands, hfind, hst]
  have hcoin := coin_lost hfind' hu ((hs.step h).payer_eq_none hfind' hc) hstranded
  have hbalance : b'.shown.balance = b.shown.balance := by simp only [shown, hdb]
  rw [h.shown_update hs rfl hcoin, hbalance]
  have hcoin₀ := coin_outstanding hfind ⟨by simp [OfflineToken.outstanding, hst], hc⟩
  exact .forfeit hcoin₀

theorem Step.shown_ledgerUndo (hs : b.Sound) {i : ℕ} {o : Order} {before after : Progress}
    (h : Step b (some (.ledgerUndo i o)) b') (hbefore : b.progress i = some before)
    (horder : before.order = o) (hst : before.standing = 3)
    (hprogress : b'.progress = Function.update b.progress i (some after))
    (hord : after.order = before.order) (hst' : after.standing = 2)
    (hex : after.executed = before.executed) (hdb : Undone o b.db b'.db) :
    TokenBank.Step b.shown (.revert o.payload.tokenID) b'.shown := by
  have hle := (hs.counters i before hbefore).standing_le
  obtain ⟨row, hfind, -, hv, ho⟩ := hs.tokens.orders i before hbefore
  rw [Progress.tokenID, horder] at hfind
  rw [horder] at hv ho
  have hpayer : b.payer o.payload.tokenID = some (i, o) := by
    rw [hs.payer_iff, hs.live.mem_iff]
    exact ⟨⟨before, hbefore, horder, by rw [Progress.settled, hst]; decide⟩, rfl⟩
  have hrow : ¬row.Usable := fun hu => by simp [hs.payer_eq_none hfind hu.2] at hpayer
  have hpayer' : b'.payer o.payload.tokenID = none := by
    refine (hs.step h).payer_eq_none_of_unsettled (progress_self hprogress) ?_ (by omega) ?_
    · rw [Progress.tokenID, hord, horder]
    · simp [Progress.settled, hst']
  have hfind' : b'.db.offlineTokens.find? o.payload.tokenID = some row := by
    rw [hdb.offlineTokens, hfind]
  have hcoin : b'.coin o.payload.tokenID = some (.lost row.ownerID row.value.toInt) := by
    refine coin_lost hfind' hrow hpayer' ?_
    rw [h.history]
    simp [Commit.Strands]
  have hbalance := shown_balance hdb.shift
  rw [h.shown_update hs rfl hcoin, hbalance, ← payment_eq, ho, hv, o.owner_eq]
  refine .revert (coin_paid hfind hrow hpayer) fun y n hn => ?_
  rw [payment_eq, ← hbalance] at hn
  exact shown_balance_nonneg hn

/-- A saga transaction that moves no balance and leaves the token as usable as it was. -/
theorem Step.shown_phase (hs : b.Sound) {i : ℕ} {o : Order} {p : Saga.Phase}
    (h : Step b (some (.phase i o p)) b') (hp : p ≠ .action 2) (hp' : p ≠ .compensation 2)
    (hdb : b'.db.accountBalances = b.db.accountBalances)
    (hrow : (b'.db.offlineTokens.find? o.payload.tokenID).map
        (fun r => (r.ownerID, r.value, decide r.Usable))
      = (b.db.offlineTokens.find? o.payload.tokenID).map
        fun r => (r.ownerID, r.value, decide r.Usable))
    (hn : ¬Commit.Strands o.payload.tokenID ⟨.phase i o p, b.db, b'.db⟩) :
    b'.shown = b.shown := by
  have hcoins : b'.coin = b.coin := by
    funext k
    by_cases hk : o.payload.tokenID = k
    · subst hk
      refine coin_congr hrow (h.payer hs ?_ ?_) (h.stranded (by rintro _ ⟨⟩; exact hn))
      · rintro j o' heq
        simp only [Option.some.injEq, Txn.phase.injEq] at heq
        exact absurd heq.2.2 hp
      · rintro j o' heq
        simp only [Option.some.injEq, Txn.phase.injEq] at heq
        exact absurd heq.2.2 hp'
    · refine h.coin_other hs ?_
      rintro _ ⟨⟩
      simpa [Txn.tokenID?] using hk
  simp only [shown, hdb, hcoins]

theorem plain_op {t : Txn} (h : t.plain = true) (db db' : DB) :
    t.tokenID? = none ∧ Commit.op? ⟨t, db, db'⟩ = none := by
  cases t <;> first | exact ⟨rfl, rfl⟩ | simp [Txn.plain] at h

/-- What a move of the system is for the abstract bank. -/
def Follows (a a' : TokenBank String String) : Option (TokenBank.Op String String) → Prop
  | none => a' = a
  | some op => TokenBank.Step a op a'

/-- Every committed transaction is an operation of the abstract bank, or it changes nothing there. -/
theorem Step.shown (hs : b.Sound) (h : Step b txn b') :
    Follows b.shown b'.shown (txn.bind fun t => Commit.op? ⟨t, b.db, b'.db⟩) := by
  have hsame : b'.db.accountBalances = b.db.accountBalances →
      (∀ k, ∀ t ∈ txn, t.tokenID? ≠ some k) → b'.shown = b.shown := by
    intro hdb hnone
    have hcoins : b'.coin = b.coin := funext fun k => h.coin_other hs (hnone k)
    simp only [Bank.shown, hdb, hcoins]
  cases h.effect with
  | quiet hplain hdb =>
    have hnone : txn.bind (fun t => Commit.op? ⟨t, b.db, b'.db⟩) = none :=
      Option.bind_eq_none_iff.mpr fun t ht => (plain_op (hplain t ht) _ _).2
    rw [hnone]
    refine hsame hdb.accountBalances fun k t ht => ?_
    rw [(plain_op (hplain t ht) b.db b'.db).1]
    simp
  | begin hnew hdb => exact hsame (by rw [hdb]) (by simp)
  | createAccount row hnew hreserved hdb => exact h.shown_createAccount hs hnew (by rw [hdb])
  | issueToken hdb => exact h.shown_issueToken hs hdb
  | release htok hdb => exact h.shown_release hs htok hdb
  | @phase i o p input before after hbefore horder hadv hdb hprogress =>
    cases hdb with
    | reserve hh =>
      exact h.shown_phase hs (by decide) (by decide) hh.accountBalances (by rw [hh.offlineTokens]) id
    | publish hh =>
      exact h.shown_phase hs (by decide) (by decide) hh.accountBalances (by rw [hh.offlineTokens]) id
    | unreserve hh =>
      exact h.shown_phase hs (by decide) (by decide) hh.accountBalances (by rw [hh.offlineTokens]) id
    | hold hh =>
      obtain ⟨row, hfind, hst, hset⟩ := hh.offlineTokens
      refine h.shown_phase hs (by decide) (by decide) hh.accountBalances ?_ id
      rw [find?_of_set hfind hset rfl, hfind]
      simp [OfflineToken.Usable, OfflineToken.outstanding, hst]
    | commitLedger hh => exact h.shown_ledgerCommit hs hbefore horder hadv.2.1 hh
    | unhold hh =>
      rcases hh.offlineTokens with ⟨row, hfind, hst, hset⟩ | ⟨hnot, hset⟩
      · have hop : Commit.op? ⟨.phase i o (.compensation 1), b.db, b'.db⟩
            = some (.forfeit o.payload.tokenID) := by simp [Commit.op?, hfind, hst]
        rw [Option.bind_some, hop]
        exact h.shown_unhold hs hfind hst hset hh.accountBalances
      · have hne : (b.db.offlineTokens.find? o.payload.tokenID).map OfflineToken.status
            ≠ some .held := by
          intro hmap
          obtain ⟨row, hfind, hst⟩ := Option.map_eq_some_iff.mp hmap
          exact hnot row hfind hst
        have hop : Commit.op? ⟨.phase i o (.compensation 1), b.db, b'.db⟩ = none := if_neg hne
        rw [Option.bind_some, hop]
        exact h.shown_phase hs (by decide) (by decide) hh.accountBalances (by rw [hset])
          fun hstr => hne hstr.2
    | undoLedger hh =>
      exact h.shown_ledgerUndo hs hbefore horder hadv.2.1 hprogress hadv.1 hadv.2.2.1 hadv.2.2.2
        (hs.counters.undone hbefore horder hadv.2.1 hh)

/-! ## Reserved balances -/

/-- What the tokens say is set aside for an account. -/
noncomputable def held (b : Bank) (x : String) : ℤ :=
  b.db.offlineTokens.sum fun row => ((b.coin row.tokenID).map (Coin.held x)).getD 0

/-- Every reserved balance is what the tokens say is set aside. -/
theorem Backed.held_eq (hs : b.Sound) (hb : b.Backed) (x : String) : b.db.reserved x = b.held x := by
  rw [hb x, held]
  refine Table.sum_congr fun row hmem => ?_
  have hfind := Table.find?_of_mem hmem
  have hstate := hs.tokens.state _ row hfind
  have hlost : ¬row.Usable → b.payer row.tokenID = none →
      History.Stranded row.tokenID b.history → History.out row.tokenID b.history = 0 →
      backing b.history x row = ((b.coin row.tokenID).map (Coin.held x)).getD 0 := by
    intro hu hp hst hout
    rw [coin_lost hfind hu hp hst]
    simp [backing, Coin.held, hout]
  have husable : row.Usable → History.out row.tokenID b.history = 0 →
      backing b.history x row = ((b.coin row.tokenID).map (Coin.held x)).getD 0 := by
    intro hu hout
    rw [coin_outstanding hfind hu]
    simp [backing, Coin.held, hout]
  cases hstate with
  | spent hsp hnone ht =>
    have hp : b.payer row.tokenID = none := by
      refine Option.eq_none_iff_forall_ne_some.mpr fun y hy => ?_
      obtain ⟨pr, hpr, -, htok, -⟩ := hs.payer_saga hy
      exact hnone _ pr hpr htok
    rw [coin_closed hfind (fun hu => absurd (hsp.1.symm.trans hu.2) (by simp)) hp ht.stranded.mp]
    simp [backing, Coin.held, hsp.2.1]
  | issued _ hst hc _ _ ht => exact husable ⟨by simp [OfflineToken.outstanding, hst], hc⟩ ht.out
  | held _ _ _ hst hc _ _ _ _ _ ht =>
    exact husable ⟨by simp [OfflineToken.outstanding, hst], hc⟩ ht.out
  | consumed i pr _ hst hc _ hpr htok hex ht =>
    have hu : ¬row.Usable := fun hu => absurd (hc.symm.trans hu.2) (by simp)
    by_cases hset : pr.settled
    · have hp : b.payer row.tokenID = some (i, pr.order) :=
        hs.payer_iff.mpr ⟨(hs.live.mem_iff _ _).mpr ⟨pr, hpr, rfl, hset⟩, htok⟩
      -- the row still has the owner and the value that the order was checked against
      obtain ⟨row', hrow', -, hv, ho⟩ := hs.tokens.orders i pr hpr
      rw [htok] at hrow'
      obtain rfl := Option.some.inj (hfind.symm.trans hrow')
      rw [coin_paid hfind hu hp, backing, ht.out, hv, ho, pr.order.owner_eq]
      by_cases hself : pr.order.self
      · have heq : pr.order.payload.senderID = pr.order.payload.receiverID := hself
        simp [hset, hself, Coin.held, Order.coin, heq]
      · have hne : pr.order.payload.senderID ≠ pr.order.payload.receiverID := hself
        simp [hset, hself, Coin.held, Order.coin, hne]
    · exact hlost hu (hs.payer_eq_none_of_unsettled hpr htok (by omega) hset)
        (ht.stranded.mpr (.inr hset)) (by simpa [hset] using ht.out)
  | released _ hst hc _ _ ht =>
    rw [coin_closed hfind (fun hu => by simp [OfflineToken.Usable, OfflineToken.outstanding, hst] at hu)
      (hs.payer_eq_none hfind hc) ht.stranded.mp]
    simp [backing, Coin.held, ht.out]
  | stranded _ hst hc _ _ ht =>
    exact hlost (fun hu => by simp [OfflineToken.Usable, OfflineToken.outstanding, hst] at hu)
      (hs.payer_eq_none hfind hc) (ht.stranded.mpr trivial) ht.out

end Bank

end OfflinePay
