import OfflinePay.System.Tokens

/-!
# Who owns a payment intent

A saga creates its payment intent in `RESERVE` and looks it up by transaction id ever after. The row
is gone once `LEDGER_COMMIT` has been compensated, but `RESERVE` is still to be compensated then,
and that deletes whatever reserved row stands under the id by now. `OwnRow` is the condition that it
finds none. In runs that keep it, `Owners` holds: no two sagas share a row, and no saga shares one
with the reservation of a token.
-/

namespace OfflinePay

open Settlement

/-- The transaction id an order settles under. -/
abbrev Progress.txnID (pr : Progress) : String := pr.order.payload.txnID

/-- The saga has created its payment intent and nothing it did since has removed it. -/
def Progress.owns (pr : Progress) : Prop := 0 < pr.standing ∧ (pr.executed ≤ 2 ∨ 2 < pr.standing)

theorem Progress.settled.reserved {pr : Progress} (h : pr.settled) : pr.reserved :=
  lt_trans (by decide) h

theorem Progress.settled.owns {pr : Progress} (h : pr.settled) : pr.owns :=
  ⟨lt_trans (by decide) h, .inr h⟩

namespace Bank

/-- If the transaction is the compensation of a `RESERVE`, and the `LEDGER_COMMIT` of the same saga
had committed, then no reserved payment intent stands under its transaction id. -/
def OwnRow (b : Bank) (txn : Option Txn) : Prop :=
  ∀ x ∈ txn.bind Txn.reserveUndo?, (∀ pr ∈ b.progress x.1, pr.executed ≤ 2) ∨
    (b.db.paymentIntents.find? x.2.payload.txnID).map PaymentIntent.status ≠ some .reserved

instance (b : Bank) (txn : Option Txn) : Decidable (b.OwnRow txn) :=
  inferInstanceAs (Decidable (∀ x ∈ txn.bind Txn.reserveUndo?, _ ∨ _))

/-- Every payment intent has one owner. -/
structure Owners (b : Bank) : Prop where
  row : ∀ i pr, b.progress i = some pr → pr.owns → b.db.paymentIntents.find? pr.txnID ≠ none
  unique : ∀ i j pr pr', b.progress i = some pr → b.progress j = some pr' → pr.owns → pr'.owns →
    pr.txnID = pr'.txnID → i = j
  placeholder : ∀ tokenID tok, b.db.offlineTokens.find? tokenID = some tok → 0 < tok.value →
    b.db.paymentIntents.find? (reservationTxnID tokenID) ≠ none ∧
      ∀ i pr, b.progress i = some pr → pr.owns → pr.txnID ≠ reservationTxnID tokenID

variable {b b' : Bank} {txn : Option Txn}

/-! ## What a move does to the payment intents -/

/-- They stay, one is inserted, `LEDGER_COMMIT` settles one, or a compensation deletes one. -/
inductive IntentsMoved (b b' : Bank) : Option Txn → Prop where
  | calm {txn : Option Txn} (hsettled : ∀ txnID row, b'.db.paymentIntents.find? txnID = some row →
        row.status = .settled → b.db.paymentIntents.find? txnID = some row)
      (hrows : ∀ txnID row, txn ≠ some (.expire txnID) →
        b.db.paymentIntents.find? txnID = some row → b'.db.paymentIntents.find? txnID = some row) :
      IntentsMoved b b' txn
  | inserted {txn : Option Txn} (new : PaymentIntent)
      (hfree : b.db.paymentIntents.find? new.txnID = none) (hreserved : new.status = .reserved)
      (hintents : b'.db.paymentIntents = b.db.paymentIntents.insert new) : IntentsMoved b b' txn
  | settled {i : ℕ} {now : Time} (before after : Progress) (hbefore : b.progress i = some before)
      (hafter : b'.progress i = some after) (hadv : Progress.Advances before after (.action 2))
      (hcommitted : Committed before.order now b.db b'.db) :
      IntentsMoved b b' (some (.ledgerCommit i before.order))
  | undone {i : ℕ} (before after : Progress) (hbefore : b.progress i = some before)
      (hafter : b'.progress i = some after)
      (hadv : Progress.Advances before after (.compensation 2))
      (hintents : b'.db.paymentIntents = b.db.paymentIntents.erase before.txnID) :
      IntentsMoved b b' (some (.ledgerUndo i before.order))
  | unreserved {txn : Option Txn} (row : PaymentIntent)
      (hrow : b.db.paymentIntents.find? row.txnID = some row) (hreserved : row.status = .reserved)
      (hintents : b'.db.paymentIntents = b.db.paymentIntents.erase row.txnID) :
      IntentsMoved b b' txn

theorem IntentsMoved.of_eq (h : b'.db.paymentIntents = b.db.paymentIntents) :
    IntentsMoved b b' txn :=
  .calm (fun _ _ hrow _ => h ▸ hrow) fun _ _ _ hrow => h.symm ▸ hrow

theorem Step.intents (hc : b.Counters) (h : Step b txn b') : IntentsMoved b b' txn := by
  cases h.effect with
  | quiet hplain hdb hnone hprogress hrows => exact .calm hdb.settled hrows
  | begin hnew hdb hprogress htoken => exact .of_eq (by rw [hdb])
  | createAccount row hnew hreserved hdb hprogress => exact .of_eq (by rw [hdb])
  | issueToken hdb hprogress =>
    obtain ⟨new, hid, hreserved, hfree, hins⟩ := hdb.paymentIntents
    exact .inserted new (hid ▸ hfree) hreserved hins
  | release htok hdb hprogress => exact .of_eq hdb.paymentIntents
  | phase before after hbefore horder hadv hdb hprogress =>
    subst horder
    cases hdb with
    | reserve hh =>
      obtain ⟨new, hid, hreserved, hins⟩ := hh.paymentIntents
      exact .inserted new (hid ▸ hh.free) hreserved hins
    | hold hh => exact .of_eq hh.paymentIntents
    | publish hh => exact .of_eq hh.paymentIntents
    | unhold hh => exact .of_eq hh.paymentIntents
    | commitLedger hh =>
      exact .settled before after hbefore (progress_self hprogress) hadv hh
    | undoLedger hh =>
      exact .undone before after hbefore (progress_self hprogress) hadv
        (hc.undone hbefore rfl hadv.2.1 hh).paymentIntents
    | unreserve hh =>
      obtain ⟨row, hrow, hreserved, -, hdel⟩ | ⟨-, hsame⟩ := hh.paymentIntents
      · have hkey : row.txnID = before.order.payload.txnID := Table.key_of_find? hrow
        exact .unreserved row (hkey ▸ hrow) hreserved (hkey ▸ hdel)
      · exact .of_eq hsame

/-! ## Ownership -/

/-- A step that adds no owner and keeps the rows of those that stay. -/
theorem Owners.shrink (ho : b.Owners)
    (hown : ∀ i pr, b'.progress i = some pr → pr.owns →
      ∃ pr₀, b.progress i = some pr₀ ∧ pr₀.order = pr.order ∧ pr₀.owns)
    (htok : ∀ tokenID tok, b'.db.offlineTokens.find? tokenID = some tok → 0 < tok.value →
      ∃ tok₀, b.db.offlineTokens.find? tokenID = some tok₀ ∧ 0 < tok₀.value)
    (hkept : ∀ txnID, b.db.paymentIntents.find? txnID ≠ none →
      (∃ i pr, b'.progress i = some pr ∧ pr.owns ∧ pr.txnID = txnID) ∨
        (∃ tokenID tok, b.db.offlineTokens.find? tokenID = some tok ∧ 0 < tok.value ∧
          txnID = reservationTxnID tokenID) →
      b'.db.paymentIntents.find? txnID ≠ none) : b'.Owners := by
  have horder : ∀ {pr₀ pr : Progress}, pr₀.order = pr.order → pr₀.txnID = pr.txnID := by
    rintro pr₀ pr h
    rw [Progress.txnID, h]
  constructor
  · intro i pr hpr hown'
    obtain ⟨pr₀, hpr₀, ho₀, hown₀⟩ := hown i pr hpr hown'
    exact hkept _ (horder ho₀ ▸ ho.row i pr₀ hpr₀ hown₀) (.inl ⟨i, pr, hpr, hown', rfl⟩)
  · intro i j pr pr' hpr hpr' hown₁ hown₂ heq
    obtain ⟨pr₀, hpr₀, ho₀, hown₀⟩ := hown i pr hpr hown₁
    obtain ⟨pr₁, hpr₁, ho₁, hown₁'⟩ := hown j pr' hpr' hown₂
    exact ho.unique i j pr₀ pr₁ hpr₀ hpr₁ hown₀ hown₁' (by rw [horder ho₀, horder ho₁, heq])
  · intro tokenID tok hfind hv
    obtain ⟨tok₀, hfind₀, hv₀⟩ := htok tokenID tok hfind hv
    obtain ⟨hrow, hne⟩ := ho.placeholder tokenID tok₀ hfind₀ hv₀
    refine ⟨hkept _ hrow (.inr ⟨tokenID, tok₀, hfind₀, hv₀, rfl⟩), fun i pr hpr hown' => ?_⟩
    obtain ⟨pr₀, hpr₀, ho₀, hown₀⟩ := hown i pr hpr hown'
    rw [← horder ho₀]
    exact hne i pr₀ hpr₀ hown₀

/-- Overwriting a token row with one of the same value adds no valued token. -/
theorem valued_of_set {row row₁ : OfflineToken} {k : String}
    (hset : b'.db.offlineTokens = b.db.offlineTokens.set row₁)
    (hrow : b.db.offlineTokens.find? k = some row) (hsame : SameToken row row₁) (tokenID : String)
    (tok : OfflineToken)
    (hfind : b'.db.offlineTokens.find? tokenID = some tok) (hv : 0 < tok.value) :
    ∃ tok₀, b.db.offlineTokens.find? tokenID = some tok₀ ∧ 0 < tok₀.value := by
  rw [hset, find?_set_of_find? hrow (hsame.1.trans (Table.key_of_find? hrow))] at hfind
  split at hfind
  · next hk =>
    obtain rfl := Option.some.inj hfind
    exact ⟨row, hk ▸ hrow, hsame.2.1 ▸ hv⟩
  · exact ⟨tok, hfind, hv⟩

theorem valued_of_eq (h : b'.db.offlineTokens = b.db.offlineTokens) (tokenID : String)
    (tok : OfflineToken) (hfind : b'.db.offlineTokens.find? tokenID = some tok)
    (hv : 0 < tok.value) : ∃ tok₀, b.db.offlineTokens.find? tokenID = some tok₀ ∧ 0 < tok₀.value :=
  ⟨tok, h ▸ hfind, hv⟩

/-- `RESERVE` makes the saga the owner of a row that nobody had. -/
theorem Owners.reserve (ho : b.Owners) {i : ℕ} {o : Order} {after : Progress}
    (hres : Reserved o b.db b'.db) (hafter : after.order = o)
    (hprogress : b'.progress = Function.update b.progress i (some after)) : b'.Owners := by
  obtain ⟨row, hrow, -, hins⟩ := hres.paymentIntents
  have hfree : b.db.paymentIntents.find? row.txnID = none := by rw [hrow]; exact hres.free
  have hfind : ∀ txnID, b'.db.paymentIntents.find? txnID
      = if o.payload.txnID = txnID then some row else b.db.paymentIntents.find? txnID := by
    intro txnID
    rw [hins, Table.find?_insert hfree, hrow]
  have hkept : ∀ txnID, b.db.paymentIntents.find? txnID ≠ none →
      b'.db.paymentIntents.find? txnID ≠ none := by
    intro txnID h
    rw [hfind]
    split <;> simp [h]
  have htxn : after.txnID = o.payload.txnID := by rw [Progress.txnID, hafter]
  have hother : ∀ j pr, b.progress j = some pr → pr.owns → pr.txnID ≠ after.txnID := by
    intro j pr hj hown heq
    exact ho.row j pr hj hown (by rw [heq, htxn, hres.free])
  constructor
  · intro j pr hj hown
    rcases progress_cases hprogress hj with ⟨rfl, rfl⟩ | ⟨-, hj⟩
    · rw [htxn, hfind, if_pos rfl]
      simp
    · exact hkept _ (ho.row j pr hj hown)
  · intro j k pr pr' hj hk hown hown' heq
    rcases progress_cases hprogress hj with ⟨rfl, rfl⟩ | ⟨-, hj⟩ <;>
      rcases progress_cases hprogress hk with ⟨rfl, rfl⟩ | ⟨-, hk⟩
    · rfl
    · exact absurd heq.symm (hother k pr' hk hown')
    · exact absurd heq (hother j pr hj hown)
    · exact ho.unique j k pr pr' hj hk hown hown' heq
  · intro tokenID tok htok hv
    rw [hres.offlineTokens] at htok
    obtain ⟨hph, hne⟩ := ho.placeholder tokenID tok htok hv
    refine ⟨hkept _ hph, fun j pr hj hown => ?_⟩
    rcases progress_cases hprogress hj with ⟨rfl, rfl⟩ | ⟨-, hj⟩
    · rw [htxn]
      rintro heq
      exact hph (by rw [← heq, hres.free])
    · exact hne j pr hj hown

/-- A new token brings its placeholder row. -/
theorem Owners.issue (ho : b.Owners) {tok : OfflineToken} (hdb : Token.Issued b.db b'.db tok)
    (hprogress : b'.progress = b.progress) : b'.Owners := by
  obtain ⟨row, hrow, -, hfree, hins⟩ := hdb.paymentIntents
  have hfind : ∀ txnID, b'.db.paymentIntents.find? txnID = if reservationTxnID tok.tokenID = txnID
      then some row else b.db.paymentIntents.find? txnID := by
    intro txnID
    rw [hins, Table.find?_insert (by rw [hrow]; exact hfree), hrow]
  have hkept : ∀ txnID, b.db.paymentIntents.find? txnID ≠ none →
      b'.db.paymentIntents.find? txnID ≠ none := by
    intro txnID h
    rw [hfind]
    split <;> simp [h]
  constructor
  · intro j pr hj hown
    exact hkept _ (ho.row j pr (hprogress ▸ hj) hown)
  · rw [hprogress]
    exact ho.unique
  · intro tokenID tok' htok' hv
    rw [hdb.offlineTokens, Table.find?_insert hdb.fresh] at htok'
    rw [hprogress]
    split at htok'
    · next hk =>
      subst hk
      refine ⟨by simp [hfind], fun j pr hj hown heq => ?_⟩
      exact ho.row j pr hj hown (by rw [heq]; exact hfree)
    · obtain ⟨hph, hne⟩ := ho.placeholder tokenID tok' htok' hv
      exact ⟨hkept _ hph, hne⟩

/-- Ownership is kept by every move that keeps `OwnRow`. -/
theorem Owners.step (hc : b.Counters) (ho : b.Owners) (hown : b.OwnRow txn) (h : Step b txn b') :
    b'.Owners := by
  have hsame : b'.progress = b.progress → ∀ i pr, b'.progress i = some pr → pr.owns →
      ∃ pr₀, b.progress i = some pr₀ ∧ pr₀.order = pr.order ∧ pr₀.owns :=
    fun hprogress i pr hpr hr => ⟨pr, hprogress ▸ hpr, rfl, hr⟩
  cases h.effect with
  | quiet hplain hdb hnone hprogress =>
    exact ho.shrink (hsame hprogress) (valued_of_eq hdb.offlineTokens) fun t ht _ => hdb.kept t ht
  | begin hnew hdb hprogress htoken =>
    refine ho.shrink (fun j pr hj hr => ?_) (valued_of_eq (by rw [hdb])) fun t ht _ => by rwa [hdb]
    rcases progress_cases hprogress hj with ⟨rfl, rfl⟩ | ⟨-, hj⟩
    · exact absurd hr.1 (lt_irrefl 0)
    · exact ⟨pr, hj, rfl, hr⟩
  | createAccount row hnew hreserved hdb hprogress =>
    exact ho.shrink (hsame hprogress) (valued_of_eq (by rw [hdb])) fun t ht _ => by rwa [hdb]
  | issueToken hdb hprogress => exact ho.issue hdb hprogress
  | release htok hdb hprogress =>
    refine ho.shrink (hsame hprogress)
      (valued_of_set hdb.offlineTokens hdb.find ⟨rfl, rfl, rfl⟩) fun t ht _ => ?_
    rwa [hdb.paymentIntents]
  | @phase i o p input before after hbefore horder hadv hdb hprogress =>
    obtain ⟨hord, hadv⟩ := hadv
    have hwf := (hc i before hbefore).standing_le
    have hstay : (after.owns → before.owns) → ∀ j pr, b'.progress j = some pr → pr.owns →
        ∃ pr₀, b.progress j = some pr₀ ∧ pr₀.order = pr.order ∧ pr₀.owns := by
      intro himp j pr hj hr
      rcases progress_cases hprogress hj with ⟨rfl, rfl⟩ | ⟨-, hj⟩
      · exact ⟨before, hbefore, hord.symm, himp hr⟩
      · exact ⟨pr, hj, rfl, hr⟩
    -- deleting the row of a saga that owned it and owns it no longer
    have herase : before.owns → ¬after.owns → b'.db.offlineTokens = b.db.offlineTokens →
        (∀ t, t ≠ before.txnID → b'.db.paymentIntents.find? t = b.db.paymentIntents.find? t) →
        b'.Owners := by
      intro hbo hao htok hfind
      refine ho.shrink (hstay fun hr => absurd hr hao) (valued_of_eq htok) fun t ht hused => ?_
      rw [hfind]
      · exact ht
      rintro rfl
      rcases hused with ⟨j, pr, hj, hr, htxn⟩ | ⟨tokenID, tok, hfind', hv, htxn⟩
      · rcases progress_cases hprogress hj with ⟨rfl, rfl⟩ | ⟨hji, hj⟩
        · exact hao hr
        · exact hji (ho.unique j i pr before hj hbefore hr hbo htxn)
      · exact (ho.placeholder tokenID tok hfind' hv).2 i before hbefore hbo htxn
    cases hdb with
    | reserve hres => exact ho.reserve hres (hord.trans horder) hprogress
    | hold hh =>
      obtain ⟨h₁, h₂, h₃, h₄⟩ := hadv
      obtain ⟨row, hrow, -, hset⟩ := hh.offlineTokens
      refine ho.shrink (hstay fun _ => ⟨by omega, by omega⟩)
        (valued_of_set hset hrow ⟨rfl, rfl, rfl⟩) fun t ht _ => ?_
      rwa [hh.paymentIntents]
    | commitLedger hh =>
      obtain ⟨h₁, h₂, h₃, h₄⟩ := hadv
      obtain ⟨row, hrow, -, hset⟩ := hh.offlineTokens
      obtain ⟨intent, -, hint⟩ := hh.paymentIntents
      refine ho.shrink (hstay fun _ => ⟨by omega, by omega⟩)
        (valued_of_set hset hrow ⟨rfl, rfl, rfl⟩) fun t ht _ => ?_
      rw [hint, Table.find?_set]
      split <;> simp [ht]
    | publish hh =>
      obtain ⟨h₁, h₂, h₃, h₄⟩ := hadv
      refine ho.shrink (hstay fun _ => ⟨by omega, by omega⟩) (valued_of_eq hh.offlineTokens)
        fun t ht _ => ?_
      rwa [hh.paymentIntents]
    | unhold hh =>
      obtain ⟨h₁, h₂, h₃⟩ := hadv
      have htok : ∀ tokenID tok, b'.db.offlineTokens.find? tokenID = some tok → 0 < tok.value →
          ∃ tok₀, b.db.offlineTokens.find? tokenID = some tok₀ ∧ 0 < tok₀.value := by
        rcases hh.offlineTokens with ⟨row, hrow, -, hset⟩ | ⟨-, hset⟩
        · exact valued_of_set hset hrow ⟨rfl, rfl, rfl⟩
        · exact valued_of_eq hset
      refine ho.shrink (hstay fun hr => ⟨by omega, ?_⟩) htok fun t ht _ => by rwa [hh.paymentIntents]
      have := hr.2
      omega
    | undoLedger hh =>
      obtain ⟨h₁, h₂, h₃⟩ := hadv
      have hundone := hc.undone hbefore horder h₁ hh
      refine herase ⟨by omega, by omega⟩ (fun hr => ?_) hundone.offlineTokens fun t ht => ?_
      · have := hr.2
        omega
      · rw [hundone.paymentIntents, ← horder, Table.find?_erase_ne _ (Ne.symm ht)]
    | unreserve hh =>
      obtain ⟨h₁, h₂, h₃⟩ := hadv
      have hafter : ¬after.owns := fun hr => absurd hr.1 (by omega)
      rcases hh.paymentIntents with ⟨row, hrow, hst, -, hdel⟩ | ⟨-, hsame'⟩
      · rcases hown (i, o) rfl with hle | hne
        · refine herase ⟨by omega, .inl (hle before hbefore)⟩ hafter hh.offlineTokens fun t ht => ?_
          rw [hdel, ← horder, Table.find?_erase_ne _ (Ne.symm ht)]
        · exact absurd (by rw [hrow, Option.map_some, hst]) hne
      · refine ho.shrink (hstay fun hr => absurd hr hafter) (valued_of_eq hh.offlineTokens)
          fun t ht _ => ?_
        rwa [hsame']

/-! ## All runs -/

/-- What holds in every state of every run. -/
structure Sound (b : Bank) : Prop where
  counters : b.Counters
  live : b.Live
  nonces : b.Nonces
  tokens : b.Tokens

theorem Sound.step (hs : b.Sound) (h : Step b txn b') : b'.Sound where
  counters := hs.counters.step h
  live := hs.live.step h
  nonces := hs.nonces.step hs.counters h
  tokens := hs.tokens.step hs.counters h

end Bank

namespace World

variable {E : Externals} {w : World E}

theorem Initial.progress (hi : w.Initial) (i : ℕ) : w.bank.progress i = none := by
  rw [show w.bank.progress = w.progress from rfl, World.progress, hi.calls]
  rfl

theorem Initial.callsWf (hi : w.Initial) : w.CallsWf := by
  intro call hcall
  rw [hi.calls] at hcall
  exact absurd hcall (by simp)

theorem Initial.history_nil (hi : w.Initial) : w.bank.history = [] := hi.history

theorem Initial.tally (hi : w.Initial) (tokenID : String) :
    Tally w.bank.history tokenID 0 0 False := by
  rw [hi.history_nil]
  exact ⟨rfl, rfl, by simp [History.Stranded]⟩

theorem Initial.sound (hi : w.Initial) : w.bank.Sound where
  counters i pr hpr := by simp [hi.progress] at hpr
  live := ⟨fun i o => by simp [hi.history_nil, hi.progress, History.live], by
    simp [hi.history_nil, History.live]⟩
  nonces := ⟨fun i pr hpr => by simp [hi.progress] at hpr,
    fun i j pr pr' hpr => by simp [hi.progress] at hpr⟩
  tokens := {
    orders := fun i pr hpr => by simp [hi.progress] at hpr
    snapshots := fun tok htok => by
      obtain ⟨pass, hpass, -⟩ := htok
      rw [hi.passes] at hpass
      exact absurd hpass (by simp)
    unique := fun i j pr pr' hpr => by simp [hi.progress] at hpr
    state := fun tokenID row hrow => .spent (hi.offlineTokens row (Table.mem_of_find? hrow))
      (fun i pr hpr => by simp [hi.progress] at hpr) (hi.tally _)
    unknown := fun tokenID _ => hi.tally tokenID }

theorem Initial.owners (hi : w.Initial) : w.bank.Owners where
  row i pr hpr := by simp [hi.progress] at hpr
  unique i j pr pr' hpr := by simp [hi.progress] at hpr
  placeholder tokenID tok hfind hv := by
    have hspent := hi.offlineTokens tok (Table.mem_of_find? hfind)
    rw [hspent.2.1] at hv
    exact absurd hv (by decide)

/-- The invariants hold after every run. -/
theorem sound (hi : w.Initial) (ls : List Label) : (w.exec ls).bank.Sound :=
  (bank_invariant (P := fun _ _ => True) (fun _ _ hs _ h => hs.step h) hi.callsWf hi.sound
    (Run.steps_true w ls)).1

/-- Every move of the run keeps `OwnRow`. -/
abbrev OwnRows (w : World E) (ls : List Label) : Prop :=
  Steps (fun w l => w.bank.OwnRow (w.commits l)) w ls

/-- Ownership of intents holds after every run that keeps `OwnRow`. -/
theorem owners (hi : w.Initial) {ls : List Label} (hown : w.OwnRows ls) :
    (w.exec ls).bank.Owners :=
  (bank_invariant (I := fun b => b.Sound ∧ b.Owners)
    (fun _ _ hs hp h => ⟨hs.1.step h, hs.2.step hs.1.counters hp h⟩) hi.callsWf
    ⟨hi.sound, hi.owners⟩ hown).1.2

end World

end OfflinePay
