import OfflinePay.System.Sagas

/-!
# The life of a token

`TokenState` lists the situations a token row can be in, each with what the sagas that hold it have
done and with what the history says about its value. It is an invariant of every run, with any
interleaving and any faults. The three tallies of the history are `Tally`: how many transactions
moved the value out of the reserved balance, how often it is out now, and whether it is stranded.
-/

namespace OfflinePay

open Settlement

/-- The token an order spends. -/
abbrev Progress.tokenID (pr : Progress) : String := pr.order.payload.tokenID

/-- What the history says about a token. -/
structure Tally (h : List Commit) (tokenID : String) (moved : ℕ) (out : ℤ) (stranded : Prop) :
    Prop where
  moved : History.moved tokenID h = moved
  out : History.out tokenID h = out
  stranded : History.Stranded tokenID h ↔ stranded

theorem Tally.append {h : List Commit} {tokenID : String} {m : ℕ} {o : ℤ} {s : Prop}
    (ht : Tally h tokenID m o s) (c : Commit) :
    Tally (h ++ [c]) tokenID (m + if c.txn.movesOut tokenID then 1 else 0) (o + c.txn.out tokenID)
      (s ∨ c.Strands tokenID) :=
  ⟨by rw [History.moved_append, ht.moved], by rw [History.out_append, ht.out],
    by rw [History.stranded_append, ht.stranded]⟩

/-- Two rows of one token: what never changes about it. -/
def SameToken (row row' : OfflineToken) : Prop :=
  row'.tokenID = row.tokenID ∧ row'.value = row.value ∧ row'.ownerID = row.ownerID

namespace Bank

/-- The situations of a token row. -/
inductive TokenState (b : Bank) (row : OfflineToken) : Prop where
  /-- A row that stands for no money; no order names it. -/
  | spent (hrow : World.Spent row)
      (hnone : ∀ i pr, b.progress i = some pr → pr.tokenID ≠ row.tokenID)
      (htally : Tally b.history row.tokenID 0 0 False)
  | issued (hvalue : 0 < row.value) (hstatus : row.status = .issued)
      (hconsumed : row.consumed = false) (hreleased : row.releasedAt = none)
      (hnone : ∀ i pr, b.progress i = some pr → pr.tokenID = row.tokenID → pr.executed ≤ 1)
      (htally : Tally b.history row.tokenID 0 0 False)
  | held (i : ℕ) (pr : Progress) (hvalue : 0 < row.value) (hstatus : row.status = .held)
      (hconsumed : row.consumed = false) (hreleased : row.releasedAt = none)
      (hpr : b.progress i = some pr) (htoken : pr.tokenID = row.tokenID) (hex : pr.executed = 2)
      (hst : pr.standing = 2) (htally : Tally b.history row.tokenID 0 0 False)
  /-- Consumed by a `LEDGER_COMMIT`; the value is back in the reserved balance, and stranded there,
  if the payment went to the sender or has been compensated. -/
  | consumed (i : ℕ) (pr : Progress) (hvalue : 0 < row.value) (hstatus : row.status = .consumed)
      (hconsumed : row.consumed = true) (hreleased : row.releasedAt = none)
      (hpr : b.progress i = some pr) (htoken : pr.tokenID = row.tokenID) (hex : 2 < pr.executed)
      (htally : Tally b.history row.tokenID 1 (if pr.order.self ∨ ¬pr.settled then 0 else 1)
        (pr.order.self ∨ ¬pr.settled))
  | released (hvalue : 0 < row.value) (hstatus : row.status = .invalidated)
      (hconsumed : row.consumed = false) (hreleased : row.releasedAt ≠ none)
      (hnone : ∀ i pr, b.progress i = some pr → pr.tokenID = row.tokenID → pr.executed ≤ 2)
      (htally : Tally b.history row.tokenID 1 1 False)
  /-- Invalidated by a compensation of `CONSUME_TOKEN`. -/
  | stranded (hvalue : 0 < row.value) (hstatus : row.status = .invalidated)
      (hconsumed : row.consumed = false) (hreleased : row.releasedAt ≠ none)
      (hnone : ∀ i pr, b.progress i = some pr → pr.tokenID = row.tokenID → pr.executed ≤ 2)
      (htally : Tally b.history row.tokenID 0 0 True)

/-- The tokens, the orders and the release passes fit together. -/
structure Tokens (b : Bank) : Prop where
  orders : ∀ i pr, b.progress i = some pr →
    ∃ row, b.db.offlineTokens.find? pr.tokenID = some row ∧ SameToken pr.order.token row
  snapshots : ∀ tok ∈ b.snapshots,
    ∃ row, b.db.offlineTokens.find? tok.tokenID = some row ∧ SameToken tok row
  /-- A token is put on hold once. -/
  unique : ∀ i j pr pr', b.progress i = some pr → b.progress j = some pr' →
    pr.tokenID = pr'.tokenID → 1 < pr.executed → 1 < pr'.executed → i = j
  state : ∀ tokenID row, b.db.offlineTokens.find? tokenID = some row → b.TokenState row
  unknown : ∀ tokenID, b.db.offlineTokens.find? tokenID = none → Tally b.history tokenID 0 0 False

variable {b b' : Bank} {txn : Option Txn} {row : OfflineToken}

/-- What is read in a snapshot after a move was in the table before it. -/
theorem Tokens.snapshots_before (ht : b.Tokens) (h : Step b txn b') {tok : OfflineToken}
    (htok : tok ∈ b'.snapshots) :
    ∃ row, b.db.offlineTokens.find? tok.tokenID = some row ∧ SameToken tok row := by
  rcases h.snapshots tok htok with hold | hold
  · exact ht.snapshots tok hold
  · exact ⟨tok, Table.find?_of_mem hold, rfl, rfl, rfl⟩

/-! ## Frames -/

/-- The state of a token carries over when its row, the sagas that hold it and the tallies do. -/
theorem TokenState.frame (h : b.TokenState row)
    (hheld : ∀ i pr, pr.tokenID = row.tokenID → 1 < pr.executed →
      (b'.progress i = some pr ↔ b.progress i = some pr))
    (hname : row.consumed = true → ∀ i pr, b'.progress i = some pr → pr.tokenID = row.tokenID →
      ∃ j pr', b.progress j = some pr' ∧ pr'.tokenID = row.tokenID)
    (htally : ∀ m o s, Tally b.history row.tokenID m o s → Tally b'.history row.tokenID m o s) :
    b'.TokenState row := by
  -- a bound on the holders carries over
  have hbound : ∀ n, 1 ≤ n → (∀ i pr, b.progress i = some pr → pr.tokenID = row.tokenID →
      pr.executed ≤ n) → ∀ i pr, b'.progress i = some pr → pr.tokenID = row.tokenID →
      pr.executed ≤ n := by
    intro n hn hle i pr hpr htoken
    by_contra hlt
    have hlt' : 1 < pr.executed := by omega
    exact hlt (hle i pr ((hheld i pr htoken hlt').mp hpr) htoken)
  cases h with
  | spent hrow hnone ht =>
    refine .spent hrow (fun i pr hpr htoken => ?_) (htally _ _ _ ht)
    obtain ⟨j, pr', hpr', htoken'⟩ := hname hrow.1 i pr hpr htoken
    exact hnone j pr' hpr' htoken'
  | issued hv hs hc hr hnone ht =>
    exact .issued hv hs hc hr (hbound 1 (le_refl 1) hnone) (htally _ _ _ ht)
  | held i pr hv hs hc hr hpr htoken hex hst ht =>
    exact .held i pr hv hs hc hr ((hheld i pr htoken (by omega)).mpr hpr) htoken hex hst
      (htally _ _ _ ht)
  | consumed i pr hv hs hc hr hpr htoken hex ht =>
    exact .consumed i pr hv hs hc hr ((hheld i pr htoken (by omega)).mpr hpr) htoken hex
      (htally _ _ _ ht)
  | released hv hs hc hr hnone ht =>
    exact .released hv hs hc hr (hbound 2 (by omega) hnone) (htally _ _ _ ht)
  | stranded hv hs hc hr hnone ht =>
    exact .stranded hv hs hc hr (hbound 2 (by omega) hnone) (htally _ _ _ ht)

/-- The state of a token carries over when a saga that names it moves without entering or leaving
one of its situations. -/
theorem TokenState.advance (h : b.TokenState row) {i : ℕ} {before after : Progress}
    (hbefore : b.progress i = some before)
    (hprogress : b'.progress = Function.update b.progress i (some after))
    (horder : after.order = before.order) (hex₁ : after.executed ≤ 1 ↔ before.executed ≤ 1)
    (hex₂ : after.executed ≤ 2 ↔ before.executed ≤ 2) (hset : after.settled ↔ before.settled)
    (hheld : row.status = .held → ¬(before.executed = 2 ∧ before.standing = 2))
    (htally : ∀ m o s, Tally b.history row.tokenID m o s → Tally b'.history row.tokenID m o s) :
    b'.TokenState row := by
  have hbound : ∀ n, (after.executed ≤ n ↔ before.executed ≤ n) →
      (∀ j pr, b.progress j = some pr → pr.tokenID = row.tokenID → pr.executed ≤ n) →
      ∀ j pr, b'.progress j = some pr → pr.tokenID = row.tokenID → pr.executed ≤ n := by
    intro n hn hle j pr hj htoken
    rcases progress_cases hprogress hj with ⟨rfl, rfl⟩ | ⟨-, hj⟩
    · rw [Progress.tokenID, horder] at htoken
      exact hn.mpr (hle _ before hbefore htoken)
    · exact hle j pr hj htoken
  cases h with
  | spent hrow hnone ht =>
    refine .spent hrow (fun j pr hj htoken => ?_) (htally _ _ _ ht)
    rcases progress_cases hprogress hj with ⟨rfl, rfl⟩ | ⟨-, hj⟩
    · rw [Progress.tokenID, horder] at htoken
      exact hnone _ before hbefore htoken
    · exact hnone j pr hj htoken
  | issued hv hs hc hr hnone ht =>
    exact .issued hv hs hc hr (hbound 1 hex₁ hnone) (htally _ _ _ ht)
  | held j pr hv hs hc hr hpr htoken hex hst ht =>
    have hj : j ≠ i := by
      rintro rfl
      rw [hbefore, Option.some.injEq] at hpr
      subst hpr
      exact hheld hs ⟨hex, hst⟩
    exact .held j pr hv hs hc hr ((progress_ne hprogress hj).trans hpr) htoken hex hst
      (htally _ _ _ ht)
  | consumed j pr hv hs hc hr hpr htoken hex ht =>
    by_cases hj : j = i
    · subst hj
      rw [hbefore, Option.some.injEq] at hpr
      subst hpr
      refine .consumed j after hv hs hc hr (progress_self hprogress) ?_ (by omega) ?_
      · rw [Progress.tokenID, horder]
        exact htoken
      · simp only [horder, hset]
        exact htally _ _ _ ht
    · exact .consumed j pr hv hs hc hr ((progress_ne hprogress hj).trans hpr) htoken hex
        (htally _ _ _ ht)
  | released hv hs hc hr hnone ht =>
    exact .released hv hs hc hr (hbound 2 hex₂ hnone) (htally _ _ _ ht)
  | stranded hv hs hc hr hnone ht =>
    exact .stranded hv hs hc hr (hbound 2 hex₂ hnone) (htally _ _ _ ht)

/-- The commit says nothing about this token. -/
def Neutral (tokenID : String) (c : Commit) : Prop :=
  c.txn.movesOut tokenID = false ∧ c.txn.out tokenID = 0 ∧ ¬c.Strands tokenID

theorem Step.tally (h : Step b txn b') {tokenID : String} {m : ℕ} {o : ℤ} {s : Prop}
    (hneutral : ∀ t ∈ txn, Neutral tokenID ⟨t, b.db, b'.db⟩) (ht : Tally b.history tokenID m o s) :
    Tally b'.history tokenID m o s := by
  rw [h.history]
  cases txn with
  | none => simpa using ht
  | some t =>
    obtain ⟨h₁, h₂, h₃⟩ := hneutral t rfl
    simpa [h₁, h₂, h₃] using ht.append ⟨t, b.db, b'.db⟩

theorem neutral_plain {t : Txn} (h : Txn.plain t = true) (tokenID : String) (db db' : DB) :
    Neutral tokenID ⟨t, db, db'⟩ := by
  cases t <;> first | exact ⟨rfl, rfl, id⟩ | simp [Txn.plain] at h

/-- A saga transaction is about the token of its order only. -/
theorem neutral_phase {i : ℕ} {o : Order} {p : Saga.Phase} {tokenID : String}
    (h : o.payload.tokenID ≠ tokenID) (db db' : DB) : Neutral tokenID ⟨.phase i o p, db, db'⟩ := by
  refine ⟨?_, ?_, ?_⟩
  · unfold Txn.movesOut
    split <;> simp_all
  · unfold Txn.out
    split <;> simp_all
  · unfold Commit.Strands
    split <;> simp_all

/-- A row overwritten by one of the same token. -/
theorem find?_set_of_find? {t : Table OfflineToken.tokenID} {tokenID : String}
    {row₀ row₁ : OfflineToken} (hfind : t.find? tokenID = some row₀) (hkey : row₁.tokenID = tokenID)
    (k : String) : (t.set row₁).find? k = if k = tokenID then some row₁ else t.find? k := by
  rw [Table.find?_set, hkey]
  by_cases hk : k = tokenID
  · rw [if_pos hk.symm, if_pos hk, hk, hfind, Option.map_some]
  · rw [if_neg (Ne.symm hk), if_neg hk]

/-- One move that is about one token. The other tokens follow by `TokenState.frame`. -/
theorem Tokens.update (ht : b.Tokens) (h : Step b txn b') {tokenID : String}
    {row₀ row₁ : OfflineToken} (hfind : b.db.offlineTokens.find? tokenID = some row₀)
    (hdb : b'.db.offlineTokens = b.db.offlineTokens.set row₁) (hsame : SameToken row₀ row₁)
    (horders : ∀ i pr, b'.progress i = some pr → ∃ pr₀, b.progress i = some pr₀ ∧
      pr₀.order = pr.order)
    (hother : ∀ i pr, pr.tokenID ≠ tokenID → (b'.progress i = some pr ↔ b.progress i = some pr))
    (hneutral : ∀ k ≠ tokenID, ∀ t ∈ txn, Neutral k ⟨t, b.db, b'.db⟩)
    (hunique : ∀ i j pr pr', b'.progress i = some pr → b'.progress j = some pr' →
      pr.tokenID = tokenID → pr'.tokenID = tokenID → 1 < pr.executed → 1 < pr'.executed → i = j)
    (hstate : b'.TokenState row₁) : b'.Tokens := by
  have hfind' : ∀ k, b'.db.offlineTokens.find? k
      = if k = tokenID then some row₁ else b.db.offlineTokens.find? k := by
    rw [hdb]
    exact find?_set_of_find? hfind (hsame.1.trans (Table.key_of_find? hfind))
  have hrows : ∀ (tok : OfflineToken) k, (∃ row, b.db.offlineTokens.find? k = some row ∧
      SameToken tok row) → ∃ row, b'.db.offlineTokens.find? k = some row ∧ SameToken tok row := by
    rintro tok k ⟨row, hrow, hs⟩
    rw [hfind']
    by_cases hk : k = tokenID
    · subst hk
      obtain rfl : row₀ = row := Option.some.inj (hfind.symm.trans hrow)
      exact ⟨row₁, if_pos rfl, hsame.1.trans hs.1, hsame.2.1.trans hs.2.1, hsame.2.2.trans hs.2.2⟩
    · exact ⟨row, by rw [if_neg hk, hrow], hs⟩
  constructor
  · intro i pr hpr
    obtain ⟨pr₀, hpr₀, horder⟩ := horders i pr hpr
    have hold := ht.orders i pr₀ hpr₀
    rw [Progress.tokenID, horder] at hold
    exact hrows _ _ hold
  · intro tok htok
    exact hrows tok _ (ht.snapshots_before h htok)
  · intro i j pr pr' hpr hpr' heq hex hex'
    by_cases hk : pr.tokenID = tokenID
    · exact hunique i j pr pr' hpr hpr' hk (heq ▸ hk) hex hex'
    · exact ht.unique i j pr pr' ((hother i pr hk).mp hpr) ((hother j pr' (heq ▸ hk)).mp hpr') heq
        hex hex'
  · intro k row hrow
    rw [hfind'] at hrow
    by_cases hk : k = tokenID
    · rw [if_pos hk, Option.some.injEq] at hrow
      exact hrow ▸ hstate
    · rw [if_neg hk] at hrow
      have hkey : row.tokenID = k := Table.key_of_find? hrow
      refine (ht.state k row hrow).frame (fun i pr hp _ => hother i pr ?_) ?_ ?_
      · rw [hp, hkey]
        exact hk
      · exact fun _ i pr hpr hp => ⟨i, pr, (hother i pr (by rw [hp, hkey]; exact hk)).mp hpr, hp⟩
      · exact fun m o s => h.tally (hneutral _ (hkey ▸ hk))
  · intro k hnone
    rw [hfind'] at hnone
    by_cases hk : k = tokenID
    · simp [hk] at hnone
    · rw [if_neg hk] at hnone
      exact h.tally (hneutral k hk) (ht.unknown k hnone)

/-! ## One move -/

/-- Tokens whose rows and holders do not change. -/
theorem Tokens.keep (ht : b.Tokens) (h : Step b txn b')
    (hdb : b'.db.offlineTokens = b.db.offlineTokens) (hprogress : b'.progress = b.progress)
    (hneutral : ∀ k, ∀ t ∈ txn, Neutral k ⟨t, b.db, b'.db⟩) : b'.Tokens where
  orders i pr hpr := by
    rw [hdb]
    exact ht.orders i pr (hprogress ▸ hpr)
  snapshots tok htok := by
    rw [hdb]
    exact ht.snapshots_before h htok
  unique := hprogress ▸ ht.unique
  state k row hrow := by
    rw [hdb] at hrow
    exact (ht.state k row hrow).frame (by simp [hprogress])
      (fun _ i pr hpr hk => ⟨i, pr, hprogress ▸ hpr, hk⟩) fun m o s => h.tally (hneutral _)
  unknown k hnone := by
    rw [hdb] at hnone
    exact h.tally (hneutral k) (ht.unknown k hnone)

/-- Validation finished: one more order that names a token, holding nothing. -/
theorem Tokens.begin (ht : b.Tokens) (h : Step b none b') {i : ℕ} {o : Order}
    (hnew : b.progress i = none) (hdb : b'.db = b.db)
    (hprogress : b'.progress = Function.update b.progress i (some ⟨o, 0, 0⟩))
    (htoken : b.db.offlineTokens.find? o.payload.tokenID = some o.token) : b'.Tokens where
  orders j pr hj := by
    rw [hdb]
    rcases progress_cases hprogress hj with ⟨rfl, rfl⟩ | ⟨-, hj⟩
    · exact ⟨o.token, htoken, rfl, rfl, rfl⟩
    · exact ht.orders j pr hj
  snapshots tok htok := by
    rw [hdb]
    exact ht.snapshots_before h htok
  unique j k pr pr' hj hk heq hex hex' := by
    rcases progress_cases hprogress hj with ⟨rfl, rfl⟩ | ⟨-, hj⟩
    · simp at hex
    · rcases progress_cases hprogress hk with ⟨rfl, rfl⟩ | ⟨-, hk⟩
      · simp at hex'
      · exact ht.unique j k pr pr' hj hk heq hex hex'
  state k row hrow := by
    rw [hdb] at hrow
    refine (ht.state k row hrow).frame (fun j pr _ hex => ?_) (fun hcons j pr hj hp => ?_)
      fun m o s => h.tally (by simp)
    · by_cases hji : j = i
      · subst hji
        rw [progress_self hprogress, hnew]
        simp only [Option.some.injEq, reduceCtorEq, iff_false]
        rintro rfl
        simp at hex
      · rw [progress_ne hprogress hji]
    · rcases progress_cases hprogress hj with ⟨rfl, rfl⟩ | ⟨-, hj⟩
      · -- a consumed token does not pass validation
        have hkey : row.tokenID = k := Table.key_of_find? hrow
        rw [Progress.tokenID, hkey] at hp
        rw [hp, hrow, Option.some.injEq] at htoken
        rw [htoken, o.unconsumed] at hcons
        exact absurd hcons (by simp)
      · exact ⟨j, pr, hj, hp⟩
  unknown k hnone := by
    rw [hdb] at hnone
    exact h.tally (by simp) (ht.unknown k hnone)

/-- A new token. -/
theorem Tokens.issue (ht : b.Tokens) {tok : OfflineToken} (h : Step b (some (.issueToken tok)) b')
    (hdb : Token.Issued b.db b'.db tok) (hprogress : b'.progress = b.progress) : b'.Tokens := by
  have hneutral : ∀ k, ∀ t ∈ some (Txn.issueToken tok), Neutral k ⟨t, b.db, b'.db⟩ := by
    rintro k t ⟨⟩
    exact ⟨rfl, rfl, id⟩
  have hkept : ∀ {k row}, b.db.offlineTokens.find? k = some row →
      b'.db.offlineTokens.find? k = some row := by
    intro k row hrow
    rw [hdb.offlineTokens]
    exact Table.find?_insert_of_find? hrow
  constructor
  · intro i pr hpr
    obtain ⟨row, hrow, hs⟩ := ht.orders i pr (hprogress ▸ hpr)
    exact ⟨row, hkept hrow, hs⟩
  · intro tok' htok'
    obtain ⟨row, hrow, hs⟩ := ht.snapshots_before h htok'
    exact ⟨row, hkept hrow, hs⟩
  · exact hprogress ▸ ht.unique
  · intro k row hrow
    rw [hdb.offlineTokens, Table.find?_insert hdb.fresh] at hrow
    split at hrow
    · obtain rfl := Option.some.inj hrow
      refine .issued hdb.value_pos hdb.status hdb.consumed hdb.releasedAt (fun i pr hpr hp => ?_)
        (h.tally (hneutral _) (ht.unknown _ hdb.fresh))
      -- no order can name a token that did not exist
      obtain ⟨row, hrow', -⟩ := ht.orders i pr (hprogress ▸ hpr)
      rw [hp, hdb.fresh] at hrow'
      exact absurd hrow' (by simp)
    · exact (ht.state k row hrow).frame (by simp [hprogress])
        (fun _ i pr hpr hk => ⟨i, pr, hprogress ▸ hpr, hk⟩) fun m o s => h.tally (hneutral _)
  · intro k hnone
    rw [hdb.offlineTokens, Table.find?_insert hdb.fresh] at hnone
    split at hnone
    · exact absurd hnone (by simp)
    · exact h.tally (hneutral k) (ht.unknown k hnone)

/-- A released token. -/
theorem Tokens.release (ht : b.Tokens) {tok locked : OfflineToken} {now : Time}
    (h : Step b (some (.release tok)) b') (hdb : Token.Released b.db b'.db tok locked now)
    (hprogress : b'.progress = b.progress) : b'.Tokens := by
  have hkey : locked.tokenID = tok.tokenID := Table.key_of_find? hdb.find
  refine ht.update h hdb.find hdb.offlineTokens ⟨rfl, rfl, rfl⟩
    (fun i pr hpr => ⟨pr, hprogress ▸ hpr, rfl⟩) (by simp [hprogress]) ?_ ?_ ?_
  · rintro k hk t ⟨⟩
    exact ⟨by simp [Txn.movesOut, Ne.symm hk], by simp [Txn.out, Ne.symm hk], id⟩
  · intro i j pr pr' hi hj hp hp'
    exact ht.unique i j pr pr' (hprogress ▸ hi) (hprogress ▸ hj) (hp.trans hp'.symm)
  · -- unconsumed and unreleased: the token was issued or on hold
    have hfinish : 0 < locked.value →
        (∀ i pr, b.progress i = some pr → pr.tokenID = locked.tokenID → pr.executed ≤ 2) →
        Tally b.history locked.tokenID 0 0 False →
        b'.TokenState { locked with releasedAt := some now, status := .invalidated } := by
      intro hv hnone htally
      refine .released hv rfl hdb.unconsumed (by simp) (by rw [hprogress]; exact hnone) ?_
      rw [h.history]
      simpa [Txn.movesOut, Txn.out, Commit.Strands, hkey] using
        htally.append ⟨.release tok, b.db, b'.db⟩
    cases ht.state _ _ hdb.find with
    | spent hrow => exact absurd (hrow.1.symm.trans hdb.unconsumed) (by simp)
    | issued hv hs hc hr hnone htally =>
      exact hfinish hv (fun i pr hpr hp => (hnone i pr hpr hp).trans (by omega)) htally
    | held j pr hv hs hc hr hpr htoken hex hst htally =>
      refine hfinish hv (fun i pr' hpr' hp => ?_) htally
      by_contra hlt
      obtain rfl := ht.unique j i pr pr' hpr hpr' (htoken.trans hp.symm) (by omega) (by omega)
      obtain rfl := Option.some.inj (hpr.symm.trans hpr')
      omega
    | consumed _ _ _ _ hc => exact absurd (hc.symm.trans hdb.unconsumed) (by simp)
    | released _ _ _ hr => exact absurd hdb.unreleased hr
    | stranded _ _ _ hr => exact absurd hdb.unreleased hr

/-- A transaction of the saga that names the token. -/
theorem Tokens.phase (hc : b.Counters) (ht : b.Tokens) {i : ℕ} {o : Order} {p : Saga.Phase}
    {input : Input} {before after : Progress} (h : Step b (some (.phase i o p)) b')
    (hbefore : b.progress i = some before) (horder : before.order = o)
    (hadv : Progress.Advances before after p) (hdb : PhaseEffect o input b.db b'.db p)
    (hprogress : b'.progress = Function.update b.progress i (some after)) : b'.Tokens := by
  obtain ⟨hord, hadv⟩ := hadv
  obtain ⟨row, hrow, hsame⟩ := ht.orders i before hbefore
  have hkey : row.tokenID = before.tokenID := Table.key_of_find? hrow
  have hafter : after.tokenID = before.tokenID := by rw [Progress.tokenID, hord]
  have hstate := ht.state _ _ hrow
  -- everything but the row itself, its holder and its state follows from `Tokens.update`
  have hfinish : ∀ row₁, b'.db.offlineTokens = b.db.offlineTokens.set row₁ → SameToken row row₁ →
      (1 < after.executed → 1 < before.executed ∨
        ∀ j pr, b.progress j = some pr → pr.tokenID = before.tokenID → pr.executed ≤ 1) →
      b'.TokenState row₁ → b'.Tokens := by
    intro row₁ hset hsame₁ hhold hst
    refine ht.update h hrow hset hsame₁ (fun j pr hj => ?_) (fun j pr hp => ?_) ?_ ?_ hst
    · rcases progress_cases hprogress hj with ⟨rfl, rfl⟩ | ⟨-, hj⟩
      · exact ⟨before, hbefore, hord.symm⟩
      · exact ⟨pr, hj, rfl⟩
    · by_cases hj : j = i
      · subst hj
        rw [progress_self hprogress, hbefore, Option.some.injEq, Option.some.injEq]
        constructor
        · rintro rfl
          exact absurd hafter hp
        · rintro rfl
          exact absurd rfl hp
      · rw [progress_ne hprogress hj]
    · rintro k hk t ⟨⟩
      refine neutral_phase ?_ _ _
      rw [← horder]
      exact Ne.symm hk
    · intro j k pr pr' hj hk hp hp' hex hex'
      rcases progress_cases hprogress hj with ⟨rfl, rfl⟩ | ⟨hji, hj⟩ <;>
        rcases progress_cases hprogress hk with ⟨rfl, rfl⟩ | ⟨hki, hk⟩
      · rfl
      · rcases hhold hex with hex₀ | hnone
        · exact ht.unique _ k before pr' hbefore hk hp'.symm hex₀ hex'
        · exact absurd (hnone k pr' hk hp') (by omega)
      · rcases hhold hex' with hex₀ | hnone
        · exact ht.unique j _ pr before hj hbefore hp hex hex₀
        · exact absurd (hnone j pr hj hp) (by omega)
      · exact ht.unique j k pr pr' hj hk (hp.trans hp'.symm) hex hex'
  -- the row stays and the saga does not enter or leave a situation of the token
  have hstay : b'.db.offlineTokens = b.db.offlineTokens → (after.executed ≤ 1 ↔ before.executed ≤ 1) →
      (after.executed ≤ 2 ↔ before.executed ≤ 2) → (2 < after.standing ↔ 2 < before.standing) →
      (row.status = .held → ¬(before.executed = 2 ∧ before.standing = 2)) →
      Neutral row.tokenID ⟨.phase i o p, b.db, b'.db⟩ → b'.Tokens := by
    intro hset hex₁ hex₂ hsettled hheld hneutral
    refine hfinish row ?_ ⟨rfl, rfl, rfl⟩ (fun hex => .inl (by omega)) ?_
    · rw [hset, Table.set_self (by rw [hkey, hrow])]
    · exact hstate.advance hbefore hprogress hord hex₁ hex₂ hsettled hheld fun m o s =>
        h.tally (by rintro t ⟨⟩; exact hneutral)
  cases hdb with
  | reserve hres =>
    obtain ⟨h₁, h₂, h₃, h₄⟩ := hadv
    exact hstay hres.offlineTokens (by omega) (by omega) (by omega) (fun _ => by omega)
      ⟨rfl, rfl, id⟩
  | publish hpub =>
    obtain ⟨h₁, h₂, h₃, h₄⟩ := hadv
    exact hstay hpub.offlineTokens (by omega) (by omega) (by omega) (fun _ => by omega)
      ⟨rfl, rfl, id⟩
  | unreserve hunres =>
    obtain ⟨h₁, h₂, h₃⟩ := hadv
    exact hstay hunres.offlineTokens (by omega) (by omega) (by omega) (fun _ => by omega)
      ⟨rfl, rfl, id⟩
  | hold hhold =>
    obtain ⟨row', hrow', hst, hset⟩ := hhold.offlineTokens
    rw [← horder] at hrow'
    obtain rfl : row = row' := Option.some.inj (hrow.symm.trans hrow')
    cases hstate with
    | spent _ hnone => exact absurd hkey.symm (hnone i before hbefore)
    | issued hv hs hcon hr hnone htally =>
      refine hfinish _ hset ⟨rfl, rfl, rfl⟩ (fun _ => .inr (hkey ▸ hnone)) ?_
      refine .held i after hv rfl hcon hr (progress_self hprogress) (hafter.trans hkey.symm)
        hadv.2.2.1 hadv.2.2.2 (h.tally ?_ htally)
      rintro t ⟨⟩
      exact ⟨rfl, rfl, id⟩
    | held _ _ _ hs => exact absurd (hs.symm.trans hst) (by simp)
    | consumed _ _ _ hs => exact absurd (hs.symm.trans hst) (by simp)
    | released _ hs => exact absurd (hs.symm.trans hst) (by simp)
    | stranded _ hs => exact absurd (hs.symm.trans hst) (by simp)
  | commitLedger hcom =>
    obtain ⟨row', hrow', htrans, hset⟩ := hcom.offlineTokens
    rw [← horder] at hrow'
    obtain rfl : row = row' := Option.some.inj (hrow.symm.trans hrow')
    have hex₀ : 1 < before.executed := by rw [hadv.1]; decide
    refine hfinish _ hset ⟨rfl, rfl, rfl⟩ (fun _ => .inl hex₀) ?_
    cases hstate with
    | spent hsp => simp [hsp.2.2.1, isValidTokenTransition, TokenStatus.transitions] at htrans
    | issued _ hs => simp [hs, isValidTokenTransition, TokenStatus.transitions] at htrans
    | held j pr hv hs hcon hr hpr htoken hex hst htally =>
      have hset : after.settled := by rw [Progress.settled, hadv.2.2.2]; decide
      have hid : o.payload.tokenID = row.tokenID := by rw [hkey, ← horder]
      refine .consumed i after hv rfl rfl hr (progress_self hprogress) (hafter.trans hkey.symm)
        (by rw [hadv.2.2.1]; decide) ?_
      rw [h.history]
      have htally' := htally.append ⟨.ledgerCommit i o, b.db, b'.db⟩
      by_cases hself : o.self
      · simpa [Txn.movesOut, Txn.out, Commit.Strands, hid, hset, hself, hord, horder] using htally'
      · simpa [Txn.movesOut, Txn.out, Commit.Strands, hid, hset, hself, hord, horder] using htally'
    | consumed j pr hv hs hcon hr hpr htoken hex htally =>
      -- the token would have been put on hold twice
      obtain rfl := ht.unique j i pr before hpr hbefore (htoken.trans hkey) (by omega) hex₀
      obtain rfl := Option.some.inj (hpr.symm.trans hbefore)
      omega
    | released _ hs => simp [hs, isValidTokenTransition, TokenStatus.transitions] at htrans
    | stranded _ hs => simp [hs, isValidTokenTransition, TokenStatus.transitions] at htrans
  | unhold hun =>
    obtain ⟨h₁, h₂, h₃⟩ := hadv
    have hex₀ : 1 < before.executed := by
      have := (hc i before hbefore).standing_le
      omega
    have hid : o.payload.tokenID = row.tokenID := by rw [hkey, ← horder]
    rcases hun.offlineTokens with ⟨row', hrow', hst, hset⟩ | ⟨hnot, hset⟩
    · rw [← horder] at hrow'
      obtain rfl : row = row' := Option.some.inj (hrow.symm.trans hrow')
      refine hfinish _ hset ⟨rfl, rfl, rfl⟩ (fun _ => .inl hex₀) ?_
      cases hstate with
      | held j pr hv hs hcon hr hpr htoken hex hst' htally =>
        obtain rfl := ht.unique j i pr before hpr hbefore (htoken.trans hkey) (by omega) hex₀
        obtain rfl := Option.some.inj (hpr.symm.trans hbefore)
        refine .stranded hv rfl hcon (by simp) (fun k pr' hk hp => ?_) ?_
        · rcases progress_cases hprogress hk with ⟨rfl, rfl⟩ | ⟨hki, hk⟩
          · omega
          · -- nobody else holds the token
            by_contra hlt
            exact hki (ht.unique k j pr' pr hk hbefore (hp.trans htoken.symm) (by omega) hex₀)
        · rw [h.history]
          have htally' := htally.append ⟨.phase j o (.compensation 1), b.db, b'.db⟩
          have hmap : (b.db.offlineTokens.find? row.tokenID).map OfflineToken.status = some .held := by
            rw [hkey, hrow, Option.map_some, hs]
          simpa [Txn.movesOut, Txn.out, Commit.Strands, hid, hmap] using htally'
      | spent hsp => exact absurd (hsp.2.2.1.symm.trans hst) (by simp)
      | issued _ hs => exact absurd (hs.symm.trans hst) (by simp)
      | consumed _ _ _ hs => exact absurd (hs.symm.trans hst) (by simp)
      | released _ hs => exact absurd (hs.symm.trans hst) (by simp)
      | stranded _ hs => exact absurd (hs.symm.trans hst) (by simp)
    · have hst : row.status ≠ .held := hnot row (by rw [← horder]; exact hrow)
      refine hstay hset (by omega) (by omega) (by omega) (fun hs => absurd hs hst) ⟨rfl, rfl, ?_⟩
      rintro ⟨-, hmap⟩
      rw [hkey, hrow, Option.map_some, Option.some.injEq] at hmap
      exact hst hmap
  | undoLedger hundo =>
    obtain ⟨h₁, h₂, h₃⟩ := hadv
    have hun := hc.undone hbefore horder h₁ hundo
    have hex₀ : 2 < before.executed := by
      have := (hc i before hbefore).standing_le
      omega
    have hid : o.payload.tokenID = row.tokenID := by rw [hkey, ← horder]
    refine hfinish row ?_ ⟨rfl, rfl, rfl⟩ (fun _ => .inl (by omega)) ?_
    · rw [hun.offlineTokens, Table.set_self (by rw [hkey, hrow])]
    cases hstate with
    | consumed j pr hv hs hcon hr hpr htoken hex htally =>
      obtain rfl := ht.unique j i pr before hpr hbefore (htoken.trans hkey) (by omega) (by omega)
      obtain rfl := Option.some.inj (hpr.symm.trans hbefore)
      have hset : pr.settled := by rw [Progress.settled, h₁]; decide
      have hset' : ¬after.settled := by rw [Progress.settled, h₂]; decide
      refine .consumed j after hv hs hcon hr (progress_self hprogress) (hafter.trans hkey.symm)
        (by omega) ?_
      rw [h.history]
      have htally' := htally.append ⟨.ledgerUndo j o, b.db, b'.db⟩
      by_cases hself : o.self
      · simpa [Txn.movesOut, Txn.out, Commit.Strands, hid, hset, hset', hself, horder] using htally'
      · simpa [Txn.movesOut, Txn.out, Commit.Strands, hid, hset, hset', hself, horder] using htally'
    | spent _ hnone => exact absurd hkey.symm (hnone i before hbefore)
    | issued _ _ _ _ hnone => exact absurd (hnone i before hbefore hkey.symm) (by omega)
    | held j pr _ _ _ _ hpr htoken hex =>
      obtain rfl := ht.unique j i pr before hpr hbefore (htoken.trans hkey) (by omega) (by omega)
      obtain rfl := Option.some.inj (hpr.symm.trans hbefore)
      omega
    | released _ _ _ _ hnone => exact absurd (hnone i before hbefore hkey.symm) (by omega)
    | stranded _ _ _ _ hnone => exact absurd (hnone i before hbefore hkey.symm) (by omega)

theorem Tokens.step (hc : b.Counters) (ht : b.Tokens) (h : Step b txn b') : b'.Tokens := by
  cases h.effect with
  | quiet hplain hdb hnone hprogress =>
    exact ht.keep h hdb.offlineTokens hprogress fun k t hmem => neutral_plain (hplain t hmem) _ _ _
  | begin hnew hdb hprogress htoken => exact ht.begin h hnew hdb hprogress htoken
  | createAccount row hnew hreserved hdb hprogress =>
    refine ht.keep h (by rw [hdb]) hprogress ?_
    rintro k t ⟨⟩
    exact ⟨rfl, rfl, id⟩
  | issueToken hdb hprogress => exact ht.issue h hdb hprogress
  | phase before after hbefore horder hadv hdb hprogress =>
    exact ht.phase hc h hbefore horder hadv hdb hprogress
  | release htok hdb hprogress => exact ht.release h hdb hprogress

end Bank

end OfflinePay
