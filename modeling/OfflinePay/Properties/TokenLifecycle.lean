import OfflinePay.Properties.Limits
import OfflinePay.System.Ledger

/-!
# The life of a token row

Reference: `internal/domain/models.go`, `IsValidTokenTransition`; `internal/repository/repository.go`,
`HoldToken`, `ConsumeToken`, `InvalidateToken` and `ReleaseToken`.

Every statement that changes a token checks the table of transitions, which also allows a token to
stay where it is. Over whole runs more is true: a token goes from `ISSUED` to `HELD`, from there to
`CONSUMED`, and from either to `INVALIDATED`, each at most once; nothing else about the row changes,
and no row goes away. `Evolved` says this for any two moments of a run.
-/

namespace OfflinePay

open Settlement

namespace OfflineToken

/-- What becomes of a token row. -/
inductive Evolved (row : OfflineToken) : OfflineToken → Prop where
  | same : Evolved row row
  | held (h : row.status = .issued) : Evolved row { row with status := .held }
  | consumed (h : row.status.outstanding = true) (now : Time) :
      Evolved row { row with consumed := true, consumedAt := some now, status := .consumed }
  | invalidated (h : row.status.outstanding = true) (now : Time) :
      Evolved row { row with releasedAt := some now, status := .invalidated }

theorem Evolved.trans {a b c : OfflineToken} (hab : a.Evolved b) (hbc : b.Evolved c) :
    a.Evolved c := by
  cases hab with
  | same => exact hbc
  | held h =>
    have hout : a.status.outstanding = true := by rw [h]; rfl
    cases hbc with
    | same => exact .held h
    | held h' => cases h'
    | consumed _ now => exact .consumed hout now
    | invalidated _ now => exact .invalidated hout now
  | consumed h now =>
    cases hbc with
    | same => exact .consumed h now
    | held h' => cases h'
    | consumed h' => cases h'
    | invalidated h' => cases h'
  | invalidated h now =>
    cases hbc with
    | same => exact .invalidated h now
    | held h' => cases h'
    | consumed h' => cases h'
    | invalidated h' => cases h'

/-- The row as `IssueToken` inserts it. -/
structure Fresh (row : OfflineToken) : Prop where
  status : row.status = .issued
  consumed : row.consumed = false
  consumedAt : row.consumedAt = none
  releasedAt : row.releasedAt = none

/-- The flags and the timestamps of the row agree with its status. -/
structure Consistent (row : OfflineToken) : Prop where
  consumed : row.consumed = true ↔ row.status = .consumed
  consumedAt : row.consumedAt ≠ none ↔ row.status = .consumed
  releasedAt : row.releasedAt ≠ none ↔ row.status = .invalidated

theorem Fresh.evolved {row row' : OfflineToken} (hf : row.Fresh) (h : row.Evolved row') :
    row'.Consistent := by
  obtain ⟨hs, hc, hca, hr⟩ := hf
  cases h with
  | same => exact ⟨by simp [hs, hc], by simp [hs, hca], by simp [hs, hr]⟩
  | held h => exact ⟨by simp [hc], by simp [hca], by simp [hr]⟩
  | consumed h now => exact ⟨by simp, by simp, by simp [hr]⟩
  | invalidated h now => exact ⟨by simp [hc], by simp [hca], by simp⟩

end OfflineToken

theorem OfflineToken.Evolved.tokenID {row row' : OfflineToken} (h : row.Evolved row') :
    row'.tokenID = row.tokenID := by
  cases h <;> rfl

namespace Bank

variable {b b' : Bank} {txn : Option Txn} {tokenID : String} {row : OfflineToken}

/-- Every row of the table has evolved. -/
def TokensEvolved (t t' : Table OfflineToken.tokenID) : Prop :=
  ∀ tokenID row, t.find? tokenID = some row → ∃ row', t'.find? tokenID = some row' ∧ row.Evolved row'

theorem TokensEvolved.of_eq {t t' : Table OfflineToken.tokenID} (h : t' = t) : TokensEvolved t t' :=
  fun _ row hrow => ⟨row, h ▸ hrow, .same⟩

/-- One row is overwritten. -/
theorem TokensEvolved.set {t t' : Table OfflineToken.tokenID} {row₀ row₁ : OfflineToken}
    (hfind : t.find? tokenID = some row₀) (h : t' = t.set row₁) (hevolved : row₀.Evolved row₁) :
    TokensEvolved t t' := by
  have hset := find?_set_of_find? hfind (hevolved.tokenID.trans (Table.key_of_find? hfind))
  intro k row hrow
  rw [h, hset]
  split
  · next hk =>
    obtain rfl : row₀ = row := Option.some.inj (hfind.symm.trans (hk ▸ hrow))
    exact ⟨row₁, rfl, hevolved⟩
  · exact ⟨row, hrow, .same⟩

/-- The token that a saga consumes is on hold. -/
theorem Sound.held_of_commit (hs : b.Sound) {i : ℕ} {before : Progress}
    (hbefore : b.progress i = some before) (hexecuted : before.executed = 2)
    (hrow : b.db.offlineTokens.find? before.tokenID = some row)
    (hvalid : isValidTokenTransition row.status .consumed = true) : row.status = .held := by
  have hkey : row.tokenID = before.tokenID := Table.key_of_find? hrow
  cases hs.tokens.state _ _ hrow with
  | spent hspent hnone => exact absurd hkey.symm (hnone i before hbefore)
  | issued _ hstatus _ _ hnone =>
    have := hnone i before hbefore hkey.symm
    omega
  | held _ _ _ hstatus => exact hstatus
  | consumed j pr _ hstatus _ _ hpr htoken hex =>
    -- two sagas would have put the token on hold
    obtain rfl := hs.tokens.unique j i pr before hpr hbefore (htoken.trans hkey) (by omega) (by omega)
    obtain rfl := Option.some.inj (hpr.symm.trans hbefore)
    omega
  | released _ hstatus => rw [hstatus] at hvalid; cases hvalid
  | stranded _ hstatus => rw [hstatus] at hvalid; cases hvalid

/-- What is released was issued or on hold. -/
theorem Sound.outstanding_of_release (hs : b.Sound) {db' : DB} {tok locked : OfflineToken} {now : Time}
    (h : Token.Released b.db db' tok locked now) : locked.status.outstanding = true := by
  cases hs.tokens.state _ _ h.find with
  | spent hspent => exact absurd (hspent.1.symm.trans h.unconsumed) (by decide)
  | issued _ hstatus => rw [hstatus]; rfl
  | held _ _ _ hstatus => rw [hstatus]; rfl
  | consumed _ _ _ _ hconsumed => exact absurd (hconsumed.symm.trans h.unconsumed) (by decide)
  | released _ _ _ hreleased => exact absurd h.unreleased hreleased
  | stranded _ _ _ hreleased => exact absurd h.unreleased hreleased

theorem Step.tokensEvolved (hs : b.Sound) (h : Step b txn b') :
    TokensEvolved b.db.offlineTokens b'.db.offlineTokens := by
  cases h.effect with
  | quiet hplain hdb hnone hprogress => exact .of_eq hdb.offlineTokens
  | begin hnew hdb hprogress htoken => exact .of_eq (by rw [hdb])
  | createAccount row hnew hreserved hdb hprogress => exact .of_eq (by rw [hdb])
  | issueToken hdb hprogress =>
    intro tokenID row hrow
    exact ⟨row, hdb.offlineTokens ▸ Table.find?_insert_of_find? hrow, .same⟩
  | release htok hdb hprogress =>
    exact .set hdb.find hdb.offlineTokens (.invalidated (hs.outstanding_of_release hdb) _)
  | phase before after hbefore horder hadv hdb hprogress =>
    cases hdb with
    | reserve hh => exact .of_eq hh.offlineTokens
    | publish hh => exact .of_eq hh.offlineTokens
    | unreserve hh => exact .of_eq hh.offlineTokens
    | undoLedger hh => exact .of_eq (hs.counters.undone hbefore horder hadv.2.1 hh).offlineTokens
    | hold hh =>
      obtain ⟨row, hrow, hstatus, hset⟩ := hh.offlineTokens
      exact .set hrow hset (.held hstatus)
    | commitLedger hh =>
      obtain ⟨row, hrow, hvalid, hset⟩ := hh.offlineTokens
      have hheld : row.status = .held :=
        hs.held_of_commit hbefore hadv.2.1 (by rw [Progress.tokenID, horder, hrow]) hvalid
      exact .set hrow hset (.consumed (by rw [hheld]; rfl) _)
    | unhold hh =>
      rcases hh.offlineTokens with ⟨row, hrow, hstatus, hset⟩ | ⟨-, heq⟩
      · exact .set hrow hset (.invalidated (by rw [hstatus]; rfl) _)
      · exact .of_eq heq

end Bank

/-! ## New rows -/

/-- What `IssueToken` returns is a fresh token. -/
theorem World.Issues.fresh {E : Externals} {w : World E} {l : Label} {tok : OfflineToken}
    (h : w.Issues tok l) : tok.Fresh := by
  cases l with
  | issueToken ownerID value duration tokenID faults now =>
    rcases Token.issueToken_cases (E := E) (Prod.ext h rfl) with
      ⟨e, _, he, -⟩ | ⟨tok', _, _, _, _, htok, -, hreserve, -⟩
    · cases he
    · obtain rfl := Except.ok.inj htok
      obtain ⟨_, _, -, -, -, -, -, rfl, -⟩ := Token.reserveFunds_inv hreserve
      exact ⟨rfl, rfl, rfl, rfl⟩
  | _ => exact absurd h not_false

/-- A committed `IssueToken` is the only way to a new token. -/
theorem World.issues_of_commits {E : Externals} {w : World E} {l : Label} {tok : OfflineToken}
    (h : w.commits l = some (.issueToken tok)) :
    ∃ tok', w.Issues tok' l ∧ tok = { tok' with expiry := tok'.expiry.timestamptz } := by
  have hother : ∀ fault body, w.step l ≠ w.runOther fault body := by
    intro fault body hstep
    rw [commits, hstep, runOther] at h
    split at h
    · simp [commit] at h
    · simp at h
  cases l with
  | issueToken ownerID value duration tokenID faults now =>
    simp only [commits, step, World.issueToken] at h
    split at h
    · next tok' db' hissue =>
      refine ⟨tok', by rw [Issues, hissue], ?_⟩
      simpa [commit, eq_comm] using h
    · simp [commit] at h
  | registerDevice dev fault => exact absurd rfl (hother _ _)
  | updateDeviceStatus deviceID status fault now => exact absurd rfl (hother _ _)
  | attestDevice att fault => exact absurd rfl (hother _ _)
  | createAccount accountID initialBalance fault now =>
    simp only [commits, step, World.createAccount] at h
    split at h
    · split at h <;> simp [commit] at h
    · simp at h
  | settle i input =>
    simp only [commits, step, World.settle] at h
    split at h
    · simp at h
    · split at h
      · simp at h
      · simp [commit] at h
      · simp [commit] at h
  | release j fault now =>
    simp only [commits, step, World.release] at h
    split at h
    · simp at h
    · simp at h
    · split at h <;> simp [commit] at h
  | scan j fault now =>
    simp only [commits, step, World.scan] at h
    split at h
    · simp at h
    · simp at h
    · split at h
      · split at h <;> simp [commit] at h
      · simp at h
  | startSettle env hopCount => simp [commits, step] at h
  | startRelease now => simp [commits, step] at h
  | startScan now => simp [commits, step] at h

/-- A row is there since the start, or it has evolved from a fresh one. -/
def World.Grown {E : Externals} (w₀ w : World E) : Prop :=
  ∀ tokenID row, w.db.offlineTokens.find? tokenID = some row →
    (∃ row₀, w₀.db.offlineTokens.find? tokenID = some row₀ ∧ row₀.Evolved row) ∨
      ∃ row₀ : OfflineToken, row₀.Fresh ∧ row₀.Evolved row

theorem World.Grown.step {E : Externals} {w₀ w : World E} (h : w₀.Grown w) (hs : w.bank.Sound)
    (hwf : w.CallsWf) (l : Label) : w₀.Grown (w.step l) := by
  intro tokenID row' hrow'
  have hstep := (step_refines hwf l).1
  have hevolved := hstep.tokensEvolved hs
  cases hrow : w.db.offlineTokens.find? tokenID with
  | some row =>
    obtain ⟨row₁, hrow₁, hev⟩ := hevolved tokenID row hrow
    obtain rfl := Option.some.inj (hrow₁.symm.trans hrow')
    rcases h tokenID row hrow with ⟨row₀, hrow₀, hev₀⟩ | ⟨row₀, hfresh, hev₀⟩
    · exact .inl ⟨row₀, hrow₀, hev₀.trans hev⟩
    · exact .inr ⟨row₀, hfresh, hev₀.trans hev⟩
  | none =>
    right
    rcases hstep.tokens hs.counters with hcarried | ⟨tok, htxn, hissued⟩
    · obtain ⟨row, hrow₂, -⟩ := hcarried.only tokenID row' hrow'
      cases hrow.symm.trans hrow₂
    · have hdb : Token.Issued w.db (w.step l).db tok := hissued
      obtain ⟨tok', hissues, rfl⟩ := issues_of_commits htxn
      have hfresh := hissues.fresh
      rw [hdb.offlineTokens, Table.find?_insert hdb.fresh] at hrow'
      split at hrow'
      · obtain rfl := Option.some.inj hrow'
        refine ⟨{ tok' with expiry := tok'.expiry.timestamptz }, ?_, .same⟩
        exact ⟨hfresh.status, hfresh.consumed, hfresh.consumedAt, hfresh.releasedAt⟩
      · cases hrow.symm.trans hrow'

/-! ## Runs -/

namespace World

variable {E : Externals} {w : World E}

/-- What holds of the bank and of the rows after every run. -/
theorem grown (hi : w.Initial) (ls : List Label) :
    w.Grown (w.exec ls) ∧ (w.exec ls).bank.Sound ∧ (w.exec ls).CallsWf := by
  refine Run.exec_invariant (P := fun _ _ => True)
    (I := fun w' : World E => w.Grown w' ∧ w'.bank.Sound ∧ w'.CallsWf) ?_ ?_ (Run.steps_true w ls)
  · rintro w' l ⟨hgrown, hs, hwf⟩ -
    obtain ⟨hstep, hwf'⟩ := step_refines hwf l
    exact ⟨hgrown.step hs hwf l, hs.step hstep, hwf'⟩
  · exact ⟨fun tokenID row hrow => .inl ⟨row, hrow, .same⟩, hi.sound, hi.callsWf⟩

/-- Rows evolve along every run that goes on. -/
theorem evolved (hs : w.bank.Sound) (hwf : w.CallsWf) (ls : List Label) :
    Bank.TokensEvolved w.db.offlineTokens (w.exec ls).db.offlineTokens := by
  refine (Run.exec_invariant (P := fun _ _ => True) (I := fun w' : World E =>
    Bank.TokensEvolved w.db.offlineTokens w'.db.offlineTokens ∧ w'.bank.Sound ∧ w'.CallsWf) ?_
    ⟨.of_eq rfl, hs, hwf⟩ (Run.steps_true w ls)).1
  rintro w' l ⟨hevolved, hs, hwf⟩ -
  obtain ⟨hstep, hwf'⟩ := step_refines hwf l
  refine ⟨fun tokenID row hrow => ?_, hs.step hstep, hwf'⟩
  obtain ⟨row₁, hrow₁, hev₁⟩ := hevolved tokenID row hrow
  obtain ⟨row₂, hrow₂, hev₂⟩ := hstep.tokensEvolved hs tokenID row₁ hrow₁
  exact ⟨row₂, hrow₂, hev₁.trans hev₂⟩

/-- A row without a value stays as it is. -/
theorem spent_kept {b : Bank} (hs : b.Sound) {tokenID : String} {row₀ row : OfflineToken}
    (hspent : Spent row₀) (hrow : b.db.offlineTokens.find? tokenID = some row)
    (hevolved : row₀.Evolved row) : row = row₀ := by
  obtain ⟨-, hvalue, hstatus, -⟩ := hspent
  have hzero : row.value = 0 := by cases hevolved <;> exact hvalue
  have hissued : row.status = .issued := by
    have hno : ¬(0 : Int64) < 0 := by decide
    cases hs.tokens.state _ _ hrow with
    | spent hspent' => exact hspent'.2.2.1
    | issued hpos => exact absurd (hzero ▸ hpos) hno
    | held _ _ hpos => exact absurd (hzero ▸ hpos) hno
    | consumed _ _ hpos => exact absurd (hzero ▸ hpos) hno
    | released hpos => exact absurd (hzero ▸ hpos) hno
    | stranded hpos => exact absurd (hzero ▸ hpos) hno
  cases hevolved with
  | same => rfl
  | held => cases hissued
  | consumed => cases hissued
  | invalidated => cases hissued

end World

/-- For every initial state and every run, cut in two anywhere: a token row that is there at the cut
is there at the end, and in between it went along `ISSUED`, `HELD`, `CONSUMED` or to `INVALIDATED`
with nothing else about it changed. At the cut, the flag and the timestamps of every row that was not
there from the start agree with its status. -/
theorem token_lifecycle {E : Externals} (w : World E) (hi : w.Initial) (ks ms : List Label) :
    (∀ tokenID row, (w.exec ks).db.offlineTokens.find? tokenID = some row →
      ∃ row', (w.exec (ks ++ ms)).db.offlineTokens.find? tokenID = some row' ∧ row.Evolved row') ∧
    ∀ tokenID row, (w.exec ks).db.offlineTokens.find? tokenID = some row →
      w.db.offlineTokens.find? tokenID = some row ∨ row.Consistent := by
  obtain ⟨hgrown, hs, hwf⟩ := World.grown hi ks
  constructor
  · have hexec : w.exec (ks ++ ms) = (w.exec ks).exec ms := Run.exec_append _ _ _
    rw [hexec]
    exact World.evolved hs hwf ms
  · intro tokenID row hrow
    rcases hgrown tokenID row hrow with ⟨row₀, hrow₀, hev⟩ | ⟨row₀, hfresh, hev⟩
    · have hspent := hi.offlineTokens row₀ (Table.mem_of_find? hrow₀)
      rw [World.spent_kept hs hspent hrow hev]
      exact .inl hrow₀
    · exact .inr (hfresh.evolved hev)

/-- A bank in which one token has been issued. -/
def oneToken : World (.simple fun _ => none) := (World.start ()).exec (Label.setup ["K"])

theorem token_lifecycle_issued :
    ∃ row, oneToken.db.offlineTokens.find? "K" = some row ∧ row.Consistent := by
  have hissued : oneToken.db.offlineTokens.find? "K" ≠ none := by decide +kernel
  obtain ⟨row, hrow⟩ := Option.ne_none_iff_exists'.mp hissued
  have hlife := token_lifecycle (World.start (E := .simple fun _ => none) ())
    (World.start_initial (E := .simple fun _ => none) ()) (Label.setup ["K"]) []
  refine ⟨row, hrow, (hlife.2 "K" row hrow).resolve_left ?_⟩
  rintro ⟨⟩

end OfflinePay
