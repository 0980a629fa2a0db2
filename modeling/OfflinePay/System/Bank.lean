import OfflinePay.System.World

/-!
# The system as its invariants see it

`Bank` forgets where exactly each actor stands. Of a `Settle` call it keeps the order and how many
saga steps have committed and are standing, of the release passes the tokens they may still release.
`Bank.Step` lists everything that can happen to it, with the effect of each transaction on the
database. `World.step_refines` proves that every move of the system is one of these, and
`World.bank_invariant` turns an invariant of `Bank.Step` into one of all runs of the system.
-/

namespace OfflinePay

open Tx Repository Settlement

/-- How far the saga of an order got. -/
structure Progress where
  order : Order
  executed : ℕ
  standing : ℕ
deriving DecidableEq

/-- What a committed saga transaction does to the progress of its call. -/
def Progress.Advances (before after : Progress) (p : Saga.Phase) : Prop :=
  after.order = before.order ∧
    match p with
    | .action k => before.executed = k ∧ before.standing = k ∧ after.executed = k + 1 ∧
        after.standing = k + 1
    | .compensation k => before.standing = k + 1 ∧ after.standing = k ∧
        after.executed = before.executed

/-- The moves that can commit the transaction, as far as saga transactions and expiries go. -/
def Txn.MadeBy : Txn → Label → Prop
  | .phase i _ _, l => ∃ input, l = .settle i input
  | .expire _, l => ∃ i fault now, l = .scan i fault now
  | _, _ => True

/-- A transaction that is not one of those the books look at. -/
def Txn.plain : Txn → Bool
  | .note _ | .expire _ | .other => true
  | _ => false

/-- The system as its invariants see it. -/
structure Bank where
  db : DB
  progress : ℕ → Option Progress
  snapshots : Set OfflineToken
  history : List Commit

namespace Bank

/-- What can happen to the database and to the calls. -/
inductive Effect (b b' : Bank) : Option Txn → Prop where
  | quiet {txn : Option Txn} (hplain : ∀ t ∈ txn, Txn.plain t = true) (hdb : b.db.Calm b'.db)
      (hnone : txn = none → b'.db = b.db) (hprogress : b'.progress = b.progress)
      (hrows : ∀ txnID row, txn ≠ some (.expire txnID) →
        b.db.paymentIntents.find? txnID = some row → b'.db.paymentIntents.find? txnID = some row) :
      Effect b b' txn
  | begin {i : ℕ} {o : Order} (hnew : b.progress i = none) (hdb : b'.db = b.db)
      (hprogress : b'.progress = Function.update b.progress i (some ⟨o, 0, 0⟩))
      (htoken : b.db.offlineTokens.find? o.payload.tokenID = some o.token) : Effect b b' none
  | createAccount (row : AccountBalance) (hnew : b.db.accountBalances.find? row.accountID = none)
      (hreserved : row.reservedBalance = 0)
      (hdb : b'.db = { b.db with accountBalances := b.db.accountBalances.insert row })
      (hprogress : b'.progress = b.progress) :
      Effect b b' (some (.createAccount row.accountID row.availableBalance))
  | issueToken {tok : OfflineToken} (hdb : Token.Issued b.db b'.db tok)
      (hprogress : b'.progress = b.progress) : Effect b b' (some (.issueToken tok))
  | phase {i : ℕ} {o : Order} {p : Saga.Phase} {input : Input} (before after : Progress)
      (hbefore : b.progress i = some before) (horder : before.order = o)
      (hadv : Progress.Advances before after p) (hdb : PhaseEffect o input b.db b'.db p)
      (hprogress : b'.progress = Function.update b.progress i (some after)) :
      Effect b b' (some (.phase i o p))
  | release {tok locked : OfflineToken} {now : Time} (htok : tok ∈ b.snapshots)
      (hdb : Token.Released b.db b'.db tok locked now) (hprogress : b'.progress = b.progress) :
      Effect b b' (some (.release tok))

/-- A move that changes no payment intent and writes quietly, or not at all. -/
theorem Effect.of_quiet {b b' : Bank} {txn : Option Txn} (hplain : ∀ t ∈ txn, Txn.plain t = true)
    (hdb : b.db.Quiet b'.db) (hnone : txn = none → b'.db = b.db)
    (hprogress : b'.progress = b.progress) :
    Effect b b' txn :=
  .quiet hplain hdb.toCalm hnone hprogress fun txnID row _ => hdb.rows txnID row

/-- One move, with the transaction it commits. -/
structure Step (b : Bank) (txn : Option Txn) (b' : Bank) : Prop where
  effect : Effect b b' txn
  history : b'.history = b.history ++ txn.toList.map (⟨·, b.db, b'.db⟩)
  snapshots : ∀ tok ∈ b'.snapshots, tok ∈ b.snapshots ∨ tok ∈ b.db.offlineTokens.rows

end Bank

namespace World

variable {E : Externals}

/-- The progress of a call, once it has an order. -/
def progress (w : World E) (i : ℕ) : Option Progress :=
  (w.calls[i]?).bind fun call => call.order.map fun o => ⟨o, call.saga.executed, call.saga.standing⟩

/-- What the invariants see of the system. -/
def bank (w : World E) : Bank where
  db := w.db
  progress := w.progress
  snapshots := { tok | ∃ pass ∈ w.passes, tok ∈ pass }
  history := w.history

/-- All calls are well-formed. -/
def CallsWf (w : World E) : Prop := ∀ call ∈ w.calls, call.Wf

theorem commits_eq {w : World E} {l : Label} {txn : Option Txn} {db' : DB}
    (h : (w.step l).history = w.history ++ txn.toList.map (⟨·, w.db, db'⟩)) :
    w.commits l = txn := by
  rw [commits, h, List.drop_left]
  cases txn <;> rfl

theorem progress_set {w w' : World E} {i : ℕ} {call call' : SettleCall}
    (hcall : w.calls[i]? = some call) (h : w'.calls = w.calls.set i call') :
    w'.progress = Function.update w.progress i
      (call'.order.map fun o => ⟨o, call'.saga.executed, call'.saga.standing⟩) := by
  funext j
  have hi : i < w.calls.length := (List.getElem?_eq_some_iff.mp hcall).1
  by_cases hj : j = i
  · subst hj
    rw [Function.update_self, progress, h, List.getElem?_set_self hi, Option.bind_some]
  · rw [Function.update_of_ne hj, progress, h, List.getElem?_set_ne (Ne.symm hj), progress]

theorem progress_of_call {w : World E} {i : ℕ} {call : SettleCall}
    (hcall : w.calls[i]? = some call) :
    w.progress i = call.order.map fun o => ⟨o, call.saga.executed, call.saga.standing⟩ := by
  rw [progress, hcall, Option.bind_some]

/-- A move that touches neither calls nor passes and writes quietly, or not at all. -/
theorem runOther_refines (w : World E) {fault : Option GoError} {body : DBTx Unit}
    (hbody : Keeps DB.Quiet body) :
    ∃ txn, Bank.Step w.bank txn (w.runOther fault body).bank ∧
      (w.runOther fault body).calls = w.calls := by
  unfold runOther
  split
  · next db' htx =>
    obtain ⟨-, hok⟩ := withTx_ok.mp htx
    exact ⟨some .other, ⟨.of_quiet (by simp [Txn.plain]) (hbody _ _ _ hok) (by simp) rfl, rfl,
      fun tok h => .inl h⟩, rfl⟩
  · exact ⟨none, ⟨.of_quiet (by simp) (DB.Quiet.refl _) (fun _ => rfl) rfl, by simp,
      fun tok h => .inl h⟩, rfl⟩

/-- A move that changes nothing but where an actor stands. -/
theorem idle_refines {w w' : World E} (hdb : w'.db = w.db) (hprogress : w'.progress = w.progress)
    (hhistory : w'.history = w.history)
    (hpasses : ∀ tok, (∃ pass ∈ w'.passes, tok ∈ pass) →
      (∃ pass ∈ w.passes, tok ∈ pass) ∨ tok ∈ w.db.offlineTokens.rows) :
    Bank.Step w.bank none w'.bank where
  effect := .of_quiet (by simp) (show w.db.Quiet w'.db from hdb ▸ DB.Quiet.refl _) (fun _ => hdb)
    hprogress
  history := by simp [bank, hhistory]
  snapshots := hpasses

theorem createAccount_refines (w : World E) (accountID : String) (initialBalance : Int64)
    (fault : Option GoError) (now : Time) :
    ∃ txn, Bank.Step w.bank txn (w.createAccount accountID initialBalance fault now).bank ∧
      (w.createAccount accountID initialBalance fault now).calls = w.calls := by
  unfold createAccount
  split
  · next db' htx =>
    obtain ⟨-, hok⟩ := withTx_ok.mp htx
    obtain ⟨-, h₀, rfl⟩ := createAccount_ok.mp hok
    split
    · next hnew =>
      exact ⟨_, ⟨.createAccount ⟨accountID, _, _, now, h₀, _⟩ hnew rfl rfl rfl, rfl,
        fun tok h => .inl h⟩, rfl⟩
    · next hold =>
      -- the insert is `ON CONFLICT DO NOTHING`
      have hsame : ∀ row : AccountBalance, row.accountID = accountID →
          w.db.accountBalances.insert row = w.db.accountBalances := by
        rintro row rfl
        exact dif_neg hold
      rw [hsame _ rfl]
      exact ⟨some .other, ⟨.of_quiet (by simp [Txn.plain]) (DB.Quiet.refl _) (by simp) rfl, rfl,
        fun tok h => .inl h⟩, rfl⟩
  · exact ⟨none, idle_refines rfl rfl rfl fun tok h => .inl h, rfl⟩

theorem issueToken_refines (w : World E) (ownerID : String) (value duration : Int64)
    (tokenID : String) (faults : Token.IssueFaults) (now : Time) :
    ∃ txn, Bank.Step w.bank txn (w.issueToken ownerID value duration tokenID faults now).bank ∧
      (w.issueToken ownerID value duration tokenID faults now).calls = w.calls := by
  unfold issueToken
  split
  · next tok db' h =>
    exact ⟨_, ⟨.issueToken (Token.issueToken_ok h) rfl, rfl, fun tok h => .inl h⟩, rfl⟩
  · next e db' h =>
    exact ⟨some .other, ⟨.of_quiet (by simp [Txn.plain]) (Token.issueToken_error h) (by simp) rfl, rfl,
      fun tok h => .inl h⟩, rfl⟩

theorem release_refines (w : World E) (j : ℕ) (fault : Option GoError) (now : Time) :
    ∃ txn, Bank.Step w.bank txn (w.release j fault now).bank ∧
      (w.release j fault now).calls = w.calls := by
  unfold release
  split
  · exact ⟨none, idle_refines rfl rfl rfl fun tok h => .inl h, rfl⟩
  · exact ⟨none, idle_refines rfl rfl rfl fun tok h => .inl h, rfl⟩
  · next tok rest hpass =>
    have hmem : tok :: rest ∈ w.passes := List.mem_of_getElem? hpass
    -- what is left of the pass was in it before
    have hleft : ∀ tok', (∃ pass ∈ w.passes.set j rest, tok' ∈ pass) →
        ∃ pass ∈ w.passes, tok' ∈ pass := by
      rintro tok' ⟨pass, hp, htok'⟩
      rcases List.mem_or_eq_of_mem_set hp with hp | rfl
      · exact ⟨pass, hp, htok'⟩
      · exact ⟨_, hmem, List.mem_cons_of_mem _ htok'⟩
    dsimp only
    split
    · next db' htx =>
      obtain ⟨-, hok⟩ := withTx_ok.mp htx
      rcases Token.releaseExpired_ok hok with ⟨h, -⟩ | ⟨-, locked, hrel⟩
      · exact absurd h (by simp)
      · exact ⟨_, ⟨.release ⟨_, hmem, List.mem_cons_self⟩ hrel rfl, rfl,
          fun tok' h => .inl (hleft tok' h)⟩, rfl⟩
    · next db' htx =>
      obtain ⟨-, hok⟩ := withTx_ok.mp htx
      rcases Token.releaseExpired_ok hok with ⟨-, rfl⟩ | ⟨h, -⟩
      · exact ⟨none, idle_refines rfl rfl rfl fun tok' h => .inl (hleft tok' h), rfl⟩
      · exact absurd h (by simp)
    · exact ⟨none, idle_refines rfl rfl rfl fun tok' h => .inl (hleft tok' h), rfl⟩

theorem scan_refines (w : World E) (j : ℕ) (fault : Option GoError) (now : Time) :
    ∃ txn, Bank.Step w.bank txn (w.scan j fault now).bank ∧ (w.scan j fault now).calls = w.calls := by
  unfold scan
  split
  · exact ⟨none, idle_refines rfl rfl rfl fun tok h => .inl h, rfl⟩
  · exact ⟨none, idle_refines rfl rfl rfl fun tok h => .inl h, rfl⟩
  · next intent rest hscan =>
    dsimp only
    split
    · split
      · next db' htx =>
        obtain ⟨hcalm, hother⟩ := updatePaymentIntentStatus_expired_calm (withTx_ok.mp htx).2
        refine ⟨some (.expire intent.txnID), ⟨.quiet (by simp [Txn.plain]) hcalm (by simp) rfl ?_,
          rfl, fun tok h => .inl h⟩, rfl⟩
        intro txnID row hne hrow
        have ht : txnID ≠ intent.txnID := by
          rintro rfl
          exact hne rfl
        exact (hother txnID ht).trans hrow
      · exact ⟨none, idle_refines rfl rfl rfl fun tok h => .inl h, rfl⟩
    · exact ⟨none, idle_refines rfl rfl rfl fun tok h => .inl h, rfl⟩

theorem settle_refines {w : World E} (hwf : w.CallsWf) (i : ℕ) (input : Input) :
    ∃ txn, Bank.Step w.bank txn (w.settle i input).bank ∧ (w.settle i input).CallsWf := by
  unfold settle
  split
  · exact ⟨none, idle_refines rfl rfl rfl fun tok h => .inl h, hwf⟩
  · next call hcall =>
    generalize hstep : call.step E input w.db w.risk = r
    obtain ⟨call', db', risk', wrote⟩ := r
    obtain ⟨hmoved, hwf'⟩ := SettleCall.step_cases (hwf call (List.mem_of_getElem? hcall)) hstep
    have hcalls : ∀ c ∈ w.calls.set i call', c.Wf := by
      intro c hc
      rcases List.mem_or_eq_of_mem_set hc with hc | rfl
      · exact hwf c hc
      · exact hwf'
    have hset : ∀ w' : World E, w'.calls = w.calls.set i call' → w'.progress
        = Function.update w.progress i
          (call'.order.map fun o => ⟨o, call'.saga.executed, call'.saga.standing⟩) :=
      fun w' => progress_set hcall
    have hkeep : call'.order = call.order → call'.saga.executed = call.saga.executed →
        call'.saga.standing = call.saga.standing →
        ∀ w' : World E, w'.calls = w.calls.set i call' → w'.progress = w.progress := by
      intro h₁ h₂ h₃ w' h
      rw [hset w' h, h₁, h₂, h₃, ← progress_of_call hcall, Function.update_eq_self]
    cases hmoved with
    | quiet hwrote hdb hnone horder hex hst =>
      rcases hwrote with rfl | rfl
      · exact ⟨none, idle_refines (hnone rfl) (hkeep horder hex hst _ rfl) rfl
          fun tok h => .inl h, hcalls⟩
      · exact ⟨some (.note i), ⟨.of_quiet (by simp [Txn.plain]) hdb (by simp)
          (hkeep horder hex hst _ rfl), rfl, fun tok h => .inl h⟩, hcalls⟩
    | @begin o hdb horder horder' hsaga htoken =>
      refine ⟨none, ⟨.begin (i := i) (o := o) ?_ hdb ?_ htoken, by simp [bank], fun tok h => .inl h⟩,
        hcalls⟩
      · show w.progress i = none
        rw [progress_of_call hcall, horder, Option.map_none]
      · show World.progress _ = _
        rw [hset _ rfl, horder', hsaga]
        rfl
    | @phase o p horder horder' hadv heffect =>
      have hbefore : w.progress i = some ⟨o, call.saga.executed, call.saga.standing⟩ := by
        rw [progress_of_call hcall, horder, Option.map_some]
      refine ⟨some (.phase i o p), ⟨.phase _ ⟨o, call'.saga.executed, call'.saga.standing⟩ hbefore rfl
        ?_ heffect ?_, rfl, fun tok h => .inl h⟩, hcalls⟩
      · refine ⟨rfl, ?_⟩
        cases p <;> exact hadv
      · show World.progress _ = _
        rw [hset _ rfl, horder', Option.map_some]
        rfl

/-- Every move of the system is a step of the bank. -/
theorem step_refines {w : World E} (hwf : w.CallsWf) (l : Label) :
    Bank.Step w.bank (w.commits l) (w.step l).bank ∧ (w.step l).CallsWf := by
  have hstep : ∃ txn, Bank.Step w.bank txn (w.step l).bank ∧ (w.step l).CallsWf := by
    have hcalls : ∀ {w' : World E}, (∃ txn, Bank.Step w.bank txn w'.bank ∧ w'.calls = w.calls) →
        ∃ txn, Bank.Step w.bank txn w'.bank ∧ w'.CallsWf := by
      rintro w' ⟨txn, h, hc⟩
      exact ⟨txn, h, fun call hcall => hwf call (hc ▸ hcall)⟩
    cases l with
    | createAccount accountID initialBalance fault now =>
      exact hcalls (createAccount_refines w _ _ _ _)
    | registerDevice dev fault => exact hcalls (runOther_refines w (createDevice_quiet dev))
    | updateDeviceStatus deviceID status fault now =>
      exact hcalls (runOther_refines w (updateDeviceStatus_quiet _ _ _))
    | attestDevice att fault =>
      exact hcalls (runOther_refines w (createDeviceAttestation_quiet att))
    | issueToken ownerID value duration tokenID faults now =>
      exact hcalls (issueToken_refines w _ _ _ _ _ _)
    | startSettle env hopCount =>
      refine ⟨none, idle_refines rfl ?_ rfl fun tok h => .inl h, ?_⟩
      · -- the new call has no order yet
        funext i
        simp only [progress, step, List.getElem?_append]
        split
        · rfl
        · next hi =>
          rw [List.getElem?_eq_none (not_lt.mp hi)]
          rcases hk : i - w.calls.length with _ | k <;> simp
      · intro call hcall
        rcases List.mem_append.mp hcall with hcall | hcall
        · exact hwf call hcall
        · rw [List.mem_singleton.mp hcall]
          exact ⟨rfl, rfl⟩
    | settle i input => exact settle_refines hwf i input
    | startRelease now =>
      refine hcalls ⟨none, idle_refines rfl rfl rfl ?_, rfl⟩
      rintro tok ⟨pass, hpass, htok⟩
      rcases List.mem_append.mp hpass with hpass | hpass
      · exact .inl ⟨pass, hpass, htok⟩
      · rw [List.mem_singleton.mp hpass] at htok
        exact .inr (List.mem_filter.mp htok).1
    | release j fault now => exact hcalls (release_refines w j fault now)
    | startScan now => exact hcalls ⟨none, idle_refines rfl rfl rfl fun tok h => .inl h, rfl⟩
    | scan j fault now => exact hcalls (scan_refines w j fault now)
  obtain ⟨txn, h, hwf'⟩ := hstep
  obtain rfl : w.commits l = txn := commits_eq h.history
  exact ⟨h, hwf'⟩

theorem madeBy_of_commits {w : World E} {l : Label} {txn : Txn} (h : w.commits l = some txn) :
    txn.MadeBy l := by
  have hother : ∀ fault body, w.step l = w.runOther fault body → txn.MadeBy l := by
    intro fault body hstep
    rw [commits, hstep, runOther] at h
    split at h
    · obtain rfl : .other = txn := by simpa [commit] using h
      trivial
    · simp at h
  cases l with
  | settle i input =>
    cases hcall : w.calls[i]? with
    | none => simp [commits, step, settle, hcall] at h
    | some call =>
      simp only [commits, step, settle, hcall] at h
      split at h
      · simp at h
      · obtain rfl : .note i = txn := by simpa [commit] using h
        trivial
      · next o p _ =>
        obtain rfl : .phase i o p = txn := by simpa [commit] using h
        exact ⟨input, rfl⟩
  | scan i fault now =>
    simp only [commits, step, scan] at h
    split at h
    · simp at h
    · simp at h
    · next intent rest hscan =>
      split at h
      · split at h
        · obtain rfl : .expire intent.txnID = txn := by simpa [commit] using h
          exact ⟨i, fault, now, rfl⟩
        · simp at h
      · simp at h
  | createAccount accountID initialBalance fault now =>
    simp only [commits, step, createAccount] at h
    split at h
    · split at h
      · obtain rfl : .createAccount accountID _ = txn := by simpa [commit] using h
        trivial
      · obtain rfl : .other = txn := by simpa [commit] using h
        trivial
    · simp at h
  | registerDevice dev fault => exact hother _ _ rfl
  | updateDeviceStatus deviceID status fault now => exact hother _ _ rfl
  | attestDevice att fault => exact hother _ _ rfl
  | issueToken ownerID value duration tokenID faults now =>
    simp only [commits, step, issueToken] at h
    split at h
    · obtain rfl : .issueToken _ = txn := by simpa [commit] using h
      trivial
    · obtain rfl : .other = txn := by simpa [commit] using h
      trivial
  | startSettle env hopCount => simp [commits, step] at h
  | startRelease now => simp [commits, step] at h
  | startScan now => simp [commits, step] at h
  | release i fault now =>
    simp only [commits, step, release] at h
    split at h
    · simp at h
    · simp at h
    · split at h
      · obtain rfl : .release _ = txn := by simpa [commit] using h
        trivial
      · simp at h
      · simp at h

/-- A saga transaction is committed by a step of its call, with the input of that step. -/
theorem phase_of_commits {w : World E} (hwf : w.CallsWf) {l : Label} {i : ℕ} {o : Order}
    {p : Saga.Phase} (h : w.commits l = some (.phase i o p)) :
    ∃ input, l = .settle i input ∧ PhaseEffect o input w.db (w.step l).db p := by
  obtain ⟨input, rfl⟩ := madeBy_of_commits h
  refine ⟨input, rfl, ?_⟩
  cases hcall : w.calls[i]? with
  | none => simp [commits, step, settle, hcall] at h
  | some call =>
    generalize hstep : call.step E input w.db w.risk = r
    obtain ⟨call', db', risk', wrote⟩ := r
    have hmoved := (SettleCall.step_cases (hwf call (List.mem_of_getElem? hcall)) hstep).1
    simp only [commits, step, settle, hcall, hstep] at h ⊢
    cases wrote with
    | none => simp at h
    | some wrote =>
      cases wrote with
      | note => simp [commit] at h
      | phase o' p' =>
        obtain ⟨rfl, rfl⟩ : o' = o ∧ p' = p := by simpa [commit] using h
        cases hmoved with
        | quiet hwrote => simp at hwrote
        | phase horder horder' hadv heffect => exact heffect

/-- What every allowed step of the bank keeps holds after every run whose moves are allowed. -/
theorem bank_invariant {I : Bank → Prop} {P : World E → Label → Prop}
    (hstep : ∀ (w : World E) (l : Label), I w.bank → P w l →
      Bank.Step w.bank (w.commits l) (w.step l).bank → I (w.step l).bank)
    {w : World E} {ls : List Label} (hwf : w.CallsWf) (hI : I w.bank) (hP : Steps P w ls) :
    I (w.exec ls).bank ∧ (w.exec ls).CallsWf := by
  refine Run.exec_invariant (I := fun w => I w.bank ∧ w.CallsWf) ?_ ⟨hI, hwf⟩ hP
  rintro w l ⟨hI, hwf⟩ hP
  obtain ⟨h, hwf'⟩ := step_refines hwf l
  exact ⟨hstep w l hI hP h, hwf'⟩

end World

end OfflinePay
