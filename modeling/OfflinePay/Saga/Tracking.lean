import OfflinePay.Saga.Execution
import OfflinePay.Store.Database

/-!
# Tracking rows

Reference: `internal/saga/saga.go`, `Execute` and `compensate`; `internal/repository/repository.go`,
`CreateSagaState` and `UpdateSagaState`.

`Execute` keeps a row of `saga_states` that says how far the saga has got. It is inserted before the
first step, and if that fails no step runs. From then on it is updated outside of the transactions of
the steps, and errors of these updates are dropped. `Stage` has the updates as moves of their own,
`Stage.pc` forgets them, and `move_simulates` says that what is left is the orchestrator of
`Saga.Execution`.

`Orchestrators` is any number of sagas at the same time over one database. Their moves alternate in
any order, and the rest of the system may change the state between them.
-/

namespace OfflinePay.Saga

open Tx

/-! ## The rows -/

inductive SagaStatus where
  | started
  | compensating
  | completed
  | failed
deriving DecidableEq

structure SagaState where
  sagaID : String
  txnID : String
  status : SagaStatus
  step : String
  updatedAt : Time
deriving DecidableEq

/-- What an update writes. -/
abbrev Entry := SagaStatus × String

def SagaState.entry (row : SagaState) : Entry := (row.status, row.step)

/-- The table `saga_states`. -/
abbrev SagaStates := Table SagaState.sagaID

/-- `CreateSagaState`. -/
def SagaStates.createSagaState (saga : SagaState) : Tx SagaStates GoError Unit := do
  check (Pg.varchar 100 saga.sagaID && Pg.varchar 100 saga.txnID) (Pg.valueTooLong 100)
  check (Pg.varchar 50 saga.step) (Pg.valueTooLong 50)
  let row ← view fun rows => rows.find? saga.sagaID
  check (row = none) (Pg.uniqueViolation "saga_states_pkey")
  write fun rows => rows.insert saga

/-- `UpdateSagaState`. Without a row there is nothing to update, which is no error. -/
def SagaStates.updateSagaState (sagaID : String) (status : SagaStatus) (step : String)
    (now : Time) : Tx SagaStates GoError Unit := do
  check (Pg.varchar 50 step) (Pg.valueTooLong 50)
  write fun rows =>
    match rows.find? sagaID with
    | none => rows
    | some row => rows.set { row with status, step, updatedAt := now }

theorem SagaStates.createSagaState_ok {saga : SagaState} {rows rows' : SagaStates}
    {fault : Option GoError} (h : withTx fault (createSagaState saga) rows = (.ok (), rows')) :
    rows.find? saga.sagaID = none ∧ rows' = rows.insert saga := by
  obtain ⟨-, hok⟩ := withTx_ok.mp h
  simp only [createSagaState, bind_ok, check_ok, view_ok, write_ok] at hok
  obtain ⟨_, _, ⟨-, rfl⟩, _, _, ⟨-, rfl⟩, row, _, ⟨hrow, rfl⟩, _, _, ⟨hnone, rfl⟩, rfl⟩ := hok
  exact ⟨hrow.trans hnone, rfl⟩

/-- Another row is left alone. -/
theorem SagaStates.updateSagaState_ne {sagaID id : String} (h : id ≠ sagaID) (fault : Option GoError)
    (entry : Entry) (now : Time) (rows : SagaStates) :
    (withTx fault (updateSagaState sagaID entry.1 entry.2 now) rows).2.find? id
      = rows.find? id := by
  cases hrun : withTx fault (updateSagaState sagaID entry.1 entry.2 now) rows with
  | mk result rows' =>
    cases result with
    | error e => rw [withTx_error hrun]
    | ok u =>
      obtain ⟨-, hok⟩ := withTx_ok.mp hrun
      simp only [updateSagaState, bind_ok, check_ok, write_ok] at hok
      obtain ⟨-, -, ⟨-, rfl⟩, rfl⟩ := hok
      dsimp only
      split
      · rfl
      · next row hrow =>
        have hkey : row.sagaID = sagaID := Table.key_of_find? hrow
        exact Table.find?_set_ne _ fun hid => h (hid.symm.trans hkey)

/-- The row gets the entry or stays as it is, and it gets it if nothing fails and the text fits. -/
theorem SagaStates.updateSagaState_self {sagaID : String} {rows : SagaStates} {row : SagaState}
    (hrow : rows.find? sagaID = some row) (fault : Option GoError) (entry : Entry) (now : Time) :
    ∃ row', (withTx fault (updateSagaState sagaID entry.1 entry.2 now) rows).2.find? sagaID
        = some row' ∧ row'.txnID = row.txnID ∧ (row'.entry = row.entry ∨ row'.entry = entry) ∧
      (fault = none → Pg.varchar 50 entry.2 → row'.entry = entry) := by
  have hkey : row.sagaID = sagaID := Table.key_of_find? hrow
  cases fault with
  | some e => exact ⟨row, by simpa [withTx] using hrow, rfl, .inl rfl, by simp⟩
  | none =>
    by_cases hfit : Pg.varchar 50 entry.2 = true
    · refine ⟨{ row with status := entry.1, step := entry.2, updatedAt := now }, ?_, rfl, .inr rfl,
        fun _ _ => rfl⟩
      have hok : updateSagaState sagaID entry.1 entry.2 now rows
          = .ok ((), rows.set { row with status := entry.1, step := entry.2, updatedAt := now }) := by
        simp only [updateSagaState, bind_ok, check_ok, write_ok]
        exact ⟨(), rows, ⟨hfit, rfl⟩, by rw [hrow]⟩
      simp only [withTx, hok]
      rw [← hkey] at hrow ⊢
      exact Table.find?_set_self hrow
    · refine ⟨row, ?_, rfl, .inl rfl, fun _ h => absurd h hfit⟩
      have herror : updateSagaState sagaID entry.1 entry.2 now rows
          = .error (Pg.valueTooLong 50) := by
        simp only [updateSagaState, bind_error, check_error]
        exact .inl ⟨hfit, trivial⟩
      simpa only [withTx, herror] using hrow

/-! ## One saga -/

/-- Where `Execute` stands. -/
inductive Stage where
  /-- About to insert the tracking row. -/
  | create
  /-- Returned, as the row could not be inserted. -/
  | untracked (err : GoError)
  /-- Steps below `k` are done; about to write that step `k` is next, or that the saga is done. -/
  | mark (k : ℕ)
  /-- About to run step `k`. -/
  | act (k : ℕ)
  /-- Step `executed` failed; about to write that the saga is rolled back. -/
  | rollback (executed : ℕ) (err : GoError)
  /-- The compensations from `remaining - 1` down to `0` are to run; once there are none left, that
  is written. -/
  | compensating (executed remaining attempt : ℕ) (err : GoError)
  /-- The compensation of step `r` failed three times; about to write that. -/
  | critical (executed r : ℕ) (err : GoError)
  /-- Returned. -/
  | done (executed standing : ℕ) (err : Option GoError)
deriving DecidableEq

namespace Stage

/-- The row was inserted. -/
def Tracked : Stage → Prop
  | create | untracked _ => False
  | _ => True

/-- Where the orchestrator stands if updates are left out. -/
def pc : Stage → Pc
  | create => .create
  | untracked err => .done 0 0 (some err)
  | mark k | act k => .running k
  | rollback executed err => .compensating executed executed 1 err
  | compensating executed remaining attempt err => .compensating executed remaining attempt err
  | critical executed r err => .done executed (r + 1) (some err)
  | done executed standing err => .done executed standing err

end Stage

variable {ι σ : Type}

/-- The name of step `k`. -/
def stepName (steps : List (SagaStep ι σ)) (k : ℕ) : String := (steps[k]?).elim "" SagaStep.name

/-- A call of `Execute`, with the transactions it has tried. -/
structure Tracked (ι σ : Type) where
  sagaID : String
  txnID : String
  steps : List (SagaStep ι σ)
  stage : Stage := .create
  log : List (Attempt σ) := []

namespace Tracked

/-- The next statement or transaction of `Execute`. -/
def move (fault : Option GoError) (input : ι) (now : Time) (t : Tracked ι σ) (s : σ)
    (rows : SagaStates) : Tracked ι σ × σ × SagaStates :=
  let update (status : SagaStatus) (step : String) : SagaStates :=
    (withTx fault (SagaStates.updateSagaState t.sagaID status step now) rows).2
  match t.stage with
  | .create =>
    match withTx fault (SagaStates.createSagaState ⟨t.sagaID, t.txnID, .started, "NONE", now⟩) rows with
    | (.error e, rows') =>
      ({ t with stage := .untracked (e.wrap "failed to create saga tracking state: ") }, s, rows')
    | (.ok (), rows') => ({ t with stage := .mark 0 }, s, rows')
  | .untracked _ => (t, s, rows)
  | .mark k =>
    match t.steps[k]? with
    | none => ({ t with stage := .done k k none }, s, update .completed "DONE")
    | some st => ({ t with stage := .act k }, s, update .started st.name)
  | .act k =>
    match t.steps[k]? with
    | none => (t, s, rows)  -- not reached: `mark k` has found a step
    | some st =>
      match withTx fault (st.action input) s with
      | (.error e, s') =>
        ({ t with
            stage := .rollback k (e.wrap ("saga aborted on step " ++ st.name ++ ": "))
            log := t.log ++ [⟨.action k, false, s, s'⟩] }, s', rows)
      | (.ok (), s') =>
        ({ t with stage := .mark (k + 1), log := t.log ++ [⟨.action k, true, s, s'⟩] }, s', rows)
  | .rollback executed err =>
    ({ t with stage := .compensating executed executed 1 err }, s, update .compensating "ROLLBACK")
  | .compensating executed 0 _ err =>
    ({ t with stage := .done executed 0 (some err) }, s, update .failed "COMPENSATED")
  | .compensating executed (r + 1) attempt err =>
    match compensation? t.steps r with
    | none => ({ t with stage := .compensating executed r 1 err }, s, rows)
    | some compensate =>
      match withTx fault (compensate input) s with
      | (.ok (), s') =>
        ({ t with
            stage := .compensating executed r 1 err
            log := t.log ++ [⟨.compensation r, true, s, s'⟩] }, s', rows)
      | (.error _, s') =>
        ({ t with
            stage := if attempt < maxRetries then .compensating executed (r + 1) (attempt + 1) err
              else .critical executed r err
            log := t.log ++ [⟨.compensation r, false, s, s'⟩] }, s', rows)
  | .critical executed r err =>
    ({ t with stage := .done executed (r + 1) (some err) }, s,
      update .failed ("CRITICAL_" ++ stepName t.steps r))
  | .done _ _ _ => (t, s, rows)

/-- The run without the updates. -/
def execution (t : Tracked ι σ) (s : σ) : Execution σ := ⟨t.stage.pc, s, t.log⟩

/-- What was tried, and whether it committed. -/
def outcomes (t : Tracked ι σ) : List (Phase × Bool) := t.log.map Attempt.outcome

theorem execution_outcomes (t : Tracked ι σ) (s : σ) : (t.execution s).outcomes = t.outcomes := rfl

theorem move_names (fault : Option GoError) (input : ι) (now : Time) (t : Tracked ι σ) (s : σ)
    (rows : SagaStates) :
    (t.move fault input now s rows).1.sagaID = t.sagaID ∧
      (t.move fault input now s rows).1.txnID = t.txnID ∧
      (t.move fault input now s rows).1.steps = t.steps := by
  unfold move
  dsimp only
  split
  · split <;> exact ⟨rfl, rfl, rfl⟩
  · exact ⟨rfl, rfl, rfl⟩
  · split <;> exact ⟨rfl, rfl, rfl⟩
  · split
    · exact ⟨rfl, rfl, rfl⟩
    · split <;> exact ⟨rfl, rfl, rfl⟩
  · exact ⟨rfl, rfl, rfl⟩
  · exact ⟨rfl, rfl, rfl⟩
  · split
    · exact ⟨rfl, rfl, rfl⟩
    · split <;> exact ⟨rfl, rfl, rfl⟩
  · exact ⟨rfl, rfl, rfl⟩
  · exact ⟨rfl, rfl, rfl⟩

/-- A move of a saga with a row is one of the orchestrator, or an update that the orchestrator
leaves out. -/
theorem move_simulates {t : Tracked ι σ} (ht : t.stage.Tracked) (fault : Option GoError) (input : ι)
    (now : Time) (s : σ) (rows : SagaStates) :
    (t.move fault input now s rows).1.stage.Tracked ∧
      ((t.move fault input now s rows).1.execution (t.move fault input now s rows).2.1
          = t.execution s ∨
        Execution.Moved t.steps input (t.execution s)
          ((t.move fault input now s rows).1.execution (t.move fault input now s rows).2.1)) := by
  obtain ⟨sagaID, txnID, steps, stage, log⟩ := t
  cases stage with
  | create | untracked => cases ht
  | mark k =>
    simp only [move]
    split
    · next hk => exact ⟨trivial, .inr (.completed rfl hk)⟩
    · exact ⟨trivial, .inl rfl⟩
  | act k =>
    simp only [move]
    split
    · exact ⟨trivial, .inl rfl⟩
    · next st hst =>
      split
      · next e s' htx =>
        obtain rfl := withTx_error htx
        exact ⟨trivial, .inr (.aborted rfl hst)⟩
      · next s' htx => exact ⟨trivial, .inr (.acted rfl hst (withTx_ok.mp htx).2)⟩
  | rollback executed err => exact ⟨trivial, .inl rfl⟩
  | compensating executed remaining attempt err =>
    cases remaining with
    | zero => exact ⟨trivial, .inr (.rolledBack rfl)⟩
    | succ r =>
      simp only [move]
      split
      · next hc => exact ⟨trivial, .inr (.skipped rfl hc)⟩
      · next compensate hc =>
        have hsome : compensation? steps r ≠ none := by simp [hc]
        split
        · next s' htx => exact ⟨trivial, .inr (.compensated rfl hc (withTx_ok.mp htx).2)⟩
        · next e s' htx =>
          obtain rfl := withTx_error htx
          by_cases hlt : attempt < maxRetries
          · simp only [if_pos hlt]
            exact ⟨trivial, .inr (.retried rfl hsome hlt)⟩
          · simp only [if_neg hlt]
            exact ⟨trivial, .inr (.abandoned rfl hsome hlt)⟩
  | critical executed r err => exact ⟨trivial, .inl rfl⟩
  | done executed standing err => exact ⟨trivial, .inl rfl⟩

/-! ## What a saga writes -/

/-- The entries of a saga that has announced the steps below `k`. -/
def begun (steps : List (SagaStep ι σ)) (k : ℕ) : List Entry :=
  (.started, "NONE") :: (steps.take k).map fun st => (.started, st.name)

/-- The entries that a saga has tried to write, in order. -/
def entries (steps : List (SagaStep ι σ)) : Stage → List Entry
  | .create | .untracked _ => []
  | .mark k => begun steps k
  | .act k => begun steps (k + 1)
  | .rollback executed _ => begun steps (executed + 1)
  | .compensating executed _ _ _ | .critical executed _ _ =>
    begun steps (executed + 1) ++ [(.compensating, "ROLLBACK")]
  | .done executed _ none => begun steps executed ++ [(.completed, "DONE")]
  | .done executed 0 (some _) =>
    begun steps (executed + 1) ++ [(.compensating, "ROLLBACK")] ++ [(.failed, "COMPENSATED")]
  | .done executed (r + 1) (some _) =>
    begun steps (executed + 1) ++ [(.compensating, "ROLLBACK")]
      ++ [(.failed, "CRITICAL_" ++ stepName steps r)]

theorem begun_succ {steps : List (SagaStep ι σ)} {k : ℕ} {st : SagaStep ι σ}
    (h : steps[k]? = some st) : begun steps (k + 1) = begun steps k ++ [(.started, st.name)] := by
  simp [begun, List.take_add_one, h]

/-- The next move updates the row. -/
def Updates (t : Tracked ι σ) : Prop :=
  match t.stage with
  | .mark _ | .rollback _ _ | .compensating _ 0 _ _ | .critical _ _ _ => True
  | _ => False

/-- A move of a saga with a row leaves the rows alone, or it tries to write the next entry. -/
theorem move_rows {t : Tracked ι σ} (ht : t.stage.Tracked) (fault : Option GoError) (input : ι)
    (now : Time) (s : σ) (rows : SagaStates) :
    ((t.move fault input now s rows).2.2 = rows ∧
        entries t.steps (t.move fault input now s rows).1.stage = entries t.steps t.stage) ∨
      ∃ entry : Entry, t.Updates ∧
        (t.move fault input now s rows).2.2
          = (withTx fault (SagaStates.updateSagaState t.sagaID entry.1 entry.2 now) rows).2 ∧
        entries t.steps (t.move fault input now s rows).1.stage
          = entries t.steps t.stage ++ [entry] := by
  obtain ⟨sagaID, txnID, steps, stage, log⟩ := t
  cases stage with
  | create | untracked => cases ht
  | mark k =>
    dsimp only [move]
    split
    · exact .inr ⟨(.completed, "DONE"), trivial, rfl, rfl⟩
    · next st hst => exact .inr ⟨(.started, st.name), trivial, rfl, begun_succ hst⟩
  | act k =>
    dsimp only [move]
    split
    · exact .inl ⟨rfl, rfl⟩
    · split <;> exact .inl ⟨rfl, rfl⟩
  | rollback executed err => exact .inr ⟨(.compensating, "ROLLBACK"), trivial, rfl, rfl⟩
  | compensating executed remaining attempt err =>
    cases remaining with
    | zero => exact .inr ⟨(.failed, "COMPENSATED"), trivial, rfl, rfl⟩
    | succ r =>
      dsimp only [move]
      split
      · exact .inl ⟨rfl, rfl⟩
      · split
        · exact .inl ⟨rfl, rfl⟩
        · by_cases hlt : attempt < maxRetries
          · rw [if_pos hlt]
            exact .inl ⟨rfl, rfl⟩
          · rw [if_neg hlt]
            exact .inl ⟨rfl, rfl⟩
  | critical executed r err =>
    exact .inr ⟨(.failed, "CRITICAL_" ++ stepName steps r), trivial, rfl, rfl⟩
  | done executed standing err => exact .inl ⟨rfl, rfl⟩

/-- A move from the start inserts the row under a fresh identifier, or it changes nothing. -/
theorem move_create {t : Tracked ι σ} (ht : ¬t.stage.Tracked) (fault : Option GoError) (input : ι)
    (now : Time) (s : σ) (rows : SagaStates) :
    (t.move fault input now s rows).2.1 = s ∧
      ((∃ err, (t.move fault input now s rows).1.stage = .untracked err) ∧
          (t.move fault input now s rows).2.2 = rows ∨
        t.stage = .create ∧ (t.move fault input now s rows).1 = { t with stage := .mark 0 } ∧
          rows.find? t.sagaID = none ∧
          (t.move fault input now s rows).2.2
            = rows.insert ⟨t.sagaID, t.txnID, .started, "NONE", now⟩) := by
  obtain ⟨sagaID, txnID, steps, stage, log⟩ := t
  cases stage with
  | create =>
    dsimp only [move]
    split
    · next e rows' htx => exact ⟨rfl, .inl ⟨⟨_, rfl⟩, withTx_error htx⟩⟩
    · next rows' htx =>
      obtain ⟨hfree, rfl⟩ := SagaStates.createSagaState_ok htx
      exact ⟨rfl, .inr ⟨rfl, rfl, hfree, rfl⟩⟩
  | untracked err => exact ⟨rfl, .inl ⟨⟨err, rfl⟩, rfl⟩⟩
  | _ => exact absurd trivial ht

/-- A row that is not that of the saga stays. -/
theorem move_frame {t : Tracked ι σ} {rows : SagaStates} {id : String} {row : SagaState}
    (hrow : rows.find? id = some row) (hne : t.stage.Tracked → id ≠ t.sagaID)
    (fault : Option GoError) (input : ι) (now : Time) (s : σ) :
    (t.move fault input now s rows).2.2.find? id = some row := by
  by_cases ht : t.stage.Tracked
  · rcases move_rows ht fault input now s rows with ⟨hrows, -⟩ | ⟨entry, -, hrows, -⟩
    · rw [hrows]
      exact hrow
    · rw [hrows, SagaStates.updateSagaState_ne (hne ht)]
      exact hrow
  · rcases (move_create ht fault input now s rows).2 with ⟨-, hrows⟩ | ⟨-, -, -, hrows⟩
    · rw [hrows]
      exact hrow
    · rw [hrows]
      exact Table.find?_insert_of_find? hrow

end Tracked

/-! ## Sagas at the same time -/

/-- Calls of `Execute` over one database. -/
structure Orchestrators (ι σ : Type) where
  state : σ
  sagaStates : SagaStates
  sagas : List (Tracked ι σ)

inductive Event (ι σ : Type) where
  | start (sagaID txnID : String) (steps : List (SagaStep ι σ))
  | move (i : ℕ) (fault : Option GoError) (input : ι) (now : Time)
  /-- The rest of the system leaves this state. -/
  | outside (s : σ)

namespace Orchestrators

def step (o : Orchestrators ι σ) : Event ι σ → Orchestrators ι σ
  | .start sagaID txnID steps => { o with sagas := o.sagas ++ [{ sagaID, txnID, steps }] }
  | .move i fault input now =>
    match o.sagas[i]? with
    | none => o
    | some t =>
      let (t', state, sagaStates) := t.move fault input now o.state o.sagaStates
      ⟨state, sagaStates, o.sagas.set i t'⟩
  | .outside s => { o with state := s }

abbrev exec (o : Orchestrators ι σ) (es : List (Event ι σ)) : Orchestrators ι σ := Run.exec step o es

end Orchestrators

end OfflinePay.Saga
