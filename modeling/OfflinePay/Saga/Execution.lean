import OfflinePay.Common.Run
import OfflinePay.Saga.Orchestrator

/-!
# Whole runs of the orchestrator

Reference: `internal/saga/saga.go`, `Execute` and `compensate`.

`Execution` is a run of `Execute` with nothing in between its transactions, over any state and any
list of steps. It keeps a log of the transactions that were tried. `RollsBack` says what
`compensate` tries: the compensations of the steps already done in reverse order, three tries each,
up to the first one that fails three times.

A step without a compensation is passed over, so its effect stays. `execute_correct` therefore asks
for more than inverse compensations before it says that a rollback leads back to the start: each
step that committed has a compensation or left the state as it was.
-/

namespace OfflinePay.Saga

open Tx

variable {ι σ : Type}

/-! ## The machine -/

/-- A transaction that the orchestrator tried. -/
structure Attempt (σ : Type) where
  phase : Phase
  committed : Bool
  before : σ
  after : σ

/-- What was tried, and whether it committed. -/
def Attempt.outcome (a : Attempt σ) : Phase × Bool := (a.phase, a.committed)

/-- The compensation of step `k`, if it has one. -/
def compensation? (steps : List (SagaStep ι σ)) (k : ℕ) : Option (ι → Tx σ GoError Unit) :=
  (steps[k]?).bind SagaStep.compensate

/-- The transaction that the next move tries, if it tries one. -/
def Pc.tries (steps : List (SagaStep ι σ)) : Pc → Option Phase
  | running k => (steps[k]?).map fun _ => .action k
  | compensating _ (r + 1) _ _ => (compensation? steps r).map fun _ => .compensation r
  | _ => none

/-- Where `Execute` stands, the state, and what was tried so far. -/
structure Execution (σ : Type) where
  pc : Pc
  state : σ
  log : List (Attempt σ)

namespace Execution

/-- `Execute` is about to start. -/
def start (s : σ) : Execution σ := ⟨.create, s, []⟩

/-- The next transaction; the input says whether it fails. -/
def step (tracking : Tx σ GoError Unit) (steps : List (SagaStep ι σ)) (e : Execution σ)
    (input : Option GoError × ι) : Execution σ :=
  let (pc, state, phase) := e.pc.step tracking steps input.1 input.2 e.state
  ⟨pc, state, e.log ++ ((e.pc.tries steps).map (⟨·, phase.isSome, e.state, state⟩)).toList⟩

/-- The run on these inputs. -/
abbrev exec (tracking : Tx σ GoError Unit) (steps : List (SagaStep ι σ)) (e : Execution σ)
    (inputs : List (Option GoError × ι)) : Execution σ :=
  Run.exec (step tracking steps) e inputs

/-- The attempts in order, without the states. -/
def outcomes (e : Execution σ) : List (Phase × Bool) := e.log.map Attempt.outcome

/-- The actions that committed, in the order in which they did. -/
def committedActions (e : Execution σ) : List ℕ :=
  e.outcomes.filterMap fun
    | (.action k, true) => some k
    | _ => none

/-! ## One move -/

variable {tracking : Tx σ GoError Unit} {steps : List (SagaStep ι σ)}

/-- Everything one move of a run can do, from the tracking row on. -/
inductive Moved (steps : List (SagaStep ι σ)) (input : ι) (e : Execution σ) :
    Execution σ → Prop where
  | acted {k : ℕ} {st : SagaStep ι σ} {s : σ} (hpc : e.pc = .running k) (hst : steps[k]? = some st)
      (hs : st.action input e.state = .ok ((), s)) :
      Moved steps input e ⟨.running (k + 1), s, e.log ++ [⟨.action k, true, e.state, s⟩]⟩
  | aborted {k : ℕ} {st : SagaStep ι σ} {err : GoError} (hpc : e.pc = .running k)
      (hst : steps[k]? = some st) :
      Moved steps input e
        ⟨.compensating k k 1 err, e.state, e.log ++ [⟨.action k, false, e.state, e.state⟩]⟩
  | completed {k : ℕ} (hpc : e.pc = .running k) (hk : steps[k]? = none) :
      Moved steps input e ⟨.done k k none, e.state, e.log⟩
  | skipped {executed r attempt : ℕ} {err : GoError}
      (hpc : e.pc = .compensating executed (r + 1) attempt err)
      (hc : compensation? steps r = none) :
      Moved steps input e ⟨.compensating executed r 1 err, e.state, e.log⟩
  | compensated {executed r attempt : ℕ} {err : GoError} {compensate : ι → Tx σ GoError Unit}
      {s : σ} (hpc : e.pc = .compensating executed (r + 1) attempt err)
      (hc : compensation? steps r = some compensate) (hs : compensate input e.state = .ok ((), s)) :
      Moved steps input e
        ⟨.compensating executed r 1 err, s, e.log ++ [⟨.compensation r, true, e.state, s⟩]⟩
  | retried {executed r attempt : ℕ} {err : GoError}
      (hpc : e.pc = .compensating executed (r + 1) attempt err) (hc : compensation? steps r ≠ none)
      (hlt : attempt < maxRetries) :
      Moved steps input e ⟨.compensating executed (r + 1) (attempt + 1) err, e.state,
        e.log ++ [⟨.compensation r, false, e.state, e.state⟩]⟩
  | abandoned {executed r attempt : ℕ} {err : GoError}
      (hpc : e.pc = .compensating executed (r + 1) attempt err) (hc : compensation? steps r ≠ none)
      (hge : ¬attempt < maxRetries) :
      Moved steps input e ⟨.done executed (r + 1) (some err), e.state,
        e.log ++ [⟨.compensation r, false, e.state, e.state⟩]⟩
  | rolledBack {executed attempt : ℕ} {err : GoError}
      (hpc : e.pc = .compensating executed 0 attempt err) :
      Moved steps input e ⟨.done executed 0 (some err), e.state, e.log⟩
  | returned (hpc : e.pc.result? ≠ none) : Moved steps input e e

theorem step_moved (e : Execution σ) (input : Option GoError × ι) (hpc : e.pc ≠ .create) :
    Moved steps input.2 e (e.step tracking steps input) := by
  obtain ⟨pc, s, log⟩ := e
  cases pc with
  | create => exact absurd rfl hpc
  | running k =>
    simp only [step, Pc.step, Pc.tries]
    cases hst : steps[k]? with
    | none => simpa using Moved.completed (e := ⟨_, s, log⟩) rfl hst
    | some st =>
      dsimp only
      split
      · next err s' htx =>
        obtain rfl := withTx_error htx
        exact .aborted rfl hst
      · next s' htx => exact .acted rfl hst (withTx_ok.mp htx).2
  | compensating executed remaining attempt err =>
    cases remaining with
    | zero => simpa [step, Pc.step, Pc.tries] using Moved.rolledBack (e := ⟨_, s, log⟩) rfl
    | succ r =>
      simp only [step, Pc.step, Pc.tries, compensation?]
      cases hc : (steps[r]?).bind SagaStep.compensate with
      | none => simpa using Moved.skipped (e := ⟨_, s, log⟩) rfl hc
      | some compensate =>
        have hsome : compensation? steps r ≠ none := by simp [compensation?, hc]
        dsimp only
        split
        · next s' htx => exact .compensated rfl hc (withTx_ok.mp htx).2
        · next err' s' htx =>
          obtain rfl := withTx_error htx
          split
          · next hlt => exact .retried rfl hsome hlt
          · next hge => exact .abandoned rfl hsome hge
  | done executed standing err =>
    have hresult : (Pc.done executed standing err).result? ≠ none := Option.some_ne_none _
    simpa [step, Pc.step, Pc.tries]
      using Moved.returned (e := ⟨.done executed standing err, s, log⟩) hresult

end Execution

/-! ## What is tried -/

/-- Actions `0` to `k - 1` committed, each once and in order. -/
def forward (k : ℕ) : List (Phase × Bool) := (List.range k).map fun i => (.action i, true)

/-- What `compensate` tries when `k` steps are done, and whether it gave up. -/
inductive RollsBack (steps : List (SagaStep ι σ)) : ℕ → List (Phase × Bool) → Bool → Prop where
  | finished : RollsBack steps 0 [] false
  | skipped {r : ℕ} {rest : List (Phase × Bool)} {gaveUp : Bool} (hc : compensation? steps r = none)
      (hrest : RollsBack steps r rest gaveUp) : RollsBack steps (r + 1) rest gaveUp
  | compensated {r failures : ℕ} {rest : List (Phase × Bool)} {gaveUp : Bool}
      (hc : compensation? steps r ≠ none) (hlt : failures < maxRetries)
      (hrest : RollsBack steps r rest gaveUp) :
      RollsBack steps (r + 1)
        (List.replicate failures (.compensation r, false) ++ (.compensation r, true) :: rest) gaveUp
  | abandoned {r : ℕ} (hc : compensation? steps r ≠ none) :
      RollsBack steps (r + 1) (List.replicate maxRetries (.compensation r, false)) true

/-- A rollback tries nothing but compensations. -/
theorem RollsBack.not_action {steps : List (SagaStep ι σ)} {k : ℕ} {back : List (Phase × Bool)}
    {gaveUp : Bool} (h : RollsBack steps k back gaveUp) (i : ℕ) (b : Bool) :
    (.action i, b) ∉ back := by
  induction h with
  | finished => exact List.not_mem_nil
  | skipped _ _ ih => exact ih
  | compensated _ _ _ ih => simpa using ih
  | abandoned _ => simp

/-- A rollback in which no compensation fails does not give up. -/
theorem RollsBack.finished_of_not_failed {steps : List (SagaStep ι σ)} {k : ℕ}
    {back : List (Phase × Bool)} {gaveUp : Bool} (h : RollsBack steps k back gaveUp)
    (hnone : ∀ r, (.compensation r, false) ∉ back) : gaveUp = false := by
  induction h with
  | finished => rfl
  | skipped _ _ ih => exact ih hnone
  | compensated _ _ _ ih => exact ih fun r hr => hnone r (by simp [hr])
  | @abandoned r _ => exact absurd (by simp [maxRetries]) (hnone r)

/-- The rollback from `executed` steps has got to the compensation below `remaining`, which has
failed `attempt - 1` times. -/
structure RollingBack (steps : List (SagaStep ι σ)) (executed remaining attempt : ℕ)
    (back : List (Phase × Bool)) : Prop where
  exists_split : ∃ earlier failures, attempt = failures + 1 ∧ failures < maxRetries ∧
    back = earlier ++ List.replicate failures (.compensation (remaining - 1), false) ∧
    (failures ≠ 0 → compensation? steps (remaining - 1) ≠ none ∧ remaining ≠ 0) ∧
    ∀ rest gaveUp, RollsBack steps remaining rest gaveUp →
      RollsBack steps executed (earlier ++ rest) gaveUp

namespace RollingBack

variable {steps : List (SagaStep ι σ)} {executed r attempt : ℕ} {back : List (Phase × Bool)}

theorem begins (steps : List (SagaStep ι σ)) (executed : ℕ) :
    RollingBack steps executed executed 1 [] :=
  ⟨[], 0, rfl, by decide, rfl, fun h => absurd rfl h, fun _ _ h => h⟩

theorem finishes (h : RollingBack steps executed 0 attempt back) :
    RollsBack steps executed back false := by
  obtain ⟨earlier, failures, -, -, rfl, hfailures, hrest⟩ := h.exists_split
  obtain rfl : failures = 0 := by
    by_contra hne
    exact (hfailures hne).2 rfl
  exact hrest [] false .finished

theorem skips (h : RollingBack steps executed (r + 1) attempt back)
    (hc : compensation? steps r = none) :
    RollingBack steps executed r 1 back := by
  obtain ⟨earlier, failures, -, -, rfl, hfailures, hrest⟩ := h.exists_split
  obtain rfl : failures = 0 := by
    by_contra hne
    exact (hfailures hne).1 hc
  exact ⟨earlier, 0, rfl, by decide, rfl, fun h => absurd rfl h,
    fun rest gaveUp h => hrest rest gaveUp (.skipped hc h)⟩

theorem compensates (h : RollingBack steps executed (r + 1) attempt back)
    (hc : compensation? steps r ≠ none) :
    RollingBack steps executed r 1 (back ++ [(.compensation r, true)]) := by
  obtain ⟨earlier, failures, -, hlt, rfl, -, hrest⟩ := h.exists_split
  refine ⟨_, 0, rfl, by decide, (List.append_nil _).symm, fun h => absurd rfl h, fun rest gaveUp h => ?_⟩
  have hnext := hrest _ gaveUp (.compensated hc hlt h)
  simpa using hnext

theorem retries (h : RollingBack steps executed (r + 1) attempt back)
    (hc : compensation? steps r ≠ none) (hlt : attempt < maxRetries) :
    RollingBack steps executed (r + 1) (attempt + 1) (back ++ [(.compensation r, false)]) := by
  obtain ⟨earlier, failures, rfl, -, rfl, -, hrest⟩ := h.exists_split
  refine ⟨earlier, failures + 1, rfl, hlt, ?_, fun _ => ⟨hc, Nat.succ_ne_zero r⟩, hrest⟩
  rw [List.append_assoc, List.replicate_succ', Nat.add_sub_cancel]

theorem gives_up (h : RollingBack steps executed (r + 1) attempt back)
    (hc : compensation? steps r ≠ none) (hge : ¬attempt < maxRetries) :
    RollsBack steps executed (back ++ [(.compensation r, false)]) true := by
  obtain ⟨earlier, failures, rfl, hlt, rfl, -, hrest⟩ := h.exists_split
  have hthree : failures + 1 = maxRetries := by omega
  have hnext := hrest _ true (.abandoned hc)
  rwa [← hthree, List.replicate_succ', ← List.append_assoc] at hnext

end RollingBack

namespace Execution

variable {tracking : Tx σ GoError Unit} {steps : List (SagaStep ι σ)}

/-- The log of a run whose tracking row is there, by where the run stands. -/
def Recorded (steps : List (SagaStep ι σ)) (e : Execution σ) : Prop :=
  match e.pc with
  | .create => False
  | .running k => k ≤ steps.length ∧ e.outcomes = forward k
  | .compensating executed remaining attempt _ => executed < steps.length ∧
    ∃ back, e.outcomes = forward executed ++ (.action executed, false) :: back ∧
      RollingBack steps executed remaining attempt back
  | .done _ _ none => e.outcomes = forward steps.length
  | .done executed standing (some _) => executed < steps.length ∧
    ∃ back, e.outcomes = forward executed ++ (.action executed, false) :: back ∧
      RollsBack steps executed back (standing != 0)

theorem outcomes_concat (pc : Pc) (s : σ) (log : List (Attempt σ)) (a : Attempt σ) :
    (⟨pc, s, log ++ [a]⟩ : Execution σ).outcomes = log.map Attempt.outcome ++ [a.outcome] :=
  List.map_append

/-- One more attempt of a rollback. -/
theorem outcomes_tried {pc : Pc} {s : σ} {log : List (Attempt σ)} {front back : List (Phase × Bool)}
    {failed : Phase × Bool} (h : (⟨pc, s, log⟩ : Execution σ).outcomes = front ++ failed :: back)
    (pc' : Pc) (s' : σ) (a : Attempt σ) :
    (⟨pc', s', log ++ [a]⟩ : Execution σ).outcomes = front ++ failed :: (back ++ [a.outcome]) := by
  rw [outcomes_concat]
  exact (congrArg (· ++ [a.outcome]) h).trans (List.append_assoc _ _ _)

theorem Recorded.moved {e e' : Execution σ} {input : ι} (h : e.Recorded steps)
    (hmoved : Moved steps input e e') : e'.Recorded steps := by
  obtain ⟨pc, s, log⟩ := e
  cases hmoved with
  | @acted k st s' hpc hst =>
    obtain rfl : pc = .running k := hpc
    refine ⟨(List.getElem?_eq_some_iff.mp hst).1, ?_⟩
    rw [outcomes_concat, forward, List.range_succ, List.map_append]
    exact congrArg (· ++ _) h.2
  | @aborted k st err hpc hst =>
    obtain rfl : pc = .running k := hpc
    refine ⟨(List.getElem?_eq_some_iff.mp hst).1, [], ?_, .begins steps k⟩
    rw [outcomes_concat]
    exact congrArg (· ++ _) h.2
  | @completed k hpc hk =>
    obtain rfl : pc = .running k := hpc
    obtain rfl : k = steps.length := le_antisymm h.1 (List.getElem?_eq_none_iff.mp hk)
    exact h.2
  | skipped hpc hc =>
    subst hpc
    obtain ⟨hlt, back, hlog, hback⟩ := h
    exact ⟨hlt, back, hlog, hback.skips hc⟩
  | compensated hpc hc =>
    subst hpc
    obtain ⟨hlt, back, hlog, hback⟩ := h
    exact ⟨hlt, _, outcomes_tried hlog _ _ _, hback.compensates (by simp [hc])⟩
  | retried hpc hc hattempt =>
    subst hpc
    obtain ⟨hlt, back, hlog, hback⟩ := h
    exact ⟨hlt, _, outcomes_tried hlog _ _ _, hback.retries hc hattempt⟩
  | abandoned hpc hc hattempt =>
    subst hpc
    obtain ⟨hlt, back, hlog, hback⟩ := h
    exact ⟨hlt, _, outcomes_tried hlog _ _ _, hback.gives_up hc hattempt⟩
  | rolledBack hpc =>
    subst hpc
    obtain ⟨hlt, back, hlog, hback⟩ := h
    exact ⟨hlt, back, hlog, hback.finishes⟩
  | returned => exact h

/-! ## What the states are -/

/-- Each compensation that commits takes what its action made back to what it started from. -/
def Reverts (steps : List (SagaStep ι σ)) (log : List (Attempt σ)) : Prop :=
  ∀ a ∈ log, ∀ k compensate, a.outcome = (.action k, true) → compensation? steps k = some compensate →
    ∀ input s, compensate input a.after = .ok ((), s) → s = a.before

/-- An action without a compensation left the state as it was. -/
def Covered (steps : List (SagaStep ι σ)) (log : List (Attempt σ)) : Prop :=
  ∀ a ∈ log, ∀ k, a.outcome = (.action k, true) → compensation? steps k = none → a.after = a.before

/-- `t 0`, `t 1`, … are the states that the actions went through, and if the compensations revert
them, the rollback goes back through the same states. -/
def Aligned (steps : List (SagaStep ι σ)) (s₁ : σ) (e : Execution σ) : Prop :=
  ∃ t : ℕ → σ, t 0 = s₁ ∧
    (∀ i < e.pc.executed, (⟨.action i, true, t i, t (i + 1)⟩ : Attempt σ) ∈ e.log) ∧
    e.pc.standing ≤ e.pc.executed ∧
    (e.pc.error? = none ∨ Reverts steps e.log ∧ Covered steps e.log → e.state = t e.pc.standing)

theorem Reverts.of_append {log log' : List (Attempt σ)} (h : Reverts steps (log ++ log')) :
    Reverts steps log :=
  fun a ha => h a (List.mem_append_left _ ha)

theorem Covered.of_append {log log' : List (Attempt σ)} (h : Covered steps (log ++ log')) :
    Covered steps log :=
  fun a ha => h a (List.mem_append_left _ ha)

/-- The condition under which the rollback is followed, taken back to a shorter log. -/
theorem reverted_of_append {err : GoError} {log log' : List (Attempt σ)}
    (h : some err = none ∨ Reverts steps (log ++ log') ∧ Covered steps (log ++ log')) :
    some err = none ∨ Reverts steps log ∧ Covered steps log := by
  obtain ⟨hrev, hcov⟩ := h.resolve_left nofun
  exact .inr ⟨hrev.of_append, hcov.of_append⟩

theorem Aligned.moved {s₁ : σ} {e e' : Execution σ} {input : ι} (h : e.Aligned steps s₁)
    (hmoved : Moved steps input e e') : e'.Aligned steps s₁ := by
  obtain ⟨pc, s, log⟩ := e
  obtain ⟨t, ht, hlog, hle, hstate⟩ := h
  cases hmoved with
  | @acted k st s' hpc =>
    obtain rfl : pc = .running k := hpc
    obtain rfl : s = t k := hstate (.inl rfl)
    have hold : ∀ i ≤ k, Function.update t (k + 1) s' i = t i := fun i hi =>
      Function.update_of_ne (by omega) _ _
    refine ⟨Function.update t (k + 1) s', ?_, fun i hi => ?_, le_refl _, fun _ => ?_⟩
    · rw [hold 0 (Nat.zero_le k), ht]
    · obtain hlt | rfl := Nat.lt_succ_iff_lt_or_eq.mp hi
      · rw [hold i hlt.le, hold (i + 1) hlt]
        exact List.mem_append_left _ (hlog i hlt)
      · rw [hold i (le_refl i), Function.update_self]
        exact List.mem_append_right _ (List.mem_singleton_self _)
    · exact (Function.update_self (k + 1) s' t).symm
  | @aborted k st err hpc =>
    obtain rfl : pc = .running k := hpc
    exact ⟨t, ht, fun i hi => List.mem_append_left _ (hlog i hi), le_refl _, fun _ => hstate (.inl rfl)⟩
  | completed hpc =>
    subst hpc
    exact ⟨t, ht, hlog, le_refl _, fun _ => hstate (.inl rfl)⟩
  | @skipped executed r attempt err hpc hc =>
    subst hpc
    refine ⟨t, ht, hlog, Nat.le_of_succ_le hle, fun hreverts => ?_⟩
    have hsame := (hreverts.resolve_left nofun).2 _ (hlog r hle) r rfl hc
    exact (hstate (.inr (hreverts.resolve_left nofun))).trans hsame
  | @compensated executed r attempt err compensate s' hpc hc hs =>
    subst hpc
    refine ⟨t, ht, fun i hi => List.mem_append_left _ (hlog i hi), Nat.le_of_succ_le hle,
      fun hreverts => ?_⟩
    have hat : s = t (r + 1) := hstate (reverted_of_append hreverts)
    rw [hat] at hs
    exact (hreverts.resolve_left nofun).1.of_append _ (hlog r hle) r compensate rfl hc input s' hs
  | retried hpc | abandoned hpc =>
    subst hpc
    exact ⟨t, ht, fun i hi => List.mem_append_left _ (hlog i hi), hle, fun hreverts =>
      hstate (reverted_of_append hreverts)⟩
  | rolledBack hpc =>
    subst hpc
    exact ⟨t, ht, hlog, hle, fun hreverts => hstate (.inr (hreverts.resolve_left nofun))⟩
  | returned => exact ⟨t, ht, hlog, hle, hstate⟩

end Execution

/-! ## How long it takes -/

namespace Pc

/-- At most this many moves are left of a saga of `n` steps. -/
def rank (n : ℕ) : Pc → ℕ
  | create => 4 * n + 5
  | running k => 3 * n + 3 + (n + 1 - k)
  | compensating _ remaining attempt _ => 3 * remaining + (maxRetries - attempt) + 1
  | done _ _ _ => 0

theorem result?_of_rank {n : ℕ} {pc : Pc} (h : pc.rank n = 0) : pc.result? ≠ none := by
  cases pc with
  | done => nofun
  | _ => exact absurd h (by simp only [rank]; omega)

theorem rank_step (tracking : Tx σ GoError Unit) (steps : List (SagaStep ι σ))
    (fault : Option GoError) (input : ι) (pc : Pc) (s : σ) :
    (pc.step tracking steps fault input s).1.rank steps.length ≤ pc.rank steps.length - 1 := by
  match pc with
  | create =>
    simp only [step]
    split
    · exact Nat.zero_le _
    · simp only [rank]
      omega
  | running k =>
    simp only [step]
    split
    · exact Nat.zero_le _
    · next st hst =>
      have hk : k < steps.length := (List.getElem?_eq_some_iff.mp hst).1
      split
      · simp only [rank, maxRetries]
        omega
      · simp only [rank]
        omega
  | compensating executed 0 attempt err => exact Nat.zero_le _
  | compensating executed (r + 1) attempt err =>
    simp only [step]
    split
    · simp only [rank, maxRetries]
      omega
    · split
      · simp only [rank, maxRetries]
        omega
      · split
        · simp only [rank]
          omega
        · exact Nat.zero_le _
  | done executed standing err => exact Nat.zero_le _

end Pc

/-! ## What `Execute` does -/

namespace Execution

variable {tracking : Tx σ GoError Unit} {steps : List (SagaStep ι σ)}

theorem filterMap_forward (k : ℕ) :
    (forward k).filterMap (fun | (.action i, true) => some i | _ => none) = List.range k := by
  rw [forward, List.filterMap_map]
  exact List.filterMap_some

theorem Recorded.ne_create {e : Execution σ} (h : e.Recorded steps) : e.pc ≠ .create := by
  intro hpc
  rw [Recorded, hpc] at h
  exact h

variable (tracking steps) in
/-- A run with a tracking row keeps its log, and goes back the way it came. -/
theorem exec_invariants (s₁ : σ) (inputs : List (Option GoError × ι)) :
    ((⟨.running 0, s₁, []⟩ : Execution σ).exec tracking steps inputs).Recorded steps ∧
      ((⟨.running 0, s₁, []⟩ : Execution σ).exec tracking steps inputs).Aligned steps s₁ := by
  refine Run.exec_invariant (I := fun e : Execution σ => e.Recorded steps ∧ e.Aligned steps s₁)
    (fun e input h _ => ?_) ⟨⟨Nat.zero_le _, rfl⟩, ?_⟩ (Run.steps_true _ inputs)
  · have hmoved : Moved steps input.2 e (e.step tracking steps input) :=
      step_moved e input h.1.ne_create
    exact ⟨h.1.moved hmoved, h.2.moved hmoved⟩
  · exact ⟨fun _ => s₁, rfl, fun i hi => absurd hi (Nat.not_lt_zero i), le_refl _, fun _ => rfl⟩

variable (tracking steps) in
theorem rank_exec (e : Execution σ) (inputs : List (Option GoError × ι)) :
    (e.exec tracking steps inputs).pc.rank steps.length ≤ e.pc.rank steps.length - inputs.length :=
  Run.exec_measure (I := fun _ => True) (m := fun e : Execution σ => e.pc.rank steps.length)
    (fun e input _ => ⟨trivial, e.pc.rank_step tracking steps input.1 input.2 e.state⟩) trivial inputs

/-- A run that returned without an error committed all actions, each once and in order. -/
theorem Recorded.committedActions {e : Execution σ} (h : e.Recorded steps) {result : Option GoError}
    (hresult : e.pc.result? = some result) :
    result = none ↔ e.committedActions = List.range steps.length := by
  obtain ⟨pc, s, log⟩ := e
  match pc, hresult with
  | .done executed standing none, rfl =>
    refine iff_of_true rfl ?_
    rw [Execution.committedActions, show outcomes _ = forward steps.length from h, filterMap_forward]
  | .done executed standing (some err), rfl =>
    obtain ⟨hlt, back, hlog, hback⟩ := h
    refine iff_of_false nofun fun hall => ?_
    have hnone : back.filterMap (fun | (.action i, true) => some i | _ => none) = [] := by
      refine List.filterMap_eq_nil_iff.mpr fun o ho => ?_
      obtain ⟨phase, committed⟩ := o
      cases phase with
      | action i => exact absurd ho (hback.not_action i committed)
      | compensation i => rfl
    rw [Execution.committedActions, hlog, List.filterMap_append, filterMap_forward,
      List.filterMap_cons_none rfl, hnone, List.append_nil] at hall
    have hlen := congrArg List.length hall
    rw [List.length_range, List.length_range] at hlen
    omega

/-- A failed action is the one that the run stopped at. -/
theorem Recorded.failed {e : Execution σ} (h : e.Recorded steps) {result : Option GoError}
    (hresult : e.pc.result? = some result) {k : ℕ} (hk : (.action k, false) ∈ e.outcomes) :
    ∃ standing err back, e.pc = .done k standing (some err) ∧
      e.outcomes = forward k ++ (.action k, false) :: back ∧
      RollsBack steps k back (standing != 0) := by
  have hforward : ∀ n, (Phase.action k, false) ∉ forward n := fun n => by simp [forward]
  obtain ⟨pc, s, log⟩ := e
  match pc, hresult with
  | .done executed standing none, rfl =>
    rw [show outcomes _ = forward steps.length from h] at hk
    exact absurd hk (hforward _)
  | .done executed standing (some err), rfl =>
    obtain ⟨hlt, back, hlog, hback⟩ := h
    rw [hlog, List.mem_append, List.mem_cons] at hk
    obtain hk | hk | hk := hk
    · exact absurd hk (hforward _)
    · obtain rfl : k = executed := by simpa using hk
      exact ⟨standing, err, back, rfl, hlog, hback⟩
    · exact absurd hk (hback.not_action k false)

/-- `Execute`, for every list of steps over any state and every pattern of failures. If the tracking
row cannot be created, no action runs. Otherwise `Execute` returns; it returns `nil` exactly if all
actions committed, each once and in order; and if action `k` fails, the compensations of the steps
below `k` are tried as `RollsBack` says. If these revert their actions, the steps without one left
the state as it was, and no compensation is given up, then the state is the initial one again. -/
theorem execute_correct (tracking : Tx σ GoError Unit) (steps : List (SagaStep ι σ)) (s : σ)
    (input : Option GoError × ι) (inputs : List (Option GoError × ι)) (e : Execution σ)
    (he : e = (start s).exec tracking steps (input :: inputs)) :
    (∀ err s', withTx input.1 tracking s = (.error err, s') →
      e = ⟨.done 0 0 (some (err.wrap "failed to create saga tracking state: ")), s, []⟩) ∧
    ∀ s₁, withTx input.1 tracking s = (.ok (), s₁) →
      (4 * steps.length + 4 ≤ inputs.length → e.pc.result? ≠ none) ∧
      ∀ result, e.pc.result? = some result →
        (result = none ↔ e.committedActions = List.range steps.length) ∧
        ∀ k, (.action k, false) ∈ e.outcomes → ∃ back gaveUp,
          e.outcomes = forward k ++ (.action k, false) :: back ∧ RollsBack steps k back gaveUp ∧
          (Reverts steps e.log → Covered steps e.log → gaveUp = false → e.state = s₁) := by
  constructor
  · intro err s' htx
    obtain rfl := withTx_error htx
    have hfirst : (start s').step tracking steps input
        = ⟨.done 0 0 (some (err.wrap "failed to create saga tracking state: ")), s', []⟩ := by
      simp [start, step, Pc.step, Pc.tries, htx]
    rw [he, exec, Run.exec_cons, hfirst]
    refine Run.exec_invariant (I := (· = _)) (fun e input h _ => ?_) rfl (Run.steps_true _ inputs)
    rw [h]
    simp [step, Pc.step, Pc.tries]
  · intro s₁ htx
    have hfirst : (start s).step tracking steps input = ⟨.running 0, s₁, []⟩ := by
      simp [start, step, Pc.step, Pc.tries, htx]
    replace he : e = (⟨.running 0, s₁, []⟩ : Execution σ).exec tracking steps inputs := by
      rw [he, exec, Run.exec_cons, hfirst]
    obtain ⟨hrecorded, haligned⟩ := exec_invariants tracking steps s₁ inputs
    have hrank := rank_exec tracking steps ⟨.running 0, s₁, []⟩ inputs
    rw [← he] at hrecorded haligned hrank
    refine ⟨fun hlen => Pc.result?_of_rank (n := steps.length) ?_, fun result hresult =>
      ⟨hrecorded.committedActions hresult, fun k hk => ?_⟩⟩
    · change _ ≤ 3 * steps.length + 3 + (steps.length + 1 - 0) - inputs.length at hrank
      omega
    · obtain ⟨standing, err, back, hpc, hlog, hback⟩ := hrecorded.failed hresult hk
      refine ⟨back, _, hlog, hback, fun hreverts hcovered hfinished => ?_⟩
      obtain ⟨t, ht, -, -, hstate⟩ := haligned
      rw [hstate (.inr ⟨hreverts, hcovered⟩), hpc]
      obtain rfl : standing = 0 := by simpa using hfinished
      exact ht

end Execution

/-! ## Two sagas on a counter -/

/-- Add one, and take it back. -/
def addOne (compensate : Bool) : SagaStep Unit ℕ :=
  ⟨"ADD", fun _ n => .ok ((), n + 1), if compensate then some fun _ n => .ok ((), n - 1) else none⟩

/-- A step that always fails. -/
def refuse : SagaStep Unit ℕ := ⟨"REFUSE", fun _ _ => .error ⟨"refused", false⟩, none⟩

/-- A counter at `0` to which one is added before the saga fails. -/
def refused (compensate : Bool) : Execution ℕ :=
  (Execution.start 0).exec (pure ()) [addOne compensate, refuse] (List.replicate 13 (none, ()))

/-- With a compensation the counter is back at `0`. -/
theorem execute_correct_refused : (refused true).state = 0 := by
  obtain ⟨hdone, hall⟩ := (Execution.execute_correct (pure ()) [addOne true, refuse] 0 (none, ())
    (List.replicate 12 (none, ())) (refused true) rfl).2 0 rfl
  obtain ⟨result, hresult⟩ := Option.ne_none_iff_exists'.mp (hdone (by decide))
  obtain ⟨back, gaveUp, hlog, hback, hstate⟩ := (hall result hresult).2 1 (by decide)
  have hrun : (refused true).outcomes
      = forward 1 ++ (.action 1, false) :: [(.compensation 0, true)] := by decide
  obtain rfl := (List.cons.inj (List.append_cancel_left (hrun.symm.trans hlog))).2
  have hstates : (refused true).log = [⟨.action 0, true, 0, 1⟩, ⟨.action 1, false, 1, 1⟩,
      ⟨.compensation 0, true, 1, 0⟩] := rfl
  refine hstate ?_ ?_ (hback.finished_of_not_failed (by simp))
  · rw [hstates]
    rintro a ha k compensate hk hc input n hn
    obtain rfl | rfl | rfl : a = _ ∨ a = _ ∨ a = _ := by simpa using ha
    · cases hk
      cases hc
      cases hn
      rfl
    · cases hk
    · cases hk
  · rw [hstates]
    rintro a ha k hk hc
    obtain rfl | rfl | rfl : a = _ ∨ a = _ ∨ a = _ := by simpa using ha
    · cases hk
      cases hc
    · cases hk
    · cases hk

/-- Without one it stays at `1`, although no compensation fails to revert its action and none is
given up. -/
theorem uncompensated_stays :
    (refused false).pc.result? ≠ none ∧
      (refused false).outcomes = forward 1 ++ [(.action 1, false)] ∧
      RollsBack [addOne false, refuse] 1 [] false ∧
      Execution.Reverts [addOne false, refuse] (refused false).log ∧ (refused false).state = 1 := by
  have hnone : ∀ k, compensation? [addOne false, refuse] k = none
    | 0 | 1 | _ + 2 => rfl
  refine ⟨by decide, by decide, .skipped (hnone 0) .finished, ?_, rfl⟩
  intro a _ k compensate _ hc
  rw [hnone k] at hc
  cases hc

end OfflinePay.Saga
