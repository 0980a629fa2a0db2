import OfflinePay.Common.Tx
import OfflinePay.Domain.Models

/-!
# Saga orchestrator

Reference: `internal/saga/saga.go`.

`Execute` runs a list of steps, each in its own transaction, and after a failure runs the
compensations of the steps already done, in reverse order, three tries each. Other transactions may
run between any two of these, so the orchestrator is a machine: `Pc` is where `Execute` stands and
`Pc.step` runs its next transaction.

`Pc.executed` counts the steps that committed and `Pc.standing` those that are not compensated. A
transaction of the saga that commits is a `Phase`; `step_cases` says what any move does to the two
counters and to the state.
-/

namespace OfflinePay.Saga

open Tx

/-- `SagaStep`; `ι` is what a transaction reads besides the state (the clock, failed reads). -/
structure SagaStep (ι σ : Type) where
  name : String
  action : ι → Tx σ GoError Unit
  compensate : Option (ι → Tx σ GoError Unit)

/-- Tries of one compensation. -/
def maxRetries : ℕ := 3

/-- Where `Execute` stands. -/
inductive Pc where
  /-- About to insert the tracking row. -/
  | create
  /-- Steps below `k` are done, step `k` is next. -/
  | running (k : ℕ)
  /-- Step `executed` failed with `err`; the compensations from `remaining - 1` down to `0` are to
  run, the next try is number `attempt`. -/
  | compensating (executed remaining attempt : ℕ) (err : GoError)
  /-- Returned. -/
  | done (executed standing : ℕ) (err : Option GoError)
deriving DecidableEq

/-- A saga transaction that commits. -/
inductive Phase where
  | action (k : ℕ)
  | compensation (k : ℕ)
deriving DecidableEq

namespace Pc

/-- How many steps committed. -/
def executed : Pc → ℕ
  | create => 0
  | running k => k
  | compensating executed _ _ _ => executed
  | done executed _ _ => executed

/-- How many steps committed and are not compensated. -/
def standing : Pc → ℕ
  | create => 0
  | running k => k
  | compensating _ remaining _ _ => remaining
  | done _ standing _ => standing

/-- What `Execute` returned. -/
def result? : Pc → Option (Option GoError)
  | done _ _ err => some err
  | _ => none

variable {ι σ : Type}

/-- The next transaction of `Execute`, with the phase it committed, if any. -/
def step (tracking : Tx σ GoError Unit) (steps : List (SagaStep ι σ)) (fault : Option GoError)
    (input : ι) (pc : Pc) (s : σ) : Pc × σ × Option Phase :=
  match pc with
  | create =>
    match withTx fault tracking s with
    | (.error e, s') =>
      (done 0 0 (some (e.wrap "failed to create saga tracking state: ")), s', none)
    | (.ok (), s') => (running 0, s', none)
  | running k =>
    match steps[k]? with
    | none => (done k k none, s, none)
    | some st =>
      match withTx fault (st.action input) s with
      | (.error e, s') =>
        (compensating k k 1 (e.wrap ("saga aborted on step " ++ st.name ++ ": ")), s', none)
      | (.ok (), s') => (running (k + 1), s', some (.action k))
  | compensating executed 0 _ err => (done executed 0 (some err), s, none)
  | compensating executed (r + 1) attempt err =>
    match (steps[r]?).bind SagaStep.compensate with
    | none => (compensating executed r 1 err, s, none)
    | some compensate =>
      match withTx fault (compensate input) s with
      | (.ok (), s') => (compensating executed r 1 err, s', some (.compensation r))
      | (.error _, s') =>
        if attempt < maxRetries then (compensating executed (r + 1) (attempt + 1) err, s', none)
        else (done executed (r + 1) (some err), s', none)
  | done executed standing err => (done executed standing err, s, none)

/-- The counters fit together: only a saga that ran all `n` steps returns without an error, and only
one that did not is compensated. -/
def Wf (n : ℕ) : Pc → Prop
  | create => 0 < n
  | running k => k ≤ n
  | compensating executed remaining attempt _ =>
    remaining ≤ executed ∧ executed < n ∧ attempt ≤ maxRetries
  | done executed standing none => executed = n ∧ standing = n
  | done executed standing (some _) => standing ≤ executed ∧ executed < n

theorem Wf.standing_le {n : ℕ} {pc : Pc} (h : pc.Wf n) : pc.standing ≤ pc.executed := by
  match pc, h with
  | create, _ | running _, _ => exact le_refl _
  | compensating .., h => exact h.1
  | done _ _ none, h => exact (h.2.trans h.1.symm).le
  | done _ _ (some _), h => exact h.1

/-- A compensated saga stopped short. -/
theorem Wf.executed_lt {n : ℕ} {pc : Pc} (h : pc.Wf n) (hs : pc.standing < pc.executed) :
    pc.executed < n := by
  match pc, h with
  | create, _ | running _, _ => exact absurd hs (lt_irrefl _)
  | compensating .., h => exact h.2.1
  | done _ _ none, h => exact absurd hs (by simp [standing, executed, h.1, h.2])
  | done _ _ (some _), h => exact h.2

/-- What one move did to the counters and to the state. -/
inductive Moved (steps : List (SagaStep ι σ)) (fault : Option GoError) (input : ι) (pc : Pc) (s : σ)
    (pc' : Pc) (s' : σ) : Option Phase → Prop where
  | idle (hs : s' = s) (hex : pc'.executed = pc.executed) (hst : pc'.standing = pc.standing) :
      Moved steps fault input pc s pc' s' none
  | action {k : ℕ} {st : SagaStep ι σ} (hst : steps[k]? = some st) (hfault : fault = none)
      (hpc : pc = running k) (hpc' : pc' = running (k + 1))
      (hs : st.action input s = .ok ((), s')) :
      Moved steps fault input pc s pc' s' (some (.action k))
  | compensation {k : ℕ} {st : SagaStep ι σ} {compensate : ι → Tx σ GoError Unit}
      {executed attempt : ℕ} {err : GoError} (hst : steps[k]? = some st)
      (hc : st.compensate = some compensate) (hfault : fault = none)
      (hpc : pc = compensating executed (k + 1) attempt err)
      (hpc' : pc' = compensating executed k 1 err) (hs : compensate input s = .ok ((), s')) :
      Moved steps fault input pc s pc' s' (some (.compensation k))

/-- One move of a saga whose tracking statement does not touch the state and whose steps all have a
compensation. -/
theorem step_cases {tracking : Tx σ GoError Unit} {steps : List (SagaStep ι σ)}
    {fault : Option GoError} {input : ι} {pc pc' : Pc} {s s' : σ} {phase : Option Phase}
    (htrack : ∀ s s', tracking s = .ok ((), s') → s' = s)
    (hcomp : ∀ st ∈ steps, st.compensate ≠ none) (hwf : pc.Wf steps.length)
    (h : pc.step tracking steps fault input s = (pc', s', phase)) :
    Moved steps fault input pc s pc' s' phase ∧ pc'.Wf steps.length := by
  match pc, hwf with
  | create, hwf =>
    simp only [step] at h
    split at h
    · next e s₁ htx =>
      obtain ⟨rfl, rfl, rfl⟩ := by simpa only [Prod.mk.injEq] using h
      exact ⟨.idle (withTx_error htx) rfl rfl, le_refl _, hwf⟩
    · next s₁ htx =>
      obtain ⟨rfl, rfl, rfl⟩ := by simpa only [Prod.mk.injEq] using h
      exact ⟨.idle (htrack _ _ (withTx_ok.mp htx).2) rfl rfl, Nat.zero_le _⟩
  | running k, hwf =>
    simp only [step] at h
    split at h
    · next hk =>
      obtain ⟨rfl, rfl, rfl⟩ := by simpa only [Prod.mk.injEq] using h
      have hlen : k = steps.length := le_antisymm hwf (List.getElem?_eq_none_iff.mp hk)
      exact ⟨.idle rfl rfl rfl, hlen, hlen⟩
    · next st hk =>
      have hlt : k < steps.length := (List.getElem?_eq_some_iff.mp hk).1
      split at h
      · next e s₁ htx =>
        obtain ⟨rfl, rfl, rfl⟩ := by simpa only [Prod.mk.injEq] using h
        exact ⟨.idle (withTx_error htx) rfl rfl, le_refl _, hlt, by decide⟩
      · next s₁ htx =>
        obtain ⟨rfl, rfl, rfl⟩ := by simpa only [Prod.mk.injEq] using h
        obtain ⟨hf, hact⟩ := withTx_ok.mp htx
        exact ⟨.action hk hf rfl rfl hact, hlt⟩
  | compensating executed 0 attempt err, hwf =>
    obtain ⟨rfl, rfl, rfl⟩ := by simpa only [step, Prod.mk.injEq] using h
    exact ⟨.idle rfl rfl rfl, Nat.zero_le _, hwf.2.1⟩
  | compensating executed (r + 1) attempt err, hwf =>
    have hr : r < steps.length := lt_trans (lt_of_lt_of_le (Nat.lt_succ_self r) hwf.1) hwf.2.1
    obtain ⟨st, hst⟩ : ∃ st, steps[r]? = some st := ⟨_, List.getElem?_eq_getElem hr⟩
    obtain ⟨compensate, hc⟩ :=
      Option.ne_none_iff_exists'.mp (hcomp st (List.mem_of_getElem? hst))
    simp only [step, hst, Option.bind_some, hc] at h
    split at h
    · next s₁ htx =>
      obtain ⟨rfl, rfl, rfl⟩ := by simpa only [Prod.mk.injEq] using h
      obtain ⟨hf, hact⟩ := withTx_ok.mp htx
      exact ⟨.compensation hst hc hf rfl rfl hact, Nat.le_of_succ_le hwf.1, hwf.2.1, by decide⟩
    · next e s₁ htx =>
      split at h
      · next hatt =>
        obtain ⟨rfl, rfl, rfl⟩ := by simpa only [Prod.mk.injEq] using h
        exact ⟨.idle (withTx_error htx) rfl rfl, hwf.1, hwf.2.1, hatt⟩
      · obtain ⟨rfl, rfl, rfl⟩ := by simpa only [Prod.mk.injEq] using h
        exact ⟨.idle (withTx_error htx) rfl rfl, hwf.1, hwf.2.1⟩
  | done executed standing err, hwf =>
    obtain ⟨rfl, rfl, rfl⟩ := by simpa only [step, Prod.mk.injEq] using h
    exact ⟨.idle rfl rfl rfl, hwf⟩

/-- A saga that has just failed with steps standing gave up on the compensation of the last of them,
whose last try did not commit. -/
theorem step_gave_up {tracking : Tx σ GoError Unit} {steps : List (SagaStep ι σ)}
    {fault : Option GoError} {input : ι} {pc : Pc} {s : σ} {executed standing : ℕ} {err : GoError}
    (hcomp : ∀ st ∈ steps, st.compensate ≠ none) (hwf : pc.Wf steps.length)
    (hpc : pc.result? = none)
    (h : (pc.step tracking steps fault input s).1 = done executed (standing + 1) (some err)) :
    pc = compensating executed (standing + 1) maxRetries err ∧
      ∃ st compensate, steps[standing]? = some st ∧ st.compensate = some compensate ∧
        ∀ s', withTx fault (compensate input) s ≠ (.ok (), s') := by
  match pc, hwf with
  | create, _ =>
    simp only [step] at h
    split at h <;> simp at h
  | running k, _ =>
    simp only [step] at h
    split at h
    · simp at h
    · split at h <;> simp at h
  | compensating executed' 0 attempt err', _ => simp [step] at h
  | compensating executed' (r + 1) attempt err', hwf =>
    have hr : r < steps.length := lt_trans (lt_of_lt_of_le (Nat.lt_succ_self r) hwf.1) hwf.2.1
    obtain ⟨st, hst⟩ : ∃ st, steps[r]? = some st := ⟨_, List.getElem?_eq_getElem hr⟩
    obtain ⟨compensate, hc⟩ :=
      Option.ne_none_iff_exists'.mp (hcomp st (List.mem_of_getElem? hst))
    simp only [step, hst, Option.bind_some, hc] at h
    split at h
    · simp at h
    · next e s' htx =>
      split at h
      · simp at h
      · next hatt =>
        simp only [done.injEq, Nat.add_right_cancel_iff, Option.some.injEq] at h
        obtain ⟨rfl, rfl, rfl⟩ := h
        obtain rfl : attempt = maxRetries := le_antisymm hwf.2.2 (not_lt.mp hatt)
        refine ⟨rfl, st, compensate, hst, hc, fun s'' hok => ?_⟩
        rw [hok] at htx
        exact absurd (Prod.mk.inj htx).1 (by simp)
  | done _ _ _, _ => simp [result?] at hpc

/-- What the tracking statement, all actions and all compensations keep, every move keeps. -/
theorem step_keeps {R : σ → σ → Prop} [IsPreorder σ R] {tracking : Tx σ GoError Unit}
    {steps : List (SagaStep ι σ)} {input : ι} (htrack : Keeps R tracking)
    (hsteps : ∀ st ∈ steps, Keeps R (st.action input) ∧
      ∀ compensate ∈ st.compensate, Keeps R (compensate input))
    (fault : Option GoError) (pc : Pc) (s : σ) :
    R s (pc.step tracking steps fault input s).2.1 := by
  match pc with
  | create =>
    have hk := keeps_withTx htrack fault s
    simp only [step]
    split <;> next h => simpa [h] using hk
  | running k =>
    simp only [step]
    split
    · exact Std.Refl.refl s
    · next st hst =>
      have hk := keeps_withTx (hsteps st (List.mem_of_getElem? hst)).1 fault s
      split <;> next h => simpa [h] using hk
  | compensating executed 0 attempt err => exact Std.Refl.refl s
  | compensating executed (r + 1) attempt err =>
    simp only [step]
    split
    · exact Std.Refl.refl s
    · next compensate hc =>
      obtain ⟨st, hst, hcomp⟩ := Option.bind_eq_some_iff.mp hc
      have hk := keeps_withTx ((hsteps st (List.mem_of_getElem? hst)).2 compensate hcomp) fault s
      split
      · next h => simpa [h] using hk
      · next h => split <;> simpa [h] using hk
  | done executed standing err => exact Std.Refl.refl s

/-! ## The error of a saga -/

/-- The error that a failed saga returns. -/
def error? : Pc → Option GoError
  | compensating _ _ _ err => some err
  | done _ _ err => err
  | _ => none

section Error

variable {tracking : Tx σ GoError Unit} {steps : List (SagaStep ι σ)} {fault : Option GoError}
  {input : ι} {pc : Pc} {s : σ} {err : GoError}

/-- A failed saga keeps its error. -/
theorem error?_step (h : pc.error? = some err) :
    (pc.step tracking steps fault input s).1.error? = some err := by
  match pc with
  | create | running _ => cases h
  | compensating executed 0 attempt err' => exact h
  | compensating executed (r + 1) attempt err' =>
    simp only [step]
    split
    · exact h
    · split
      · exact h
      · split <;> exact h
  | done _ _ _ => exact h

/-- The error of a saga is the error of a transaction that did not commit: the tracking row's or
that of a step. -/
theorem error_of_step (h : pc.error? = none)
    (h' : (pc.step tracking steps fault input s).1.error? = some err) :
    (pc = create ∧ ∃ e s', withTx fault tracking s = (.error e, s') ∧
        err = e.wrap "failed to create saga tracking state: ") ∨
      ∃ k st e s', pc = running k ∧ steps[k]? = some st ∧
        withTx fault (st.action input) s = (.error e, s') ∧
        err = e.wrap ("saga aborted on step " ++ st.name ++ ": ") := by
  match pc with
  | create =>
    simp only [step] at h'
    split at h'
    · next e s' htx => exact .inl ⟨rfl, e, s', htx, (Option.some.inj h').symm⟩
    · cases h'
  | running k =>
    simp only [step] at h'
    split at h'
    · cases h'
    · next st hst =>
      split at h'
      · next e s' htx => exact .inr ⟨k, st, e, s', rfl, hst, htx, (Option.some.inj h').symm⟩
      · cases h'
  | compensating _ _ _ _ => cases h
  | done _ _ err' =>
    rw [show err' = none from h] at h'
    cases h'

variable (tracking steps fault input s) in
/-- A move of a saga that has not failed runs its next step or commits nothing. -/
theorem step_forward (h : pc.error? = none) :
    (∃ k, (pc.step tracking steps fault input s).2.2 = some (.action k) ∧ pc.executed = k ∧
        (pc.step tracking steps fault input s).1.executed = k + 1) ∨
      ((pc.step tracking steps fault input s).2.2 = none ∧
        (pc.step tracking steps fault input s).1.executed = pc.executed) := by
  match pc with
  | create =>
    simp only [step]
    split
    · exact .inr ⟨rfl, rfl⟩
    · exact .inr ⟨rfl, rfl⟩
  | running k =>
    simp only [step]
    split
    · exact .inr ⟨rfl, rfl⟩
    · split
      · exact .inr ⟨rfl, rfl⟩
      · exact .inl ⟨k, rfl, rfl, rfl⟩
  | compensating _ _ _ _ => cases h
  | done _ _ _ => exact .inr ⟨rfl, rfl⟩

end Error

/-! ## The same move on two related states -/

/-- No step has failed. -/
def Forward : Pc → Prop
  | compensating _ _ _ _ | done _ _ (some _) => False
  | _ => True

/-- A saga that has failed does not recover. -/
theorem forward_of_step {tracking : Tx σ GoError Unit} {steps : List (SagaStep ι σ)}
    {fault : Option GoError} {input : ι} {pc : Pc} {s : σ}
    (h : (pc.step tracking steps fault input s).1.Forward) : pc.Forward := by
  match pc with
  | create | running _ | done _ _ none => trivial
  | compensating executed 0 attempt err => exact h
  | compensating executed (r + 1) attempt err =>
    simp only [step] at h
    split at h
    · exact h
    · split at h
      · exact h
      · split at h <;> exact h
  | done _ _ (some _) => exact h

/-- As long as nothing fails, a saga makes the same move on every related state. -/
theorem step_follows {R : σ → σ → Prop} {tracking : Tx σ GoError Unit}
    {steps : List (SagaStep ι σ)} {fault : Option GoError} {input : ι} {pc : Pc} {s t : σ}
    (htrack : Follows R tracking) (hsteps : ∀ st ∈ steps, Follows R (st.action input)) (hR : R s t)
    (h : (pc.step tracking steps fault input s).1.Forward) :
    (pc.step tracking steps fault input t).1 = (pc.step tracking steps fault input s).1 ∧
      R (pc.step tracking steps fault input s).2.1 (pc.step tracking steps fault input t).2.1 := by
  match pc with
  | create =>
    simp only [step] at h ⊢
    split at h
    · exact h.elim
    · next s' htx =>
      obtain ⟨t', ht, hR'⟩ := follows_withTx htrack hR htx
      rw [ht]
      exact ⟨rfl, hR'⟩
  | running k =>
    simp only [step] at h ⊢
    split at h
    · exact ⟨rfl, hR⟩
    · next st hst =>
      split at h
      · exact h.elim
      · next s' htx =>
        obtain ⟨t', ht, hR'⟩ := follows_withTx (hsteps st (List.mem_of_getElem? hst)) hR htx
        rw [ht]
        exact ⟨rfl, hR'⟩
  | compensating executed remaining attempt err => exact (forward_of_step h).elim
  | done executed standing err => exact ⟨rfl, hR⟩

end Pc

end OfflinePay.Saga
