import OfflinePay.Saga.Tracking

/-!
# What a tracking row says

Reference: `internal/saga/saga.go`, `Execute` and `compensate`.

Updates of the row may be lost, so the row may lag behind its saga. It never runs ahead of it: what it
says has happened (`Truthful`), a final status is the last one, and if no update is lost it is exact
once `Execute` has returned. `Sound kept` is the invariant, where `kept` says whether no update was
lost so far.
-/

namespace OfflinePay.Saga

open Tx Tracked

variable {ι σ : Type}

/-- What the row says of its saga is so. -/
def SagaState.Truthful (row : SagaState) (t : Tracked ι σ) : Prop :=
  match row.status with
  | .started => row.step = "NONE" ∨ ∃ k st, t.steps[k]? = some st ∧ row.step = st.name ∧
      ∀ i < k, (.action i, true) ∈ t.outcomes
  | .compensating => row.step = "ROLLBACK" ∧ ∃ k, (.action k, false) ∈ t.outcomes
  | .completed => row.step = "DONE" ∧ t.stage.pc.result? = some none ∧
      t.outcomes = forward t.steps.length
  | .failed => ∃ k standing err back, t.stage = .done k standing (some err) ∧
      t.outcomes = forward k ++ (.action k, false) :: back ∧
      RollsBack t.steps k back (standing != 0) ∧
      row.step = if standing = 0 then "COMPENSATED" else "CRITICAL_" ++ stepName t.steps (standing - 1)

/-! ## Entries -/

theorem mem_forward {i k : ℕ} : (.action i, true) ∈ forward k ↔ i < k := by simp [forward]

theorem mem_begun {steps : List (SagaStep ι σ)} {m : ℕ} {e : Entry} (h : e ∈ begun steps m) :
    e = (.started, "NONE") ∨ ∃ k st, k < m ∧ steps[k]? = some st ∧ e = (.started, st.name) := by
  rcases List.mem_cons.mp h with h | h
  · exact .inl h
  · obtain ⟨st, hst, rfl⟩ := List.mem_map.mp h
    obtain ⟨k, hk⟩ := List.mem_iff_getElem?.mp hst
    rw [List.getElem?_take] at hk
    split at hk
    · next hlt => exact .inr ⟨k, st, hlt, hk, rfl⟩
    · cases hk

/-- A row that announces a step, when the steps before it have committed. -/
theorem truthful_of_begun {row : SagaState} {t : Tracked ι σ} {m : ℕ}
    (h : row.entry ∈ begun t.steps m)
    (hcommitted : ∀ i, i + 1 < m → i + 1 < t.steps.length → (.action i, true) ∈ t.outcomes) :
    row.Truthful t := by
  rcases mem_begun h with hentry | ⟨k, st, hk, hst, hentry⟩
  · obtain ⟨hstatus, hstep⟩ := Prod.mk.inj hentry
    simp only [SagaState.Truthful, hstatus]
    exact .inl hstep
  · obtain ⟨hstatus, hstep⟩ := Prod.mk.inj hentry
    have hlength := (List.getElem?_eq_some_iff.mp hst).1
    simp only [SagaState.Truthful, hstatus]
    exact .inr ⟨k, st, hst, hstep, fun i hi => hcommitted i (by omega) (by omega)⟩

/-- An announcement or the rollback, when the saga has failed at step `k`. -/
theorem truthful_of_failed {row : SagaState} {t : Tracked ι σ} {k : ℕ} {back : List (Phase × Bool)}
    (houtcomes : t.outcomes = forward k ++ (.action k, false) :: back)
    (h : row.entry ∈ begun t.steps (k + 1) ++ [(.compensating, "ROLLBACK")]) : row.Truthful t := by
  rcases List.mem_append.mp h with h | h
  · refine truthful_of_begun h fun i hi _ => ?_
    rw [houtcomes]
    exact List.mem_append_left _ (mem_forward.mpr (by omega))
  · obtain ⟨hstatus, hstep⟩ := Prod.mk.inj (List.mem_singleton.mp h)
    simp only [SagaState.Truthful, hstatus, houtcomes]
    exact ⟨hstep, k, by simp⟩

/-- Every entry that a saga has tried to write is truthful when it is there. -/
theorem truthful_of_mem_entries {row : SagaState} {t : Tracked ι σ} {s : σ}
    (hrecorded : (t.execution s).Recorded t.steps) (h : row.entry ∈ entries t.steps t.stage) :
    row.Truthful t := by
  obtain ⟨sagaID, txnID, steps, stage, log⟩ := t
  cases stage with
  | create | untracked => cases h
  | mark k =>
    obtain ⟨-, houtcomes⟩ := hrecorded
    refine truthful_of_begun h fun i hi _ => ?_
    rw [← execution_outcomes _ s, houtcomes]
    exact mem_forward.mpr (by omega)
  | act k =>
    obtain ⟨-, houtcomes⟩ := hrecorded
    refine truthful_of_begun h fun i hi _ => ?_
    rw [← execution_outcomes _ s, houtcomes]
    exact mem_forward.mpr (by omega)
  | rollback executed err =>
    obtain ⟨-, back, houtcomes, -⟩ := hrecorded
    exact truthful_of_failed houtcomes (List.mem_append_left _ h)
  | compensating executed remaining attempt err | critical executed r err =>
    obtain ⟨-, back, houtcomes, -⟩ := hrecorded
    exact truthful_of_failed houtcomes h
  | done executed standing err =>
    cases err with
    | none =>
      have houtcomes : Tracked.outcomes ⟨sagaID, txnID, steps, .done executed standing none, log⟩
          = forward steps.length := hrecorded
      rcases List.mem_append.mp h with h | h
      · refine truthful_of_begun h fun i _ hi => ?_
        rw [houtcomes]
        exact mem_forward.mpr (Nat.lt_of_succ_lt hi)
      · obtain ⟨hstatus, hstep⟩ := Prod.mk.inj (List.mem_singleton.mp h)
        simp only [SagaState.Truthful, hstatus]
        exact ⟨hstep, rfl, houtcomes⟩
    | some err =>
      obtain ⟨-, back, houtcomes, hback⟩ := hrecorded
      cases standing with
      | zero | succ r =>
        rcases List.mem_append.mp h with h | h
        · exact truthful_of_failed houtcomes h
        · obtain ⟨hstatus, hstep⟩ := Prod.mk.inj (List.mem_singleton.mp h)
          simp only [SagaState.Truthful, hstatus]
          exact ⟨executed, _, err, back, rfl, houtcomes, hback, hstep⟩

/-- A final status is that of a saga that has returned. -/
theorem SagaState.Truthful.returned {row : SagaState} {t : Tracked ι σ} (h : row.Truthful t)
    (hfinal : row.status = .completed ∨ row.status = .failed) :
    ∃ k standing err, t.stage = .done k standing err := by
  rcases hfinal with hstatus | hstatus
  · simp only [SagaState.Truthful, hstatus] at h
    obtain ⟨-, hresult, -⟩ := h
    cases hstage : t.stage with
    | done k standing err => exact ⟨k, standing, err, rfl⟩
    | _ =>
      rw [hstage] at hresult
      cases hresult
  · simp only [SagaState.Truthful, hstatus] at h
    obtain ⟨k, standing, err, -, hstage, -⟩ := h
    exact ⟨k, standing, some err, hstage⟩

/-- The last entry of a saga that has returned. -/
theorem status_of_getLast {row : SagaState} {t : Tracked ι σ}
    (h : (entries t.steps t.stage).getLast? = some row.entry) {result : Option GoError}
    (hresult : t.stage = .done t.stage.pc.executed t.stage.pc.standing result) :
    row.status = if result = none then .completed else .failed := by
  rw [hresult] at h
  cases result with
  | none =>
    rw [entries, List.getLast?_concat, Option.some.injEq] at h
    exact (Prod.mk.inj h).1.symm
  | some err =>
    cases hstanding : t.stage.pc.standing with
    | zero | succ r =>
      rw [hstanding, entries, List.getLast?_concat, Option.some.injEq] at h
      exact (Prod.mk.inj h).1.symm

/-! ## Lengths -/

/-- All texts about the step fit in their column. -/
def SagaStep.Fits (st : SagaStep ι σ) : Prop := Pg.varchar 50 ("CRITICAL_" ++ st.name) = true

theorem SagaStep.Fits.name {st : SagaStep ι σ} (h : st.Fits) : Pg.varchar 50 st.name = true := by
  simp only [SagaStep.Fits, Pg.varchar, String.length_append, String.toList_append,
    Bool.and_eq_true, decide_eq_true_eq, Bool.not_eq_true', List.contains_eq_mem,
    List.mem_append, decide_eq_false_iff_not, not_or] at h ⊢
  exact ⟨by omega, h.2.2⟩

theorem fits_of_mem_begun {steps : List (SagaStep ι σ)} (hfits : ∀ st ∈ steps, st.Fits) {m : ℕ}
    {e : Entry} (h : e ∈ begun steps m) : Pg.varchar 50 e.2 = true := by
  rcases mem_begun h with rfl | ⟨k, st, -, hst, rfl⟩
  · decide
  · exact (hfits st (List.mem_of_getElem? hst)).name

theorem fits_of_mem_entries {steps : List (SagaStep ι σ)} (hfits : ∀ st ∈ steps, st.Fits)
    (stage : Stage) {e : Entry} (h : e ∈ entries steps stage) : Pg.varchar 50 e.2 = true := by
  have hcritical : ∀ r, Pg.varchar 50 ("CRITICAL_" ++ stepName steps r) = true := by
    intro r
    unfold stepName
    cases hst : steps[r]? with
    | none =>
      rw [Option.elim_none]
      decide
    | some st => exact hfits st (List.mem_of_getElem? hst)
  have hrollback : ∀ m, e ∈ begun steps m ++ [(.compensating, "ROLLBACK")] →
      Pg.varchar 50 e.2 = true := by
    intro m hm
    rcases List.mem_append.mp hm with hm | hm
    · exact fits_of_mem_begun hfits hm
    · rw [List.mem_singleton.mp hm]
      decide
  cases stage with
  | create | untracked => cases h
  | mark | act | rollback => exact fits_of_mem_begun hfits h
  | compensating | critical => exact hrollback _ h
  | done executed standing err =>
    cases err with
    | none =>
      rcases List.mem_append.mp h with h | h
      · exact fits_of_mem_begun hfits h
      · rw [List.mem_singleton.mp h]
        decide
    | some err =>
      cases standing with
      | zero =>
        rcases List.mem_append.mp h with h | h
        · exact hrollback _ h
        · rw [List.mem_singleton.mp h]
          decide
      | succ r =>
        rcases List.mem_append.mp h with h | h
        · exact hrollback _ h
        · rw [List.mem_singleton.mp h]
          exact hcritical r

/-! ## Sagas at the same time -/

namespace Orchestrators

/-- No update is lost in this step, and the texts about a new saga fit. -/
def Keeps (o : Orchestrators ι σ) : Event ι σ → Prop
  | .start _ _ steps => ∀ st ∈ steps, st.Fits
  | .move i fault _ _ => ∀ t, o.sagas[i]? = some t → t.Updates → fault = none
  | .outside _ => True

/-- The saga has its row, with an entry that it has written, and with the last one if none was
lost. -/
structure Shown (kept : Prop) (rows : SagaStates) (t : Tracked ι σ) : Prop where
  recorded : ∀ s, (t.execution s).Recorded t.steps
  row : ∃ row, rows.find? t.sagaID = some row ∧ row.txnID = t.txnID ∧
    row.entry ∈ entries t.steps t.stage ∧
    (kept → (entries t.steps t.stage).getLast? = some row.entry)

/-- Every saga that was let past the start has its row, which is its own. -/
structure Sound (kept : Prop) (o : Orchestrators ι σ) : Prop where
  shown : ∀ t ∈ o.sagas, t.stage.Tracked → Shown kept o.sagaStates t
  fits : ∀ t ∈ o.sagas, kept → ∀ st ∈ t.steps, st.Fits
  fresh : ∀ t ∈ o.sagas, t.stage = .create → t.log = []
  distinct : ∀ (i j : ℕ) (t u : Tracked ι σ), o.sagas[i]? = some t → o.sagas[j]? = some u →
    t.stage.Tracked → u.stage.Tracked → t.sagaID = u.sagaID → i = j

theorem sound_of_nil (kept : Prop) {o : Orchestrators ι σ} (h : o.sagas = []) : o.Sound kept := by
  refine ⟨?_, ?_, ?_, ?_⟩ <;> simp [h]

/-- A move of the saga itself. -/
theorem Shown.move {kept : Prop} {rows : SagaStates} {t : Tracked ι σ} (h : Shown kept rows t)
    (ht : t.stage.Tracked) {fault : Option GoError} (hfits : kept → ∀ st ∈ t.steps, st.Fits)
    (hkept : kept → t.Updates → fault = none) (input : ι) (now : Time) (s : σ) :
    Shown kept (t.move fault input now s rows).2.2 (t.move fault input now s rows).1 := by
  obtain ⟨hid, htxn, hsteps⟩ := t.move_names fault input now s rows
  have hmoved := (move_simulates ht fault input now s rows).2
  have hrows := move_rows ht fault input now s rows
  generalize (t.move fault input now s rows) = m at hid htxn hsteps hmoved hrows ⊢
  obtain ⟨t', s', rows'⟩ := m
  dsimp only at *
  refine ⟨fun s₁ => ?_, ?_⟩
  · -- the state does not matter to what is recorded
    have hrecorded : (t'.execution s').Recorded t'.steps := by
      rw [hsteps]
      rcases hmoved with hsame | hmoved
      · rw [hsame]
        exact h.recorded s
      · exact (h.recorded s).moved hmoved
    exact hrecorded
  · obtain ⟨row, hrow, hrowTxn, hmem, hlast⟩ := h.row
    rw [hid, htxn, hsteps]
    rcases hrows with ⟨rfl, hentries⟩ | ⟨entry, hupdates, rfl, hentries⟩
    · rw [hentries]
      exact ⟨row, hrow, hrowTxn, hmem, hlast⟩
    · obtain ⟨row', hrow', hrowTxn', hentry, hwritten⟩ :=
        SagaStates.updateSagaState_self hrow fault entry now
      refine ⟨row', hrow', hrowTxn'.trans hrowTxn, ?_, fun hk => ?_⟩
      · rw [hentries, List.mem_append, List.mem_singleton]
        rcases hentry with hentry | hentry
        · exact .inl (hentry ▸ hmem)
        · exact .inr hentry
      · have hfit : Pg.varchar 50 entry.2 = true :=
          fits_of_mem_entries (hfits hk) t'.stage (by rw [hentries]; simp)
        rw [hentries, List.getLast?_concat, hwritten (hkept hk hupdates) hfit]

/-- A move of another saga. -/
theorem Shown.other {kept : Prop} {rows : SagaStates} {t u : Tracked ι σ} (h : Shown kept rows u)
    (hne : t.stage.Tracked → u.sagaID ≠ t.sagaID) (fault : Option GoError) (input : ι) (now : Time)
    (s : σ) : Shown kept (t.move fault input now s rows).2.2 u := by
  obtain ⟨row, hrow, hrest⟩ := h.row
  exact ⟨h.recorded, row, move_frame hrow hne fault input now s, hrest⟩

/-- The first move of a saga, if it gets its row. -/
theorem shown_of_created (kept : Prop) {t : Tracked ι σ} (hlog : t.log = []) {rows : SagaStates}
    (hfree : rows.find? t.sagaID = none) (now : Time) :
    Shown kept (rows.insert ⟨t.sagaID, t.txnID, .started, "NONE", now⟩)
      { t with stage := .mark 0 } := by
  refine ⟨fun s => ⟨Nat.zero_le _, ?_⟩, _, Table.find?_insert_self hfree, rfl, ?_, fun _ => rfl⟩
  · simp [Execution.outcomes, Tracked.execution, hlog, forward]
  · simp [entries, begun, SagaState.entry]

/-- A list of sagas after a move of one of them. -/
theorem getElem?_moved {sagas : List (Tracked ι σ)} {i j : ℕ} {t' u : Tracked ι σ}
    (h : (sagas.set i t')[j]? = some u) : i = j ∧ u = t' ∨ i ≠ j ∧ sagas[j]? = some u := by
  rw [List.getElem?_set] at h
  split at h
  · next hij =>
    split at h
    · exact .inl ⟨hij, (Option.some.inj h).symm⟩
    · cases h
  · next hij => exact .inr ⟨hij, h⟩

/-- A move of one saga among several. -/
theorem Sound.move {kept : Prop} {o : Orchestrators ι σ} (h : o.Sound kept) {i : ℕ} {t : Tracked ι σ}
    (ht : o.sagas[i]? = some t) {fault : Option GoError} (hkept : kept → t.Updates → fault = none)
    (input : ι) (now : Time) : (o.step (.move i fault input now)).Sound kept := by
  have hmem := List.mem_of_getElem? ht
  obtain ⟨hid, -, hsteps⟩ := t.move_names fault input now o.state o.sagaStates
  -- what holds of the one that moves
  have hself : (t.move fault input now o.state o.sagaStates).1.stage.Tracked →
      Shown kept (t.move fault input now o.state o.sagaStates).2.2
          (t.move fault input now o.state o.sagaStates).1 ∧
        (t.stage.Tracked ∨ o.sagaStates.find? t.sagaID = none) := by
    intro htracked
    by_cases hbefore : t.stage.Tracked
    · exact ⟨(h.shown t hmem hbefore).move hbefore (h.fits t hmem) hkept input now o.state,
        .inl hbefore⟩
    · rcases (move_create hbefore fault input now o.state o.sagaStates).2 with
        ⟨⟨err, hstage⟩, -⟩ | ⟨hcreate, hmoved, hfree, hrows⟩
      · rw [hstage] at htracked
        exact htracked.elim
      · rw [hmoved, hrows]
        exact ⟨shown_of_created kept (h.fresh t hmem hcreate) hfree now, .inr hfree⟩
  -- another saga with a row has another identifier
  have hne : ∀ j u, i ≠ j → o.sagas[j]? = some u → u.stage.Tracked →
      (t.move fault input now o.state o.sagaStates).1.stage.Tracked → u.sagaID ≠ t.sagaID := by
    intro j u hij hu hutracked htracked heq
    rcases (hself htracked).2 with hbefore | hfree
    · exact hij (h.distinct i j t u ht hu hbefore hutracked heq.symm)
    · obtain ⟨row, hrow, -⟩ := (h.shown u (List.mem_of_getElem? hu) hutracked).row
      rw [heq, hfree] at hrow
      cases hrow
  have hstays : t.stage.Tracked → (t.move fault input now o.state o.sagaStates).1.stage.Tracked :=
    fun hbefore => (move_simulates hbefore fault input now o.state o.sagaStates).1
  simp only [step, ht]
  refine ⟨?_, ?_, ?_, ?_⟩
  · intro u hu hutracked
    obtain ⟨j, hj⟩ := List.mem_iff_getElem?.mp hu
    rcases getElem?_moved hj with ⟨rfl, rfl⟩ | ⟨hij, hu⟩
    · exact (hself hutracked).1
    · exact (h.shown u (List.mem_of_getElem? hu) hutracked).other
        (fun hbefore => hne j u hij hu hutracked (hstays hbefore)) fault input now o.state
  · intro u hu
    rcases List.mem_or_eq_of_mem_set hu with hu | rfl
    · exact h.fits u hu
    · rw [hsteps]
      exact h.fits t hmem
  · intro u hu hcreate
    rcases List.mem_or_eq_of_mem_set hu with hu | rfl
    · exact h.fresh u hu hcreate
    · by_cases hbefore : t.stage.Tracked
      · have htracked := hstays hbefore
        rw [hcreate] at htracked
        exact htracked.elim
      · rcases (move_create hbefore fault input now o.state o.sagaStates).2 with
          ⟨⟨err, hstage⟩, -⟩ | ⟨-, hmoved, -⟩
        · rw [hstage] at hcreate
          cases hcreate
        · rw [hmoved] at hcreate
          cases hcreate
  · intro j k u v hu hv hutracked hvtracked heq
    rcases getElem?_moved hu with ⟨rfl, rfl⟩ | ⟨hij, hu⟩ <;>
      rcases getElem?_moved hv with ⟨rfl, rfl⟩ | ⟨hik, hv⟩
    · rfl
    · exact absurd (heq.symm.trans hid) (hne k v hik hv hvtracked hutracked)
    · exact absurd (heq.trans hid) (hne j u hij hu hutracked hvtracked)
    · exact h.distinct j k u v hu hv hutracked hvtracked heq

theorem Sound.step {kept : Prop} {o : Orchestrators ι σ} (h : o.Sound kept) {e : Event ι σ}
    (hkept : kept → o.Keeps e) : (o.step e).Sound kept := by
  cases e with
  | start sagaID txnID steps =>
    have hnew : ∀ (i : ℕ) (t : Tracked ι σ),
        (o.step (.start sagaID txnID steps)).sagas[i]? = some t → t.stage.Tracked →
          o.sagas[i]? = some t := by
      intro i t ht htracked
      rw [Orchestrators.step, List.getElem?_append] at ht
      split at ht
      · exact ht
      · obtain rfl := List.mem_singleton.mp (List.mem_of_getElem? ht)
        exact htracked.elim
    refine ⟨?_, ?_, ?_, ?_⟩
    · intro t ht htracked
      obtain ⟨i, hi⟩ := List.mem_iff_getElem?.mp ht
      exact h.shown t (List.mem_of_getElem? (hnew i t hi htracked)) htracked
    · intro t ht hk
      rcases List.mem_append.mp ht with ht | ht
      · exact h.fits t ht hk
      · obtain rfl := List.mem_singleton.mp ht
        exact hkept hk
    · intro t ht hcreate
      rcases List.mem_append.mp ht with ht | ht
      · exact h.fresh t ht hcreate
      · obtain rfl := List.mem_singleton.mp ht
        rfl
    · intro i j t u ht hu httracked hutracked
      exact h.distinct i j t u (hnew i t ht httracked) (hnew j u hu hutracked) httracked hutracked
  | move i fault input now =>
    cases ht : o.sagas[i]? with
    | none =>
      simp only [Orchestrators.step, ht]
      exact h
    | some t => exact h.move ht (fun hk => hkept hk t ht) input now
  | outside s => exact ⟨h.shown, h.fits, h.fresh, h.distinct⟩

/-- A saga that has returned stays where it is, with its row. -/
theorem Sound.returned {kept : Prop} {o : Orchestrators ι σ} (h : o.Sound kept) {i : ℕ}
    {t : Tracked ι σ} {k standing : ℕ} {err : Option GoError} {row : SagaState}
    (ht : o.sagas[i]? = some t) (hdone : t.stage = .done k standing err)
    (hrow : o.sagaStates.find? t.sagaID = some row) (e : Event ι σ) :
    (o.step e).sagas[i]? = some t ∧ (o.step e).sagaStates.find? t.sagaID = some row := by
  have hlt := (List.getElem?_eq_some_iff.mp ht).1
  have htracked : t.stage.Tracked := by
    rw [hdone]
    trivial
  cases e with
  | start sagaID txnID steps => exact ⟨(List.getElem?_append_left hlt).trans ht, hrow⟩
  | outside s => exact ⟨ht, hrow⟩
  | move j fault input now =>
    simp only [Orchestrators.step]
    cases hu : o.sagas[j]? with
    | none => exact ⟨ht, hrow⟩
    | some u =>
      dsimp only
      by_cases hij : j = i
      · subst hij
        obtain rfl := Option.some.inj (ht.symm.trans hu)
        have hsame : t.move fault input now o.state o.sagaStates = (t, o.state, o.sagaStates) := by
          simp only [Tracked.move, hdone]
        rw [hsame]
        exact ⟨List.getElem?_set_self hlt, hrow⟩
      · refine ⟨(List.getElem?_set_ne hij).trans ht, move_frame hrow (fun hutracked heq => ?_) _ _ _ _⟩
        exact hij (h.distinct i j t u ht hu htracked hutracked heq).symm

end Orchestrators

/-- For any number of sagas over one database, in every run and every order of their moves, and
whatever updates are lost: a saga that runs any step has its row, and what the row says is so. A row
that says `COMPLETED` or `FAILED` stays as it is. In a run that loses no update, the row of a saga
that has returned says `COMPLETED` if it returned `nil`, and `FAILED` otherwise. -/
theorem saga_row_truthful (o : Orchestrators ι σ) (hnone : o.sagas = []) (es : List (Event ι σ))
    (i : ℕ) (t : Tracked ι σ) (ht : (o.exec es).sagas[i]? = some t) (htracked : t.stage.Tracked) :
    ∃ row, (o.exec es).sagaStates.find? t.sagaID = some row ∧ row.txnID = t.txnID ∧ row.Truthful t ∧
      ((row.status = .completed ∨ row.status = .failed) →
        ∀ fs, (o.exec (es ++ fs)).sagaStates.find? t.sagaID = some row) ∧
      (Run.Steps Orchestrators.step Orchestrators.Keeps o es → ∀ k standing result,
        t.stage = .done k standing result →
          row.status = if result = none then .completed else .failed) := by
  have hsound : ∀ kept, (kept → Run.Steps Orchestrators.step Orchestrators.Keeps o es) →
      (o.exec es).Sound kept := by
    intro kept hkept
    refine Run.exec_invariant (I := Orchestrators.Sound kept) (P := fun o e => kept → o.Keeps e)
      (fun _ _ h he => h.step he) (Orchestrators.sound_of_nil kept hnone) ?_
    by_cases hk : kept
    · exact Run.steps_mono (fun _ _ he _ => he) (hkept hk)
    · exact Run.steps_mono (fun _ _ _ hk' => absurd hk' hk) (Run.steps_true o es)
  obtain ⟨hrecorded, row, hrow, htxn, hmem, -⟩ :=
    (hsound False False.elim).shown t (List.mem_of_getElem? ht) htracked
  have htruthful : row.Truthful t := truthful_of_mem_entries (hrecorded (o.exec es).state) hmem
  refine ⟨row, hrow, htxn, htruthful, fun hfinal fs => ?_, fun hkept k standing result hdone => ?_⟩
  · obtain ⟨k, standing, err, hdone⟩ := htruthful.returned hfinal
    have hstays : ((o.exec es).exec fs).Sound False ∧ ((o.exec es).exec fs).sagas[i]? = some t ∧
        ((o.exec es).exec fs).sagaStates.find? t.sagaID = some row := by
      refine Run.exec_invariant (P := fun _ _ => True)
        (I := fun o : Orchestrators ι σ => o.Sound False ∧ o.sagas[i]? = some t ∧
          o.sagaStates.find? t.sagaID = some row) ?_ ⟨hsound False False.elim, ht, hrow⟩
        (Run.steps_true _ fs)
      rintro o' e ⟨hsound', ht', hrow'⟩ -
      exact ⟨hsound'.step False.elim, hsound'.returned ht' hdone hrow' e⟩
    rw [Orchestrators.exec, Run.exec_append]
    exact hstays.2.2
  · obtain ⟨-, row', hrow', -, -, hlast⟩ :=
      (hsound True fun _ => hkept).shown t (List.mem_of_getElem? ht) htracked
    obtain rfl := Option.some.inj (hrow.symm.trans hrow')
    exact status_of_getLast (hlast trivial) (by rw [hdone]; rfl)

/-- Two sagas on a counter take turns. The second one fails at its second step, and is compensated;
the update that would say so is lost. -/
def takingTurns : List (Event Unit ℕ) :=
  [.start "S1" "T1" [addOne true], .start "S2" "T2" [addOne true, refuse]]
    ++ (List.replicate 6 [.move 0 none () 0, .move 1 none () 0]).flatten
    ++ [.move 1 none () 0, .move 1 (some ⟨"driver: bad connection", false⟩) () 0]

def turns : Orchestrators Unit ℕ := ⟨0, .empty, []⟩

theorem saga_row_truthful_turns :
    (∀ fs, (turns.exec (takingTurns ++ fs)).sagaStates.find? "S1"
      = some ⟨"S1", "T1", .completed, "DONE", 0⟩) ∧
    ∃ row t, (turns.exec takingTurns).sagas[1]? = some t ∧ t.stage.pc.result? ≠ none ∧
      (turns.exec takingTurns).sagaStates.find? "S2" = some row ∧ row.Truthful t ∧
      row.status = .compensating := by
  have hrows : (turns.exec takingTurns).sagaStates.find? "S1"
        = some ⟨"S1", "T1", .completed, "DONE", 0⟩ ∧
      (turns.exec takingTurns).sagaStates.find? "S2"
        = some ⟨"S2", "T2", .compensating, "ROLLBACK", 0⟩ := by
    decide +kernel
  obtain ⟨row₁, hrow₁, -, -, hstays, -⟩ := saga_row_truthful turns rfl takingTurns 0 _ rfl trivial
  obtain ⟨row₂, hrow₂, -, htruthful, -⟩ := saga_row_truthful turns rfl takingTurns 1 _ rfl trivial
  obtain rfl := Option.some.inj (hrows.1.symm.trans hrow₁)
  obtain rfl := Option.some.inj (hrows.2.symm.trans hrow₂)
  exact ⟨hstays (.inl rfl), _, _, rfl, by decide, hrow₂, htruthful, rfl⟩

end OfflinePay.Saga
