import OfflinePay.System.History

/-!
# Saga counters and nonces

Invariants of every run, with any interleaving and any faults: the counters of each saga fit
together, the committed and uncompensated `LEDGER_COMMIT`s are those of the sagas with three
standing steps, and a saga whose `RESERVE` stands has its nonce to itself.
-/

namespace OfflinePay

open Settlement

/-- The counters of one saga. A published payment is never compensated. -/
structure Progress.Wf (pr : Progress) : Prop where
  standing_le : pr.standing ≤ pr.executed
  executed_le : pr.executed ≤ 4
  published : pr.executed = 4 → pr.standing = 4
  amount_pos : 2 < pr.executed → 0 < pr.order.payload.amount

/-- The `RESERVE` of the saga is committed and not compensated. -/
def Progress.reserved (pr : Progress) : Prop := 0 < pr.standing

/-- The `LEDGER_COMMIT` of the saga is committed and not compensated. -/
def Progress.settled (pr : Progress) : Prop := 2 < pr.standing

instance (pr : Progress) : Decidable pr.settled := inferInstanceAs (Decidable (2 < pr.standing))

namespace Bank

variable {b b' : Bank} {txn : Option Txn}

/-- The progress of a call after another one moved, or after its own move. -/
theorem progress_cases {i j : ℕ} {after pr : Progress}
    (h : b'.progress = Function.update b.progress i (some after)) (hj : b'.progress j = some pr) :
    (j = i ∧ pr = after) ∨ (j ≠ i ∧ b.progress j = some pr) := by
  rw [h] at hj
  by_cases hji : j = i
  · subst hji
    rw [Function.update_self, Option.some.injEq] at hj
    exact .inl ⟨rfl, hj.symm⟩
  · rw [Function.update_of_ne hji] at hj
    exact .inr ⟨hji, hj⟩

theorem progress_self {i : ℕ} {after : Progress}
    (h : b'.progress = Function.update b.progress i (some after)) : b'.progress i = some after := by
  rw [h, Function.update_self]

theorem progress_ne {i j : ℕ} {after : Progress}
    (h : b'.progress = Function.update b.progress i (some after)) (hj : j ≠ i) :
    b'.progress j = b.progress j := by
  rw [h, Function.update_of_ne hj]

/-- The progress of a call after a move is what it was, or its saga has just begun, or one of its
phases has just been committed. -/
theorem Step.progress_before (h : Step b txn b') {i : ℕ} {pr : Progress}
    (hpr : b'.progress i = some pr) : b.progress i = some pr ∨ (∃ o, pr = ⟨o, 0, 0⟩) ∨
      ∃ before p input, b.progress i = some before ∧ Progress.Advances before pr p ∧
        PhaseEffect pr.order input b.db b'.db p ∧ txn = some (.phase i pr.order p) := by
  cases h.effect with
  | quiet hplain hdb hnone hprogress => exact .inl (hprogress ▸ hpr)
  | begin hnew hdb hprogress htoken =>
    obtain ⟨-, rfl⟩ | ⟨-, hpr⟩ := progress_cases hprogress hpr
    · exact .inr (.inl ⟨_, rfl⟩)
    · exact .inl hpr
  | createAccount row hnew hreserved hdb hprogress => exact .inl (hprogress ▸ hpr)
  | issueToken hdb hprogress => exact .inl (hprogress ▸ hpr)
  | release htok hdb hprogress => exact .inl (hprogress ▸ hpr)
  | @phase _ o p input before after hbefore horder hadv hdb hprogress =>
    obtain ⟨rfl, rfl⟩ | ⟨-, hpr⟩ := progress_cases hprogress hpr
    · obtain rfl : pr.order = o := hadv.1.trans horder
      exact .inr (.inr ⟨before, p, input, hbefore, hadv, hdb, rfl⟩)
    · exact .inl hpr

/-- A saga that has begun stays where it is in a move, or one of its phases is committed. -/
theorem Step.progress_after (h : Step b txn b') {i : ℕ} {pr : Progress}
    (hpr : b.progress i = some pr) : b'.progress i = some pr ∨
      ∃ after p input, b'.progress i = some after ∧ Progress.Advances pr after p ∧
        PhaseEffect pr.order input b.db b'.db p ∧ txn = some (.phase i pr.order p) := by
  cases h.effect with
  | quiet hplain hdb hnone hprogress => exact .inl (hprogress ▸ hpr)
  | @begin j o hnew hdb hprogress htoken =>
    have hij : i ≠ j := by
      rintro rfl
      exact Option.some_ne_none pr (hpr.symm.trans hnew)
    exact .inl ((progress_ne hprogress hij).trans hpr)
  | createAccount row hnew hreserved hdb hprogress => exact .inl (hprogress ▸ hpr)
  | issueToken hdb hprogress => exact .inl (hprogress ▸ hpr)
  | release htok hdb hprogress => exact .inl (hprogress ▸ hpr)
  | @phase j o p input before after hbefore horder hadv hdb hprogress =>
    by_cases hij : i = j
    · subst hij
      obtain rfl : before = pr := Option.some.inj (hbefore.symm.trans hpr)
      subst horder
      exact .inr ⟨after, p, input, progress_self hprogress, hadv, hdb, rfl⟩
    · exact .inl ((progress_ne hprogress hij).trans hpr)

/-! ## Counters -/

/-- All sagas have well-formed counters. -/
def Counters (b : Bank) : Prop := ∀ i pr, b.progress i = some pr → pr.Wf

theorem Advances.wf {before after : Progress} {p : Saga.Phase} {o : Order} {input : Input}
    {db db' : DB}
    (hwf : before.Wf) (horder : before.order = o) (hadv : Progress.Advances before after p)
    (hdb : PhaseEffect o input db db' p) : after.Wf := by
  obtain ⟨h₁, h₂, h₃, h₄⟩ := hwf
  obtain ⟨hord, hadv⟩ := hadv
  subst horder
  have hamount : 2 < after.executed → 0 < before.order.payload.amount := by
    cases hdb with
    | commitLedger h => exact fun _ => h.amount_pos
    | _ =>
      intro hlt
      refine h₄ ?_
      simp only at hadv
      omega
  rw [← hord] at hamount
  cases hdb <;> simp only at hadv <;> exact ⟨by omega, by omega, by omega, hamount⟩

theorem Counters.step (hc : b.Counters) (h : Step b txn b') : b'.Counters := by
  intro j pr hj
  obtain hj | ⟨o, rfl⟩ | ⟨before, p, input, hbefore, hadv, hdb, -⟩ := h.progress_before hj
  · exact hc j pr hj
  · exact ⟨le_refl _, by simp, by simp, by simp⟩
  · exact Advances.wf (hc j before hbefore) hadv.1.symm hadv hdb

/-- The compensation of a standing `LEDGER_COMMIT` is about a positive amount, so it is exact. -/
theorem Counters.undone (hc : b.Counters) {i : ℕ} {before : Progress} {o : Order} {db db' : DB}
    (hbefore : b.progress i = some before) (horder : before.order = o)
    (hst : before.standing = 2 + 1)
    (h : 0 < o.payload.amount → Undone o db db') : Undone o db db' := by
  have hwf := hc i before hbefore
  have hle := hwf.standing_le
  exact h (horder ▸ hwf.amount_pos (by omega))

/-! ## Live payments -/

/-- The committed and uncompensated `LEDGER_COMMIT`s of the history are those of the sagas with
three standing steps. -/
structure Live (b : Bank) : Prop where
  mem_iff : ∀ i o, (i, o) ∈ History.live b.history ↔
    ∃ pr, b.progress i = some pr ∧ pr.order = o ∧ pr.settled
  nodup : (History.live b.history).Nodup

theorem track_plain {t : Txn} (h : Txn.plain t = true) (l : List (ℕ × Order)) :
    History.track l t = l := by
  cases t <;> first | rfl | simp [Txn.plain] at h

/-- A step that leaves the settled sagas and the live list alone. -/
theorem Live.congr (hl : b.Live) (hhist : History.live b'.history = History.live b.history)
    (hset : ∀ i o, (∃ pr, b'.progress i = some pr ∧ pr.order = o ∧ pr.settled) ↔
      ∃ pr, b.progress i = some pr ∧ pr.order = o ∧ pr.settled) : b'.Live where
  mem_iff i o := by rw [hhist, hset, hl.mem_iff]
  nodup := by rw [hhist]; exact hl.nodup

/-- A move of one saga that neither settles nor unsettles it. -/
theorem settled_update {i : ℕ} {before after : Progress} (hbefore : b.progress i = some before)
    (hprogress : b'.progress = Function.update b.progress i (some after))
    (horder : after.order = before.order) (hset : after.settled ↔ before.settled) (j : ℕ)
    (o : Order) :
    (∃ pr, b'.progress j = some pr ∧ pr.order = o ∧ pr.settled) ↔
      ∃ pr, b.progress j = some pr ∧ pr.order = o ∧ pr.settled := by
  by_cases hj : j = i
  · subst hj
    rw [progress_self hprogress, hbefore]
    simp only [Option.some.injEq, exists_eq_left', horder, hset]
  · rw [progress_ne hprogress hj]

theorem Live.step (hl : b.Live) (h : Step b txn b') : b'.Live := by
  have hhist := h.history
  cases h.effect with
  | quiet hplain hdb hnone hprogress =>
    refine hl.congr ?_ (by simp [hprogress])
    cases txn with
    | none => simp [hhist]
    | some t =>
      rw [hhist, Option.toList_some, List.map_singleton, History.live_append]
      exact track_plain (hplain t rfl) _
  | @begin i o₀ hnew hdb hprogress htoken =>
    refine hl.congr (by simp [hhist]) fun j o => ?_
    by_cases hj : j = i
    · subst hj
      rw [progress_self hprogress, hnew]
      simp [Progress.settled]
    · rw [progress_ne hprogress hj]
  | createAccount row hnew hreserved hdb hprogress =>
    exact hl.congr (by simp [hhist, History.track]) (by simp [hprogress])
  | issueToken hdb hprogress =>
    exact hl.congr (by simp [hhist, History.track]) (by simp [hprogress])
  | release htok hdb hprogress =>
    exact hl.congr (by simp [hhist, History.track]) (by simp [hprogress])
  | @phase i o p input before after hbefore horder hadv hdb hprogress =>
    obtain ⟨hord, hadv⟩ := hadv
    have hkeep : (after.settled ↔ before.settled) → History.track (History.live b.history)
        (.phase i o p) = History.live b.history → b'.Live := fun hset htrack =>
      hl.congr (by simp [hhist, htrack]) (settled_update hbefore hprogress hord hset)
    rw [Option.toList_some, List.map_singleton] at hhist
    cases hdb with
    | commitLedger hcom =>
      -- the call was not in the list, and is now
      have hnew : (i, o) ∉ History.live b.history := by
        rw [hl.mem_iff]
        rintro ⟨pr, hpr, -, hset⟩
        rw [hbefore, Option.some.injEq] at hpr
        rw [← hpr, Progress.settled, hadv.2.1] at hset
        exact absurd hset (by decide)
      constructor
      · intro j o'
        rw [hhist, History.live_append, History.track, List.mem_append, List.mem_singleton,
          Prod.mk.injEq, hl.mem_iff]
        by_cases hj : j = i
        · subst hj
          rw [progress_self hprogress, hbefore]
          simp only [Option.some.injEq, exists_eq_left', true_and, Progress.settled]
          rw [hord, horder, hadv.2.1, hadv.2.2.2]
          simp [eq_comm]
        · rw [progress_ne hprogress hj]
          simp [hj]
      · rw [hhist, History.live_append]
        exact List.nodup_append.mpr ⟨hl.nodup, by simp, by
          intro a ha c hc
          rw [List.mem_singleton.mp hc]
          rintro rfl
          exact hnew ha⟩
    | undoLedger hundo =>
      constructor
      · intro j o'
        rw [hhist, History.live_append, History.track, hl.nodup.mem_erase_iff, hl.mem_iff]
        by_cases hj : j = i
        · subst hj
          rw [progress_self hprogress, hbefore]
          simp only [Option.some.injEq, exists_eq_left', Progress.settled]
          rw [hord, horder, hadv.1, hadv.2.1]
          simp [eq_comm]
        · rw [progress_ne hprogress hj]
          simp [hj]
      · rw [hhist, History.live_append]
        exact hl.nodup.erase _
    | _ =>
      refine hkeep ?_ rfl
      simp only [Progress.settled]
      simp only at hadv
      omega

/-! ## Nonces -/

/-- A saga whose `RESERVE` stands has a nonce row of its own. -/
structure Nonces (b : Bank) : Prop where
  registered : ∀ i pr, b.progress i = some pr → pr.reserved →
    ∃ row, b.db.nonceRegistry.find? pr.order.payload.nonce = some row ∧ row.txnID = pr.order.env.txnID
  unique : ∀ i j pr pr', b.progress i = some pr → b.progress j = some pr' → pr.reserved →
    pr'.reserved → pr.order.payload.nonce = pr'.order.payload.nonce → i = j

/-- A step that touches no nonce and reserves nothing. -/
theorem Nonces.congr (hn : b.Nonces) (hdb : b'.db.nonceRegistry = b.db.nonceRegistry)
    (hres : ∀ i pr, b'.progress i = some pr → pr.reserved →
      ∃ pr₀, b.progress i = some pr₀ ∧ pr₀.order = pr.order ∧ pr₀.reserved) : b'.Nonces where
  registered i pr hpr hr := by
    obtain ⟨pr₀, hpr₀, horder, hr₀⟩ := hres i pr hpr hr
    rw [hdb, ← horder]
    exact hn.registered i pr₀ hpr₀ hr₀
  unique i j pr pr' hpr hpr' hr hr' hnonce := by
    obtain ⟨pr₀, hpr₀, horder, hr₀⟩ := hres i pr hpr hr
    obtain ⟨pr₁, hpr₁, horder', hr₁⟩ := hres j pr' hpr' hr'
    rw [← horder, ← horder'] at hnonce
    exact hn.unique i j pr₀ pr₁ hpr₀ hpr₁ hr₀ hr₁ hnonce

theorem Nonces.step (hc : b.Counters) (hn : b.Nonces) (h : Step b txn b') : b'.Nonces := by
  have hsame : b'.progress = b.progress → ∀ i pr, b'.progress i = some pr → pr.reserved →
      ∃ pr₀, b.progress i = some pr₀ ∧ pr₀.order = pr.order ∧ pr₀.reserved :=
    fun hprogress i pr hpr hr => ⟨pr, hprogress ▸ hpr, rfl, hr⟩
  cases h.effect with
  | quiet hplain hdb hnone hprogress => exact hn.congr hdb.nonceRegistry (hsame hprogress)
  | begin hnew hdb hprogress htoken =>
    refine hn.congr (by rw [hdb]) fun j pr hj hr => ?_
    rcases progress_cases hprogress hj with ⟨rfl, rfl⟩ | ⟨-, hj⟩
    · exact absurd hr (by simp [Progress.reserved])
    · exact ⟨pr, hj, rfl, hr⟩
  | createAccount row hnew hreserved hdb hprogress => exact hn.congr (by rw [hdb]) (hsame hprogress)
  | issueToken hdb hprogress => exact hn.congr hdb.nonceRegistry (hsame hprogress)
  | release htok hdb hprogress => exact hn.congr hdb.nonceRegistry (hsame hprogress)
  | @phase i o p input before after hbefore horder hadv hdb hprogress =>
    obtain ⟨hord, hadv⟩ := hadv
    have hkeep : b'.db.nonceRegistry = b.db.nonceRegistry → before.reserved → b'.Nonces := by
      intro hnonce hr₀
      refine hn.congr hnonce fun j pr hj hr => ?_
      rcases progress_cases hprogress hj with ⟨rfl, rfl⟩ | ⟨-, hj⟩
      · exact ⟨before, hbefore, hord.symm, hr₀⟩
      · exact ⟨pr, hj, rfl, hr⟩
    cases hdb with
    | reserve hres =>
      obtain ⟨row, hrow, htxn, hins⟩ := hres.nonceRegistry
      have hfree : b.db.nonceRegistry.find? row.nonce = none := by rw [hrow]; exact hres.nonce_free
      -- nobody else reserved under this nonce
      have hother : ∀ j pr, j ≠ i → b.progress j = some pr → pr.reserved →
          pr.order.payload.nonce ≠ o.payload.nonce := by
        intro j pr hj hpr hr heq
        obtain ⟨row', hrow', -⟩ := hn.registered j pr hpr hr
        rw [heq, hres.nonce_free] at hrow'
        exact absurd hrow' (by simp)
      constructor
      · intro j pr hj hr
        rcases progress_cases hprogress hj with ⟨rfl, rfl⟩ | ⟨hji, hj⟩
        · refine ⟨row, ?_, by rw [htxn, hord, horder]⟩
          rw [hins, hord, horder, ← hrow]
          exact Table.find?_insert_self hfree
        · obtain ⟨row', hrow', htxn'⟩ := hn.registered j pr hj hr
          exact ⟨row', by rw [hins]; exact Table.find?_insert_of_find? hrow', htxn'⟩
      · intro j k pr pr' hj hk hr hr' hnonce
        rcases progress_cases hprogress hj with ⟨rfl, rfl⟩ | ⟨hji, hj⟩ <;>
          rcases progress_cases hprogress hk with ⟨rfl, rfl⟩ | ⟨hki, hk⟩
        · rfl
        · rw [hord, horder] at hnonce
          exact absurd hnonce.symm (hother k pr' hki hk hr')
        · rw [hord, horder] at hnonce
          exact absurd hnonce (hother j pr hji hj hr)
        · exact hn.unique j k pr pr' hj hk hr hr' hnonce
    | unreserve hunres =>
      have hr₀ : before.reserved := by
        rw [Progress.reserved, hadv.1]
        exact Nat.succ_pos 0
      have hafter : ¬after.reserved := by rw [Progress.reserved, hadv.2.1]; exact lt_irrefl 0
      have hother : ∀ j pr, b'.progress j = some pr → pr.reserved →
          j ≠ i ∧ b.progress j = some pr := by
        intro j pr hj hr
        rcases progress_cases hprogress hj with ⟨rfl, rfl⟩ | hj
        · exact absurd hr hafter
        · exact hj
      constructor
      · intro j pr hj hr
        obtain ⟨hji, hj⟩ := hother j pr hj hr
        have hne : o.payload.nonce ≠ pr.order.payload.nonce := by
          rw [← horder]
          exact fun heq => hji (hn.unique i j before pr hbefore hj hr₀ hr heq).symm
        rw [hunres.nonceRegistry, Table.find?_erase_ne _ hne]
        exact hn.registered j pr hj hr
      · intro j k pr pr' hj hk hr hr' hnonce
        exact hn.unique j k pr pr' (hother j pr hj hr).2 (hother k pr' hk hr').2 hr hr' hnonce
    | hold hh => exact hkeep hh.nonceRegistry (by simp [Progress.reserved, hadv.2.1])
    | commitLedger hh => exact hkeep hh.nonceRegistry (by simp [Progress.reserved, hadv.2.1])
    | publish hh => exact hkeep hh.nonceRegistry (by simp [Progress.reserved, hadv.2.1])
    | unhold hh => exact hkeep hh.nonceRegistry (by simp [Progress.reserved, hadv.1])
    | undoLedger hh =>
      have hundone := hc.undone hbefore horder hadv.1 hh
      exact hkeep hundone.nonceRegistry (by simp [Progress.reserved, hadv.1])

end Bank

end OfflinePay
