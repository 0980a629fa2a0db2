import OfflinePay.Common.Checked
import OfflinePay.Recovery.Workers

/-!
# Bounded recovery

Whatever failures are recorded and however many workers run the scheduler, a transaction has at most
one recovery operation, and the row of the operation says how many requests were emitted for it. The
invariant `Tracked` relates the two tables; one pass of the loop of `RunOnce` keeps it for an
operation that is scheduled, and the row locks see to it that the operations a worker has in hand
are still as it read them.

The time between two requests is the cooldown, doubled from attempt to attempt in 64 bits.
`cooldown_grows_iff` says for which policies the last doubling still fits.
-/

namespace OfflinePay.Recovery

open Tx Repository

/-- What `Validate` accepts. -/
theorem Policy.positive {p : Policy} (h : p.validate = .ok ()) :
    0 < p.maxAttempts ∧ 0 < p.maxAmount ∧ 0 < p.maxElapsed ∧ 0 < p.cooldown := by
  rw [Policy.validate] at h
  split at h
  · cases h
  · next hpos =>
    simpa only [not_or, not_le, Int64.not_le] using hpos

/-! ## Requests -/

/-- The transaction that a request of `RunOnce` is for. -/
def requestedTxn (payload : Json) : Option String :=
  payload.members.bind fun fields => Json.stringField fields "txn_id"

/-- How many requests of a type were emitted for a transaction. -/
def requests (eventType txnID : String) (db : DB) : ℕ :=
  db.outboxEvents.countP fun ev => ev.eventType = eventType ∧ requestedTxn ev.payload = some txnID

/-- Retry requests emitted for a transaction. -/
def retries (txnID : String) (db : DB) : ℕ := requests "RecoveryRetryRequested" txnID db

/-- Review requests emitted for a transaction. -/
def reviews (txnID : String) (db : DB) : ℕ :=
  requests "RecoveryCompensationReviewRequested" txnID db

theorem requestedTxn_requestJson (op : RecoveryOperation) (attempts : ℕ) :
    requestedTxn (requestJson op attempts) = some op.txnID := by
  exact Json.stringField_eq
    (requestJson_member rfl (List.mem_cons_of_mem _ (List.mem_cons_self ..)))

theorem requests_congr {db db' : DB} (h : db'.outboxEvents = db.outboxEvents)
    (eventType txnID : String) : requests eventType txnID db' = requests eventType txnID db := by
  rw [requests, h, requests]

theorem requests_append {db db' : DB} {ev : OutboxEvent}
    (h : db'.outboxEvents = db.outboxEvents ++ [ev]) (eventType txnID : String) :
    requests eventType txnID db' = requests eventType txnID db +
      if ev.eventType = eventType ∧ requestedTxn ev.payload = some txnID then 1 else 0 := by
  rw [requests, h, List.countP_append, List.countP_singleton, requests]
  simp

/-! ## What is bounded -/

/-- The recovery tables and the requests in the outbox are in step. -/
structure Bounded (policy : Policy) (db : DB) : Prop where
  unique : ∀ op ∈ db.recoveryOperations.rows, ∀ op' ∈ db.recoveryOperations.rows,
    op.txnID = op'.txnID → op = op'
  attempts_le : ∀ op ∈ db.recoveryOperations.rows, (op.attemptCount : ℤ) ≤ policy.maxAttempts
  attempts_eq : ∀ op ∈ db.recoveryOperations.rows,
    op.attemptCount = retries op.txnID db + reviews op.txnID db
  retries_le : ∀ txnID, (retries txnID db : ℤ) ≤ policy.maxAttempts
  reviews_le : ∀ txnID, reviews txnID db ≤ 1
  scheduled : ∀ op ∈ db.recoveryOperations.rows,
    op.nextAttemptAt.isSome = true ↔ op.state = .scheduled

/-- Operations stay, and change their states as `IsValidTransition` allows: those that are escalated
or exhausted do not change at all. -/
def Lawful (db db' : DB) : Prop :=
  ∀ op ∈ db.recoveryOperations.rows, ∃ op' ∈ db'.recoveryOperations.rows,
    op'.recoveryID = op.recoveryID ∧ op'.txnID = op.txnID ∧
      isValidTransition op.state op'.state = true ∧
      (op.state = .escalated ∨ op.state = .exhausted → op'.state = op.state)

theorem Lawful.of_mem {db db' : DB}
    (h : ∀ op ∈ db.recoveryOperations.rows, op ∈ db'.recoveryOperations.rows) : Lawful db db' :=
  fun op hop => ⟨op, h op hop, rfl, rfl, by simp [isValidTransition], fun _ => rfl⟩

/-! ## The invariant of the tables -/

/-- The row of an operation fits the requests that were emitted for it. -/
structure Fits (policy : Policy) (op : RecoveryOperation) (retries reviews : ℕ) : Prop where
  le : (op.attemptCount : ℤ) ≤ policy.maxAttempts
  retries_eq : retries = if op.action = .compensate then 0 else op.attemptCount
  reviews_eq : reviews = if op.action = .compensate then op.attemptCount else 0
  review : op.action = .compensate → op.attemptCount ≤ 1
  first : op.action = .compensate → op.state = .scheduled → op.attemptCount = 0
  next : op.nextAttemptAt.isSome = true ↔ op.state = .scheduled

/-- A new operation. -/
theorem Fits.plan {policy : Policy} (hpos : 0 < policy.maxAttempts) (classifier : Classifier)
    (event : FailureEvent) (failureID recoveryID : String) (now : Time) :
    Fits policy (plan classifier policy event failureID recoveryID now) 0 0 := by
  refine ⟨hpos.le, (ite_self 0).symm, (ite_self 0).symm, fun _ => Nat.zero_le _, fun _ _ => rfl, ?_⟩
  simp only [Recovery.plan]
  cases (decision classifier policy event failureID now).action <;> simp [scheduledAt, stateFor]

/-- An operation whose attempts are used up. -/
theorem Fits.exhausted {policy : Policy} {op : RecoveryOperation} {retries reviews : ℕ}
    (h : Fits policy op retries reviews) :
    Fits policy { op with state := .exhausted, nextAttemptAt := none } retries reviews :=
  ⟨h.le, h.retries_eq, h.reviews_eq, h.review, by simp, by simp⟩

/-- A scheduled operation after one more request. -/
theorem Fits.requested {policy : Policy} {op : RecoveryOperation} {retries reviews : ℕ}
    (h : Fits policy op retries reviews) (hlt : (op.attemptCount : ℤ) < policy.maxAttempts)
    (hstate : op.state = .scheduled) (now : Time) :
    Fits policy (afterRequest policy now op)
      (retries + if op.action = .compensate then 0 else 1)
      (reviews + if op.action = .compensate then 1 else 0) := by
  obtain ⟨-, hretries, hreviews, -, hfirst, -⟩ := h
  rw [afterRequest]
  by_cases hreview : op.action = .compensate
  · have hzero := hfirst hreview hstate
    constructor <;> simp_all
    omega
  · split
    · simp_all
    · split
      · constructor <;> simp_all
      · constructor <;> simp_all

/-- The rows of the operations fit the outbox. -/
structure Tracked (policy : Policy) (db : DB) : Prop where
  unique : ∀ op ∈ db.recoveryOperations.rows, ∀ op' ∈ db.recoveryOperations.rows,
    op.txnID = op'.txnID → op = op'
  fits : ∀ op ∈ db.recoveryOperations.rows, Fits policy op (retries op.txnID db) (reviews op.txnID db)
  unplanned : ∀ txnID, (∀ op ∈ db.recoveryOperations.rows, op.txnID ≠ txnID) →
    retries txnID db = 0 ∧ reviews txnID db = 0

theorem Tracked.bounded {policy : Policy} (hpos : 0 < policy.maxAttempts) {db : DB}
    (h : Tracked policy db) : Bounded policy db where
  unique := h.unique
  attempts_le op hop := (h.fits op hop).le
  attempts_eq op hop := by
    rw [(h.fits op hop).retries_eq, (h.fits op hop).reviews_eq]
    split <;> simp
  retries_le txnID := by
    by_cases hplanned : ∀ op ∈ db.recoveryOperations.rows, op.txnID ≠ txnID
    · rw [(h.unplanned txnID hplanned).1]
      exact hpos.le
    · push Not at hplanned
      obtain ⟨op, hop, rfl⟩ := hplanned
      have hle := (h.fits op hop).le
      rw [(h.fits op hop).retries_eq]
      split <;> omega
  reviews_le txnID := by
    by_cases hplanned : ∀ op ∈ db.recoveryOperations.rows, op.txnID ≠ txnID
    · rw [(h.unplanned txnID hplanned).2]
      exact Nat.zero_le 1
    · push Not at hplanned
      obtain ⟨op, hop, rfl⟩ := hplanned
      rw [(h.fits op hop).reviews_eq]
      split
      · next hreview => exact (h.fits op hop).review hreview
      · exact Nat.zero_le 1
  scheduled op hop := (h.fits op hop).next

/-- `RecordFailure` keeps the tables in step. -/
theorem Tracked.recorded {policy : Policy} {db db' : DB} {op : RecoveryOperation}
    (h : Tracked policy db) (hop : Fits policy op 0 0) (hrecorded : Recorded op db db') :
    Tracked policy db' ∧ ∀ op' ∈ db.recoveryOperations.rows, op' ∈ db'.recoveryOperations.rows := by
  cases hrecorded with
  | known hops hout =>
    refine ⟨⟨hops ▸ h.unique, fun op' hop' => ?_, fun txnID hplanned => ?_⟩, hops ▸ fun _ => id⟩
    · rw [hops] at hop'
      simpa only [retries, reviews, requests_congr hout] using h.fits op' hop'
    · rw [hops] at hplanned
      simpa only [retries, reviews, requests_congr hout] using h.unplanned txnID hplanned
  | fresh hops hid htxn eventID payload hout =>
    have hretries : ∀ txnID, retries txnID db' = retries txnID db := fun txnID => by
      simp [retries, requests_append hout]
    have hreviews : ∀ txnID, reviews txnID db' = reviews txnID db := fun txnID => by
      simp [reviews, requests_append hout]
    have hrows : ∀ op', op' ∈ db'.recoveryOperations.rows ↔
        op' ∈ db.recoveryOperations.rows ∨ op' = op := fun op' => by
      rw [hops, Table.mem_insert hid]
    refine ⟨⟨fun x hx y hy hxy => ?_, fun x hx => ?_, fun txnID hplanned => ?_⟩,
      fun x hx => (hrows x).mpr (.inl hx)⟩
    · obtain hx | rfl := (hrows x).mp hx
      · obtain hy | rfl := (hrows y).mp hy
        · exact h.unique x hx y hy hxy
        · exact absurd hxy (htxn x hx)
      · obtain hy | rfl := (hrows y).mp hy
        · exact absurd hxy.symm (htxn y hy)
        · rfl
    · rw [hretries, hreviews]
      obtain hx | rfl := (hrows x).mp hx
      · exact h.fits x hx
      · obtain ⟨hzero, hzero'⟩ := h.unplanned x.txnID htxn
        rwa [hzero, hzero']
    · rw [hretries, hreviews]
      exact h.unplanned txnID fun x hx => hplanned x ((hrows x).mpr (.inl hx))

/-- The row of one operation is replaced and its requests are counted. -/
theorem Tracked.set {policy : Policy} {db db' : DB} {op op' : RecoveryOperation}
    (h : Tracked policy db) (hop : op ∈ db.recoveryOperations.rows)
    (hid : op'.recoveryID = op.recoveryID) (htxn : op'.txnID = op.txnID)
    (hops : db'.recoveryOperations = db.recoveryOperations.set op')
    (hfits : Fits policy op' (retries op.txnID db') (reviews op.txnID db'))
    (hothers : ∀ txnID, txnID ≠ op.txnID → retries txnID db' = retries txnID db ∧
      reviews txnID db' = reviews txnID db) : Tracked policy db' := by
  have hrows : ∀ x ∈ db'.recoveryOperations.rows, x = op' ∨
      (x ∈ db.recoveryOperations.rows ∧ x.txnID ≠ op.txnID) := by
    intro x hx
    rw [hops] at hx
    obtain rfl | ⟨hx, hne⟩ := Table.mem_set hx
    · exact .inl rfl
    · refine .inr ⟨hx, fun heq => hne ?_⟩
      rw [h.unique x hx op hop heq, hid]
  have hmem : op' ∈ db'.recoveryOperations.rows := hops ▸ Table.mem_set_self hop hid.symm
  refine ⟨fun x hx y hy hxy => ?_, fun x hx => ?_, fun txnID hplanned => ?_⟩
  · obtain rfl | ⟨hx, hne⟩ := hrows x hx
    · obtain rfl | ⟨hy, hne⟩ := hrows y hy
      · rfl
      · exact absurd (hxy.symm.trans htxn) hne
    · obtain rfl | ⟨hy, -⟩ := hrows y hy
      · exact absurd (hxy.trans htxn) hne
      · exact h.unique x hx y hy hxy
  · obtain rfl | ⟨hx, hne⟩ := hrows x hx
    · rwa [htxn]
    · rw [(hothers _ hne).1, (hothers _ hne).2]
      exact h.fits x hx
  · have hne : txnID ≠ op.txnID := fun heq => hplanned op' hmem (htxn.trans heq.symm)
    rw [(hothers _ hne).1, (hothers _ hne).2]
    refine h.unplanned txnID fun x hx heq => ?_
    have hx' : x ∈ db'.recoveryOperations.rows := by
      rw [hops]
      refine Table.mem_set_of_ne hx fun hkey => hne ?_
      rw [← heq, Table.eq_of_key_eq hx hop (hkey.trans hid)]
    exact hplanned x hx' heq

/-- One pass of the loop of `RunOnce` on a scheduled operation keeps the tables in step. -/
theorem Tracked.ran {policy : Policy} {now : Time} {op : RecoveryOperation} {db db' : DB}
    (h : Tracked policy db) (hop : op ∈ db.recoveryOperations.rows) (hstate : op.state = .scheduled)
    (hran : Ran policy now op db db') : Tracked policy db' := by
  cases hran with
  | exhausted hle hdb =>
    subst hdb
    have hid : ({ op with state := .exhausted, nextAttemptAt := none } : RecoveryOperation).recoveryID
        = op.recoveryID := rfl
    exact h.set hop hid rfl rfl (h.fits op hop).exhausted fun _ _ => ⟨rfl, rfl⟩
  | requested hlt hdb =>
    obtain ⟨hid, htxn, -⟩ := afterRequest_ids policy now op
    have hout : db'.outboxEvents = db.outboxEvents ++ [⟨db.nextOutboxID, "payment.recovery",
        requestType op, requestJson op (op.attemptCount + 1), false, .pending, 0⟩] := by
      rw [hdb]
    have hretries : ∀ txnID, retries txnID db' = retries txnID db +
        if op.action ≠ .compensate ∧ op.txnID = txnID then 1 else 0 := by
      intro txnID
      rw [retries, requests_append hout, requestedTxn_requestJson, requestType]
      by_cases hreview : op.action = .compensate <;> simp [hreview, retries]
    have hreviews : ∀ txnID, reviews txnID db' = reviews txnID db +
        if op.action = .compensate ∧ op.txnID = txnID then 1 else 0 := by
      intro txnID
      rw [reviews, requests_append hout, requestedTxn_requestJson, requestType]
      by_cases hreview : op.action = .compensate <;> simp [hreview, reviews]
    refine h.set hop hid htxn (by rw [hdb]) ?_ fun txnID hne => ?_
    · have hfits := (h.fits op hop).requested hlt hstate now
      rw [hretries, hreviews]
      by_cases hreview : op.action = .compensate <;> simpa [hreview] using hfits
    · rw [hretries, hreviews, if_neg (fun h => hne h.2.symm), if_neg (fun h => hne h.2.symm)]
      exact ⟨rfl, rfl⟩

/-! ## A whole `RunOnce` -/

/-- What the loop of `RunOnce` on some operations does to the tables. The states of those that are
scheduled may change, the others are as before. -/
structure Swept (policy : Policy) (ids : List String) (db db' : DB) : Prop where
  tracked : Tracked policy db → Tracked policy db'
  untouched : Untouched db db'
  rows : ∀ op ∈ db.recoveryOperations.rows, ∃ op' ∈ db'.recoveryOperations.rows,
    op'.recoveryID = op.recoveryID ∧ op'.txnID = op.txnID ∧
      (op'.state = op.state ∨
        (op.state = .scheduled ∧ (op'.state = .exhausted ∨ op'.state = .escalated)))
  others : ∀ op ∈ db.recoveryOperations.rows, op.recoveryID ∉ ids → op ∈ db'.recoveryOperations.rows

instance (policy : Policy) (ids : List String) : IsPreorder DB (Swept policy ids) where
  refl _ := ⟨id, ⟨rfl, rfl, rfl, rfl⟩, fun op hop => ⟨op, hop, rfl, rfl, .inl rfl⟩, fun _ hop _ => hop⟩
  trans _ _ _ h h' := by
    refine ⟨h'.tracked ∘ h.tracked, Trans.trans h.untouched h'.untouched, fun op hop => ?_,
      fun op hop hids => h'.others op (h.others op hop hids) hids⟩
    obtain ⟨op₁, hop₁, hid₁, htxn₁, hstate₁⟩ := h.rows op hop
    obtain ⟨op₂, hop₂, hid₂, htxn₂, hstate₂⟩ := h'.rows op₁ hop₁
    refine ⟨op₂, hop₂, hid₂.trans hid₁, htxn₂.trans htxn₁, ?_⟩
    grind

theorem Swept.lawful {policy : Policy} {ids : List String} {db db' : DB}
    (h : Swept policy ids db db') :
    Lawful db db' := by
  intro op hop
  obtain ⟨op', hop', hid, htxn, hstate⟩ := h.rows op hop
  refine ⟨op', hop', hid, htxn, ?_⟩
  obtain hstate | ⟨hscheduled, hstate | hstate⟩ := hstate <;> simp [isValidTransition, *]

/-- The loop of `RunOnce` on scheduled operations. -/
theorem swept_forM {policy : Policy} {now : Time} {ops : List RecoveryOperation} {db db' : DB}
    {u : Unit} (hnodup : (ops.map (·.recoveryID)).Nodup)
    (hops : ∀ op ∈ ops, op ∈ db.recoveryOperations.rows ∧ op.state = .scheduled)
    (hrun : ops.forM (runOperation policy now) db = .ok (u, db')) :
    Swept policy (ops.map (·.recoveryID)) db db' := by
  refine forM_keeps (fun op hop db db' hrow hran => ?_) hnodup (fun op hop => (hops op hop).1) hrun
  obtain ⟨op', hset, hid, htxn, -, hstate⟩ := hran.set
  refine ⟨fun h => h.ran hrow (hops op hop).2 hran, hran.untouched, fun x hx => ?_, fun x hx hids => ?_⟩
  · by_cases hx' : x.recoveryID = op.recoveryID
    · obtain rfl := Table.eq_of_key_eq hx hrow hx'
      refine ⟨op', hset ▸ Table.mem_set_self hrow hid.symm, hid, htxn, ?_⟩
      exact hstate.imp_right fun hstate => ⟨(hops x hop).2, hstate⟩
    · exact ⟨x, hran.mem_of_ne hx hx', rfl, rfl, .inl rfl⟩
  · exact hran.mem_of_ne hx fun heq => hids (heq ▸ List.mem_map_of_mem hop)

/-! ## The whole system -/

namespace Workers

variable {ι : Type} [Fintype ι] [DecidableEq ι]

/-- The tables are in step, and what a worker has locked is as it read it. -/
structure Sound (policy : Policy) (s : Workers ι) : Prop where
  tracked : Tracked policy s.db
  claimed : ∀ i, ∀ op ∈ s.claimed i, op ∈ s.db.recoveryOperations.rows ∧ op.state = .scheduled
  nodup : ∀ i, ((s.claimed i).map (·.recoveryID)).Nodup
  apart : ∀ i j, i ≠ j → ∀ op ∈ s.claimed i, ∀ op' ∈ s.claimed j, op.recoveryID ≠ op'.recoveryID

/-- What a move does to the tables. -/
structure Safe (s s' : Workers ι) : Prop where
  lawful : Lawful s.db s'.db
  untouched : Untouched s.db s'.db

omit [Fintype ι] [DecidableEq ι] in
theorem Safe.of_db_eq {s s' : Workers ι} (h : s'.db = s.db) : s.Safe s' := by
  refine ⟨Lawful.of_mem ?_, ?_⟩
  · rw [h]
    exact fun _ => id
  · rw [h]
    exact ⟨rfl, rfl, rfl, rfl⟩

theorem Sound.record {policy : Policy} (hpos : 0 < policy.maxAttempts) {s : Workers ι}
    (hs : s.Sound policy) (classifier : Classifier) (event : FailureEvent)
    (failureID recoveryID : String) (now : Time) (fault : Option GoError) :
    (s.step policy (.record classifier event failureID recoveryID now fault)).Sound policy ∧
      s.Safe (s.step policy (.record classifier event failureID recoveryID now fault)) := by
  simp only [step]
  generalize htx : withTx fault (recordFailure classifier policy event failureID recoveryID now) s.db
    = r
  obtain ⟨res, db'⟩ := r
  cases res with
  | error e =>
    obtain rfl := withTx_error htx
    exact ⟨hs, Safe.of_db_eq rfl⟩
  | ok u =>
    obtain ⟨-, hok⟩ := withTx_ok.mp htx
    obtain ⟨hrecorded, huntouched⟩ := recordFailure_ok hok
    obtain ⟨htracked, hkept⟩ := hs.tracked.recorded
      (Fits.plan hpos classifier event failureID recoveryID now) hrecorded
    refine ⟨⟨htracked, fun i op hop => ?_, hs.nodup, hs.apart⟩, Lawful.of_mem hkept, huntouched⟩
    exact ⟨hkept op (hs.claimed i op hop).1, (hs.claimed i op hop).2⟩

theorem Sound.claim {policy : Policy} {s : Workers ι} (hs : s.Sound policy) (i : ι) (limit : ℤ)
    (now : Time) :
    (s.step policy (.claim i limit now)).Sound policy ∧
      s.Safe (s.step policy (.claim i limit now)) := by
  simp only [step]
  split
  case isFalse => exact ⟨hs, Safe.of_db_eq rfl⟩
  refine ⟨?_, Safe.of_db_eq rfl⟩
  obtain ⟨hnodup, hdue⟩ := dueOperations_spec limit (s.locked i) now s.db
  have hapart : ∀ j, j ≠ i → ∀ op ∈ dueOperations limit (s.locked i) now s.db, ∀ op' ∈ s.claimed j,
      op.recoveryID ≠ op'.recoveryID := by
    intro j hj op hop op' hop' heq
    have hfree := (hdue op hop).2.2
    simp only [locked, decide_eq_false_iff_not] at hfree
    exact hfree ⟨j, hj, op', hop', heq.symm⟩
  refine ⟨hs.tracked, fun j => ?_, fun j => ?_, fun j k hjk => ?_⟩
  · by_cases hj : j = i
    · subst hj
      simpa using fun op hop => ⟨(hdue op hop).1, (hdue op hop).2.1⟩
    · simpa [hj] using hs.claimed j
  · by_cases hj : j = i
    · subst hj
      simpa using hnodup
    · simpa [hj] using hs.nodup j
  · by_cases hj : j = i
    · subst hj
      simpa [hjk.symm] using hapart k hjk.symm
    · by_cases hk : k = i
      · subst hk
        simpa [hj] using fun op hop op' hop' heq => hapart j hj op' hop' op hop heq.symm
      · simpa [hj, hk] using hs.apart j k hjk

theorem Sound.finish {policy : Policy} {s : Workers ι} (hs : s.Sound policy) (i : ι) (now : Time)
    (fault : Option GoError) :
    (s.step policy (.finish i now fault)).Sound policy ∧
      s.Safe (s.step policy (.finish i now fault)) := by
  simp only [step]
  generalize htx : withTx fault ((s.claimed i).forM (runOperation policy now)) s.db = r
  obtain ⟨res, db'⟩ := r
  -- the others still have what they read: it is not what this worker had locked
  have hothers : ∀ (db' : DB), Tracked policy db' →
      (∀ x ∈ s.db.recoveryOperations.rows, x.recoveryID ∉ (s.claimed i).map (·.recoveryID) →
        x ∈ db'.recoveryOperations.rows) →
      Sound policy ⟨db', Function.update s.claimed i []⟩ := by
    intro db' htracked hkept
    refine ⟨htracked, fun j op hop => ?_, fun j => ?_, fun j k hjk op hop op' hop' => ?_⟩
    · by_cases hj : j = i
      · simp [hj] at hop
      · simp only [Function.update_of_ne hj] at hop
        refine ⟨hkept op (hs.claimed j op hop).1 fun hmem => ?_, (hs.claimed j op hop).2⟩
        obtain ⟨op', hop', heq⟩ := List.mem_map.mp hmem
        exact hs.apart j i hj op hop op' hop' heq.symm
    · by_cases hj : j = i
      · simp [hj]
      · simpa [hj] using hs.nodup j
    · by_cases hj : j = i
      · simp [hj] at hop
      · by_cases hk : k = i
        · simp [hk] at hop'
        · simp only [Function.update_of_ne hj] at hop
          simp only [Function.update_of_ne hk] at hop'
          exact hs.apart j k hjk op hop op' hop'
  cases res with
  | error e =>
    obtain rfl := withTx_error htx
    exact ⟨hothers s.db hs.tracked fun x hx _ => hx, Safe.of_db_eq rfl⟩
  | ok u =>
    obtain ⟨-, hok⟩ := withTx_ok.mp htx
    have hswept := swept_forM (hs.nodup i) (hs.claimed i) hok
    exact ⟨hothers db' (hswept.tracked hs.tracked) hswept.others, hswept.lawful, hswept.untouched⟩

theorem Sound.step {policy : Policy} (hpos : 0 < policy.maxAttempts) {s : Workers ι}
    (hs : s.Sound policy) (l : Label ι) :
    (s.step policy l).Sound policy ∧ s.Safe (s.step policy l) := by
  cases l with
  | record classifier event failureID recoveryID now fault =>
    exact hs.record hpos classifier event failureID recoveryID now fault
  | claim i limit now => exact hs.claim i limit now
  | finish i now fault => exact hs.finish i now fault

/-- Nothing was recorded or requested yet and no `RunOnce` is running. -/
structure Fresh (s : Workers ι) : Prop where
  recoveryOperations : s.db.recoveryOperations.rows = []
  outboxEvents : ∀ txnID, retries txnID s.db = 0 ∧ reviews txnID s.db = 0
  claimed : ∀ i, s.claimed i = []

omit [Fintype ι] [DecidableEq ι] in
theorem Fresh.sound {s : Workers ι} (h : s.Fresh) (policy : Policy) : s.Sound policy where
  tracked := by
    refine ⟨?_, ?_, fun txnID _ => h.outboxEvents txnID⟩ <;> simp [h.recoveryOperations]
  claimed i := by simp [h.claimed i]
  nodup i := by simp [h.claimed i]
  apart i _ _ := by simp [h.claimed i]

/-- Under every valid policy and in every run of any number of `RecordFailure` and `RunOnce` calls,
the operations are bounded by the policy and in step with the requests, every move is lawful, and no
move touches money, tokens or nonces. -/
theorem recovery_bounded {policy : Policy} (hpolicy : policy.validate = .ok ()) {s : Workers ι}
    (hs : s.Fresh) (ls : List (Label ι)) :
    Bounded policy (s.exec policy ls).db ∧
      Run.Steps (step policy) (fun s l => s.Safe (s.step policy l)) s ls := by
  have hpos := (Policy.positive hpolicy).1
  constructor
  · have hsound : (s.exec policy ls).Sound policy :=
      Run.exec_invariant (P := fun _ _ => True) (fun s l hs _ => (hs.step hpos l).1) (hs.sound policy)
        (Run.steps_true s ls)
    exact hsound.tracked.bounded hpos
  · exact Run.steps_of_invariant (P := fun _ _ => True) (fun s l hs _ => hs.step hpos l)
      (hs.sound policy) (Run.steps_true s ls)

/-- A payment fails on a lost connection, and a worker asks for a retry when it is due. -/
def retried : List (Label (Fin 1)) :=
  [.record (classify none) ⟨"", "txn-1", 100, "connection", "connection reset by peer", some 0⟩ "f-1"
      "r-1" 0 none,
    .claim (Fin.last 0) 50 60000000000, .finish (Fin.last 0) 60000000000 none]

/-- A database with one failed payment. -/
def oneFailed : Workers (Fin 1) where
  db := { DB.empty with
    paymentIntents := Table.empty.insert ⟨"txn-1", "alice", "bob", 100, "USD", "n-1", 0, .failed,
      "phone", "token-1", some "connection", none, none, 0, "", 0, 0⟩ }
  claimed _ := []

theorem recovery_bounded_retried :
    defaultPolicy.validate = .ok () ∧ oneFailed.Fresh ∧
      (oneFailed.exec defaultPolicy retried).db.recoveryOperations.rows.map (·.attemptCount) = [1] ∧
      Bounded defaultPolicy (oneFailed.exec defaultPolicy retried).db ∧
      Run.Steps (step defaultPolicy) (fun s l => s.Safe (s.step defaultPolicy l)) oneFailed retried := by
  have hfresh : oneFailed.Fresh := ⟨rfl, fun _ => ⟨rfl, rfl⟩, fun _ => rfl⟩
  exact ⟨rfl, hfresh, by decide +kernel, recovery_bounded rfl hfresh retried⟩

end Workers

/-! ## The cooldown -/

namespace Policy

/-- The attempt after `k` others is due after the cooldown doubled `k` times. -/
theorem nextAttempt_succ (p : Policy) (k : ℕ) (now : Time) :
    p.nextAttempt (k + 1) now = now + (Int64.ofInt (p.cooldown.toInt * 2 ^ k)).toInt := by
  have hk : ¬((k : ℤ) + 1 < 1) := by omega
  simp [nextAttempt, hk]

/-- A doubling that fits is exact. -/
theorem nextAttempt_of_fits {p : Policy} {k : ℕ} (hpos : 0 < p.cooldown)
    (hfits : p.cooldown.toInt * 2 ^ k < 2 ^ 63) (now : Time) :
    p.nextAttempt (k + 1) now = now + p.cooldown.toInt * 2 ^ k := by
  have hcooldown := Checked.toInt_pos hpos
  have hdelay : 0 < p.cooldown.toInt * 2 ^ k := by positivity
  rw [nextAttempt_succ, Int64.toInt_ofInt_of_le (by omega) hfits]

/-- What is expected of `NextAttempt` in the attempts that are made: it waits for the cooldown at
least, and for a later attempt not less than for an earlier one. -/
def Grows (p : Policy) : Prop :=
  ∀ now, (∀ attempt, 1 ≤ attempt → attempt ≤ p.maxAttempts + 1 →
      now + p.cooldown.toInt ≤ p.nextAttempt attempt now) ∧
    ∀ attempt later, 1 ≤ attempt → attempt ≤ later → later ≤ p.maxAttempts + 1 →
      p.nextAttempt attempt now ≤ p.nextAttempt later now

/-- For every policy that is accepted: the waiting times grow exactly if the cooldown, doubled as
often as attempts are allowed, fits 64 bits. -/
theorem cooldown_grows_iff {p : Policy} (hp : p.validate = .ok ()) :
    p.Grows ↔ p.cooldown.toInt * 2 ^ p.maxAttempts.toNat < 2 ^ 63 := by
  obtain ⟨hattempts, -, -, hpos⟩ := positive hp
  have hcooldown := Checked.toInt_pos hpos
  constructor
  · intro hgrows
    by_contra hwraps
    obtain ⟨k, hk, hneg⟩ :=
      Checked.exists_doubling_neg hcooldown p.cooldown.toInt_lt (not_lt.mp hwraps)
    have hwaits := (hgrows 0).1 (k + 1) (by omega) (by omega)
    rw [nextAttempt_succ, zero_add, zero_add] at hwaits
    exact lt_irrefl _ (hcooldown.trans_le (hwaits.trans hneg.le))
  · intro hfits now
    -- an attempt in the range is the one after `k` others
    have hrange : ∀ {attempt : ℤ}, 1 ≤ attempt → attempt ≤ p.maxAttempts + 1 →
        ∃ k : ℕ, attempt = k + 1 ∧ p.cooldown.toInt * 2 ^ k < 2 ^ 63 := by
      intro attempt hfirst hlast
      refine ⟨(attempt - 1).toNat, by omega, lt_of_le_of_lt ?_ hfits⟩
      gcongr
      · norm_num
      · omega
    constructor
    · intro attempt hfirst hlast
      obtain ⟨k, rfl, hk⟩ := hrange hfirst hlast
      rw [nextAttempt_of_fits hpos hk]
      have hone : (1 : ℤ) ≤ 2 ^ k := one_le_pow₀ (by norm_num)
      nlinarith
    · intro attempt later hfirst hle hlast
      obtain ⟨k, rfl, hk⟩ := hrange hfirst (hle.trans hlast)
      obtain ⟨k', rfl, hk'⟩ := hrange (hfirst.trans hle) hlast
      rw [nextAttempt_of_fits hpos hk, nextAttempt_of_fits hpos hk']
      gcongr
      · norm_num
      · omega

/-- With the default policy the waiting times grow. -/
theorem cooldown_grows_iff_default : defaultPolicy.validate = .ok () ∧ defaultPolicy.Grows :=
  ⟨rfl, (cooldown_grows_iff rfl).mpr (by decide)⟩

/-- Forty attempts, a minute apart at first. -/
def patientPolicy : Policy := ⟨40, 5000000, 86400000000000, 60000000000⟩

/-- The policy is accepted. The 28th attempt is due after 255 years; the 29th was due 74 years ago.
-/
theorem patient_overdue : patientPolicy.validate = .ok () ∧
    patientPolicy.nextAttempt 28 0 = 8053063680000000000 ∧
    patientPolicy.nextAttempt 29 0 = -2340616713709551616 := by
  exact ⟨rfl, by decide, by decide⟩

end Policy

end OfflinePay.Recovery
