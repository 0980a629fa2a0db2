import OfflinePay.System.Calls

/-!
# The payment lifecycle

Reference: `internal/domain/models.go` (`IsValidTransition`), `internal/reconciliation/service.go`.

After a payment intent is created only two statements write its status: `LEDGER_COMMIT` sets it to
settled and a reconciliation scan to expired, both whatever it was before. The intent of a saga that
is still on its way is reserved, so the first of them obeys the transition table in every run in
which each saga keeps its own row. The second one obeys it exactly if the scan finds the row
broadcast, relayed or expired already, and nothing in the program ever stores the first two.
-/

namespace OfflinePay

open Settlement Repository

/-- Every payment intent that stays keeps its status or changes it as `IsValidTransition` allows. -/
def DB.Lawful (db db' : DB) : Prop :=
  ∀ row ∈ db.paymentIntents.rows, ∀ row' ∈ db'.paymentIntents.find? row.txnID,
    isValidTransition row.status row'.status = true

instance (db db' : DB) : Decidable (db.Lawful db') :=
  inferInstanceAs (Decidable (∀ row ∈ db.paymentIntents.rows,
    ∀ row' ∈ db'.paymentIntents.find? row.txnID, _))

/-- The statuses from which a payment may expire, and expired itself. -/
def PaymentStatus.mayExpire : PaymentStatus → Bool
  | broadcast | relayed | expired => true
  | _ => false

theorem isValidTransition_expired (s : PaymentStatus) :
    isValidTransition s .expired = s.mayExpire := by
  cases s <;> rfl

/-- `LEDGER_COMMIT` settles the intent under its transaction id. -/
theorem Settlement.Committed.status {o : Order} {now : Time} {db db' : DB}
    (h : Committed o now db db') {row : PaymentIntent}
    (hrow : db'.paymentIntents.find? o.payload.txnID = some row) : row.status = .settled := by
  obtain ⟨old, hold, hset⟩ := h.paymentIntents
  rw [hset, Table.find?_set, withStatus_txnID, if_pos (Table.key_of_find? hold), hold] at hrow
  simp only [Option.map_some, Option.some.injEq] at hrow
  rw [← hrow, withStatus_status]

namespace Bank

variable {b b' : Bank} {txn : Option Txn}

/-- What can happen to the status of a payment intent that stays. -/
theorem Step.status_cases (hc : b.Counters) (h : Step b txn b') {txnID : String}
    {row row' : PaymentIntent} (hrow : b.db.paymentIntents.find? txnID = some row)
    (hrow' : b'.db.paymentIntents.find? txnID = some row') :
    row'.status = row.status ∨ txn = some (.expire txnID) ∨
      ∃ i pr, txn = some (.ledgerCommit i pr.order) ∧ b.progress i = some pr ∧ pr.txnID = txnID ∧
        pr.owns ∧ ¬pr.settled ∧ row'.status = .settled ∧
        ∀ pr', b'.progress i = some pr' → pr'.settled := by
  have same : b'.db.paymentIntents.find? txnID = some row → row'.status = row.status := by
    intro heq
    rw [Option.some.inj (hrow'.symm.trans heq)]
  have erased : ∀ k, b'.db.paymentIntents = b.db.paymentIntents.erase k →
      row'.status = row.status := by
    intro k heq
    have hkept := hrow'
    rw [heq, Table.find?_erase] at hkept
    split at hkept
    · exact absurd hkept (by simp)
    · exact same (hrow'.trans (hkept.symm.trans hrow))
  cases h.intents hc with
  | calm hsettled hrows =>
    by_cases hexp : txn = some (.expire txnID)
    · exact .inr (.inl hexp)
    · exact .inl (same (hrows txnID row hexp hrow))
  | inserted new hfree hreserved hins =>
    exact .inl (same (hins ▸ Table.find?_insert_of_find? hrow))
  | @settled i now before after hbefore hafter hadv hcommitted =>
    obtain ⟨old, hold, hset⟩ := hcommitted.paymentIntents
    by_cases ht : before.txnID = txnID
    · obtain ⟨-, hexec, hstand, -, hstand'⟩ := hadv
      have hown : b'.db.paymentIntents.find? before.txnID = some row' := by rw [ht, hrow']
      have hst : row'.status = .settled := hcommitted.status hown
      refine .inr (.inr ⟨i, before, rfl, hbefore, ht, ⟨by omega, .inl (by omega)⟩, ?_, hst,
        fun pr' hpr' => ?_⟩)
      · rw [Progress.settled]
        omega
      · obtain rfl := Option.some.inj (hafter.symm.trans hpr')
        rw [Progress.settled]
        omega
    · refine .inl (same ?_)
      rw [hset, Table.find?_set_ne _ (by rwa [withStatus_txnID, Table.key_of_find? hold]), hrow]
  | undone before after hbefore hafter hadv hdel => exact .inl (erased _ hdel)
  | unreserved old hold hreserved hdel => exact .inl (erased _ hdel)

/-- The intent of every saga that owns one is reserved, and settled once `LEDGER_COMMIT` stands. -/
def Statuses (b : Bank) : Prop :=
  ∀ i pr, b.progress i = some pr → pr.owns → ∃ row, b.db.paymentIntents.find? pr.txnID = some row ∧
    row.status = if pr.settled then .settled else .reserved

theorem Statuses.step (hc : b.Counters) (ho : b.Owners) (hb : b.Statuses) (hrow : b.OwnRow txn)
    (hspare : ∀ txnID row, txn = some (.expire txnID) →
      b.db.paymentIntents.find? txnID = some row → row.status.mayExpire = true)
    (h : Step b txn b') : b'.Statuses := by
  intro i pr hpr hown
  obtain ⟨row', hrow'⟩ := Option.ne_none_iff_exists'.mp ((ho.step hc hrow h).row i pr hpr hown)
  refine ⟨row', hrow', ?_⟩
  rcases h.owner_cases hc hpr hown with ⟨pr₀, hpr₀, horder, hown₀⟩ | ⟨rfl, hres⟩
  · obtain ⟨row, hold, hst⟩ := hb i pr₀ hpr₀ hown₀
    have htxn : pr₀.txnID = pr.txnID := by rw [Progress.txnID, horder]
    rw [htxn] at hold
    rcases h.status_cases hc hold hrow' with hsame | hexp | ⟨j, pr₁, htx, hpr₁, hid, hown₁, -, hset, hj⟩
    · have hiff : pr.settled ↔ pr₀.settled := by
        constructor
        · intro hset
          rcases h.settles hpr hset with ⟨pr₁, hpr₁, -, hset₁⟩ | ⟨-, now, hcom⟩
          · exact Option.some.inj (hpr₁.symm.trans hpr₀) ▸ hset₁
          · -- the row would have changed
            by_contra hun
            rw [if_neg hun] at hst
            have hset' := hcom.status hrow'
            exact absurd (hset'.symm.trans (hsame.trans hst)) (by decide)
        · intro hset
          by_contra hun
          obtain ⟨pr₁, hpr₁, -, hgone⟩ := h.unsettles hc hpr₀
          obtain rfl : pr = pr₁ := Option.some.inj (hpr.symm.trans hpr₁)
          rcases hgone hun with hgone | hgone
          · exact hgone hset
          · exact absurd (hrow'.symm.trans (horder ▸ hgone.intent)) (by simp)
      simp only [hsame, hst, hiff]
    · -- a scan does not get at the row
      have hmay := hspare pr.txnID row hexp hold
      rw [hst] at hmay
      split at hmay <;> exact absurd hmay (by decide)
    · obtain rfl := ho.unique j i pr₁ pr₀ hpr₁ hpr₀ hown₁ hown₀ (hid.trans htxn.symm)
      rw [if_pos (hj pr hpr), hset]
  · obtain ⟨new, hid, hnew, hins⟩ := hres.paymentIntents
    have hfree : b.db.paymentIntents.find? new.txnID = none := by rw [hid]; exact hres.free
    rw [hins, Progress.txnID, ← hid, Table.find?_insert_self hfree] at hrow'
    obtain rfl := Option.some.inj hrow'
    rw [hnew, if_neg]
    intro hset
    rcases h.settles hpr hset with ⟨pr₀, hpr₀, horder, hset₀⟩ | ⟨hcom, -⟩
    · refine ho.row i pr₀ hpr₀ hset₀.owns ?_
      rw [Progress.txnID, horder]
      exact hres.free
    · exact absurd hcom (by simp)

end Bank

/-! ## All runs -/

namespace World

variable {E : Externals}

/-- The payment intent that a step of a reconciliation scan is about to mark expired. -/
def expiring (w : World E) : Label → Option String
  | .scan j none now =>
    match w.scans[j]? with
    | some (intent :: _) => if intent.expiry < now then some intent.txnID else none
    | _ => none
  | _ => none

/-- Reconciliation is about to expire only what may expire. -/
def SparesLive (w : World E) (l : Label) : Prop :=
  ∀ txnID ∈ w.expiring l, ∀ row ∈ w.db.paymentIntents.find? txnID, row.status.mayExpire = true

instance (w : World E) (l : Label) : Decidable (w.SparesLive l) :=
  inferInstanceAs (Decidable (∀ txnID ∈ w.expiring l,
    ∀ row ∈ w.db.paymentIntents.find? txnID, _))

/-- What a step of a scan writes. -/
theorem step_expiring {w : World E} {l : Label} {txnID : String} (h : w.expiring l = some txnID)
    {row : PaymentIntent} (hrow : w.db.paymentIntents.find? txnID = some row) :
    ∃ row', (w.step l).db.paymentIntents.find? txnID = some row' ∧ row'.status = .expired := by
  unfold expiring at h
  split at h
  · next j now =>
    split at h
    · next intent rest hscan =>
      split at h
      · next hexp =>
        obtain rfl := Option.some.inj h
        refine ⟨withStatus row .expired (some "expired_during_relay") now, ?_, withStatus_status ..⟩
        have hkey : row.txnID = intent.txnID := Table.key_of_find? hrow
        simp [step, scan, hscan, hexp, Tx.withTx, updatePaymentIntentStatus, Tx.write, hrow, commit,
          Table.find?_set, hkey]
      · exact absurd h (by simp)
    · exact absurd h (by simp)
  · exact absurd h (by simp)

theorem expiring_of_commits {w : World E} {l : Label} {txnID : String}
    (h : w.commits l = some (.expire txnID)) : w.expiring l = some txnID := by
  obtain ⟨i, fault, now, rfl⟩ := madeBy_of_commits h
  simp only [commits, step, scan] at h
  split at h
  · simp at h
  · simp at h
  · next intent rest hscan =>
    split at h
    · next hexp =>
      split at h
      · next db' htx =>
        obtain ⟨rfl, -⟩ := Tx.withTx_ok.mp htx
        obtain rfl : intent.txnID = txnID := by simpa [commit] using h
        simp [expiring, hscan, hexp]
      · simp at h
    · simp at h

/-- A move that keeps the transition table spares every live payment. -/
theorem sparesLive_of_lawful {w : World E} {l : Label} (h : w.db.Lawful (w.step l).db) :
    w.SparesLive l := by
  intro txnID hexp row hrow
  obtain ⟨row', hrow', hst⟩ := step_expiring hexp hrow
  have hvalid := h row (Table.mem_of_find? hrow) row' (by rwa [Table.key_of_find? hrow])
  rwa [hst, isValidTransition_expired] at hvalid

/-- A move that spares them keeps the table. -/
theorem lawful_of_sparesLive {w : World E} {l : Label} (hwf : w.CallsWf) (hs : w.bank.Sound)
    (hb : w.bank.Statuses) (hspare : w.SparesLive l) : w.db.Lawful (w.step l).db := by
  intro row hmem row' hrow'
  have hrow : w.db.paymentIntents.find? row.txnID = some row := Table.find?_of_mem hmem
  rcases (step_refines hwf l).1.status_cases hs.counters hrow hrow' with
    hsame | hexp | ⟨i, pr, -, hpr, hid, hown, hun, hset, -⟩
  · rw [hsame, isValidTransition, beq_self_eq_true, Bool.true_or]
  · have hexp := expiring_of_commits hexp
    obtain ⟨row₁, hrow₁, hst⟩ := step_expiring hexp hrow
    obtain rfl : row' = row₁ := Option.some.inj (hrow'.symm.trans hrow₁)
    rw [hst, isValidTransition_expired]
    exact hspare row.txnID hexp row hrow
  · obtain ⟨row₁, hrow₁, hst⟩ := hb i pr hpr hown
    rw [hid] at hrow₁
    obtain rfl : row = row₁ := Option.some.inj (hrow.symm.trans hrow₁)
    rw [hst, if_neg hun, hset]
    rfl

end World

/-- In every run in which each saga keeps its own row: every status change is one that
`IsValidTransition` allows if and only if no reconciliation scan marks a payment intent expired that
is not broadcast, relayed or expired when its turn comes. -/
theorem lifecycle_lawful_iff {E : Externals} (w : World E) (hi : w.Initial) (ls : List Label)
    (hown : w.OwnRows ls) :
    World.Steps (fun w l => w.db.Lawful (w.step l).db) w ls ↔ World.Steps World.SparesLive w ls := by
  constructor
  · exact Run.steps_mono fun w l h => World.sparesLive_of_lawful h
  · intro hspare
    refine Run.steps_of_invariant
      (I := fun w => w.CallsWf ∧ w.bank.Sound ∧ w.bank.Owners ∧ w.bank.Statuses) ?_
      ⟨hi.callsWf, hi.sound, hi.owners, fun i pr hpr => by simp [hi.progress] at hpr⟩
      (Run.steps_and hown hspare)
    rintro w l ⟨hwf, hs, ho, hb⟩ ⟨hown, hspare⟩
    obtain ⟨h, hwf'⟩ := World.step_refines hwf l
    have hb' := hb.step hs.counters ho hown (fun txnID row hexp hrow =>
      hspare txnID (World.expiring_of_commits hexp) row hrow) h
    exact ⟨⟨hwf', hs.step h, ho.step hs.counters hown h, hb'⟩,
      World.lawful_of_sparesLive hwf hs hb hspare⟩

/-- `alice` pays 30 to `bob` with a payment that expires after twenty seconds. A scan reads the
intent after twelve, when it is reserved; the payment is settled after fifteen, and the scan gets to
it at the given time. -/
def lifecycleRun (now : Time) : List Label :=
  Label.setup ["K"] ++ [.startSettle ⟨"", "pay", "N", "", "T", ""⟩ 0] ++ Label.settles 0 7 ++
    [.startScan 12000000000, .settle 0 { now := 15000000000 }, .scan 0 none 16000000000,
      .scan 0 none now]

/-- The envelope of `lifecycleRun`. -/
def lifecycleDecode : String → Option SignedPaymentIntent
  | "pay" => some (PaymentIntentPayload.signedBy
      ⟨"T", "alice", "bob", 30, "USD", "N", 20000000000, "phone", "K"⟩ "alice-key")
  | _ => none

/-- The scan that gets to it after twenty-one seconds turns a settled payment into an expired one.
-/
theorem settled_intent_expires :
    (World.start (E := .simple lifecycleDecode) ()).Initial ∧
    ¬World.Steps (fun w l => w.db.Lawful (w.step l).db)
      (World.start (E := .simple lifecycleDecode) ()) (lifecycleRun 21000000000) ∧
    (((World.start (E := .simple lifecycleDecode) ()).exec
      ((lifecycleRun 21000000000).dropLast)).db.paymentIntents.find? "T").map PaymentIntent.status
        = some .settled ∧
    (((World.start (E := .simple lifecycleDecode) ()).exec
      (lifecycleRun 21000000000)).db.paymentIntents.find? "T").map PaymentIntent.status
        = some .expired :=
  ⟨World.start_initial _, by decide +kernel⟩

/-- The scan that gets to it after seventeen leaves it alone. -/
theorem lifecycle_lawful_iff_in_time :
    (World.start (E := .simple lifecycleDecode) ()).OwnRows (lifecycleRun 17000000000) ∧
    World.Steps (fun w l => w.db.Lawful (w.step l).db)
      (World.start (E := .simple lifecycleDecode) ()) (lifecycleRun 17000000000) := by
  have h : (World.start (E := .simple lifecycleDecode) ()).OwnRows (lifecycleRun 17000000000) ∧
      World.Steps World.SparesLive (World.start (E := .simple lifecycleDecode) ())
        (lifecycleRun 17000000000) := by
    decide +kernel
  exact ⟨h.1, (lifecycle_lawful_iff _ (World.start_initial _) _ h.1).mpr h.2⟩

end OfflinePay
