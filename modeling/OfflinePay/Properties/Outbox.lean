import OfflinePay.System.Calls

/-!
# The transactional outbox

`LEDGER_COMMIT` settles the payment intent and `PUBLISH` announces it, in two transactions. Between
the two, money has moved and nobody is told; a caller that stops there, or a compensation that is
given up, makes that permanent. Apart from such calls, settled and announced are the same, as long
as `PUBLISH` gets to read its intent, reconciliation does not overwrite settled intents, and every
saga keeps its own row.
-/

namespace OfflinePay

open Settlement Repository

/-- The transaction id in the payload of an event. -/
def Json.txnID? : Json → Option String
  | .obj fields =>
    match fields.lookup "txn_id" with
    | some (.str txnID) => some txnID
    | _ => none
  | _ => none

namespace DB

/-- The payment intent is there and settled. -/
def Settled (db : DB) (txnID : String) : Prop :=
  (db.paymentIntents.find? txnID).map PaymentIntent.status = some .settled

instance (db : DB) (txnID : String) : Decidable (db.Settled txnID) :=
  inferInstanceAs (Decidable (_ = _))

/-- The outbox event, the audit event and the payment event of the settlement have been written. -/
structure Announced (db : DB) (txnID : String) : Prop where
  outbox : ∃ e ∈ db.outboxEvents, e.eventType = "PaymentSettled" ∧ e.payload.txnID? = some txnID
  audit : ∃ e ∈ db.auditEvents, e.eventType = "PaymentSettled" ∧ e.txnID = txnID
  payment : ∃ e ∈ db.paymentEvents, e.eventType = "IntentSettled" ∧ e.txnID = txnID

theorem settled_iff {db : DB} {txnID : String} : db.Settled txnID ↔
    ∃ row, db.paymentIntents.find? txnID = some row ∧ row.status = .settled :=
  Option.map_eq_some_iff

/-- A step that announces nothing changes no announcement. -/
theorem Unannounced.announced {db db' : DB} {txnID : String} (h : db.Unannounced db')
    (ha : db.Announced txnID) : db'.Announced txnID := by
  obtain ⟨⟨e₁, h₁, ht₁, hid₁⟩, ⟨e₂, h₂, ht₂, hid₂⟩, ⟨e₃, h₃, ht₃, hid₃⟩⟩ := ha
  exact ⟨⟨e₁, (h.outbox e₁ ht₁).mpr h₁, ht₁, hid₁⟩, ⟨e₂, (h.audit e₂ ht₂).mpr h₂, ht₂, hid₂⟩,
    ⟨e₃, (h.payment e₃ ht₃).mpr h₃, ht₃, hid₃⟩⟩

end DB

/-- `LEDGER_COMMIT` settles its intent. -/
theorem Settlement.Committed.settled {o : Order} {now : Time} {db db' : DB}
    (h : Committed o now db db') : db'.Settled o.payload.txnID := by
  obtain ⟨row, hrow, hupd⟩ := h.paymentIntents
  rw [DB.Settled, hupd, Table.find?_set, withStatus_txnID, if_pos (Table.key_of_find? hrow), hrow]
  simp

namespace Settlement.Published

variable {o : Order} {readFault : Option GoError} {db db' : DB}

/-- `PUBLISH` takes no announcement back. -/
theorem keeps (h : Published o readFault db db') {txnID : String} (ha : db.Announced txnID) :
    db'.Announced txnID := by
  obtain ⟨⟨e₁, h₁, hid₁⟩, ⟨e₂, h₂, hid₂⟩, ⟨e₃, h₃, hid₃⟩⟩ := ha
  obtain ⟨_, hout⟩ := h.outboxEvents
  obtain ⟨_, haudit⟩ := h.auditEvents
  have hpay : e₃ ∈ db'.paymentEvents := by
    have hp := h.paymentEvents
    split at hp
    · obtain ⟨_, _, hp⟩ := hp
      rw [hp]
      exact List.mem_append_left _ h₃
    · rwa [hp]
  exact ⟨⟨e₁, hout ▸ List.mem_append_left _ h₁, hid₁⟩,
    ⟨e₂, haudit ▸ List.mem_append_left _ h₂, hid₂⟩, ⟨e₃, hpay, hid₃⟩⟩

/-- `PUBLISH` announces its payment if it gets to read the intent. -/
theorem announces (h : Published o none db db')
    (hrow : db.paymentIntents.find? o.payload.txnID ≠ none) : db'.Announced o.payload.txnID := by
  obtain ⟨now, hout⟩ := h.outboxEvents
  obtain ⟨payload, haudit⟩ := h.auditEvents
  obtain ⟨_, _, hpay⟩ := (if_pos ⟨rfl, hrow⟩).mp h.paymentEvents
  exact ⟨⟨_, hout ▸ List.mem_append_right _ (List.mem_singleton_self _), rfl, rfl⟩,
    ⟨_, haudit ▸ List.mem_append_right _ (List.mem_singleton_self _), rfl, rfl⟩,
    ⟨_, hpay ▸ List.mem_append_right _ (List.mem_singleton_self _), rfl, rfl⟩⟩

end Settlement.Published

namespace Bank

variable {b b' : Bank} {txn : Option Txn}

/-- Only `PUBLISH` announces anything. -/
theorem Step.announces (hc : b.Counters) (h : Step b txn b') : b.db.Unannounced b'.db ∨
    ∃ i o after readFault, txn = some (.phase i o (.action 3)) ∧ b'.progress i = some after ∧
      after.order = o ∧ after.standing = 4 ∧ Published o readFault b.db b'.db := by
  cases h.effect with
  | quiet hplain hdb hnone hprogress => exact .inl hdb.toUnannounced
  | begin hnew hdb hprogress htoken => exact .inl (hdb ▸ .refl _)
  | createAccount row hnew hreserved hdb hprogress =>
    exact .inl (by rw [hdb]; exact .of_eq rfl rfl rfl)
  | issueToken hdb hprogress => exact .inl hdb.toUnannounced
  | release htok hdb hprogress => exact .inl hdb.toUnannounced
  | phase before after hbefore horder hadv hdb hprogress =>
    cases hdb with
    | reserve hh => exact .inl hh.toUnannounced
    | hold hh => exact .inl hh.toUnannounced
    | commitLedger hh => exact .inl hh.toUnannounced
    | publish hh =>
      exact .inr ⟨_, _, after, _, rfl, progress_self hprogress, hadv.1.trans horder, hadv.2.2.2.2, hh⟩
    | unreserve hh => exact .inl hh.toUnannounced
    | unhold hh => exact .inl hh.toUnannounced
    | undoLedger hh => exact .inl (hc.undone hbefore horder hadv.2.1 hh).toUnannounced

/-- Settled intents stay settled, except that reconciliation may overwrite them and that the
compensation of a `LEDGER_COMMIT` deletes its own. -/
theorem Step.settled_kept (hc : b.Counters) (h : Step b txn b') {txnID : String}
    (hset : b.db.Settled txnID) (hexp : txn ≠ some (.expire txnID))
    (hundo : ∀ i pr, b.progress i = some pr → pr.settled → pr.txnID = txnID →
      ∃ pr', b'.progress i = some pr' ∧ pr'.settled) : b'.db.Settled txnID := by
  obtain ⟨row, hrow, hst⟩ := DB.settled_iff.mp hset
  cases h.intents hc with
  | calm hsettled hrows => exact DB.settled_iff.mpr ⟨row, hrows txnID row hexp hrow, hst⟩
  | inserted new hfree hreserved hins =>
    exact DB.settled_iff.mpr ⟨row, hins ▸ Table.find?_insert_of_find? hrow, hst⟩
  | settled before after hbefore hafter hadv hcommitted =>
    obtain ⟨old, hold, hupd⟩ := hcommitted.paymentIntents
    rw [DB.Settled, hupd, Table.find?_set]
    split
    · simp [hrow]
    · rw [hrow, Option.map_some, hst]
  | @undone i before after hbefore hafter hadv hdel =>
    have hne : before.txnID ≠ txnID := by
      intro heq
      have hsettled : before.settled := by
        rw [Progress.settled, hadv.2.1]
        decide
      obtain ⟨pr', hpr', hset'⟩ := hundo i before hbefore hsettled heq
      obtain rfl := Option.some.inj (hafter.symm.trans hpr')
      rw [Progress.settled, hadv.2.2.1] at hset'
      exact absurd hset' (by decide)
    exact DB.settled_iff.mpr ⟨row, by rw [hdel, Table.find?_erase_ne _ hne, hrow], hst⟩
  | unreserved old hold hreserved hdel =>
    have hne : old.txnID ≠ txnID := by
      rintro rfl
      obtain rfl : old = row := Option.some.inj (hold.symm.trans hrow)
      exact absurd (hreserved.symm.trans hst) (by decide)
    exact DB.settled_iff.mpr ⟨row, by rw [hdel, Table.find?_erase_ne _ hne, hrow], hst⟩

/-- A payment that is published after a move was published before it, or has just been. -/
theorem Step.publishes (h : Step b txn b') {i : ℕ} {pr : Progress} (hpr : b'.progress i = some pr)
    (hst : pr.standing = 4) : b.progress i = some pr ∨
      txn = some (.phase i pr.order (.action 3)) ∧
        ∃ pr₀, b.progress i = some pr₀ ∧ pr₀.order = pr.order ∧ pr₀.settled := by
  obtain hpr | ⟨o, rfl⟩ | ⟨before, p, input, hbefore, ⟨hord, hadv⟩, hdb, htxn⟩ :=
    h.progress_before hpr
  · exact .inl hpr
  · exact absurd hst (by simp)
  · cases hdb with
    | publish hh =>
      refine .inr ⟨htxn, before, hbefore, hord.symm, ?_⟩
      rw [Progress.settled, hadv.2.1]
      decide
    | _ =>
      simp only at hadv
      omega

/-- A published payment stays published. -/
theorem Step.published_kept (hc : b.Counters) (h : Step b txn b') {i : ℕ} {pr : Progress}
    (hpr : b.progress i = some pr) (hst : pr.standing = 4) : b'.progress i = some pr := by
  obtain hpr' | ⟨after, p, input, -, ⟨-, hadv⟩, hdb, -⟩ := h.progress_after hpr
  · exact hpr'
  · have hwf := hc i pr hpr
    have hle := hwf.standing_le
    have hle' := hwf.executed_le
    cases hdb <;> simp only at hadv <;> omega

/-- Settled intents belong to standing payments, and announcements to published ones. -/
structure Outbox (b : Bank) : Prop where
  settled : ∀ i pr, b.progress i = some pr → pr.settled → b.db.Settled pr.txnID
  announced : ∀ i pr, b.progress i = some pr → pr.standing = 4 → b.db.Announced pr.txnID
  published : ∀ e ∈ b.db.auditEvents, e.eventType = "PaymentSettled" →
    ∃ i pr, b.progress i = some pr ∧ pr.standing = 4 ∧ pr.txnID = e.txnID

theorem Outbox.step (hs : b.Sound) (ho : b.Owners) (hb : b.Outbox) (h : Step b txn b')
    (hexp : ∀ txnID, txn = some (.expire txnID) → ¬b.db.Settled txnID)
    (hpub : ∀ i o, txn = some (.phase i o (.action 3)) → Published o none b.db b'.db) :
    b'.Outbox where
  settled i pr hpr hset := by
    rcases h.settles hpr hset with ⟨pr₀, hpr₀, horder, hset₀⟩ | ⟨-, now, hcom⟩
    · have htxn : pr₀.txnID = pr.txnID := by rw [Progress.txnID, horder]
      have hold := hb.settled i pr₀ hpr₀ hset₀
      rw [htxn] at hold
      refine h.settled_kept hs.counters hold (fun ht => hexp _ ht hold) fun j pr' hpr' hset' heq => ?_
      -- nobody else has a row under this id
      obtain rfl : i = j :=
        ho.unique i j pr₀ pr' hpr₀ hpr' hset₀.owns hset'.owns (htxn.trans heq.symm)
      exact ⟨pr, hpr, hset⟩
    · exact hcom.settled
  announced i pr hpr hst := by
    rcases h.publishes hpr hst with hold | ⟨rfl, pr₀, hpr₀, horder, hset₀⟩
    · have hann := hb.announced i pr hold hst
      rcases h.announces hs.counters with hun | ⟨_, _, _, _, -, -, -, -, hp⟩
      · exact hun.announced hann
      · exact hp.keeps hann
    · refine (hpub i pr.order rfl).announces ?_
      obtain ⟨row, hrow, -⟩ := DB.settled_iff.mp (hb.settled i pr₀ hpr₀ hset₀)
      rw [Progress.txnID, horder] at hrow
      simp [hrow]
  published e he ht := by
    have kept : e ∈ b.db.auditEvents → ∃ i pr, b'.progress i = some pr ∧ pr.standing = 4 ∧
        pr.txnID = e.txnID := by
      intro hmem
      obtain ⟨i, pr, hpr, hst, htxn⟩ := hb.published e hmem ht
      exact ⟨i, pr, h.published_kept hs.counters hpr hst, hst, htxn⟩
    rcases h.announces hs.counters with hun | ⟨i, o, after, _, -, hafter, horder, hst, hp⟩
    · exact kept ((hun.audit e ht).mp he)
    · obtain ⟨payload, haudit⟩ := hp.auditEvents
      rw [haudit, List.mem_append, List.mem_singleton] at he
      rcases he with hmem | rfl
      · exact kept hmem
      · exact ⟨i, after, hafter, hst, by rw [Progress.txnID, horder]⟩

/-- Settled and announced are the same exactly if no payment stands unpublished. -/
theorem Outbox.iff (ho : b.Owners) (ha : b.Authors) (hc : b.Counters) (hb : b.Outbox) :
    (∀ txnID, b.db.Settled txnID ↔ b.db.Announced txnID) ↔
      ∀ i pr, b.progress i = some pr → pr.standing ≠ 3 := by
  -- what is announced has been published
  have hpub : ∀ {txnID}, b.db.Announced txnID →
      ∃ i pr, b.progress i = some pr ∧ pr.standing = 4 ∧ pr.txnID = txnID := by
    intro txnID hann
    obtain ⟨e, he, ht, rfl⟩ := hann.audit
    exact hb.published e he ht
  constructor
  · intro hiff i pr hpr hst
    have hset : pr.settled := by rw [Progress.settled, hst]; decide
    obtain ⟨j, pr', hpr', hst', htxn⟩ := hpub ((hiff _).mp (hb.settled i pr hpr hset))
    have hset' : pr'.settled := by rw [Progress.settled, hst']; decide
    obtain rfl := ho.unique j i pr' pr hpr' hpr hset'.owns hset.owns htxn
    obtain rfl : pr = pr' := Option.some.inj (hpr.symm.trans hpr')
    omega
  · intro hnone txnID
    constructor
    · intro hset
      obtain ⟨row, hrow, hst⟩ := DB.settled_iff.mp hset
      obtain ⟨i, pr, hpr, hset', rfl⟩ := ha.settled txnID row hrow hst
      have hwf := hc i pr hpr
      have hne := hnone i pr hpr
      have hle := hwf.standing_le
      have hle' := hwf.executed_le
      rw [Progress.settled] at hset'
      exact hb.announced i pr hpr (by omega)
    · intro hann
      obtain ⟨i, pr, hpr, hst, rfl⟩ := hpub hann
      exact hb.settled i pr hpr (by rw [Progress.settled, hst]; decide)

end Bank

/-! ## All runs -/

/-- The payment intent that reconciliation marked expired. -/
def Txn.expires? : Txn → Option String
  | .expire txnID => some txnID
  | _ => none

/-- A committed `PUBLISH`. -/
def Txn.publishes : Txn → Bool
  | .phase _ _ (.action 3) => true
  | _ => false

/-- The failure of the reads of a move. -/
def Label.readFault : Label → Option GoError
  | .settle _ input => input.readFault
  | _ => none

namespace World

variable {E : Externals}

/-- The compensation of a `RESERVE` finds its own row or none, reconciliation expires no settled
intent, and `PUBLISH` gets to read its intent. -/
def Clean (w : World E) (l : Label) : Prop :=
  w.bank.OwnRow (w.commits l) ∧ (∀ txnID ∈ (w.commits l).bind Txn.expires?, ¬w.db.Settled txnID) ∧
    ((w.commits l).any Txn.publishes = true → l.readFault = none)

instance (w : World E) (l : Label) : Decidable (w.Clean l) :=
  inferInstanceAs (Decidable (_ ∧ (∀ txnID ∈ (w.commits l).bind Txn.expires?, _) ∧ (_ → _)))

theorem outbox {w : World E} (hi : w.Initial) {ls : List Label} (hclean : Steps Clean w ls) :
    (w.exec ls).bank.Outbox := by
  refine (Run.exec_invariant (I := fun w => w.CallsWf ∧ w.bank.Sound ∧ w.bank.Owners ∧ w.bank.Outbox)
    ?_ ⟨hi.callsWf, hi.sound, hi.owners, ?_⟩ hclean).2.2.2
  · rintro w l ⟨hwf, hs, ho, hb⟩ ⟨hown, hexp, hread⟩
    obtain ⟨h, hwf'⟩ := step_refines hwf l
    refine ⟨hwf', hs.step h, ho.step hs.counters hown h, hb.step hs ho h ?_ ?_⟩
    · intro txnID htxn
      exact hexp txnID (by rw [htxn]; rfl)
    · intro i o htxn
      obtain ⟨input, hl, heffect⟩ := phase_of_commits hwf htxn
      have hnone : input.readFault = none := by
        subst hl
        exact hread (by rw [htxn]; rfl)
      cases heffect with
      | publish hp => exact hnone ▸ hp
  · have haudit : w.bank.db.auditEvents = [] := hi.auditEvents
    exact ⟨fun i pr hpr => by simp [hi.progress] at hpr, fun i pr hpr => by simp [hi.progress] at hpr,
      fun e he => by simp [haudit] at he⟩

/-- No payment stands unpublished, in terms of the calls. -/
theorem forall_standing {w : World E} (hwf : w.CallsWf) :
    (∀ i pr, w.bank.progress i = some pr → pr.standing ≠ 3) ↔
      ∀ call ∈ w.calls, call.saga.standing ≠ 3 := by
  constructor
  · intro h call hcall hst
    obtain ⟨i, hi⟩ := List.mem_iff_getElem?.mp hcall
    cases horder : call.order with
    | none =>
      rw [(hwf call hcall).create horder] at hst
      exact absurd hst (by decide)
    | some o =>
      refine h i ⟨o, call.saga.executed, call.saga.standing⟩ ?_ hst
      exact (progress_of_call hi).trans (by rw [horder, Option.map_some])
  · intro h i pr hpr hst
    obtain ⟨call, hcall, hpr⟩ := Option.bind_eq_some_iff.mp hpr
    obtain ⟨o, -, rfl⟩ := Option.map_eq_some_iff.mp hpr
    exact h call (List.mem_of_getElem? hcall) hst

end World

/-- In every state reached by clean moves: the settled payment intents are the announced ones if and
only if no call has exactly three standing steps, that is, a `LEDGER_COMMIT` that is committed and
not compensated and a `PUBLISH` that is not committed. -/
theorem settled_iff_announced {E : Externals} (w : World E) (hi : w.Initial) (ls : List Label)
    (hclean : World.Steps World.Clean w ls) :
    (∀ txnID, (w.exec ls).db.Settled txnID ↔ (w.exec ls).db.Announced txnID) ↔
      ∀ call ∈ (w.exec ls).calls, call.saga.standing ≠ 3 := by
  have hown : w.OwnRows ls := Run.steps_mono (fun _ _ h => h.1) hclean
  have hs := World.sound hi ls
  have hwf : (w.exec ls).CallsWf :=
    (World.bank_invariant (P := fun _ _ => True) (I := fun _ => True) (fun _ _ _ _ _ => trivial)
      hi.callsWf trivial (Run.steps_true w ls)).2
  exact (Bank.Outbox.iff (World.owners hi hown) (World.authors hi hown) hs.counters
    (World.outbox hi hclean)).trans (World.forall_standing hwf)

/-- `alice` pays 30 to `bob`, and the call is stopped after the given number of steps. -/
def outboxRun (n : ℕ) : List Label :=
  Label.setup ["K"] ++ [.startSettle ⟨"", "pay", "N", "", "T", ""⟩ 0] ++ Label.settles 0 n

/-- The envelope of `outboxRun`. -/
def outboxDecode : String → Option SignedPaymentIntent
  | "pay" => some (PaymentIntentPayload.signedBy
      ⟨"T", "alice", "bob", 30, "USD", "N", 1000000000000, "phone", "K"⟩ "alice-key")
  | _ => none

/-- Stopped after `LEDGER_COMMIT`, the payment is settled and not announced. -/
theorem settled_unannounced :
    (World.start (E := .simple outboxDecode) ()).Initial ∧
    ¬∀ txnID, ((World.start (E := .simple outboxDecode) ()).exec (outboxRun 8)).db.Settled txnID ↔
      ((World.start (E := .simple outboxDecode) ()).exec (outboxRun 8)).db.Announced txnID := by
  refine ⟨World.start_initial _, fun h => ?_⟩
  obtain ⟨e, he, -⟩ := ((h "T").mp (by decide +kernel)).audit
  have hnone : ((World.start (E := .simple outboxDecode) ()).exec
      (outboxRun 8)).db.auditEvents.length = 0 := by decide +kernel
  rw [List.eq_nil_of_length_eq_zero hnone] at he
  exact absurd he List.not_mem_nil

/-- Run to its end, it is both. -/
theorem settled_iff_announced_published :
    ((World.start (E := .simple outboxDecode) ()).exec (outboxRun 18)).db.Settled "T" ∧
    ((World.start (E := .simple outboxDecode) ()).exec (outboxRun 18)).db.Announced "T" := by
  have hset : ((World.start (E := .simple outboxDecode) ()).exec (outboxRun 18)).db.Settled "T" := by
    decide +kernel
  exact ⟨hset, ((settled_iff_announced _ (World.start_initial _) (outboxRun 18)
    (by decide +kernel)).mpr (by decide +kernel) "T").mp hset⟩

end OfflinePay
