import OfflinePay.Recovery.Manager

/-!
# Recovery operations and the payments they are for

`recovery_operations.txn_id` is a foreign key, so the intent of a planned recovery cannot go away.
`DB.KeepsLinks` carries this through transaction bodies; only four of the statements touch one of
the two tables.
-/

namespace OfflinePay

/-- Every recovery operation is for a payment intent that exists. -/
def DB.Linked (db : DB) : Prop :=
  ∀ op ∈ db.recoveryOperations.rows, db.paymentIntents.find? op.txnID ≠ none

/-- The step from `db` to `db'` leaves no recovery operation without its payment intent. -/
def DB.KeepsLinks (db db' : DB) : Prop := db.Linked → db'.Linked

instance : IsPreorder DB DB.KeepsLinks where
  refl _ := id
  trans _ _ _ hab hbc := hbc ∘ hab

/-- A step that touches neither table. -/
theorem DB.KeepsLinks.of_eq {db db' : DB} (hintents : db'.paymentIntents = db.paymentIntents)
    (hoperations : db'.recoveryOperations = db.recoveryOperations) : db.KeepsLinks db' := by
  intro h
  rwa [DB.Linked, hintents, hoperations]

/-- A step that keeps the recovery operations and the keys of the intents. -/
theorem DB.KeepsLinks.of_kept {db db' : DB}
    (hoperations : db'.recoveryOperations = db.recoveryOperations)
    (hintents : ∀ txnID, db.paymentIntents.find? txnID ≠ none → db'.paymentIntents.find? txnID ≠ none) :
    db.KeepsLinks db' := by
  intro h op hop
  rw [hoperations] at hop
  exact hintents _ (h op hop)

open Tx Repository

/-- No statement of a settlement takes the payment away from a planned recovery: a referenced intent
is not deleted, and a recovery is planned only for an intent that exists. -/
theorem Recovery.keepsLinks : Recovery.Statements DB.KeepsLinks where
  createPaymentIntent intent db u db' h := by
    obtain ⟨-, hfree, -, -, rfl⟩ := createPaymentIntent_ok.mp h
    refine .of_kept rfl fun txnID hrow => ?_
    obtain ⟨row, hrow⟩ := Option.ne_none_iff_exists'.mp hrow
    simp [Table.find?_insert_of_find? hrow]
  updatePaymentIntentStatus txnID status reason now := by
    refine keeps_write fun db => ?_
    cases db.paymentIntents.find? txnID with
    | none => exact id
    | some intent => exact .of_kept rfl fun txnID => mt (Table.find?_set_eq_none _ _ _).mp
  deletePaymentIntent txnID db u db' h := by
    obtain ⟨hfree, rfl⟩ := deletePaymentIntent_ok.mp h
    intro hlinked op hop
    have hne : txnID ≠ op.txnID := by
      rintro rfl
      have href := hfree (hlinked op hop)
      simp only [DB.referenced, Bool.or_eq_false_iff, List.any_eq_false, beq_iff_eq] at href
      exact href.2 op hop rfl
    rw [Table.find?_erase_ne _ hne]
    exact hlinked op hop
  registerNonce := keeps_registerNonce fun _ _ => .of_eq rfl rfl
  deleteNonce := keeps_deleteNonce fun _ _ => .of_eq rfl rfl
  updateToken := keeps_updateToken fun _ _ => .of_eq rfl rfl
  updateBalance := keeps_updateBalance fun _ _ => .of_eq rfl rfl
  createLedgerEntry := keeps_createLedgerEntry fun _ _ _ => .of_eq rfl rfl
  deleteLedgerEntries := keeps_deleteLedgerEntries fun _ _ _ => .of_eq rfl rfl
  createAuditEvent := keeps_createAuditEvent fun _ _ => .of_eq rfl rfl
  createOutboxEvent := keeps_createOutboxEvent fun _ _ _ => .of_eq rfl rfl
  createPaymentEvent := keeps_createPaymentEvent fun _ _ => .of_eq rfl rfl
  insertFailure := Recovery.keeps_insertFailure fun _ _ => .of_eq rfl rfl
  insertOperation op db fresh db' h := by
    obtain ⟨-, rfl⟩ | ⟨-, hfree, -, hintent, rfl⟩ := Recovery.insertOperation_ok h
    · exact id
    · intro hlinked op' hop'
      rcases (Table.mem_insert hfree).mp hop' with hop' | rfl
      · exact hlinked op' hop'
      · exact hintent

end OfflinePay
