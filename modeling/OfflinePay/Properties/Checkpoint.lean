import OfflinePay.Properties.Convergence

/-!
# What the projection checkpoint says

Reference: `internal/projection/worker.go`, `exportLag`; `internal/repository/repository.go`,
`UpdateProjectionCheckpoint`.

A handler sets the checkpoint to the id of its event, whatever the checkpoint was. The consumers of
the two streams do not wait for each other, and an event may come to the outbox after one with a
larger id. So the checkpoint is a lower bound for what is missing, and never goes back, exactly when
the handlers commit in the order of the ids and no event comes late.
-/

namespace OfflinePay.Projection

open Tx

/-- The event belongs to one of the two streams of the worker. -/
def IsPayment (ev : OutboxEvent) : Prop :=
  ev.streamName = "payment.settled" ∨ ev.streamName = "payment.failed"

instance (ev : OutboxEvent) : Decidable (IsPayment ev) := inferInstanceAs (Decidable (_ ∨ _))

/-- The id of an event is read as what it is, if it is read at all. -/
theorem parseInt_toString {n : ℕ} {id : ℤ} (h : parseInt (toString n) = some id) : id = n := by
  have hdigit : ∀ c ∈ (toString n).toList, c.isDigit = true := by
    intro c hc
    rw [Nat.toString_eq_repr, Nat.toList_repr] at hc
    exact Nat.isDigit_of_mem_toDigits (by decide) (by decide) hc
  have hvalue : Nat.ofDigitChars 10 (toString n).toList 0 = n := by
    rw [Nat.toString_eq_repr, Nat.toList_repr]
    exact Nat.ofDigitChars_ten_toDigits
  unfold parseInt at h
  split at h
  next sign digits hsign =>
    -- no sign stands before the digits
    obtain ⟨rfl, rfl⟩ : sign = 1 ∧ digits = (toString n).toList := by
      split at hsign
      · next heq => exact absurd (hdigit '-' (heq ▸ List.mem_cons_self)) (by decide)
      · next heq => exact absurd (hdigit '+' (heq ▸ List.mem_cons_self)) (by decide)
      · exact ⟨(congrArg Prod.fst hsign).symm, (congrArg Prod.snd hsign).symm⟩
    simp only [hvalue] at h
    split_ifs at h
    rw [← Option.some.inj h, one_mul]

namespace Projector

variable {ι : Type} [DecidableEq ι] {s : Projector ι}

/-- The job whose writes a move commits. -/
def saves? (s : Projector ι) : Label ι → Option Job
  | .save i reply _ =>
    match s.calls i with
    | .save job loaded => if reply.executed && job.fitsWith loaded then some job else none
    | _ => none
  | _ => none

/-- A move commits the writes of a job, or leaves the store as it is. -/
theorem store_step (s : Projector ι) (l : Label ι) :
    (∃ i job loaded now, s.saves? l = some job ∧ s.calls i = .save job loaded ∧
      (s.step l).store = job.saved loaded now s.store) ∨
    s.saves? l = none ∧ (s.step l).store = s.store := by
  cases l with
  | deliver i ev =>
    refine .inr ⟨rfl, ?_⟩
    simp only [step]
    split <;> rfl
  | check i fault =>
    refine .inr ⟨rfl, ?_⟩
    simp only [step]
    split
    · cases fault with
      | some _ => rfl
      | none =>
        dsimp only
        split <;> rfl
    · rfl
  | load i fault =>
    refine .inr ⟨rfl, ?_⟩
    simp only [step]
    split
    · cases fault <;> rfl
    · rfl
  | save i reply now =>
    cases hi : s.calls i with
    | save job loaded =>
      simp only [step, saves?, hi, job.withTx_save loaded now s.store]
      cases reply.executed with
      | false => exact .inr ⟨rfl, rfl⟩
      | true =>
        cases hfits : job.fitsWith loaded with
        | false => exact .inr ⟨rfl, rfl⟩
        | true => exact .inl ⟨i, job, loaded, now, rfl, hi, rfl⟩
    | idle | check | load => exact .inr (by simp [step, saves?, hi])

end Projector

/-! ## The outbox and the worker -/

theorem Projector.Sound.mono {ι : Type} {s : Projector ι} {events events' : List OutboxEvent}
    (h : s.Sound events) (hsub : events ⊆ events') : s.Sound events' := by
  have hof : ∀ job, JobOf events job → JobOf events' job := by
    rintro job ⟨ev, hev, hjob⟩
    exact ⟨ev, hsub hev, hjob⟩
  refine ⟨fun i job hi => hof job (h.jobs i job hi), h.loaded, h.fits, fun id hid => ?_,
    fun txnID proj hproj => ?_⟩
  · obtain ⟨job, hjob, hrest⟩ := h.processed id hid
    exact ⟨job, hof job hjob, hrest⟩
  · obtain ⟨job, hjob, hrest⟩ := h.created txnID proj hproj
    exact ⟨job, hof job hjob, hrest⟩

/-- The outbox and the consumers. -/
structure Feed (ι : Type) where
  outbox : List OutboxEvent
  projector : Projector ι

namespace Feed

/-- What can happen. -/
inductive Label (ι : Type) where
  /-- A transaction that emits the event commits. -/
  | emit (ev : OutboxEvent)
  /-- The event with this id is delivered, for the first time or again. -/
  | deliver (i : ι) (eventID : ℕ)
  | check (i : ι) (fault : Option GoError)
  | load (i : ι) (fault : Option GoError)
  | save (i : ι) (reply : Outbox.Reply) (now : Time)

section

variable {ι : Type} {s : Feed ι}

/-- The move of a consumer. -/
def moves (s : Feed ι) : Label ι → Option (Projection.Label ι)
  | .emit _ => none
  | .deliver i eventID => (s.outbox.find? (·.eventID = eventID)).map (.deliver i)
  | .check i fault => some (.check i fault)
  | .load i fault => some (.load i fault)
  | .save i reply now => some (.save i reply now)

/-- The event is new. -/
def Fresh (s : Feed ι) (ev : OutboxEvent) : Prop := ev.eventID ∉ s.outbox.map (·.eventID)

instance (s : Feed ι) (ev : OutboxEvent) : Decidable (s.Fresh ev) :=
  inferInstanceAs (Decidable (¬_))

/-- Nothing has been emitted yet. -/
def start : Feed ι := ⟨[], Projector.start⟩

def checkpoint (s : Feed ι) : ℤ := getProjectionCheckpoint s.projector.store

def lag (s : Feed ι) : ℤ := exportLag s.outbox s.projector.store

/-- A handler has committed its writes for the event. -/
def Handled (s : Feed ι) (ev : OutboxEvent) : Prop :=
  toString ev.eventID ∈ s.projector.store.processedEvents

instance (s : Feed ι) (ev : OutboxEvent) : Decidable (s.Handled ev) :=
  inferInstanceAs (Decidable (_ ∈ _))

/-- What is missing is above the checkpoint. -/
def Truthful (s : Feed ι) : Prop :=
  ∀ ev ∈ s.outbox, IsPayment ev → ev.eventID ≤ s.checkpoint → s.Handled ev

/-- Nothing is missing. -/
def Complete (s : Feed ι) : Prop := ∀ ev ∈ s.outbox, IsPayment ev → s.Handled ev

instance (s : Feed ι) : Decidable s.Truthful :=
  inferInstanceAs (Decidable (∀ ev ∈ s.outbox,
    IsPayment ev → ev.eventID ≤ s.checkpoint → s.Handled ev))

instance (s : Feed ι) : Decidable s.Complete :=
  inferInstanceAs (Decidable (∀ ev ∈ s.outbox, IsPayment ev → s.Handled ev))

theorem le_getLatestOutboxEventID {outbox : List OutboxEvent} {ev : OutboxEvent}
    (h : ev ∈ outbox) : ev.eventID ≤ getLatestOutboxEventID outbox := by
  induction outbox with
  | nil => cases h
  | cons ev' outbox ih =>
    rw [getLatestOutboxEventID, List.map_cons, List.foldr_cons]
    obtain rfl | h := List.mem_cons.mp h
    · exact le_max_left _ _
    · exact (ih h).trans (le_max_right _ _)

/-- A truthful checkpoint makes the reported lag truthful. -/
theorem Truthful.complete (h : s.Truthful) (hlag : s.lag = 0) : s.Complete := by
  intro ev hev hpayment
  have hlatest := le_getLatestOutboxEventID hev
  refine h ev hev hpayment ?_
  unfold lag exportLag at hlag
  dsimp only at hlag
  unfold checkpoint
  split_ifs at hlag <;> omega

/-- What the read model owes to the outbox, in every state. -/
def Sound (s : Feed ι) : Prop := s.projector.Sound s.outbox

theorem sound_start : (start : Feed ι).Sound := Projector.Sound.start []

/-- Only events of the outbox are delivered. -/
theorem delivers_of_moves {l : Label ι} {move : Projection.Label ι} (h : s.moves l = some move) :
    Projector.Delivers s.outbox s.projector move := by
  cases l with
  | emit ev => cases h
  | deliver i eventID =>
    obtain ⟨ev, hev, rfl⟩ := Option.map_eq_some_iff.mp h
    exact List.mem_of_find?_eq_some hev
  | check | load | save =>
    obtain rfl := Option.some.inj h
    trivial

/-- Only an event of the outbox is handled. -/
theorem Sound.not_handled_of_fresh (h : s.Sound) {ev : OutboxEvent} (hfresh : s.Fresh ev) :
    ¬s.Handled ev := by
  intro hmem
  obtain ⟨job, ⟨ev', hev', hjob⟩, hid, -⟩ := h.processed _ hmem
  rw [eventID_of_job? hjob] at hid
  exact hfresh (List.mem_map.mpr ⟨ev', hev', eq_of_toString_eq hid⟩)

/-- The job of a call that is about to commit has the id of an event. -/
theorem Sound.exists_eventID (h : s.Sound) {i : ι} {job : Job}
    {loaded : Option PaymentReadProjection} (hi : s.projector.calls i = .save job loaded) :
    ∃ n : ℕ, job.eventID = toString n ∧ ∀ id, parseInt job.eventID = some id → id = n := by
  obtain ⟨ev, -, hjob⟩ := h.jobs i job (by rw [hi]; rfl)
  have hid := eventID_of_job? hjob
  exact ⟨ev.eventID, hid, fun id hparse => parseInt_toString (hid ▸ hparse)⟩

end

variable {ι : Type} [DecidableEq ι] {s : Feed ι}

/-- One step. No two events have the same id. -/
def step (s : Feed ι) : Label ι → Feed ι
  | .emit ev => if s.Fresh ev then { s with outbox := s.outbox ++ [ev] } else s
  | l => (s.moves l).elim s fun move => { s with projector := s.projector.step move }

/-- The state after a run. -/
abbrev exec (s : Feed ι) (ls : List (Label ι)) : Feed ι := Run.exec step s ls

/-- The job whose writes a step commits. -/
def saves? (s : Feed ι) (l : Label ι) : Option Job := (s.moves l).bind s.projector.saves?

/-- What a step sets the checkpoint to. -/
def sets? (s : Feed ι) (l : Label ι) : Option ℤ :=
  (s.saves? l).bind fun job => parseInt job.eventID

/-- A step emits an event with an id above the checkpoint, and sets the checkpoint when no event
below it is missing. -/
def Gapless (s : Feed ι) (l : Label ι) : Prop :=
  (∀ ev, l = .emit ev → s.Fresh ev → IsPayment ev → s.checkpoint < ev.eventID) ∧
  ∀ id ∈ s.sets? l, ∀ ev ∈ s.outbox, IsPayment ev → ev.eventID < id → s.Handled ev

/-- A step does not set the checkpoint back. -/
def Forward (s : Feed ι) (l : Label ι) : Prop := ∀ id ∈ s.sets? l, s.checkpoint ≤ id

/-- Events come, and their handlers commit, in the order of the ids. -/
def InOrder (s : Feed ι) (l : Label ι) : Prop := s.Gapless l ∧ s.Forward l

/-! ## What a step does -/

theorem step_of_not_emit {l : Label ι} (hl : ∀ ev, l ≠ .emit ev) : s.step l
    = (s.moves l).elim s fun move => { s with projector := s.projector.step move } := by
  cases l with
  | emit ev => exact absurd rfl (hl ev)
  | deliver | check | load | save => rfl

/-- A step emits an event, commits the writes of a job, or does neither. -/
theorem step_cases (s : Feed ι) (l : Label ι) :
    (∃ ev, l = .emit ev ∧ s.Fresh ev ∧ s.step l = { s with outbox := s.outbox ++ [ev] }) ∨
    (∃ i job loaded now, s.saves? l = some job ∧ s.projector.calls i = .save job loaded ∧
      (∀ ev, l ≠ .emit ev) ∧ (s.step l).outbox = s.outbox ∧
      (s.step l).projector.store = job.saved loaded now s.projector.store) ∨
    (s.saves? l = none ∧ (∀ ev, l = .emit ev → ¬s.Fresh ev) ∧ (s.step l).outbox = s.outbox ∧
      (s.step l).projector.store = s.projector.store) := by
  by_cases hemit : ∃ ev, l = .emit ev
  · obtain ⟨ev, rfl⟩ := hemit
    by_cases hfresh : s.Fresh ev
    · exact .inl ⟨ev, rfl, hfresh, if_pos hfresh⟩
    · have hstep : s.step (.emit ev) = s := if_neg hfresh
      refine .inr (.inr ⟨rfl, ?_, by rw [hstep], by rw [hstep]⟩)
      rintro ev' heq
      obtain rfl := Label.emit.inj heq
      exact hfresh
  · have hemit : ∀ ev, l ≠ .emit ev := not_exists.mp hemit
    rw [step_of_not_emit hemit, saves?]
    cases hmoves : s.moves l with
    | none => exact .inr (.inr ⟨rfl, fun ev heq => absurd heq (hemit ev), rfl, rfl⟩)
    | some move =>
      obtain ⟨i, job, loaded, now, hsaves, hi, hstore⟩ | ⟨hsaves, hstore⟩ :=
        s.projector.store_step move
      · exact .inr (.inl ⟨i, job, loaded, now, hsaves, hi, hemit, rfl, hstore⟩)
      · exact .inr (.inr ⟨hsaves, fun ev heq => absurd heq (hemit ev), rfl, hstore⟩)

theorem Sound.step (h : s.Sound) (l : Label ι) : (s.step l).Sound := by
  by_cases hemit : ∃ ev, l = .emit ev
  · obtain ⟨ev, rfl⟩ := hemit
    rw [Feed.step]
    split
    · exact h.mono (List.subset_append_left _ _)
    · exact h
  · rw [step_of_not_emit (not_exists.mp hemit)]
    cases hmoves : s.moves l with
    | none => exact h
    | some move =>
      exact Projector.Sound.step h (Projector.step_moved _ _ (delivers_of_moves hmoves))

/-! ## The checkpoint -/

theorem checkpoint_step (s : Feed ι) (l : Label ι) :
    (s.step l).checkpoint = (s.sets? l).getD s.checkpoint := by
  obtain ⟨ev, rfl, -, hstep⟩ | ⟨i, job, loaded, now, hsaves, -, -, -, hstore⟩ |
    ⟨hsaves, -, -, hstore⟩ := s.step_cases l
  · rw [hstep]
    rfl
  · rw [checkpoint, hstore, sets?, hsaves, Option.bind_some, getProjectionCheckpoint, Job.saved]
    cases parseInt job.eventID <;> rfl
  · rw [checkpoint, hstore, sets?, hsaves]
    rfl

/-- The checkpoint goes back exactly when a step sets it back. -/
theorem checkpoint_le_iff (s : Feed ι) (l : Label ι) :
    s.checkpoint ≤ (s.step l).checkpoint ↔ s.Forward l := by
  rw [checkpoint_step, Forward]
  cases s.sets? l with
  | none => simp
  | some id => simp

/-- After a step the checkpoint is still truthful exactly when the step leaves no gap. -/
theorem truthful_step_iff (hsound : s.Sound) (h : s.Truthful) (l : Label ι) :
    (s.step l).Truthful ↔ s.Gapless l := by
  obtain ⟨ev, rfl, hfresh, hstep⟩ | ⟨i, job, loaded, now, hsaves, hi, hemit, houtbox, hstore⟩ |
    ⟨hsaves, hemit, houtbox, hstore⟩ := s.step_cases l
  · -- an event has come, and has not been handled
    have hnot := hsound.not_handled_of_fresh hfresh
    have htruthful : (s.step (.emit ev)).Truthful ↔
        s.Truthful ∧ (IsPayment ev → ev.eventID ≤ s.checkpoint → s.Handled ev) := by
      rw [hstep]
      simp only [Truthful, List.mem_append, List.mem_singleton, or_imp, forall_and, forall_eq]
      rfl
    rw [htruthful, and_iff_right h]
    constructor
    · intro hev
      refine ⟨fun ev' heq hfresh hpayment => ?_, fun id hid => absurd hid (Option.not_mem_none id)⟩
      obtain rfl := Label.emit.inj heq
      exact not_le.mp fun hle => hnot (hev hpayment hle)
    · intro hgapless hpayment hle
      exact absurd (hgapless.1 ev rfl hfresh hpayment) hle.not_gt
  · -- a handler has committed its writes
    obtain ⟨n, hn, hparse⟩ := hsound.exists_eventID hi
    have hhandled : ∀ ev, (s.step l).Handled ev ↔ s.Handled ev ∨ ev.eventID = n := by
      intro ev
      rw [Handled, hstore, Projector.mem_processed_saved, hn]
      exact or_congr_right ⟨eq_of_toString_eq, fun heq => by rw [heq]⟩
    simp only [Truthful, houtbox, hhandled, checkpoint_step, Gapless]
    have hsets : s.sets? l = parseInt job.eventID := by rw [sets?, hsaves, Option.bind_some]
    rw [hsets]
    cases hid : parseInt job.eventID with
    | none =>
      refine iff_of_true (fun ev hev hpayment hle => .inl (h ev hev hpayment hle)) ⟨?_, ?_⟩
      · exact fun ev heq => absurd heq (hemit ev)
      · exact fun id hmem => absurd hmem (Option.not_mem_none id)
    | some id =>
      obtain rfl := hparse id hid
      simp only [Option.getD_some, Option.mem_some_iff, forall_eq', Nat.cast_le, Nat.cast_lt]
      constructor
      · intro hafter
        refine ⟨fun ev heq => absurd heq (hemit ev), fun ev hev hpayment hlt => ?_⟩
        exact (hafter ev hev hpayment hlt.le).resolve_right hlt.ne
      · rintro ⟨-, hbefore⟩ ev hev hpayment hle
        exact hle.lt_or_eq.imp_left (hbefore ev hev hpayment)
  · -- nothing has changed
    have hsets : s.sets? l = none := by rw [sets?, hsaves, Option.bind_none]
    have hafter : (s.step l).Truthful := by
      intro ev hev hpayment hle
      rw [Handled, hstore]
      rw [houtbox] at hev
      rw [checkpoint_step, hsets] at hle
      exact h ev hev hpayment hle
    refine iff_of_true hafter ⟨fun ev heq hfresh => absurd hfresh (hemit ev heq), fun id hmem => ?_⟩
    rw [hsets] at hmem
    exact absurd hmem (Option.not_mem_none id)

/-- For every order in which events are emitted, delivered and handled, with failures of handlers
and redeliveries: the checkpoint is truthful in every state, a reported lag of 0 means that nothing
is missing, and the checkpoint never goes back, exactly if events come, and their handlers commit,
in the order of the ids. -/
theorem checkpoint_truthful_iff (ls : List (Label ι)) :
    (Run.Always step (fun s => s.Truthful ∧ (s.lag = 0 → s.Complete)) start ls ∧
      Run.Steps step (fun s l => s.checkpoint ≤ (s.step l).checkpoint) start ls) ↔
    Run.Steps step InOrder (start : Feed ι) ls := by
  have hstart : (start : Feed ι).Truthful := fun ev hev => absurd hev List.not_mem_nil
  have halways :
      Run.Always step (fun s : Feed ι => s.Truthful ∧ (s.lag = 0 → s.Complete)) start ls ↔
        Run.Steps step Gapless start ls := by
    rw [← Run.always_iff_steps (I := Sound) (fun s l hs => hs.step l)
      (fun s l hs h => truthful_step_iff hs h l) sound_start hstart ls]
    exact forall₂_congr fun ms hms => and_iff_left_of_imp Truthful.complete
  rw [halways]
  constructor
  · rintro ⟨hgapless, hforward⟩
    refine Run.steps_mono (fun s l hl => ⟨hl.1, (checkpoint_le_iff s l).mp hl.2⟩)
      (Run.steps_and hgapless hforward)
  · intro h
    exact ⟨Run.steps_mono (fun s l hl => hl.1) h,
      Run.steps_mono (fun s l hl => (checkpoint_le_iff s l).mpr hl.2) h⟩

/-- A payment that fails, and one that is settled after it. -/
def failedEvent : OutboxEvent :=
  ⟨1, "payment.failed", "PaymentFailed", .obj [("txn_id", .str "T1"), ("status", .str "FAILED"),
    ("reason", .str ""), ("relay_hops", .num 0)], true, .published, 0⟩

def settledEvent : OutboxEvent :=
  ⟨2, "payment.settled", "PaymentSettled", .obj [("txn_id", .str "T2"), ("sender", .str "alice"),
    ("receiver", .str "bob"), ("amount", .int64 30), ("token_id", .str "K"),
    ("settled_at", .time 0), ("relay_hops", .num 0)], true, .published, 0⟩

/-- A delivery that nothing disturbs. -/
def round (i : ι) (eventID : ℕ) : List (Label ι) :=
  [.deliver i eventID, .check i none, .load i none, .save i .ok 0]

/-- Both events are there, and the consumer of `payment.settled` is the faster one. -/
def overtaken : Feed Bool :=
  start.exec ([.emit failedEvent, .emit settledEvent] ++ round true 2)

/-- The lag is 0 and the failure is missing; when it is handled, the checkpoint goes back. -/
theorem checkpoint_overtaken :
    overtaken.checkpoint = 2 ∧ overtaken.lag = 0 ∧ ¬overtaken.Truthful ∧ ¬overtaken.Complete ∧
      (overtaken.exec (round false 1)).checkpoint = 1 ∧
      (overtaken.exec (round false 1)).Complete := by
  decide +kernel

end Feed

end OfflinePay.Projection
