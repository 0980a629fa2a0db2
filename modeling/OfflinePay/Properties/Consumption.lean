import OfflinePay.Eventbus.Subscribe

/-!
# What becomes of messages

Reference: `internal/eventbus/eventbus.go`, `Subscribe`.

Not acknowledging a message keeps it on the pending list, and nothing in the program reads that
list. So a message gets one pass through the loop: as soon as its handler fails, its acknowledgement
is lost or the reply that carried it is lost, no later iteration comes back to it.
-/

namespace OfflinePay.Eventbus.Consumer

variable {s s' : Consumer}

/-- The loop is about to call the handler for the message. -/
def Passes (s : Consumer) (message : XMessage) : Prop :=
  message.Valid ∧ ∃ rest, s.phase = .working (message :: rest)

/-- The loop can still come to call the handler for the message. -/
def CanPass (s : Consumer) (message : XMessage) : Prop := ∃ ls, (s.exec ls).Passes message

/-- The message was delivered and not acknowledged, and its handler will not be called any more. -/
def Stranded (s : Consumer) (message : XMessage) : Prop :=
  message ∈ s.delivered ∧ message.id ∈ s.pending ∧ ¬s.CanPass message

/-- No message is stranded. -/
def AtLeastOnce (s : Consumer) : Prop := ∀ message, ¬s.Stranded message

/-- The move strands nothing: what is read can be handled and arrives, the handler takes its message
and the acknowledgement is executed. -/
def Careful (s : Consumer) : Label → Prop
  | .read .ok => s.phase = .working [] → ∀ message ∈ s.fresh, message.Valid
  | .read (.error _ executed) => s.phase = .working [] → executed → s.fresh = []
  | .handle handler ack => ∀ message rest, s.phase = .working (message :: rest) →
      message.handled handler = none ∧ ack.executed
  | _ => True

/-! ## Only messages in hand are handled -/

/-- A delivered message that is not in hand stays so. -/
theorem Wf.not_mem_batch (h : Wf s) (hmoved : Moved s s') {m : XMessage} (hm : m ∈ s.delivered)
    (hbatch : m ∉ s.batch) : m ∈ s'.delivered ∧ m ∉ s'.batch := by
  cases hmoved with
  | stay | publish => exact ⟨hm, hbatch⟩
  | read hphase =>
    exact ⟨List.mem_append_left _ hm, fun hfresh => h.id_ne_of_fresh hm hfresh rfl⟩
  | readLost hphase => exact ⟨List.mem_append_left _ hm, hbatch⟩
  | acknowledge message rest hphase | skip message rest hphase =>
    refine ⟨hm, fun hrest => hbatch ?_⟩
    rw [batch, hphase]
    exact List.mem_cons_of_mem _ hrest
  | stop => exact ⟨hm, by simp [batch, Phase.batch]⟩

/-- A message in hand is next after those before it. -/
theorem exists_exec_working (s : Consumer) {batch : List XMessage} {m : XMessage} (hm : m ∈ batch)
    (hphase : s.phase = .working batch) : ∃ ls rest, (s.exec ls).phase = .working (m :: rest) := by
  induction batch generalizing s with
  | nil => cases hm
  | cons message batch ih =>
    rcases List.mem_cons.mp hm with rfl | hm
    · exact ⟨[], batch, hphase⟩
    · obtain ⟨ls, rest, hls⟩ :=
        ih (s.step (.handle (fun _ _ _ => none) .ok)) hm (by simp [step, hphase])
      exact ⟨_ :: ls, rest, hls⟩

/-- The handler can still be called for a delivered message exactly when it is in hand. -/
theorem Wf.canPass_iff (h : Wf s) {m : XMessage} (hm : m ∈ s.delivered) :
    s.CanPass m ↔ m ∈ s.batch ∧ m.Valid := by
  constructor
  · rintro ⟨ls, hvalid, rest, hphase⟩
    refine ⟨?_, hvalid⟩
    by_contra hbatch
    have hnot := Run.exec_invariant (I := fun s => Wf s ∧ m ∈ s.delivered ∧ m ∉ s.batch)
      (fun s l hs _ => ⟨hs.1.moved (step_moved s l), hs.1.not_mem_batch (step_moved s l) hs.2.1 hs.2.2⟩)
      ⟨h, hm, hbatch⟩ (Run.steps_true s ls)
    refine hnot.2.2 ?_
    rw [batch, hphase]
    exact List.mem_cons_self
  · rintro ⟨hbatch, hvalid⟩
    cases hphase : s.phase with
    | stopped => simp [batch, hphase, Phase.batch] at hbatch
    | working batch' =>
      obtain ⟨ls, hls⟩ :=
        exists_exec_working s (by simpa [batch, hphase, Phase.batch] using hbatch) hphase
      exact ⟨ls, hvalid, hls⟩

/-- Nothing is stranded exactly when all that is pending is in hand and can be handled. -/
theorem Wf.atLeastOnce_iff (h : Wf s) :
    s.AtLeastOnce ↔ ∀ m ∈ s.delivered, m.id ∈ s.pending → m ∈ s.batch ∧ m.Valid := by
  constructor
  · intro hs m hm hpending
    by_contra hnot
    exact hs m ⟨hm, hpending, fun hpass => hnot ((h.canPass_iff hm).mp hpass)⟩
  · rintro hs m ⟨hm, hpending, hpass⟩
    exact hpass ((h.canPass_iff hm).mpr (hs m hm hpending))

/-! ## What strands a message -/

/-- With nothing in hand and nothing stranded, nothing is pending. -/
theorem Wf.not_pending (h : Wf s) (hs : s.AtLeastOnce) (hphase : s.phase = .working [])
    {m : XMessage} (hm : m ∈ s.delivered) : m.id ∉ s.pending := fun hpending => by
  have hbatch := ((h.atLeastOnce_iff.mp hs) m hm hpending).1
  simp [batch, hphase, Phase.batch] at hbatch

/-- What a read delivers is pending, and nothing else is. -/
theorem Wf.pending_xReadGroup (h : Wf s) (hs : s.AtLeastOnce) (hphase : s.phase = .working [])
    (m : XMessage) : m ∈ s.xReadGroup.delivered ∧ m.id ∈ s.xReadGroup.pending ↔ m ∈ s.fresh := by
  constructor
  · rintro ⟨hm, hpending⟩
    rcases List.mem_append.mp hm with hm | hm
    · rcases List.mem_append.mp hpending with hpending | hpending
      · exact absurd hpending (h.not_pending hs hphase hm)
      · obtain ⟨m', hm', hid⟩ := List.mem_map.mp hpending
        exact absurd hid.symm (h.id_ne_of_fresh hm hm')
    · exact hm
  · intro hm
    exact ⟨List.mem_append_right _ hm, List.mem_append_right _ (List.mem_map_of_mem hm)⟩

/-- A read strands what cannot be handled, and all that it delivers if its reply is lost. -/
theorem Wf.read_iff (h : Wf s) (hs : s.AtLeastOnce) (hphase : s.phase = .working []) (phase : Phase)
    (hwf : Wf { s.xReadGroup with phase }) :
    AtLeastOnce { s.xReadGroup with phase } ↔ ∀ m ∈ s.fresh, m ∈ phase.batch ∧ m.Valid := by
  rw [hwf.atLeastOnce_iff]
  refine forall_congr' fun m => ?_
  rw [← and_imp]
  exact imp_congr_left (h.pending_xReadGroup hs hphase m)

/-- The message that was handled is stranded unless it was acknowledged. -/
theorem Wf.handle_iff (h : Wf s) (hs : s.AtLeastOnce) {message : XMessage} {rest : List XMessage}
    (hphase : s.phase = .working (message :: rest)) (acked : Bool)
    (hwf : Wf { (if acked then s.xAck message.id else s) with phase := .working rest }) :
    AtLeastOnce { (if acked then s.xAck message.id else s) with phase := .working rest } ↔ acked := by
  have hbatch : s.batch = message :: rest := by rw [batch, hphase]; rfl
  rw [hwf.atLeastOnce_iff]
  cases acked with
  | true =>
    refine iff_of_true (fun m hm hpending => ?_) rfl
    obtain ⟨hpending, hne⟩ := List.mem_filter.mp hpending
    obtain ⟨hmem, hvalid⟩ := h.atLeastOnce_iff.mp hs m hm hpending
    refine ⟨?_, hvalid⟩
    rcases List.mem_cons.mp (hbatch ▸ hmem) with rfl | hrest
    · simp at hne
    · exact hrest
  | false =>
    refine iff_of_false (fun hall => ?_) Bool.false_ne_true
    obtain ⟨hm, hpending⟩ := h.held message (hbatch ▸ List.mem_cons_self)
    have hnodup := h.batch_nodup
    rw [hbatch, List.map_cons, List.nodup_cons] at hnodup
    exact hnodup.1 (List.mem_map_of_mem (hall message hm hpending).1)

theorem Wf.step_atLeastOnce_iff (h : Wf s) (hs : s.AtLeastOnce) (l : Label) :
    (s.step l).AtLeastOnce ↔ s.Careful l := by
  have hwf := h.moved (step_moved s l)
  cases l with
  | publish values =>
    exact iff_of_true (hwf.atLeastOnce_iff.mpr (h.atLeastOnce_iff.mp hs)) trivial
  | read reply =>
    rcases hphase : s.phase with (_ | ⟨message, rest⟩) | _
    · cases reply with
      | ok =>
        simp only [step, hphase] at hwf ⊢
        rw [h.read_iff hs hphase _ hwf]
        simp +contextual [Careful, hphase, Phase.batch]
      | error err executed =>
        simp only [step, hphase] at hwf ⊢
        cases executed with
        | false => simpa [Careful] using hs
        | true =>
          refine (h.read_iff hs hphase s.phase hwf).trans ?_
          simp [Careful, hphase, Phase.batch, List.eq_nil_iff_forall_not_mem]
    all_goals
      simp only [step, hphase]
      exact iff_of_true hs (by cases reply <;> simp [Careful, hphase])
  | handle handler ack =>
    rcases hphase : s.phase with (_ | ⟨message, rest⟩) | _
    case working.cons =>
      have hvalid : message.Valid := by
        have hbatch : message ∈ s.batch := by rw [batch, hphase]; exact List.mem_cons_self
        obtain ⟨hm, hpending⟩ := h.held message hbatch
        exact (h.atLeastOnce_iff.mp hs message hm hpending).2
      simp only [step, hphase] at hwf ⊢
      rw [h.handle_iff hs hphase _ hwf, Bool.and_eq_true, shouldAcknowledgeMessage_iff]
      simp [Careful, hphase, hvalid]
    all_goals
      simp only [step, hphase]
      exact iff_of_true hs (by simp [Careful, hphase])
  | stop =>
    refine iff_of_true (hwf.atLeastOnce_iff.mpr ?_) trivial
    rcases hphase : s.phase with (_ | ⟨message, rest⟩) | _
    · simp only [step, hphase]
      exact fun m hm hpending => absurd hpending (h.not_pending hs hphase hm)
    all_goals simpa only [step, hphase] using h.atLeastOnce_iff.mp hs

/-- No message is stranded in any state of a run exactly when every one of its moves is careful. -/
theorem at_least_once_iff (ls : List Label) :
    Run.Always step AtLeastOnce start ls ↔ Run.Steps step Careful start ls :=
  Run.always_iff_steps (I := Wf) (fun s l hs => hs.moved (step_moved s l))
    (fun _ l hs h => hs.step_atLeastOnce_iff h l) .start (fun _ h => absurd h.1 List.not_mem_nil) ls

/-- A message of the program whose handler fails once. -/
def handlerFails : List Label :=
  [.publish (publishValues "PaymentSettled" "payload" "1" "2024-05-01T12:00:00Z"), .read .ok,
    .handle (fun _ _ _ => some ⟨"failed to begin transaction", false⟩) .ok]

/-- It stays on the pending list, and the loop does not come back to it. -/
theorem failed_message_stranded :
    (start.exec handlerFails).pending = [0] ∧ ¬(start.exec handlerFails).AtLeastOnce := by
  have hwf : Wf (start.exec handlerFails) :=
    Run.exec_invariant (I := Wf) (fun s l hs _ => hs.moved (step_moved s l)) .start
      (Run.steps_true start handlerFails)
  refine ⟨by decide, fun h => ?_⟩
  have hbatch := (hwf.atLeastOnce_iff.mp h
    ⟨0, publishValues "PaymentSettled" "payload" "1" "2024-05-01T12:00:00Z"⟩ (by decide) (by decide)).1
  exact absurd hbatch (by decide)

end OfflinePay.Eventbus.Consumer
