import OfflinePay.Projection.Worker
import OfflinePay.Properties.Outbox
import OfflinePay.System.Emitters

/-!
# The read model

Reference: `internal/projection/worker.go`.

A projection keeps the parties of the payment that it was created with, and the status of the event
that came last. So it follows the payment if all events under its `txn_id` agree, and otherwise
there is an order of deliveries in which it does not: a failure that comes last hides the
settlement, and a failure that comes first leaves the parties unknown for good.
-/

namespace OfflinePay.Projection

open Tx

/-! ## Jobs -/

/-- Who paid whom how much. -/
def PaymentReadProjection.parties (proj : PaymentReadProjection) : String × String × Int64 :=
  (proj.senderID, proj.receiverID, proj.amount)

/-- The job belongs to one of the events. -/
def JobOf (events : List OutboxEvent) (job : Job) : Prop := ∃ ev ∈ events, job? ev = some job

theorem settledJob_eq {eventID : String} {payload : Json} {job : Job}
    (h : settledJob eventID payload = some job) :
    job.eventID = eventID ∧ job.status = "SETTLED" := by
  simp only [settledJob, Option.bind_eq_bind, Option.bind_eq_some_iff, Option.pure_def,
    Option.some.injEq] at h
  obtain ⟨_, _, _, _, _, _, _, _, _, _, _, _, _, _, _, _, rfl⟩ := h
  exact ⟨rfl, rfl⟩

theorem failedJob_eq {eventID : String} {payload : Json} {job : Job}
    (h : failedJob eventID payload = some job) :
    job.eventID = eventID ∧ job.fresh.parties = ("UNKNOWN", "UNKNOWN", 0) := by
  simp only [failedJob, Option.bind_eq_bind, Option.bind_eq_some_iff, Option.pure_def,
    Option.some.injEq] at h
  obtain ⟨_, _, _, _, _, _, _, _, _, _, rfl⟩ := h
  exact ⟨rfl, rfl⟩

theorem eventID_of_job? {ev : OutboxEvent} {job : Job} (h : job? ev = some job) :
    job.eventID = toString ev.eventID := by
  unfold job? at h
  split at h
  · exact (settledJob_eq h).1
  · split at h
    · exact (failedJob_eq h).1
    · cases h

/-- Ids are told apart by their decimals. -/
theorem eq_of_toString_eq {m n : ℕ} (h : toString m = toString n) : m = n := by
  have hdigits : Nat.toDigits 10 m = Nat.toDigits 10 n := by
    simpa [Nat.toString_eq_ofList_toDigits] using congrArg String.toList h
  calc m = Nat.ofDigitChars 10 (Nat.toDigits 10 m) 0 := Nat.ofDigitChars_ten_toDigits.symm
    _ = Nat.ofDigitChars 10 (Nat.toDigits 10 n) 0 := by rw [hdigits]
    _ = n := Nat.ofDigitChars_ten_toDigits

variable {events : List OutboxEvent}

/-- Events with different ids have different jobs. -/
theorem JobOf.unique (hnodup : (events.map (·.eventID)).Nodup) {job job' : Job}
    (h : JobOf events job) (h' : JobOf events job') (hid : job.eventID = job'.eventID) :
    job = job' := by
  obtain ⟨ev, hev, hjob⟩ := h
  obtain ⟨ev', hev', hjob'⟩ := h'
  rw [eventID_of_job? hjob, eventID_of_job? hjob'] at hid
  obtain rfl := List.inj_on_of_nodup_map hnodup hev hev' (eq_of_toString_eq hid)
  exact Option.some.inj (hjob.symm.trans hjob')

/-- The job can change a row that is there. -/
def Job.updates (job : Job) : Bool :=
  Pg.varchar 100 job.fresh.txnID && Pg.varchar 50 job.status && Pg.int4 job.relayHops
    && Pg.varchar 100 job.eventID

theorem Job.updates_of_fitsWith {job : Job} {loaded : Option PaymentReadProjection}
    (hloaded : (loaded.getD job.fresh).txnID = job.fresh.txnID) (h : job.fitsWith loaded = true) :
    job.updates = true := by
  simp only [fitsWith, row, PaymentReadProjection.columnsFit, Bool.and_eq_true, hloaded] at h
  simp [updates, h]

theorem Job.fitsWith_some {job : Job} {proj : PaymentReadProjection}
    (hproj : proj.columnsFit = true)
    (h : job.updates = true) : job.fitsWith (some proj) = true := by
  simp only [PaymentReadProjection.columnsFit, Bool.and_eq_true] at hproj
  simp only [updates, Bool.and_eq_true] at h
  simp [fitsWith, row, PaymentReadProjection.columnsFit, hproj, h]

/-! ## What every run keeps -/

/-- The job of a call. -/
def Pc.job? : Pc → Option Job
  | idle => none
  | check job | load job | save job _ => some job

namespace Projector

variable {ι : Type} {s s' : Projector ι}

/-- What the read model owes to the events. -/
structure Sound (events : List OutboxEvent) (s : Projector ι) : Prop where
  jobs : ∀ i job, (s.calls i).job? = some job → JobOf events job
  /-- A row that was read fits its columns and is still there. -/
  loaded : ∀ i job proj, s.calls i = .save job (some proj) → proj.columnsFit = true ∧
    proj.txnID = job.fresh.txnID ∧ s.store.projections.find? job.fresh.txnID ≠ none
  fits : ∀ txnID proj, s.store.projections.find? txnID = some proj → proj.columnsFit = true
  processed : ∀ id ∈ s.store.processedEvents, ∃ job, JobOf events job ∧ job.eventID = id ∧
    s.store.projections.find? job.fresh.txnID ≠ none
  created : ∀ txnID proj, s.store.projections.find? txnID = some proj → ∃ job, JobOf events job ∧
    job.fitsWith none = true ∧ job.fresh.txnID = txnID ∧ proj.parties = job.fresh.parties

theorem Sound.start (events : List OutboxEvent) : Sound events (start : Projector ι) := by
  constructor <;> simp [Projector.start, Pc.job?]

/-- The row that a transaction leaves under the `txn_id` of its job, and the rows it leaves alone.
-/
theorem Sound.find?_saved (h : Sound events s) {i : ι} {job : Job}
    {loaded : Option PaymentReadProjection} (hi : s.calls i = .save job loaded) (now : Time)
    (txnID : String) :
    (job.saved loaded now s.store).projections.find? txnID
      = if job.fresh.txnID = txnID then
          some ((s.store.projections.find? txnID).elim (job.row none now).stored
            (job.row loaded now).stored.update)
        else s.store.projections.find? txnID := by
  cases loaded with
  | none => exact Job.find?_saved job none now s.store txnID
  | some proj =>
    obtain ⟨-, hid, hsome⟩ := h.loaded i job proj hi
    rw [Job.find?_saved, Option.getD_some, hid]
    split
    · next htxn =>
      obtain ⟨old, hold⟩ := Option.ne_none_iff_exists'.mp (htxn ▸ hsome)
      rw [hold, Option.elim_some, Option.elim_some]
    · rfl

theorem Sound.find?_saved_ne_none (h : Sound events s) {i : ι} {job : Job}
    {loaded : Option PaymentReadProjection} (hi : s.calls i = .save job loaded) (now : Time)
    {txnID : String} (hsome : s.store.projections.find? txnID ≠ none) :
    (job.saved loaded now s.store).projections.find? txnID ≠ none := by
  rw [h.find?_saved hi]
  split
  · exact Option.some_ne_none _
  · exact hsome

/-- Where a row can come from: it was there, or the job has made it, or the job has changed it. -/
theorem Sound.saved_cases (h : Sound events s) {i : ι} {job : Job}
    {loaded : Option PaymentReadProjection} (hi : s.calls i = .save job loaded)
    (hfit : job.fitsWith loaded = true) {now : Time} {txnID : String} {proj : PaymentReadProjection}
    (hproj : (job.saved loaded now s.store).projections.find? txnID = some proj) :
    s.store.projections.find? txnID = some proj ∨
    (job.fresh.txnID = txnID ∧ job.fitsWith none = true ∧ proj = (job.row none now).stored) ∨
    ∃ old, job.fresh.txnID = txnID ∧ s.store.projections.find? txnID = some old ∧
      proj = (job.row loaded now).stored.update old := by
  rw [h.find?_saved hi] at hproj
  split at hproj
  · next htxn =>
    refine .inr ?_
    cases hold : s.store.projections.find? txnID with
    | some old =>
      rw [hold, Option.elim_some, Option.some.injEq] at hproj
      exact .inr ⟨old, htxn, rfl, hproj.symm⟩
    | none =>
      rw [hold, Option.elim_none, Option.some.injEq] at hproj
      refine .inl ⟨htxn, ?_, hproj.symm⟩
      -- without a row nothing can have been read, so the job fits as it is
      cases loaded with
      | none => exact hfit
      | some proj' => exact absurd (htxn ▸ hold) (h.loaded i job proj' hi).2.2
  · exact .inl hproj

theorem mem_processed_saved {job : Job} {loaded : Option PaymentReadProjection} {now : Time}
    {store : ReadStore} {id : String} :
    id ∈ (job.saved loaded now store).processedEvents ↔
      id ∈ store.processedEvents ∨ id = job.eventID := by
  unfold Job.saved
  dsimp only
  split
  · next hmem =>
    refine ⟨.inl, ?_⟩
    rintro (h | rfl)
    · exact h
    · exact hmem
  · simp

theorem columnsFit_update {job : Job} {loaded : Option PaymentReadProjection} {now : Time}
    {old : PaymentReadProjection} (hold : old.columnsFit = true) (h : job.fitsWith loaded = true) :
    ((job.row loaded now).stored.update old).columnsFit = true := by
  simp only [PaymentReadProjection.columnsFit, Bool.and_eq_true] at hold
  simp only [Job.fitsWith, Job.row, PaymentReadProjection.columnsFit, Bool.and_eq_true] at h
  simp [PaymentReadProjection.columnsFit, PaymentReadProjection.update,
    PaymentReadProjection.stored, Job.row, hold, h]

variable [DecidableEq ι]

theorem Sound.step (h : Sound events s) (hmoved : Moved events s s') : Sound events s' := by
  obtain ⟨hjobs, hloaded, hfits, hprocessed, hcreated⟩ := id h
  cases hmoved with
  | stay => exact h
  | deliver i ev job hev hi hjob =>
    have hof : JobOf events job := ⟨ev, hev, hjob⟩
    constructor <;> grind [goto, Pc.job?]
  | quit i => constructor <;> grind [goto, Pc.job?]
  | known i job hi => constructor <;> grind [goto, Pc.job?]
  | check i job hi => constructor <;> grind [goto, Pc.job?]
  | refuse i job loaded hi => constructor <;> grind [goto, Pc.job?]
  | load i job loaded hi hload =>
    have hkey : ∀ proj, s.store.projections.find? job.fresh.txnID = some proj →
        proj.txnID = job.fresh.txnID := fun proj => Table.key_of_find?
    constructor <;> grind [goto, Pc.job?]
  | save i job loaded now handled hi hfit hhandled =>
    have hof : JobOf events job := hjobs i job (by rw [hi]; rfl)
    have hsaved : (goto { s with store := job.saved loaded now s.store, handled } i .idle).store
        = job.saved loaded now s.store := rfl
    constructor
    · grind [goto, Pc.job?]
    · intro j job' proj hj
      have hj : s.calls j = .save job' (some proj) := by grind
      obtain ⟨hproj, htxn, hsome⟩ := hloaded j job' proj hj
      exact ⟨hproj, htxn, h.find?_saved_ne_none hi now hsome⟩
    · intro txnID proj hproj
      rcases h.saved_cases hi hfit (hsaved ▸ hproj) with hold | ⟨_, hfresh, rfl⟩ | ⟨old, _, hold, rfl⟩
      · exact hfits txnID proj hold
      · exact (Bool.and_eq_true _ _ ▸ hfresh : _ ∧ _).1
      · exact columnsFit_update (hfits txnID old hold) hfit
    · intro id hid
      rcases mem_processed_saved.mp (hsaved ▸ hid) with hid | rfl
      · obtain ⟨job', hof', hid', hsome⟩ := hprocessed id hid
        exact ⟨job', hof', hid', h.find?_saved_ne_none hi now hsome⟩
      · exact ⟨job, hof, rfl, by simp [hsaved, h.find?_saved hi]⟩
    · intro txnID proj hproj
      rcases h.saved_cases hi hfit (hsaved ▸ hproj) with hold | ⟨rfl, hfresh, rfl⟩ | ⟨old, _, hold, rfl⟩
      · exact hcreated txnID proj hold
      · exact ⟨job, hof, hfresh, rfl, rfl⟩
      · exact hcreated txnID old hold

theorem sound_exec {ls : List (Label ι)} (hls : Run.Steps step (Delivers events) start ls) :
    Sound events (start.exec ls) :=
  Run.exec_invariant (I := Sound events) (fun s l h hl => h.step (step_moved s l hl)) (.start events)
    hls

/-! ## Events that agree -/

/-- The events that were handled and could be are marked as processed. -/
def Marked (events : List OutboxEvent) (s : Projector ι) : Prop :=
  ∀ job, JobOf events job → job.fitsWith none = true → job.eventID ∈ s.handled →
    job.eventID ∈ s.store.processedEvents

theorem Sound.marked_step (hnodup : (events.map (·.eventID)).Nodup) (h : Sound events s)
    (hmarked : Marked events s) (hmoved : Moved events s s') : Marked events s' := by
  intro job hof hfit hmem
  cases hmoved with
  | stay | deliver | quit | check | load => exact hmarked job hof hfit hmem
  | known i job' hi hknown =>
    rcases List.mem_append.mp hmem with hmem | hmem
    · exact hmarked job hof hfit hmem
    · exact List.mem_singleton.mp hmem ▸ hknown
  | save i job' loaded now handled hi hfit' hhandled =>
    refine mem_processed_saved.mpr ?_
    rcases hhandled with rfl | rfl
    · exact .inl (hmarked job hof hfit hmem)
    · rcases List.mem_append.mp hmem with hmem | hmem
      · exact .inl (hmarked job hof hfit hmem)
      · exact .inr (List.mem_singleton.mp hmem)
  | refuse i job' loaded hi hfit' =>
    rcases List.mem_append.mp hmem with hmem | hmem
    · exact hmarked job hof hfit hmem
    · -- the same job cannot be refused: what it has read fits as well
      have hof' : JobOf events job' := h.jobs i job' (by rw [hi]; rfl)
      obtain rfl := hof.unique hnodup hof' (List.mem_singleton.mp hmem)
      cases loaded with
      | none => rw [hfit] at hfit'; cases hfit'
      | some proj =>
        obtain ⟨hproj, -⟩ := h.loaded i job proj hi
        rw [Job.fitsWith_some hproj (Job.updates_of_fitsWith rfl hfit)] at hfit'
        cases hfit'

/-- The projection of a payment, if there is one, says that it settled. -/
def SaysSettled (txnID : String) (s : Projector ι) : Prop :=
  ∀ proj, s.store.projections.find? txnID = some proj → proj.status = "SETTLED"

theorem Sound.saysSettled_step {txnID : String} (h : Sound events s)
    (hall : ∀ job, JobOf events job → job.fresh.txnID = txnID → job.updates = true →
      job.status = "SETTLED")
    (hsettled : SaysSettled txnID s) (hmoved : Moved events s s') : SaysSettled txnID s' := by
  cases hmoved with
  | stay | deliver | quit | check | load | known | refuse => exact hsettled
  | save i job loaded now handled hi hfit =>
    intro proj hproj
    have hof : JobOf events job := h.jobs i job (by rw [hi]; rfl)
    have hupdates : job.updates = true := by
      refine Job.updates_of_fitsWith ?_ hfit
      cases loaded with
      | none => rfl
      | some proj => exact (h.loaded i job proj hi).2.1
    rcases h.saved_cases hi hfit hproj with hold | ⟨htxn, _, rfl⟩ | ⟨old, htxn, _, rfl⟩
    · exact hsettled proj hold
    · exact hall job hof htxn hupdates
    · exact hall job hof htxn hupdates

/-! ## Deliveries one after the other -/

/-- Deliveries of one consumer. -/
def rounds (i : ι) (evs : List OutboxEvent) : List (Label ι) := evs.flatMap (round i)

theorem steps_rounds (s : Projector ι) (i : ι) {evs : List OutboxEvent} (hevs : evs ⊆ events) :
    Run.Steps step (Delivers events) s (rounds i evs) := by
  induction evs generalizing s with
  | nil => trivial
  | cons ev evs ih =>
    obtain ⟨hev, hevs⟩ := List.cons_subset.mp hevs
    refine Run.steps_append.mpr ⟨⟨hev, trivial, trivial, trivial, trivial⟩, ih _ hevs⟩

/-- After its deliveries the consumer is idle again and has handled all of the events. -/
theorem rounds_handled (s : Projector ι) {i : ι} (hi : s.calls i = .idle) (evs : List OutboxEvent) :
    (s.exec (rounds i evs)).calls i = .idle ∧ s.handled ⊆ (s.exec (rounds i evs)).handled ∧
    ∀ ev ∈ evs, ∀ job, job? ev = some job → job.eventID ∈ (s.exec (rounds i evs)).handled := by
  induction evs generalizing s with
  | nil => exact ⟨hi, List.Subset.refl _, by simp⟩
  | cons ev evs ih =>
    have hexec : s.exec (rounds i (ev :: evs)) = (s.exec (round i ev)).exec (rounds i evs) :=
      Run.exec_append s (round i ev) (rounds i evs)
    obtain ⟨hidle, hround⟩ := exec_round s hi ev
    obtain ⟨hidle', hsub, hall⟩ := ih _ hidle
    rw [hexec]
    refine ⟨hidle', fun id hid => hsub ?_, fun ev' hev' job hjob => ?_⟩
    · rw [hround.1]
      exact List.mem_append_left _ hid
    · rcases List.mem_cons.mp hev' with rfl | hev'
      · refine hsub ?_
        rw [hround.1, hjob]
        simp
      · exact hall ev' hev' job hjob

/-- All events have been handled. -/
def AllHandled (events : List OutboxEvent) (s : Projector ι) : Prop :=
  ∀ ev ∈ events, ∀ job, job? ev = some job → job.eventID ∈ s.handled

/-- A projection keeps the parties it was created with. -/
theorem Sound.parties_step (h : Sound events s) (hmoved : Moved events s s') {txnID : String}
    {parties : String × String × Int64}
    (hproj : ∃ proj, s.store.projections.find? txnID = some proj ∧ proj.parties = parties) :
    ∃ proj, s'.store.projections.find? txnID = some proj ∧ proj.parties = parties := by
  obtain ⟨proj, hfind, hparties⟩ := hproj
  cases hmoved with
  | stay | deliver | quit | check | load | known | refuse => exact ⟨proj, hfind, hparties⟩
  | save i job loaded now handled hi hfit =>
    have hsaved := h.find?_saved hi now txnID
    rw [hfind, Option.elim_some] at hsaved
    split at hsaved
    · exact ⟨_, hsaved, hparties⟩
    · exact ⟨proj, hsaved, hparties⟩

/-- A delivery that nothing disturbs saves its row, if the event is new. -/
theorem Sound.round_saved (h : Sound events s) {i : ι} (hi : s.calls i = .idle) {ev : OutboxEvent}
    {job : Job} (hjob : job? ev = some job) (hnew : job.eventID ∉ s.store.processedEvents)
    (hfit : job.fitsWith none = true) :
    ∃ proj, (s.exec (round i ev)).store.projections.find? job.fresh.txnID = some proj ∧
      proj.status = job.status ∧
      (s.store.projections.find? job.fresh.txnID = none → proj.parties = job.fresh.parties) := by
  have hstore := (exec_round s hi ev).2.2
  rw [hjob, Option.elim_some, Job.withTx_handle, if_neg hnew, Job.withTx_save] at hstore
  cases hfind : s.store.projections.find? job.fresh.txnID with
  | none =>
    rw [hfind, if_pos hfit] at hstore
    refine ⟨(job.row none 0).stored, ?_, rfl, fun _ => rfl⟩
    rw [hstore, Job.find?_saved, Option.getD_none, if_pos rfl, hfind, Option.elim_none]
  | some old =>
    have hfits : job.fitsWith (some old) = true :=
      Job.fitsWith_some (h.fits _ _ hfind) (Job.updates_of_fitsWith rfl hfit)
    rw [hfind, if_pos hfits] at hstore
    refine ⟨(job.row (some old) 0).stored.update old, ?_, rfl, fun hnone => by cases hnone⟩
    rw [hstore, Job.find?_saved, Option.getD_some, if_pos (Table.key_of_find? hfind), hfind,
      Option.elim_some]

/-- An event that is delivered before all others names the parties. -/
theorem exists_first [Inhabited ι] {ev : OutboxEvent} {job : Job} (hev : ev ∈ events)
    (hjob : job? ev = some job) (hfit : job.fitsWith none = true) :
    ∃ ls : List (Label ι), Run.Steps step (Delivers events) start ls ∧
      AllHandled events (start.exec ls) ∧
      ∃ proj, (start.exec ls).store.projections.find? job.fresh.txnID = some proj ∧
        proj.parties = job.fresh.parties := by
  have hsub : ev :: events ⊆ events := List.cons_subset.mpr ⟨hev, List.Subset.refl _⟩
  obtain ⟨hround, hrest⟩ := Run.steps_append.mp (steps_rounds (start : Projector ι) default hsub)
  obtain ⟨proj, hfind, -, hparties⟩ :=
    (Sound.start events).round_saved (i := (default : ι)) rfl hjob
    List.not_mem_nil hfit
  refine ⟨rounds default (ev :: events), steps_rounds start default hsub, fun ev' hev' => ?_, ?_⟩
  · exact (rounds_handled start (i := default) rfl (ev :: events)).2.2 ev'
      (List.mem_cons_of_mem _ hev')
  · have hexec : start.exec (rounds (default : ι) (ev :: events))
        = (start.exec (round default ev)).exec (rounds default events) := Run.exec_append _ _ _
    rw [hexec]
    exact (Run.exec_invariant
      (I := fun s => Sound events s ∧ ∃ proj, s.store.projections.find? job.fresh.txnID = some proj ∧
        proj.parties = job.fresh.parties)
      (fun s l h hl => ⟨h.1.step (step_moved s l hl), h.1.parties_step (step_moved s l hl) h.2⟩)
      ⟨sound_exec hround, proj, hfind, hparties rfl⟩ hrest).2

/-- An event that is delivered after all others decides the status. -/
theorem exists_last [Inhabited ι] {ev : OutboxEvent} {job : Job} (hev : ev ∈ events)
    (hjob : job? ev = some job) (hfit : job.fitsWith none = true) :
    ∃ ls : List (Label ι), Run.Steps step (Delivers events) start ls ∧
      AllHandled events (start.exec ls) ∧
      ∃ proj, (start.exec ls).store.projections.find? job.fresh.txnID = some proj ∧
        proj.status = job.status := by
  let others := events.filter (·.eventID ≠ ev.eventID)
  have hothers : others ⊆ events := fun _ h => (List.mem_filter.mp h).1
  let s : Projector ι := start.exec (rounds default others)
  obtain ⟨hidle, -, hall⟩ := rounds_handled (start : Projector ι) (i := default) rfl others
  have hsound : Sound others s := sound_exec (steps_rounds start default (List.Subset.refl others))
  have hexec : start.exec (rounds default others ++ round default ev) = s.exec (round default ev) :=
    Run.exec_append _ _ _
  refine ⟨rounds default others ++ round default ev, Run.steps_append.mpr ⟨?_, ?_⟩, ?_, ?_⟩
  · exact steps_rounds start default hothers
  · exact ⟨hev, trivial, trivial, trivial, trivial⟩
  · intro ev' hev' job' hjob'
    rw [hexec, (exec_round s hidle ev).2.1]
    by_cases hid : ev'.eventID = ev.eventID
    · rw [eventID_of_job? hjob', hid, ← eventID_of_job? hjob, hjob]
      simp
    · have hmem : ev' ∈ others := List.mem_filter.mpr ⟨hev', by simpa using hid⟩
      exact List.mem_append_left _ (hall ev' hmem job' hjob')
  · have hnew : job.eventID ∉ s.store.processedEvents := by
      intro hmem
      obtain ⟨job', ⟨ev', hev', hjob'⟩, hid, -⟩ := hsound.processed _ hmem
      rw [eventID_of_job? hjob', eventID_of_job? hjob] at hid
      have hne := (List.mem_filter.mp hev').2
      simp [eq_of_toString_eq hid] at hne
    obtain ⟨proj, hfind, hstatus, -⟩ := hsound.round_saved hidle hjob hnew hfit
    exact ⟨proj, hexec ▸ hfind, hstatus⟩

end Projector

/-! ## Convergence -/

theorem exists_failedJson {eventType : String} {payload : Json}
    (h : Emitted "payment.failed" eventType payload) :
    ∃ env hopCount f, payload = Settlement.failedJson env hopCount f := by
  generalize hstream : "payment.failed" = streamName at h
  cases h with
  | failed env hopCount f => exact ⟨env, hopCount, f, rfl⟩
  | _ => exact absurd hstream (by decide)

/-- The handler reads the status that the program has written. -/
theorem failedJob_status {env : EncryptedEnvelope} {hopCount : ℤ} {f : Settlement.Failure}
    {eventID : String} {job : Job}
    (h : failedJob eventID (Settlement.failedJson env hopCount f) = some job) :
    job.status = f.status.text := by
  simp only [failedJob, Option.bind_eq_bind, Option.bind_eq_some_iff, Option.pure_def,
    Option.some.injEq] at h
  obtain ⟨fields, hfields, _, _, status, hstatus, _, _, _, _, rfl⟩ := h
  obtain rfl := Option.some.inj hfields
  have hnames : Json.PlainNames ["txn_id", "status", "reason", "relay_hops"] := by decide +kernel
  refine Option.some.inj (hstatus.symm.trans (Json.stringField_eq (Json.member?_of_mem hnames ?_)))
  exact List.mem_cons_of_mem _ (List.mem_cons_self ..)

/-- No failure that the program announces has the status `SETTLED`. -/
theorem status_eq_iff {ev : OutboxEvent} (hev : Emitted ev.streamName ev.eventType ev.payload)
    {job : Job} (hjob : job? ev = some job) :
    job.status = "SETTLED" ↔ ev.streamName = "payment.settled" := by
  unfold job? at hjob
  split at hjob
  · next hstream => exact iff_of_true (settledJob_eq hjob).2 hstream
  · next hstream =>
    refine iff_of_false ?_ hstream
    split at hjob
    · next hfailed =>
      obtain ⟨env, hopCount, f, hpayload⟩ := exists_failedJson (hfailed ▸ hev)
      rw [failedJob_status (hpayload ▸ hjob)]
      have hunsettled := f.unsettled
      cases hstatus : f.status with
      | settled => exact absurd hstatus hunsettled
      | _ => decide
    · cases hjob

/-- A failure fits as soon as it can change a row. -/
theorem fitsWith_none_of_failed {ev : OutboxEvent} {job : Job} (hjob : job? ev = some job)
    (hstream : ev.streamName ≠ "payment.settled") (hupdates : job.updates = true) :
    job.fitsWith none = true := by
  unfold job? at hjob
  rw [if_neg hstream] at hjob
  split at hjob
  · have hparties := (failedJob_eq hjob).2
    simp only [PaymentReadProjection.parties, Prod.mk.injEq] at hparties
    simp only [Job.updates, Bool.and_eq_true] at hupdates
    have hunknown : Pg.varchar 100 "UNKNOWN" = true := by decide
    simp [Job.fitsWith, Job.row, PaymentReadProjection.columnsFit, hparties, hupdates, hunknown]
  · cases hjob

/-- Every settled payment has a projection that says so, with the parties of the payment. -/
def Converged (db : DB) (store : ReadStore) : Prop :=
  ∀ intent ∈ db.paymentIntents.rows, intent.status = .settled →
    ∃ proj, store.projections.find? intent.txnID = some proj ∧ proj.status = "SETTLED" ∧
      proj.parties = (intent.senderID, intent.receiverID, intent.amount)

/-- There is an event under the `txn_id` of the payment, and all of them announce this settlement.
Events that do not fit the columns of the read model do not count. -/
def Unanimous (events : List OutboxEvent) (intent : PaymentIntent) : Prop :=
  (∃ job, JobOf events job ∧ job.fresh.txnID = intent.txnID ∧ job.fitsWith none = true) ∧
  ∀ ev ∈ events, ∀ job, job? ev = some job → job.fresh.txnID = intent.txnID → job.updates = true →
    ev.streamName = "payment.settled" ∧ (job.fitsWith none = true →
      job.fresh.parties = (intent.senderID, intent.receiverID, intent.amount))

instance (events : List OutboxEvent) (intent : PaymentIntent) :
    Decidable (Unanimous events intent) :=
  decidable_of_iff
    ((∃ ev ∈ events, ∃ job ∈ (job? ev).toList, job.fresh.txnID = intent.txnID ∧
      job.fitsWith none = true) ∧
    ∀ ev ∈ events, ∀ job ∈ (job? ev).toList, job.fresh.txnID = intent.txnID → job.updates = true →
      ev.streamName = "payment.settled" ∧ (job.fitsWith none = true →
        job.fresh.parties = (intent.senderID, intent.receiverID, intent.amount))) (by
    simp only [Unanimous, JobOf, Option.mem_toList]
    refine and_congr_left' ⟨?_, ?_⟩
    · rintro ⟨ev, hev, job, hjob, h⟩
      exact ⟨job, ⟨ev, hev, hjob⟩, h⟩
    · rintro ⟨job, ⟨ev, hev, hjob⟩, h⟩
      exact ⟨ev, hev, job, hjob, h⟩)

open Projector in
/-- The read model converges, in whatever order the events come, exactly when for every settled
payment all events under its `txn_id` announce its settlement. -/
theorem projections_converge_iff {E : Externals} {w : World E} (hw : Reached w) {ι : Type}
    [DecidableEq ι] [Inhabited ι] :
    (∀ ls : List (Label ι), Run.Steps step (Delivers w.db.outboxEvents) start ls →
      AllHandled w.db.outboxEvents (start.exec ls) → Converged w.db (start.exec ls).store) ↔
    ∀ intent ∈ w.db.paymentIntents.rows, intent.status = .settled →
      Unanimous w.db.outboxEvents intent := by
  have hout := hw.outboxed
  constructor
  · intro h intent hintent hsettled
    refine ⟨?_, fun ev hev job hjob htxn hupdates => ⟨?_, fun hfit => ?_⟩⟩
    · have hsteps := steps_rounds (start : Projector ι) default
        (List.Subset.refl w.db.outboxEvents)
      obtain ⟨proj, hfind, -⟩ := h _ hsteps
        (rounds_handled (start : Projector ι) (i := default) rfl _).2.2 intent hintent hsettled
      obtain ⟨job, hof, hfit, htxn, -⟩ := (sound_exec hsteps).created _ _ hfind
      exact ⟨job, hof, htxn, hfit⟩
    · by_contra hstream
      obtain ⟨ls, hsteps, hall, proj, hfind, hstatus⟩ :=
        exists_last (ι := ι) hev hjob (fitsWith_none_of_failed hjob hstream hupdates)
      obtain ⟨proj', hfind', hstatus', -⟩ := h ls hsteps hall intent hintent hsettled
      rw [← htxn, hfind, Option.some.injEq] at hfind'
      refine hstream ((status_eq_iff (hout.emitted ev hev) hjob).mp ?_)
      rw [← hstatus, hfind', hstatus']
    · obtain ⟨ls, hsteps, hall, proj, hfind, hparties⟩ := exists_first (ι := ι) hev hjob hfit
      obtain ⟨proj', hfind', -, hparties'⟩ := h ls hsteps hall intent hintent hsettled
      rw [← htxn, hfind, Option.some.injEq] at hfind'
      rw [← hparties, hfind', hparties']
  · intro h ls hsteps hall intent hintent hsettled
    obtain ⟨⟨job, hof, htxn, hfit⟩, hunanimous⟩ := h intent hintent hsettled
    have hall' : ∀ job, JobOf w.db.outboxEvents job → job.fresh.txnID = intent.txnID →
        job.updates = true → job.status = "SETTLED" := by
      rintro job ⟨ev, hev, hjob⟩ htxn hupdates
      exact (status_eq_iff (hout.emitted ev hev) hjob).mpr
        (hunanimous ev hev job hjob htxn hupdates).1
    obtain ⟨hsound, hmarked, hsays⟩ := Run.exec_invariant
      (I := fun s : Projector ι => Sound w.db.outboxEvents s ∧ Marked w.db.outboxEvents s ∧
        SaysSettled intent.txnID s)
      (fun s l h hl => ⟨h.1.step (step_moved s l hl),
        h.1.marked_step hout.nodup h.2.1 (step_moved s l hl),
        h.1.saysSettled_step hall' h.2.2 (step_moved s l hl)⟩)
      ⟨.start _, by simp [Marked, start], by simp [SaysSettled, start]⟩ hsteps
    -- the event that fits has been handled, so its row is there
    obtain ⟨ev, hev, hjob⟩ := id hof
    obtain ⟨job', hof', hid, hsome⟩ :=
      hsound.processed _ (hmarked job hof hfit (hall ev hev job hjob))
    obtain rfl := hof'.unique hout.nodup hof hid
    obtain ⟨proj, hfind⟩ := Option.ne_none_iff_exists'.mp (htxn ▸ hsome)
    refine ⟨proj, hfind, hsays proj hfind, ?_⟩
    obtain ⟨job₀, ⟨ev₀, hev₀, hjob₀⟩, hfit₀, htxn₀, hparties⟩ := hsound.created _ _ hfind
    rw [hparties]
    exact (hunanimous ev₀ hev₀ job₀ hjob₀ htxn₀ (Job.updates_of_fitsWith rfl hfit₀)).2 hfit₀

open Projector in
/-- The payment of `outboxRun`, run to its end, is announced once and shows up in the read model. -/
theorem projections_converge_iff_published :
    Converged ((World.start (E := .simple outboxDecode) ()).exec (outboxRun 18)).db
      ((start : Projector (Fin 2)).exec (rounds 0
        ((World.start (E := .simple outboxDecode) ()).exec (outboxRun 18)).db.outboxEvents)).store := by
  have hreached : Reached ((World.start (E := .simple outboxDecode) ()).exec (outboxRun 18)) :=
    (Reached.initial (World.start_initial _)).exec _
  refine (projections_converge_iff hreached).mpr ?_ _ (steps_rounds _ 0 (List.Subset.refl _))
    (rounds_handled _ rfl _).2.2
  decide +kernel

/-- Two calls for the same envelope both find no row under its `txn_id`; one settles, the other one
fails as a duplicate. -/
def raced : World (.simple outboxDecode) :=
  (World.start ()).exec (Label.setup ["K"]
    ++ [.startSettle ⟨"", "pay", "N", "", "T", ""⟩ 0, .startSettle ⟨"", "pay", "N", "", "T", ""⟩ 0]
    ++ Label.settles 1 1 ++ Label.settles 0 18 ++ Label.settles 1 18)

open Projector in
/-- If the failure is handled last, the projection of the settled payment is a `DUPLICATE`; if it is
handled first, the projection says `SETTLED` and does not know the parties. -/
theorem losing_call_spoils_projection :
    let last := (start : Projector (Fin 2)).exec (rounds 0 raced.db.outboxEvents)
    let first := (start : Projector (Fin 2)).exec (rounds 0 raced.db.outboxEvents.reverse)
    (raced.db.paymentIntents.find? "T").map (·.status) = some .settled ∧
    AllHandled raced.db.outboxEvents last ∧ AllHandled raced.db.outboxEvents first ∧
    (last.store.projections.find? "T").map (·.status) = some "DUPLICATE" ∧
    (first.store.projections.find? "T").map (·.parties) = some ("UNKNOWN", "UNKNOWN", 0) ∧
    ¬Converged raced.db last.store ∧ ¬Converged raced.db first.store := by
  intro last first
  obtain ⟨hintent, hlast, hfirst⟩ :
      (raced.db.paymentIntents.find? "T").map (·.status) = some .settled ∧
      (last.store.projections.find? "T").map (·.status) = some "DUPLICATE" ∧
      (first.store.projections.find? "T").map (·.parties) = some ("UNKNOWN", "UNKNOWN", 0) ∧
      (raced.db.paymentIntents.find? "T").map (·.senderID) = some "alice" := by
    decide +kernel
  obtain ⟨intent, hfind, hsettled⟩ := Option.map_eq_some_iff.mp hintent
  have hmem : intent ∈ raced.db.paymentIntents.rows := Table.mem_of_find? hfind
  have htxn : intent.txnID = "T" := Table.key_of_find? hfind
  refine ⟨hintent, (rounds_handled _ rfl _).2.2, fun ev hev => ?_, hlast, hfirst.1, fun h => ?_,
    fun h => ?_⟩
  · exact (rounds_handled _ rfl _).2.2 ev (List.mem_reverse.mpr hev)
  · obtain ⟨proj, hproj, hstatus, -⟩ := h intent hmem hsettled
    rw [htxn] at hproj
    simp [hproj, hstatus] at hlast
  · obtain ⟨proj, hproj, -, hparties⟩ := h intent hmem hsettled
    rw [htxn] at hproj
    rw [hproj, hfind] at hfirst
    simp only [Option.map_some, Option.some.injEq, hparties, Prod.mk.injEq] at hfirst
    exact absurd (hfirst.2.symm.trans hfirst.1.1) (by decide)

end OfflinePay.Projection
