import OfflinePay.Eventsource.Manager

/-!
# Replaying events

A history that is saved event by event, with the aggregate of each moment beside its event, is
replayed to the aggregate of its last moment, wherever the snapshots fell. Only where nothing was
saved `Replay` reports that there is nothing.
-/

namespace OfflinePay.Eventsource

open Tx Repository

/-! ## Snapshots -/

/-- What a caller of `SaveEventAndSnapshot` has to say about one change of a payment. -/
structure Change where
  eventType : String
  payload : Json
  now : Time

/-- The event of a change. -/
def Change.event (change : Change) (txnID : String) (version : ℕ) : PaymentEvent :=
  ⟨txnID, change.eventType, version, change.payload, change.now⟩

/-- The events of a history, under consecutive versions. -/
def history (txnID : String) (version : ℕ) : List Change → List PaymentEvent
  | [] => []
  | change :: changes => change.event txnID version :: history txnID (version + 1) changes

namespace EventSourceManager

variable {esm : EventSourceManager} {txnID : String}

/-- Save a history, with the aggregate up to each event beside it. -/
def saveHistory (esm : EventSourceManager) (txnID : String) (version : ℕ) (aggregate : Aggregate) :
    List Change → EventTx Unit
  | [] => pure ()
  | change :: changes => do
    let aggregate' ← attempt (applyEvent esm.codec aggregate (change.event txnID version))
    esm.saveEventAndSnapshot txnID change.eventType version change.payload (some aggregate') change.now
    saveHistory esm txnID (version + 1) aggregate' changes

/-- The store after the events `done` of a payment: they have the versions 1, 2, 3, ..., and a
snapshot is the aggregate of some version. -/
structure Saved (esm : EventSourceManager) (txnID : String) (done : List PaymentEvent)
    (aggregate : Aggregate) (store : EventStore) : Prop where
  events : getPaymentEvents store.db txnID = done
  versions : done.map (·.eventVersion) = List.range' 1 done.length
  applied : applyAll esm.codec {} done = .ok aggregate
  snapshot : ∀ snap, store.snapshots.find? txnID = some snap →
    snap.aggregateVersion ≤ done.length ∧ ∃ intent,
      esm.codec.unmarshal snap.snapshotData = .ok intent ∧
      applyAll esm.codec {} (done.take snap.aggregateVersion) = .ok intent

theorem saveEventAndSnapshot_ok {eventType : String} {version : ℕ} {payload : Json}
    {aggregate : Aggregate} {now : Time} {store store' : EventStore}
    (h : esm.saveEventAndSnapshot txnID eventType version payload (some aggregate) now store
      = .ok ((), store')) :
    store'.db.paymentEvents = store.db.paymentEvents ++ [⟨txnID, eventType, version, payload, now⟩] ∧
      (store'.snapshots.find? txnID = store.snapshots.find? txnID ∨
        ∃ data, esm.codec.marshal aggregate = .ok data ∧
          store'.snapshots.find? txnID = some ⟨txnID, version, data, now⟩) := by
  obtain ⟨_, store₁, hevent, hsnap⟩ := bind_ok.mp h
  simp only [mapError_ok, bind_ok, check_ok, onDB_ok, createPaymentEvent_ok] at hevent
  obtain ⟨_, _, ⟨-, rfl⟩, _, _, ⟨-, rfl⟩, _, ⟨-, -, rfl⟩, rfl⟩ := hevent
  simp only [saveSnapshot] at hsnap
  split at hsnap
  · simp only [createPaymentSnapshot, bind_ok, attempt_ok, mapError_ok, check_ok, write_ok] at hsnap
    obtain ⟨data, _, ⟨hdata, rfl⟩, _, _, ⟨-, rfl⟩, rfl⟩ := hsnap
    refine ⟨rfl, .inr ⟨data, ?_, ?_⟩⟩
    · cases hmarshal : esm.codec.marshal aggregate with
      | error e => simp [hmarshal, Except.mapError] at hdata
      | ok data' => simpa [hmarshal, Except.mapError] using hdata
    · refine (Table.find?_upsert store.snapshots ⟨txnID, version, data, now⟩ _ _ txnID).trans ?_
      rw [if_pos rfl]
      cases hold : store.snapshots.find? txnID with
      | none => rfl
      | some old =>
        show some (PaymentSnapshot.mk old.aggregateID version data now) = _
        rw [Table.key_of_find? hold]
  · obtain ⟨-, rfl⟩ := pure_ok.mp hsnap
    exact ⟨rfl, .inl rfl⟩

/-- One more event is saved. -/
theorem Saved.save (hcodec : esm.codec.RoundTrip) {done : List PaymentEvent}
    {aggregate aggregate' : Aggregate} {store store' : EventStore}
    (h : esm.Saved txnID done aggregate store) {change : Change}
    (happly : applyEvent esm.codec aggregate (change.event txnID (done.length + 1)) = .ok aggregate')
    (hsave : esm.saveEventAndSnapshot txnID change.eventType (done.length + 1) change.payload
      (some aggregate') change.now store = .ok ((), store')) :
    esm.Saved txnID (done ++ [change.event txnID (done.length + 1)]) aggregate' store' := by
  obtain ⟨hevents, hsnap⟩ := saveEventAndSnapshot_ok hsave
  have happlied : applyAll esm.codec {} (done ++ [change.event txnID (done.length + 1)])
      = .ok aggregate' := by
    rw [applyAll_append, h.applied]
    simp [applyAll, bind, Except.bind, happly, pure, Except.pure]
  refine ⟨?_, ?_, happlied, ?_⟩
  · rw [getPaymentEvents, hevents, List.filter_append, ← getPaymentEvents, h.events]
    simp [Change.event]
  · rw [List.map_append, h.versions, List.length_append, List.length_singleton, List.range'_concat]
    simp [Change.event, Nat.add_comm]
  · intro snap hfind
    rcases hsnap with hsame | ⟨data, hmarshal, hnew⟩
    · obtain ⟨hle, intent, hunmarshal, htaken⟩ := h.snapshot snap (hsame ▸ hfind)
      refine ⟨by simp; omega, intent, hunmarshal, ?_⟩
      rwa [List.take_append_of_le_length hle]
    · obtain rfl := Option.some.inj (hnew.symm.trans hfind)
      refine ⟨by simp, aggregate', hcodec _ _ hmarshal, ?_⟩
      rwa [List.take_of_length_le (by simp)]

/-- The whole history is saved. -/
theorem Saved.saveHistory (hcodec : esm.codec.RoundTrip) {done : List PaymentEvent}
    {aggregate : Aggregate} {store store' : EventStore} (h : esm.Saved txnID done aggregate store)
    {changes : List Change}
    (hsave : esm.saveHistory txnID (done.length + 1) aggregate changes store = .ok ((), store')) :
    ∃ aggregate', esm.Saved txnID (done ++ history txnID (done.length + 1) changes) aggregate'
      store' := by
  induction changes generalizing done aggregate store with
  | nil =>
    obtain ⟨-, rfl⟩ := pure_ok.mp hsave
    exact ⟨aggregate, by simpa [history] using h⟩
  | cons change changes ih =>
    obtain ⟨aggregate', _, hattempt, hsaves⟩ := bind_ok.mp hsave
    obtain ⟨happly, rfl⟩ := attempt_ok.mp hattempt
    obtain ⟨_, store₁, hfirst, hrest⟩ := bind_ok.mp hsaves
    have hnext := h.save hcodec happly hfirst
    have hlength : (done ++ [change.event txnID (done.length + 1)]).length = done.length + 1 := by simp
    obtain ⟨last, hlast⟩ := ih hnext (by rwa [hlength])
    rw [hlength, List.append_assoc] at hlast
    exact ⟨last, hlast⟩

/-! ## Replay -/

/-- Events up to the start version are skipped. -/
theorem applyAfter_of_le {start : ℕ} {events : List PaymentEvent}
    (h : ∀ ev ∈ events, ev.eventVersion ≤ start) (intent : Aggregate) :
    esm.applyAfter start intent events = .ok intent := by
  induction events with
  | nil => rfl
  | cons ev events ih =>
    rw [applyAfter, List.foldlM_cons, if_pos (h ev List.mem_cons_self)]
    exact ih fun ev' hev' => h ev' (List.mem_cons_of_mem ev hev')

/-- Events after the start version are applied. -/
theorem applyAfter_of_lt {start : ℕ} {events : List PaymentEvent}
    (h : ∀ ev ∈ events, start < ev.eventVersion) {intent aggregate : Aggregate}
    (happly : applyAll esm.codec intent events = .ok aggregate) :
    esm.applyAfter start intent events = .ok aggregate := by
  induction events generalizing intent with
  | nil => exact happly
  | cons ev events ih =>
    rw [applyAfter, List.foldlM_cons, if_neg (Nat.not_le.mpr (h ev List.mem_cons_self))]
    rw [applyAll, List.foldlM_cons] at happly
    cases hev : applyEvent esm.codec intent ev with
    | error e => simp [hev, bind, Except.bind] at happly
    | ok intent' =>
      rw [hev] at happly
      exact ih (fun ev' hev' => h ev' (List.mem_cons_of_mem ev hev')) happly

/-- The loop of `Replay`, started from the aggregate of a version, gives the aggregate of the last
one. -/
theorem applyAfter_take {done : List PaymentEvent}
    (hversions : done.map (·.eventVersion) = List.range' 1 done.length) (start : ℕ)
    {intent aggregate : Aggregate}
    (htake : applyAll esm.codec {} (done.take start) = .ok intent)
    (happlied : applyAll esm.codec {} done = .ok aggregate) :
    esm.applyAfter start intent done = .ok aggregate := by
  have hversion : ∀ k (hk : k < done.length), done[k].eventVersion = 1 + k := by
    intro k hk
    have hk' := congrArg (·[k]?) hversions
    simpa [hk] using hk'
  have hbefore : ∀ ev ∈ done.take start, ev.eventVersion ≤ start := by
    intro ev hev
    obtain ⟨k, hk, rfl⟩ := List.mem_take_iff_getElem.mp hev
    rw [hversion k (by omega)]
    omega
  have hafter : ∀ ev ∈ done.drop start, start < ev.eventVersion := by
    intro ev hev
    obtain ⟨k, hk, rfl⟩ := List.mem_drop_iff_getElem.mp hev
    rw [hversion (start + k) (by omega)]
    omega
  have hrest : applyAll esm.codec intent (done.drop start) = .ok aggregate := by
    rw [← List.take_append_drop start done, applyAll_append, htake] at happlied
    exact happlied
  rw [← List.take_append_drop start done, applyAfter, List.foldlM_append, ← applyAfter,
    applyAfter_of_le hbefore]
  exact applyAfter_of_lt hafter hrest

/-- `Replay` after a history. -/
theorem Saved.replay {done : List PaymentEvent} {aggregate : Aggregate} {store : EventStore}
    (h : esm.Saved txnID done aggregate store) (hne : done ≠ []) :
    esm.replay txnID {} store = .ok aggregate := by
  have hlength : ¬(aggregate.txnID = "" ∧ (getPaymentEvents store.db txnID).length = 0) := by
    rw [h.events, List.length_eq_zero_iff]
    exact fun hempty => hne hempty.2
  have hfinish : ∀ start intent, esm.load (store.snapshots.find? txnID) = .ok (intent, start) →
      applyAll esm.codec {} (done.take start) = .ok intent →
      esm.replay txnID {} store = .ok aggregate := by
    intro start intent hload htake
    have hloop := applyAfter_take h.versions start htake h.applied
    rw [← h.events] at hloop
    simp only [EventSourceManager.replay, hload, bind, Except.bind, hloop, if_neg hlength]
  cases hsnap : store.snapshots.find? txnID with
  | none => exact hfinish 0 {} (by rw [hsnap]; rfl) rfl
  | some snap =>
    obtain ⟨-, intent, hunmarshal, htake⟩ := h.snapshot snap hsnap
    exact hfinish snap.aggregateVersion intent (by rw [hsnap]; simp [load, hunmarshal]) htake

end EventSourceManager

end OfflinePay.Eventsource
