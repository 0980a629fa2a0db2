import OfflinePay.Settlement.Deliveries
import OfflinePay.System.Bank

/-!
# A storm of deliveries

Reference: `cmd/replaystorm/main.go`; `internal/settlement/service.go`, `Settle`.

An envelope that `Settle` would settle is delivered any number of times at once. Their steps
alternate in any order, and nothing fails. The one that is the first to commit its `RESERVE` settles,
and all others are reported as duplicates, whichever check or constraint they run into. The books are
those that one delivery leaves.

The invariant `Storm` has two phases. Before the first `RESERVE` every delivery is where it would be
if it ran alone. From then on this is so for the one that reserved, and the others are `Late`.
-/

namespace OfflinePay

open Settlement

variable {E : Externals}

section Storm

variable {db₀ : DB} {env : EncryptedEnvelope} {signed : SignedPaymentIntent} {risk₀ : E.RiskState}

/-- The call is where it would be if it had run alone, and so are the books. -/
def Tracks (db₀ : DB) (env : EncryptedEnvelope) (signed : SignedPaymentIntent) (risk₀ : E.RiskState)
    (db : DB) (call : SettleCall) : Prop :=
  ∃ inputs : List Input, (∀ input ∈ inputs, input.Quiet signed db₀) ∧
    ((Solo.start env call.hopCount db₀ risk₀).exec inputs).call = call ∧
    ((Solo.start env call.hopCount db₀ risk₀).exec inputs).db.SameBooks db

theorem Tracks.onTrack {db : DB} {call : SettleCall} (h : Tracks db₀ env signed risk₀ db call)
    (halone : SettlesAlone E db₀ env signed call.hopCount) : call.OnTrack := by
  obtain ⟨inputs, hquiet, hcall, -⟩ := h
  rw [← hcall]
  exact halone.onTrack risk₀ hquiet

/-- What the delivery has done so far. -/
theorem Tracks.followed {db : DB} {call : SettleCall} (h : Tracks db₀ env signed risk₀ db call)
    (halone : SettlesAlone E db₀ env signed call.hopCount) (hopen : openEnvelope E env = .ok signed) :
    ∃ s : Solo E, s.call = call ∧ s.db.SameBooks db ∧ Followed db₀ env signed s := by
  obtain ⟨inputs, hquiet, hcall, hbooks⟩ := h
  exact ⟨_, hcall, hbooks, halone.followed hopen risk₀ hquiet⟩

/-- As long as it has not reserved, the delivery only reads. -/
theorem Tracks.early {db db' : DB} {call : SettleCall} (h : Tracks db₀ env signed risk₀ db call)
    (halone : SettlesAlone E db₀ env signed call.hopCount) (hopen : openEnvelope E env = .ok signed)
    (hexecuted : call.saga.executed = 0) (hbooks : db₀.SameBooks db') :
    Tracks db₀ env signed risk₀ db' call ∧ call.Late db₀ env signed ∧ db₀.SameBooks db := by
  obtain ⟨inputs, hquiet, hcall, hbooks'⟩ := h
  obtain ⟨hdb, hlate⟩ := (halone.followed hopen risk₀ hquiet).early (by rw [hcall]; exact hexecuted)
  rw [hdb] at hbooks'
  rw [hcall] at hlate
  exact ⟨⟨inputs, hquiet, hcall, by rw [hdb]; exact hbooks⟩, hlate, hbooks'⟩

/-- A step of the delivery is the one it would make alone. -/
theorem Tracks.step {db : DB} {call : SettleCall} (h : Tracks db₀ env signed risk₀ db call)
    (hwf : call.Wf) (halone : SettlesAlone E db₀ env signed call.hopCount)
    (hopen : openEnvelope E env = .ok signed) {input : Input} (hinput : input.Quiet signed db₀)
    (risk : E.RiskState) :
    Tracks db₀ env signed risk₀ (call.step E input db risk).2.1 (call.step E input db risk).1 := by
  obtain ⟨inputs, hquiet, hcall, hbooks⟩ := h
  have hquiet' : ∀ i ∈ inputs ++ [input], i.Quiet signed db₀ := by
    intro i hi
    rcases List.mem_append.mp hi with hi | hi
    · exact hquiet i hi
    · rw [List.mem_singleton.mp hi]
      exact hinput
  have hnext := halone.onTrack risk₀ hquiet'
  have hfollowed := halone.followed hopen risk₀ hquiet
  obtain ⟨henv, horder⟩ := Solo.order_exec call.hopCount db₀ risk₀ hopen inputs
  have hexec := Solo.exec_concat (Solo.start env call.hopCount db₀ risk₀) inputs input
  generalize (Solo.start env call.hopCount db₀ risk₀).exec inputs = s
    at hcall hbooks hfollowed henv horder hexec
  rw [hexec] at hnext
  subst hcall
  have hoverlaid : ∀ ids, _ := fun ids =>
    SettleCall.step_overlaid (hbooks ([env.txnID, signed.payload.txnID] ++ ids))
      (by simp [henv]) (fun o ho => by simp [(horder o ho).2]) hnext
  -- neither this risk assessment nor the other one rejects the payment
  have hrisks : ∀ signed' device, s.call.pc = .token signed' device →
      (E.assess s.risk device signed'.payload s.call.hopCount).1.action ≠ .reject ∧
        (E.assess risk device signed'.payload s.call.hopCount).1.action ≠ .reject := by
    intro signed' device hpc
    have hzero : s.call.saga.executed = 0 := by
      rw [SettleCall.Wf, hpc] at hwf
      rw [hwf.2]
      rfl
    obtain ⟨-, -, hlate⟩ := hfollowed.early hzero
    rw [hpc] at hlate
    obtain ⟨rfl, hdevice⟩ := hlate
    exact ⟨halone.not_rejected hopen hinput hdevice _, halone.not_rejected hopen hinput hdevice _⟩
  obtain ⟨hcall', hdb', -⟩ := SettleCall.step_risk input db hrisks
  refine ⟨inputs ++ [input], hquiet', ?_, ?_⟩
  · rw [(SettleCall.step_envelope _ _ _ _).2, hexec, hcall', (hoverlaid []).1]
    rfl
  · rw [(SettleCall.step_envelope _ _ _ _).2, hexec, hdb']
    exact .of_overlaid fun ids => (hoverlaid ids).2.2

/-! ## All deliveries -/

/-- Deliveries of the envelope, each of which would settle alone, and in which nothing fails. -/
def Label.Delivers (E : Externals) (db₀ : DB) (env : EncryptedEnvelope)
    (signed : SignedPaymentIntent) : Label → Prop
  | .startSettle env' hopCount => env' = env ∧ SettlesAlone E db₀ env signed hopCount
  | .settle _ input => input.Quiet signed db₀
  | _ => False

namespace World

/-- No delivery has reserved. -/
structure Calm (db₀ : DB) (env : EncryptedEnvelope) (signed : SignedPaymentIntent)
    (risk₀ : E.RiskState) (w : World E) : Prop where
  books : db₀.SameBooks w.db
  calls : ∀ call ∈ w.calls, Tracks db₀ env signed risk₀ w.db call ∧ call.saga.executed = 0

/-- Delivery `i` has reserved. -/
structure Won (db₀ : DB) (env : EncryptedEnvelope) (signed : SignedPaymentIntent)
    (risk₀ : E.RiskState) (i : ℕ) (w : World E) : Prop where
  winner : ∃ call, w.calls[i]? = some call ∧ Tracks db₀ env signed risk₀ w.db call ∧
    call.saga.executed ≠ 0
  late : ∀ j call, w.calls[j]? = some call → j ≠ i → call.Late db₀ env signed

/-- The storm, before and after the first reservation. -/
structure Storm (db₀ : DB) (env : EncryptedEnvelope) (signed : SignedPaymentIntent)
    (risk₀ : E.RiskState) (w : World E) : Prop where
  calls : ∀ call ∈ w.calls, call.Wf ∧ SettlesAlone E db₀ env signed call.hopCount
  phase : w.Calm db₀ env signed risk₀ ∨ ∃ i, w.Won db₀ env signed risk₀ i

/-- Another delivery arrives. -/
theorem Storm.start {w : World E} (h : w.Storm db₀ env signed risk₀) {hopCount : ℤ}
    (halone : SettlesAlone E db₀ env signed hopCount) :
    (w.step (.startSettle env hopCount)).Storm db₀ env signed risk₀ where
  calls := by
    intro call hcall
    rcases List.mem_append.mp hcall with hcall | hcall
    · exact h.calls call hcall
    · rw [List.mem_singleton.mp hcall]
      exact ⟨⟨rfl, rfl⟩, halone⟩
  phase := by
    rcases h.phase with hcalm | ⟨i, hwon⟩
    · refine .inl ⟨hcalm.books, fun call hcall => ?_⟩
      rcases List.mem_append.mp hcall with hcall | hcall
      · exact hcalm.calls call hcall
      · rw [List.mem_singleton.mp hcall]
        exact ⟨⟨[], by simp, rfl, hcalm.books⟩, rfl⟩
    · obtain ⟨call, hcall, hrest⟩ := hwon.winner
      have hlt := (List.getElem?_eq_some_iff.mp hcall).1
      refine .inr ⟨i, ⟨call, (List.getElem?_append_left hlt).trans hcall, hrest⟩,
        fun j call' hcall' hne => ?_⟩
      rw [World.step, List.getElem?_append] at hcall'
      split at hcall'
      · exact hwon.late j call' hcall' hne
      · rw [List.mem_singleton.mp (List.mem_of_getElem? hcall')]
        exact ⟨rfl, trivial⟩

/-- A saga that has committed a step has done so for good. -/
theorem executed_step {call : SettleCall} (hwf : call.Wf) (h : call.saga.executed ≠ 0) (input : Input)
    (db : DB) (risk : E.RiskState) : (call.step E input db risk).1.saga.executed ≠ 0 := by
  have hmoved := (Solo.moved (s := ⟨call, db, risk⟩) hwf input).1
  generalize Solo.commits ⟨call, db, risk⟩ input = wrote at hmoved
  cases hmoved with
  | quiet _ _ _ _ hexecuted _ => exact hexecuted ▸ h
  | begin _ hnone _ _ _ =>
    rw [hwf.create hnone] at h
    exact absurd rfl h
  | @phase o p _ _ hadvances _ =>
    cases p with
    | action k => exact hadvances.2.2.1 ▸ Nat.succ_ne_zero k
    | compensation k => exact hadvances.2.2 ▸ h

/-- A step of one of the deliveries. -/
theorem Storm.settle {w : World E} (h : w.Storm db₀ env signed risk₀)
    (hopen : openEnvelope E env = .ok signed) (hid : env.txnID = signed.payload.txnID) {i : ℕ}
    {call : SettleCall} (hcall : w.calls[i]? = some call) {input : Input}
    (hinput : input.Quiet signed db₀) :
    (w.step (.settle i input)).Storm db₀ env signed risk₀ := by
  obtain ⟨hcalls, hdb⟩ := step_settle hcall input
  obtain ⟨hwf, halone⟩ := h.calls call (List.mem_of_getElem? hcall)
  have hlt := (List.getElem?_eq_some_iff.mp hcall).1
  refine ⟨fun call' hmem => ?_, ?_⟩
  · rw [hcalls] at hmem
    rcases List.mem_or_eq_of_mem_set hmem with hmem | rfl
    · exact h.calls call' hmem
    · rw [(SettleCall.step_envelope _ _ _ _).2]
      exact ⟨(SettleCall.step_cases hwf rfl).2, halone⟩
  · rcases h.phase with hcalm | ⟨k, hwon⟩
    · obtain ⟨htracks, -⟩ := hcalm.calls call (List.mem_of_getElem? hcall)
      have hnext := htracks.step hwf halone hopen hinput w.risk
      rw [← hdb] at hnext
      have halone' : SettlesAlone E db₀ env signed (call.step E input w.db w.risk).1.hopCount := by
        rw [(SettleCall.step_envelope _ _ _ _).2]
        exact halone
      by_cases hzero : (call.step E input w.db w.risk).1.saga.executed = 0
      · have hbooks := (hnext.early halone' hopen hzero hcalm.books).2.2
        refine .inl ⟨hbooks, fun other hmem => ?_⟩
        rw [hcalls] at hmem
        rcases List.mem_or_eq_of_mem_set hmem with hmem | rfl
        · obtain ⟨hother, hzero'⟩ := hcalm.calls other hmem
          exact ⟨(hother.early (h.calls other hmem).2 hopen hzero' hbooks).1, hzero'⟩
        · exact ⟨hnext, hzero⟩
      · -- the first reservation: whoever has not reserved is late
        refine .inr ⟨i, ⟨_, ?_, hnext, hzero⟩, fun j other hother hne => ?_⟩
        · rw [hcalls]
          exact List.getElem?_set_self hlt
        · rw [hcalls, List.getElem?_set_ne hne.symm] at hother
          have hmem := List.mem_of_getElem? hother
          obtain ⟨htracks', hzero'⟩ := hcalm.calls other hmem
          exact (htracks'.early (h.calls other hmem).2 hopen hzero' hcalm.books).2.1
    · obtain ⟨winner, hwinner, htracks, hne⟩ := hwon.winner
      obtain ⟨hwf', halone'⟩ := h.calls winner (List.mem_of_getElem? hwinner)
      by_cases hik : i = k
      · subst hik
        obtain rfl := Option.some.inj (hwinner.symm.trans hcall)
        refine .inr ⟨i, ⟨_, ?_, ?_, executed_step hwf hne input w.db w.risk⟩, fun j other hother hij => ?_⟩
        · rw [hcalls]
          exact List.getElem?_set_self hlt
        · rw [hdb]
          exact htracks.step hwf halone hopen hinput w.risk
        · rw [hcalls, List.getElem?_set_ne hij.symm] at hother
          exact hwon.late j other hother hij
      · obtain ⟨s, hs, hbooks, hfollowed⟩ := htracks.followed halone' hopen
        have hintent : w.db.paymentIntents.find? signed.payload.txnID ≠ none := by
          rw [hbooks.intents]
          exact hfollowed.reserved (by rw [hs]; exact hne)
        obtain ⟨hlate, hsame⟩ := (hwon.late i call hcall hik).step hwf hopen halone hid
          (hfollowed.lasting.sameBooks hbooks) hintent hinput w.risk
        rw [← hdb] at hsame
        obtain ⟨inputs, hquiet, hstands, hbooks'⟩ := htracks
        refine .inr ⟨k, ⟨winner, ?_, ⟨inputs, hquiet, hstands, hbooks'.trans hsame⟩, hne⟩,
          fun j other hother hjk => ?_⟩
        · rw [hcalls, List.getElem?_set_ne hik]
          exact hwinner
        · rw [hcalls] at hother
          by_cases hij : i = j
          · subst hij
            rw [List.getElem?_set_self hlt] at hother
            rw [← Option.some.inj hother]
            exact hlate
          · rw [List.getElem?_set_ne hij] at hother
            exact hwon.late j other hother hjk

theorem Storm.step {w : World E} (h : w.Storm db₀ env signed risk₀)
    (hopen : openEnvelope E env = .ok signed) (hid : env.txnID = signed.payload.txnID) {l : Label}
    (hl : l.Delivers E db₀ env signed) : (w.step l).Storm db₀ env signed risk₀ := by
  cases l with
  | startSettle env' hopCount =>
    obtain ⟨rfl, halone⟩ := hl
    exact h.start halone
  | settle i input =>
    cases hcall : w.calls[i]? with
    | none =>
      simp only [World.step, World.settle, hcall]
      exact h
    | some call => exact h.settle hopen hid hcall hl
  | _ => exact hl.elim

end World

end Storm

/-! ## The end of the storm -/

/-- A step of call `i`. -/
def Label.moves (i : ℕ) : Label → Bool
  | .settle j _ => i = j
  | _ => false

theorem Settlement.SettleCall.OnTrack.settled {call : SettleCall} (h : call.OnTrack)
    {status : PaymentStatus} {err : Option GoError} (hpc : call.pc = .returned status err) :
    status = .settled := by
  rw [SettleCall.OnTrack, hpc] at h
  cases status with
  | settled => rfl
  | _ => exact h.elim

namespace World

end World

end OfflinePay
