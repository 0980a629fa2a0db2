import OfflinePay.System.Connections

/-!
# The connection pool

A call that runs a statement outside of its open transaction needs two connections at once. When 25
such calls have begun their transactions at the same time, all connections are taken and each of
them waits for another one. Two `IssueToken` calls for one owner do not get there together, because
both need the row of the owner's account. So what counts is the number of *slots*: one for each
owner whose token is being issued, and one for each of the other calls that nest.
-/

namespace OfflinePay

open Pool

variable {E : Externals} {ι : Type}

/-- What a call occupies while it waits in its transaction: the account it has locked, or only its
own place. -/
def Call.slot (call : Call E) (i : ι) : ι ⊕ String := call.locked?.elim (.inl i) .inr

/-- Calls in different slots do not wait for each other's rows. -/
theorem Call.disjoint_rows {call call' : Call E} {i j : ι} (h : call.slot i ≠ call'.slot j) :
    call.rows.Disjoint call'.rows := by
  cases hlocked : call.locked? with
  | none => simp [rows, hlocked]
  | some owner =>
    cases hlocked' : call'.locked? with
    | none => simp [rows, hlocked']
    | some owner' => simpa [slot, rows, hlocked, hlocked', eq_comm] using h

/-- Calls in one slot are the same call, or they need the same row. -/
theorem Call.eq_or_mem_rows {call call' : Call E} {i j : ι} (h : call.slot i = call'.slot j) :
    i = j ∨ ∃ row, row ∈ call.rows ∧ row ∈ call'.rows := by
  rw [slot, slot] at h
  cases hlocked : call.locked? with
  | none =>
    cases hlocked' : call'.locked? with
    | none => exact .inl (by simpa [hlocked, hlocked'] using h)
    | some owner' => simp [hlocked, hlocked'] at h
  | some owner =>
    cases hlocked' : call'.locked? with
    | none => simp [hlocked, hlocked'] at h
    | some owner' =>
      obtain rfl : owner = owner' := by simpa [hlocked, hlocked'] using h
      exact .inr ⟨.account owner, by simp [rows, hlocked], by simp [rows, hlocked']⟩

variable [Fintype ι] [DecidableEq ι]

/-- The slots of the calls that nest. -/
def slots (calls : ι → Call E) : Finset (ι ⊕ String) :=
  (Finset.univ.filter fun i => (calls i).nests = true).image fun i => (calls i).slot i

/-- The state of the pool after some steps of concurrent calls. -/
def poolAfter (calls : ι → Call E) (schedule : List ι) : ι → Caller Row :=
  Run.exec (step maxOpenConns) (start fun i => (calls i).asks) schedule

/-- Calls that wait in their transactions at the same time have different slots. -/
theorem le_slots_of_stalled {calls : ι → Call E} {schedule : List ι}
    (h : Stalled maxOpenConns (poolAfter calls schedule)) : maxOpenConns ≤ (slots calls).card := by
  obtain ⟨S, rows, hcard, hnests, hapart⟩ := nesting_of_stalled h
  have hcall : ∀ i ∈ S, (calls i).nests = true ∧ rows i = (calls i).rows := by
    intro i hi
    obtain ⟨n, hmem⟩ := hnests i hi
    exact (calls i).splits.rows_eq _ n hmem
  rw [← hcard]
  apply Finset.card_le_card_of_injOn fun i => (calls i).slot i
  · intro i hi
    exact Finset.mem_image_of_mem _ (Finset.mem_filter.mpr ⟨Finset.mem_univ i, (hcall i hi).1⟩)
  · intro i hi j hj hij
    obtain heq | ⟨row, hrow, hrow'⟩ := Call.eq_or_mem_rows hij
    · exact heq
    · by_contra hne
      rw [← (hcall i hi).2] at hrow
      rw [← (hcall j hj).2] at hrow'
      exact hapart i hi j hj hne hrow hrow'

/-- Calls that nest, in different slots, can all get to where they wait. Those without an account go
first: a `Settle` call locks accounts on its way to `PUBLISH`. -/
theorem stalled_of_slots {calls : ι → Call E} {R : Finset ι} (hcard : R.card = maxOpenConns)
    (hnests : ∀ i ∈ R, (calls i).nests = true)
    (hslot : ∀ i ∈ R, ∀ j ∈ R, i ≠ j → (calls i).slot i ≠ (calls j).slot j) :
    ∃ schedule, Stalled maxOpenConns (poolAfter calls schedule) := by
  have hsplit := fun i => (calls i).splits.split
  choose! before nested rest hasks hflat hbefore using hsplit
  set first := (R.filter fun i => (calls i).rows = []).toList with hfirst
  set second := (R.filter fun i => ¬(calls i).rows = []).toList with hsecond
  have hmem : ∀ i, i ∈ first ++ second ↔ i ∈ R := by
    intro i
    simp only [hfirst, hsecond, List.mem_append, Finset.mem_toList, Finset.mem_filter]
    tauto
  have hidle : ∀ j ∈ first, (calls j).rows = [] := by
    intro j hj
    exact (Finset.mem_filter.mp (Finset.mem_toList.mp hj)).2
  have hclash : ∀ i ∈ R, ∀ j ∈ R, j ≠ i → (calls i).rows ≠ [] →
      ∀ rows n, .tx rows n ∈ before i ++ [.tx (calls i).rows 0] → rows.Disjoint (calls j).rows := by
    intro i hi j hj hne hrows rows n hn
    have hquery : before i = [.query] := hbefore i (hnests i hi) hrows
    obtain rfl : rows = (calls i).rows := (by simpa [hquery] using hn : rows = _ ∧ n = 0).1
    exact Call.disjoint_rows (hslot i hi j hj hne.symm)
  have hnodup : (first ++ second).Nodup := by
    refine List.Nodup.append (Finset.nodup_toList _) (Finset.nodup_toList _) fun i hi hi' => ?_
    simp only [hfirst, hsecond, Finset.mem_toList, Finset.mem_filter] at hi hi'
    exact hi'.2 hi.2
  refine stalled_reachable hnodup ?_ (fun i hi => hasks i (hnests i ((hmem i).mp hi)))
    (fun i hi => hflat i (hnests i ((hmem i).mp hi))) (List.pairwise_append.mpr ⟨?_, ?_, ?_⟩)
  · rw [List.length_append, hfirst, hsecond, Finset.length_toList, Finset.length_toList,
      Finset.card_filter_add_card_filter_not, hcard]
  · refine (Finset.nodup_toList _).pairwise_of_forall_ne fun j hj i _ _ rows n _ => ?_
    exact hidle j hj ▸ List.disjoint_nil_right _
  · refine (Finset.nodup_toList _).pairwise_of_forall_ne fun j hj i hi hne => ?_
    simp only [Finset.mem_toList, Finset.mem_filter] at hi hj
    exact hclash i hi.1 j hj.1 hne hi.2
  · intro j hj i _ rows n _
    exact hidle j hj ▸ List.disjoint_nil_right _

/-- A stall can happen exactly if there are as many slots as connections. -/
theorem stalled_iff_slots (calls : ι → Call E) :
    (∃ schedule, Stalled maxOpenConns (poolAfter calls schedule)) ↔
      maxOpenConns ≤ (slots calls).card := by
  refine ⟨fun ⟨_, h⟩ => le_slots_of_stalled h, fun h => ?_⟩
  obtain ⟨T, hT, hcard⟩ := Finset.exists_subset_card_eq h
  have hsurj : Set.SurjOn (fun i => (calls i).slot i) {i | (calls i).nests = true} T := by
    intro x hx
    obtain ⟨i, hi, rfl⟩ := Finset.mem_image.mp (hT hx)
    exact ⟨i, (Finset.mem_filter.mp hi).2, rfl⟩
  obtain ⟨R, hR, hinj, himage⟩ := Finset.exists_subset_injOn_image_eq_of_surjOn _ _ hsurj
  refine stalled_of_slots (R := R) ?_ (fun i hi => hR hi) fun i hi j hj hne h => ?_
  · rw [← Finset.card_image_of_injOn hinj, himage, hcard]
  · exact hne (hinj hi hj h)

/-- However concurrent calls are scheduled, the pool is never full of transactions that wait for
another connection, exactly if the calls that run a statement outside of their open transaction have
fewer slots than the pool has connections. -/
theorem no_pool_deadlock_iff (calls : ι → Call E) :
    (∀ schedule, ¬Stalled maxOpenConns (poolAfter calls schedule)) ↔
      (slots calls).card < maxOpenConns := by
  rw [← not_exists, stalled_iff_slots, not_le]

/-- An account for each of 25 customers. -/
def customers : DB :=
  (List.range 25).foldl (fun db k =>
    (Tx.withTx none (Repository.createAccount ("customer-" ++ toString k) 1000 0) db).2) DB.empty

/-- Customer `k` asks for a token. -/
def customerCall (k : Fin 25) : Call (Externals.simple fun _ => none) :=
  .issueToken {
    ownerID := "customer-" ++ toString k.val
    value := 100
    duration := 1000000000000
    tokenID := "token-" ++ toString k.val
    faults := {}
    now := 0
    limitDB := customers
    txDB := customers
    lookupDB := customers }

/-- Twenty-five customers ask for a token at the same time, and the pool is stuck. -/
theorem issuing_stalls_pool :
    ∃ schedule, Stalled maxOpenConns (poolAfter customerCall schedule) :=
  (stalled_iff_slots customerCall).mpr (by decide +kernel)

end OfflinePay
