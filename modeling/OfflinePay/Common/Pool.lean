import Mathlib.Algebra.BigOperators.Group.Finset.Piecewise
import OfflinePay.Common.Run

/-!
# A bounded pool of connections

Callers share a pool of `cap` connections. A statement outside a transaction needs a connection
while it runs; a transaction keeps its connection until it ends. A transaction may hold rows that no
other transaction can lock meanwhile, and it may *nest*: run statements outside of itself, each of
which needs one more connection while the transaction keeps its own.

`Stalled` is the state nobody gets out of: all connections are held by transactions that wait for
another one.

* `nesting_of_stalled` — a stall needs `cap` callers that nest, with rows that do not clash.
* `stalled_reachable` — callers that nest, with rows that do not clash, reach a stall when there are
  `cap` of them.
-/

namespace OfflinePay.Pool

variable {κ ι : Type}

/-- What a caller asks the pool for. -/
inductive Ask (κ : Type) where
  /-- A statement outside a transaction. -/
  | query
  /-- A transaction that locks `rows` and then runs `nested` statements outside of itself. -/
  | tx (rows : List κ) (nested : ℕ)
deriving DecidableEq

/-- Where a caller stands; `nested` statements outside of the open transaction are still to come. -/
inductive Place (κ : Type) where
  | idle
  | querying
  /-- The transaction has a connection, but not yet its rows. -/
  | begun (rows : List κ) (nested : ℕ)
  | holding (rows : List κ) (nested : ℕ)
  /-- A statement outside of the open transaction is running. -/
  | nesting (rows : List κ) (nested : ℕ)
deriving DecidableEq

/-- The connections a caller holds. -/
def Place.conns : Place κ → ℕ
  | idle => 0
  | querying | begun _ _ | holding _ _ => 1
  | nesting _ _ => 2

/-- The rows a caller has locked. -/
def Place.rows : Place κ → List κ
  | idle | querying | begun _ _ => []
  | holding rows _ | nesting rows _ => rows

/-- The next thing the open transaction does is to ask for another connection. -/
def Place.waiting : Place κ → Bool
  | holding _ (_ + 1) => true
  | _ => false

/-- The rows of the open transaction and the statements it still runs outside of itself, the running
one included. -/
def Place.open? : Place κ → Option (List κ × ℕ)
  | idle | querying => none
  | begun rows n | holding rows n => some (rows, n)
  | nesting rows n => some (rows, n + 1)

/-- A caller and what it has still to ask for. -/
structure Caller (κ : Type) where
  place : Place κ
  todo : List (Ask κ)

/-- Nobody has asked for anything yet. -/
def start (asks : ι → List (Ask κ)) (i : ι) : Caller κ := ⟨.idle, asks i⟩

variable [DecidableEq κ] [DecidableEq ι] [Fintype ι]

/-- The connections in use. -/
def used (s : ι → Caller κ) : ℕ := ∑ i, (s i).place.conns

/-- Somebody else holds one of the rows. -/
def Blocked (s : ι → Caller κ) (i : ι) (rows : List κ) : Prop :=
  ∃ j, j ≠ i ∧ ∃ k ∈ rows, k ∈ (s j).place.rows

instance (s : ι → Caller κ) (i : ι) (rows : List κ) : Decidable (Blocked s i rows) :=
  inferInstanceAs (Decidable (∃ j, j ≠ i ∧ ∃ k ∈ rows, k ∈ (s j).place.rows))

/-- Caller `i` goes on, or waits for a connection or a row. -/
def step (cap : ℕ) (s : ι → Caller κ) (i : ι) : ι → Caller κ :=
  match (s i).place, (s i).todo with
  | .idle, [] => s
  | .idle, .query :: rest => if used s < cap then Function.update s i ⟨.querying, rest⟩ else s
  | .idle, .tx rows n :: rest =>
    if used s < cap then Function.update s i ⟨.begun rows n, rest⟩ else s
  | .querying, rest => Function.update s i ⟨.idle, rest⟩
  | .begun rows n, rest =>
    if Blocked s i rows then s else Function.update s i ⟨.holding rows n, rest⟩
  | .holding _ 0, rest => Function.update s i ⟨.idle, rest⟩
  | .holding rows (n + 1), rest =>
    if used s < cap then Function.update s i ⟨.nesting rows n, rest⟩ else s
  | .nesting rows n, rest => Function.update s i ⟨.holding rows n, rest⟩

/-- Every connection is held by a transaction that waits for another one. -/
def Stalled (cap : ℕ) (s : ι → Caller κ) : Prop :=
  used s = cap ∧ ∀ i, (s i).place.conns ≠ 0 → (s i).place.waiting = true

instance (cap : ℕ) (s : ι → Caller κ) : Decidable (Stalled cap s) :=
  inferInstanceAs (Decidable (_ ∧ _))

/-! ## A stall needs callers that nest -/

/-- What a caller can become in one step. -/
inductive Moved (s : ι → Caller κ) (i : ι) : Caller κ → Caller κ → Prop where
  | query {rest : List (Ask κ)} : Moved s i ⟨.idle, .query :: rest⟩ ⟨.querying, rest⟩
  | answered {rest : List (Ask κ)} : Moved s i ⟨.querying, rest⟩ ⟨.idle, rest⟩
  | begin {rows : List κ} {n : ℕ} {rest : List (Ask κ)} :
      Moved s i ⟨.idle, .tx rows n :: rest⟩ ⟨.begun rows n, rest⟩
  | lock {rows : List κ} {n : ℕ} {rest : List (Ask κ)} (hfree : ¬Blocked s i rows) :
      Moved s i ⟨.begun rows n, rest⟩ ⟨.holding rows n, rest⟩
  | nest {rows : List κ} {n : ℕ} {rest : List (Ask κ)} :
      Moved s i ⟨.holding rows (n + 1), rest⟩ ⟨.nesting rows n, rest⟩
  | unnest {rows : List κ} {n : ℕ} {rest : List (Ask κ)} :
      Moved s i ⟨.nesting rows n, rest⟩ ⟨.holding rows n, rest⟩
  | commit {rows : List κ} {rest : List (Ask κ)} :
      Moved s i ⟨.holding rows 0, rest⟩ ⟨.idle, rest⟩

theorem step_moved (cap : ℕ) (s : ι → Caller κ) (i : ι) :
    step cap s i = s ∨ ∃ c, Moved s i (s i) c ∧ step cap s i = Function.update s i c := by
  rw [step]
  generalize s i = c
  match c with
  | ⟨.idle, []⟩ => exact .inl rfl
  | ⟨.idle, .query :: rest⟩ =>
    refine (em (used s < cap)).symm.imp (if_neg ·) fun hfree => ⟨_, .query, if_pos hfree⟩
  | ⟨.idle, .tx rows n :: rest⟩ =>
    refine (em (used s < cap)).symm.imp (if_neg ·) fun hfree => ⟨_, .begin, if_pos hfree⟩
  | ⟨.querying, rest⟩ => exact .inr ⟨_, .answered, rfl⟩
  | ⟨.begun rows n, rest⟩ =>
    refine (em (Blocked s i rows)).imp (if_pos ·) fun hfree => ⟨_, .lock hfree, if_neg hfree⟩
  | ⟨.holding rows 0, rest⟩ => exact .inr ⟨_, .commit, rfl⟩
  | ⟨.holding rows (n + 1), rest⟩ =>
    refine (em (used s < cap)).symm.imp (if_neg ·) fun hfree => ⟨_, .nest, if_pos hfree⟩
  | ⟨.nesting rows n, rest⟩ => exact .inr ⟨_, .unnest, rfl⟩

/-- A caller is in the middle of what it asks for and holds no row that another one holds. -/
structure Fits (asks : ι → List (Ask κ)) (s : ι → Caller κ) : Prop where
  todo : ∀ i, (s i).todo ⊆ asks i
  part : ∀ i rows n, (s i).place.open? = some (rows, n) → ∃ m, n ≤ m ∧ .tx rows m ∈ asks i
  apart : ∀ i j, i ≠ j → (s i).place.rows.Disjoint (s j).place.rows

omit [DecidableEq κ] [DecidableEq ι] [Fintype ι] in
theorem Fits.start (asks : ι → List (Ask κ)) : Fits asks (start asks) where
  todo _ := List.Subset.refl _
  part _ _ _ h := nomatch h
  apart _ _ _ := List.disjoint_nil_left _

omit [DecidableEq κ] [DecidableEq ι] [Fintype ι] in
/-- What the caller that moves asks for. -/
theorem Moved.part {s : ι → Caller κ} {i : ι} {c c' : Caller κ} {asks : List (Ask κ)}
    (hmoved : Moved s i c c') (htodo : c.todo ⊆ asks)
    (hpart : ∀ rows n, c.place.open? = some (rows, n) → ∃ m, n ≤ m ∧ .tx rows m ∈ asks) :
    c'.todo ⊆ asks ∧
      ∀ rows n, c'.place.open? = some (rows, n) → ∃ m, n ≤ m ∧ .tx rows m ∈ asks := by
  cases hmoved with
  | query => exact ⟨fun p hp => htodo (List.mem_cons_of_mem _ hp), fun _ _ h => nomatch h⟩
  | answered | commit => exact ⟨htodo, fun _ _ h => nomatch h⟩
  | begin =>
    refine ⟨fun p hp => htodo (List.mem_cons_of_mem _ hp), ?_⟩
    rintro _ _ ⟨⟩
    exact ⟨_, le_refl _, htodo List.mem_cons_self⟩
  | lock | nest => exact ⟨htodo, hpart⟩
  | @unnest rows n =>
    refine ⟨htodo, ?_⟩
    rintro _ _ ⟨⟩
    obtain ⟨m, hm, hmem⟩ := hpart rows (n + 1) rfl
    exact ⟨m, Nat.le_of_succ_le hm, hmem⟩

omit [DecidableEq κ] [DecidableEq ι] [Fintype ι] in
/-- The rows of the caller that moves: those it had, or rows nobody else holds. -/
theorem Moved.rows {s : ι → Caller κ} {i : ι} {c c' : Caller κ} (hmoved : Moved s i c c') :
    c'.place.rows = [] ∨ c'.place.rows = c.place.rows ∨ ¬Blocked s i c'.place.rows := by
  cases hmoved with
  | query | answered | begin | commit => exact .inl rfl
  | lock hfree => exact .inr (.inr hfree)
  | nest | unnest => exact .inr (.inl rfl)

theorem Fits.step {asks : ι → List (Ask κ)} {s : ι → Caller κ} (hs : Fits asks s) (cap : ℕ)
    (i : ι) : Fits asks (step cap s i) := by
  obtain heq | ⟨c, hmoved, heq⟩ := step_moved cap s i
  · rwa [heq]
  rw [heq]
  have hasks := hmoved.part (hs.todo i) (hs.part i)
  have hapart : ∀ j, j ≠ i → c.place.rows.Disjoint (s j).place.rows := by
    intro j hj
    obtain hrows | hrows | hfree := hmoved.rows
    · simp [hrows]
    · exact hrows ▸ hs.apart i j hj.symm
    · exact fun k hk hk' => hfree ⟨j, hj, k, hk, hk'⟩
  constructor
  · intro j
    by_cases hj : j = i
    · subst hj
      simpa using hasks.1
    · simpa [hj] using hs.todo j
  · intro j
    by_cases hj : j = i
    · subst hj
      simpa using hasks.2
    · simpa [hj] using hs.part j
  · intro j k hjk
    by_cases hj : j = i
    · subst hj
      simpa [hjk.symm] using hapart k hjk.symm
    · by_cases hk : k = i
      · subst hk
        simpa [hj] using (hapart j hj).symm
      · simpa [hj, hk] using hs.apart j k hjk

omit [DecidableEq κ] [DecidableEq ι] [Fintype ι] in
theorem Place.open_of_waiting {p : Place κ} (h : p.waiting = true) :
    p.conns = 1 ∧ ∃ n, p.open? = some (p.rows, n + 1) := by
  match p, h with
  | holding rows (n + 1), _ => exact ⟨rfl, n, rfl⟩

/-- A stall needs `cap` callers that nest, with rows that do not clash. -/
theorem nesting_of_stalled {cap : ℕ} {asks : ι → List (Ask κ)} {ls : List ι}
    (hstalled : Stalled cap (Run.exec (step cap) (start asks) ls)) :
    ∃ (S : Finset ι) (rows : ι → List κ), S.card = cap ∧
      (∀ i ∈ S, ∃ n, .tx (rows i) (n + 1) ∈ asks i) ∧
      ∀ i ∈ S, ∀ j ∈ S, i ≠ j → (rows i).Disjoint (rows j) := by
  have hfits : Fits asks (Run.exec (step cap) (start asks) ls) :=
    Run.exec_invariant (P := fun _ _ => True) (fun s i hs _ => hs.step cap i) (Fits.start asks)
      (Run.steps_true _ _)
  generalize Run.exec (step cap) (start asks) ls = s at hstalled hfits
  obtain ⟨hused, hall⟩ := hstalled
  refine ⟨Finset.univ.filter fun i => (s i).place.waiting = true, fun i => (s i).place.rows, ?_, ?_,
    fun i _ j _ hij => hfits.apart i j hij⟩
  · -- every connection belongs to a waiting caller, which has one each
    rw [← hused, used, Finset.card_filter]
    refine Finset.sum_congr rfl fun i _ => ?_
    by_cases hw : (s i).place.waiting = true
    · simp [hw, (Place.open_of_waiting hw).1]
    · have hconns : (s i).place.conns = 0 := by_contra fun h => hw (hall i h)
      simp [hw, hconns]
  · intro i hi
    obtain ⟨-, n, hopen⟩ := Place.open_of_waiting (Finset.mem_filter.mp hi).2
    obtain ⟨m, hm, hmem⟩ := hfits.part i _ _ hopen
    obtain ⟨m, rfl⟩ : ∃ m', m = m' + 1 := ⟨m - 1, by omega⟩
    exact ⟨m, hmem⟩

/-! ## Callers that nest reach a stall -/

/-- No transaction among these nests. -/
def Flat (asks : List (Ask κ)) : Prop := ∀ p ∈ asks, ∀ rows n, p = .tx rows n → n = 0

omit [DecidableEq κ] in
theorem used_update {s : ι → Caller κ} {i : ι} (hi : (s i).place.conns = 0) (c : Caller κ) :
    used (Function.update s i c) = used s + c.place.conns := by
  have hsum : ∀ s : ι → Caller κ, used s
      = ∑ j ∈ Finset.univ.erase i, (s j).place.conns + (s i).place.conns :=
    fun s => (Finset.sum_erase_add _ _ (Finset.mem_univ i)).symm
  have hothers : ∑ j ∈ Finset.univ.erase i, (Function.update s i c j).place.conns
      = ∑ j ∈ Finset.univ.erase i, (s j).place.conns :=
    Finset.sum_congr rfl fun j hj => by rw [Function.update_of_ne (Finset.ne_of_mem_erase hj)]
  rw [hsum, hsum s, hothers, hi, Function.update_self, Nat.add_zero]

omit [DecidableEq κ] [Fintype ι] in
theorem blocked_update {s : ι → Caller κ} {i : ι} {c : Caller κ} {rows : List κ} :
    Blocked (Function.update s i c) i rows ↔ Blocked s i rows := by
  refine exists_congr fun j => and_congr_right fun hj => ?_
  rw [Function.update_of_ne hj]

/-- A caller alone with a free connection begins its transaction and gets its rows. -/
theorem exec_begin {cap : ℕ} {s : ι → Caller κ} {i : ι} {rows : List κ} {n : ℕ}
    {rest : List (Ask κ)} (hi : (s i).place.conns = 0) (hfree : used s < cap)
    (hrows : ¬Blocked s i rows) :
    Run.exec (step cap) (Function.update s i ⟨.idle, .tx rows n :: rest⟩) [i, i]
      = Function.update s i ⟨.holding rows n, rest⟩ := by
  have hused : used (Function.update s i ⟨.idle, .tx rows n :: rest⟩) < cap := by
    rwa [used_update hi]
  simp [step, hused, blocked_update, hrows]

/-- It runs flat asks to their end. -/
theorem exec_flat {cap : ℕ} {s : ι → Caller κ} {i : ι} (hi : (s i).place.conns = 0)
    (hfree : used s < cap) {asks : List (Ask κ)} (hflat : Flat asks)
    (hrows : ∀ rows n, .tx rows n ∈ asks → ¬Blocked s i rows) (rest : List (Ask κ)) :
    ∃ ls, Run.exec (step cap) (Function.update s i ⟨.idle, asks ++ rest⟩) ls
      = Function.update s i ⟨.idle, rest⟩ := by
  induction asks with
  | nil => exact ⟨[], rfl⟩
  | cons p asks ih =>
    obtain ⟨ls, hls⟩ := ih (fun q hq => hflat q (List.mem_cons_of_mem _ hq))
      (fun rows n hmem => hrows rows n (List.mem_cons_of_mem _ hmem))
    have hone : ∃ ms, Run.exec (step cap) (Function.update s i ⟨.idle, p :: (asks ++ rest)⟩) ms
        = Function.update s i ⟨.idle, asks ++ rest⟩ := by
      cases p with
      | query =>
        have hused : used (Function.update s i ⟨.idle, .query :: (asks ++ rest)⟩) < cap := by
          rwa [used_update hi]
        exact ⟨[i, i], by simp [step, hused]⟩
      | tx rows n =>
        obtain rfl : n = 0 := hflat _ List.mem_cons_self rows n rfl
        refine ⟨[i, i] ++ [i], ?_⟩
        rw [Run.exec_append, exec_begin hi hfree (hrows rows 0 List.mem_cons_self)]
        simp [step]
    obtain ⟨ms, hms⟩ := hone
    refine ⟨ms ++ ls, ?_⟩
    rw [Run.exec_append, List.cons_append, hms, hls]

/-- Callers in `parked` wait in their transactions, the others have not started. -/
def parked (asks : ι → List (Ask κ)) (rows : ι → List κ) (nested : ι → ℕ)
    (rest : ι → List (Ask κ)) (done : List ι) (i : ι) : Caller κ :=
  if i ∈ done then ⟨.holding (rows i) (nested i + 1), rest i⟩ else ⟨.idle, asks i⟩

omit [DecidableEq κ] in
theorem used_parked (asks : ι → List (Ask κ)) (rows : ι → List κ) (nested : ι → ℕ)
    (rest : ι → List (Ask κ)) {done : List ι} (hnodup : done.Nodup) :
    used (parked asks rows nested rest done) = done.length := by
  have hconns : ∀ i, (parked asks rows nested rest done i).place.conns
      = if i ∈ done.toFinset then 1 else 0 := by
    intro i
    rw [parked]
    split <;> simp_all [Place.conns]
  rw [used, Finset.sum_congr rfl fun i _ => hconns i, ← Finset.card_filter, Finset.filter_mem_eq_inter,
    Finset.univ_inter, List.toFinset_card_of_nodup hnodup]

/-- Callers that nest reach a stall when there are `cap` of them: one after the other runs up to the
point where its transaction needs another connection. Whoever comes later must not need a row that
an earlier one holds. -/
theorem stalled_reachable {cap : ℕ} {asks : ι → List (Ask κ)} {order : List ι}
    (hnodup : order.Nodup) (hlen : order.length = cap) {before rest : ι → List (Ask κ)}
    {rows : ι → List κ} {nested : ι → ℕ}
    (hasks : ∀ i ∈ order, asks i = before i ++ .tx (rows i) (nested i + 1) :: rest i)
    (hflat : ∀ i ∈ order, Flat (before i))
    (hapart : order.Pairwise fun j i =>
      ∀ rows' n, .tx rows' n ∈ before i ++ [.tx (rows i) 0] → rows'.Disjoint (rows j)) :
    ∃ ls, Stalled cap (Run.exec (step cap) (start asks) ls) := by
  have hreach : ∀ done later, order = done ++ later → ∃ ls,
      Run.exec (step cap) (start asks) ls = parked asks rows nested rest done := by
    intro done
    induction done using List.reverseRecOn with
    | nil => exact fun _ _ => ⟨[], funext fun i => by simp [start, parked]⟩
    | append_singleton done i ih =>
      intro later horder
      obtain ⟨ls, hls⟩ := ih (i :: later) (by simp [horder])
      have hmem : i ∈ order := by simp [horder]
      have hdone : i ∉ done ∧ done.Nodup := by
        rw [horder, List.append_assoc, List.nodup_append] at hnodup
        exact ⟨fun h => hnodup.2.2 i h i (by simp) rfl, hnodup.1⟩
      set s := parked asks rows nested rest done with hs
      have hi : s i = ⟨.idle, asks i⟩ := if_neg hdone.1
      have hconns : (s i).place.conns = 0 := by rw [hi]; rfl
      have hfree : used s < cap := by
        rw [used_parked _ _ _ _ hdone.2, ← hlen, horder]
        simp
      -- the rows it needs are not those of the callers that are parked already
      have hrows : ∀ rows' n, .tx rows' n ∈ before i ++ [.tx (rows i) 0] → ¬Blocked s i rows' := by
        rintro rows' n hn ⟨j, -, k, hk, hk'⟩
        have hj : j ∈ done := by
          by_contra hj
          simp [hs, parked, hj, Place.rows] at hk'
        rw [horder, List.append_assoc, List.pairwise_append] at hapart
        refine hapart.2.2 j hj i (by simp) rows' n hn hk ?_
        simpa [hs, parked, hj, Place.rows] using hk'
      obtain ⟨ms, hms⟩ := exec_flat hconns hfree (hflat i hmem)
        (fun rows' n hn => hrows rows' n (List.mem_append_left _ hn))
        (.tx (rows i) (nested i + 1) :: rest i)
      have hpark : Function.update s i ⟨.holding (rows i) (nested i + 1), rest i⟩
          = parked asks rows nested rest (done ++ [i]) := by
        funext j
        by_cases hj : j = i
        · subst hj
          simp [parked]
        · simp [hs, parked, hj]
      refine ⟨ls ++ (ms ++ [i, i]), ?_⟩
      rw [Run.exec_append, hls, Run.exec_append]
      conv_lhs => rw [← Function.update_eq_self i s, hi, hasks i hmem, hms]
      rw [exec_begin hconns hfree (hrows (rows i) 0 (by simp)), hpark]
  obtain ⟨ls, hls⟩ := hreach order [] (by simp)
  refine ⟨ls, ?_⟩
  rw [hls]
  refine ⟨(used_parked _ _ _ _ hnodup).trans hlen, fun i hi => ?_⟩
  rw [parked] at hi ⊢
  split <;> simp_all [Place.conns, Place.waiting]

end OfflinePay.Pool
