import Mathlib.Tactic

/-!
# Transactions that commit or roll back

A transaction body is a state transformer that may fail. `withTx` runs one against a state: if it
succeeds its final state is kept, if it fails (or is made to fail from outside) the state is the one
it started from. The `_ok` lemmas turn "this body succeeded" into what each of its statements did,
so that a caller peels a body apart statement by statement and never unfolds it.

The state type and the error type are parameters.
-/

namespace OfflinePay

/-- A transaction body over states `σ` that fails with an error of type `ε`. -/
abbrev Tx (σ ε α : Type) : Type := StateT σ (Except ε) α

namespace Tx

variable {σ ε α β : Type}

/-- Continue only if `c` holds. -/
def check (c : Prop) [Decidable c] (e : ε) : Tx σ ε Unit :=
  fun s => if c then .ok ((), s) else .error e

/-- Read a value that may be missing. -/
def select (f : σ → Option α) (e : ε) : Tx σ ε α :=
  fun s => match f s with
    | some a => .ok (a, s)
    | none => .error e

/-- Read a value that is always there. -/
def view (f : σ → α) : Tx σ ε α := fun s => .ok (f s, s)

/-- Write. -/
def write (f : σ → σ) : Tx σ ε Unit := fun s => .ok ((), f s)

/-- A computation that may fail and does not look at the state. -/
def attempt (r : Except ε α) : Tx σ ε α := fun s => r.map fun a => (a, s)

/-- Give every failure of a body a longer text. -/
def mapError (g : ε → ε) (x : Tx σ ε α) : Tx σ ε α := fun s => (x s).mapError g

theorem bind_ok {x : Tx σ ε α} {f : α → Tx σ ε β} {s s'' : σ} {b : β} :
    (x >>= f) s = .ok (b, s'') ↔ ∃ a s', x s = .ok (a, s') ∧ f a s' = .ok (b, s'') := by
  constructor
  · intro h
    cases hx : x s with
    | error e =>
      rw [show (x >>= f) s = (x s >>= fun p => f p.1 p.2) from rfl, hx] at h
      exact absurd h (by simp [bind, Except.bind])
    | ok p =>
      rw [show (x >>= f) s = (x s >>= fun p => f p.1 p.2) from rfl, hx] at h
      exact ⟨p.1, p.2, rfl, h⟩
  · rintro ⟨a, s', hx, hf⟩
    rw [show (x >>= f) s = (x s >>= fun p => f p.1 p.2) from rfl, hx]
    exact hf

/-- A body goes on from where its first part ended. -/
theorem bind_of_ok {x : Tx σ ε α} {f : α → Tx σ ε β} {s s' : σ} {a : α} (h : x s = .ok (a, s')) :
    (x >>= f) s = f a s' := by
  rw [show (x >>= f) s = (x s >>= fun p => f p.1 p.2) from rfl, h]
  rfl

theorem pure_ok {a b : α} {s s' : σ} :
    (pure a : Tx σ ε α) s = .ok (b, s') ↔ a = b ∧ s = s' := by
  rw [show (pure a : Tx σ ε α) s = .ok (a, s) from rfl]
  simp only [Except.ok.injEq, Prod.mk.injEq]

theorem check_ok {c : Prop} [Decidable c] {e : ε} {s s' : σ} {u : Unit} :
    check c e s = .ok (u, s') ↔ c ∧ s = s' := by
  unfold check
  by_cases h : c <;> simp [h]

theorem select_ok {f : σ → Option α} {e : ε} {s s' : σ} {a : α} :
    select f e s = .ok (a, s') ↔ f s = some a ∧ s = s' := by
  unfold select
  cases f s <;> simp

theorem view_ok {f : σ → α} {s s' : σ} {a : α} :
    (view f : Tx σ ε α) s = .ok (a, s') ↔ f s = a ∧ s = s' := by
  simp [view]

theorem write_ok {f : σ → σ} {s s' : σ} {u : Unit} :
    (write f : Tx σ ε Unit) s = .ok (u, s') ↔ s' = f s := by
  simp [write, eq_comm]

theorem attempt_ok {r : Except ε α} {s s' : σ} {a : α} :
    attempt r s = .ok (a, s') ↔ r = .ok a ∧ s = s' := by
  unfold attempt
  cases r <;> simp [Except.map]

theorem mapError_ok {g : ε → ε} {x : Tx σ ε α} {s s' : σ} {a : α} :
    mapError g x s = .ok (a, s') ↔ x s = .ok (a, s') := by
  unfold mapError
  cases x s <;> simp [Except.mapError]

/-! ## How a body fails -/

theorem bind_error {x : Tx σ ε α} {f : α → Tx σ ε β} {s : σ} {e : ε} :
    (x >>= f) s = .error e ↔ x s = .error e ∨ ∃ a s', x s = .ok (a, s') ∧ f a s' = .error e := by
  rw [show (x >>= f) s = (x s >>= fun p => f p.1 p.2) from rfl]
  cases hx : x s with
  | error e' => simp [bind, Except.bind]
  | ok p => simp [bind, Except.bind, Prod.ext_iff]

theorem check_error {c : Prop} [Decidable c] {e e' : ε} {s : σ} :
    (check c e : Tx σ ε Unit) s = .error e' ↔ ¬c ∧ e = e' := by
  unfold check
  by_cases h : c <;> simp [h]

theorem select_error {f : σ → Option α} {e e' : ε} {s : σ} :
    (select f e : Tx σ ε α) s = .error e' ↔ f s = none ∧ e = e' := by
  unfold select
  cases f s <;> simp

theorem mapError_error {g : ε → ε} {x : Tx σ ε α} {s : σ} {e : ε} :
    mapError g x s = .error e ↔ ∃ e', x s = .error e' ∧ g e' = e := by
  unfold mapError
  cases x s <;> simp [Except.mapError]

/-- Reading, writing and returning never fail. -/
theorem view_ne_error {f : σ → α} {s : σ} {e : ε} : (view f : Tx σ ε α) s ≠ .error e := by
  simp [view]

theorem write_ne_error {f : σ → σ} {s : σ} {e : ε} : (write f : Tx σ ε Unit) s ≠ .error e := by
  simp [write]

theorem pure_ne_error {a : α} {s : σ} {e : ε} : (pure a : Tx σ ε α) s ≠ .error e := by
  rw [show (pure a : Tx σ ε α) s = .ok (a, s) from rfl]
  simp

/-! ## What a whole body keeps

`Keeps R x` says that a body that succeeds leaves a state related to the one it started from. For a
preorder `R` it is enough to look at the writes. -/

/-- Every successful run of the body relates its first and its last state. -/
def Keeps (R : σ → σ → Prop) (x : Tx σ ε α) : Prop :=
  ∀ s a s', x s = .ok (a, s') → R s s'

theorem Keeps.mono {R R' : σ → σ → Prop} (hR : ∀ s s', R s s' → R' s s') {x : Tx σ ε α}
    (h : Keeps R x) : Keeps R' x :=
  fun s a s' hx => hR s s' (h s a s' hx)

section Keeps

variable {R : σ → σ → Prop} [IsPreorder σ R]

theorem keeps_pure (a : α) : Keeps R (pure a : Tx σ ε α) := by
  intro s b s' h
  rw [← (pure_ok.mp h).2]
  exact Std.Refl.refl s

theorem keeps_check (c : Prop) [Decidable c] (e : ε) : Keeps R (check c e : Tx σ ε Unit) := by
  intro s b s' h
  rw [← (check_ok.mp h).2]
  exact Std.Refl.refl s

theorem keeps_view (f : σ → α) : Keeps R (view f : Tx σ ε α) := by
  intro s b s' h
  rw [← (view_ok.mp h).2]
  exact Std.Refl.refl s

theorem keeps_select (f : σ → Option α) (e : ε) : Keeps R (select f e : Tx σ ε α) := by
  intro s b s' h
  rw [← (select_ok.mp h).2]
  exact Std.Refl.refl s

theorem keeps_attempt (r : Except ε α) : Keeps R (attempt r : Tx σ ε α) := by
  intro s a s' h
  rw [← (attempt_ok.mp h).2]
  exact Std.Refl.refl s

omit [IsPreorder σ R] in
theorem keeps_mapError {g : ε → ε} {x : Tx σ ε α} (hx : Keeps R x) : Keeps R (mapError g x) :=
  fun s a s' h => hx s a s' (mapError_ok.mp h)

omit [IsPreorder σ R] in
theorem keeps_write {f : σ → σ} (h : ∀ s, R s (f s)) : Keeps R (write f : Tx σ ε Unit) := by
  intro s b s' hw
  rw [write_ok.mp hw]
  exact h s

theorem keeps_bind {x : Tx σ ε α} {f : α → Tx σ ε β} (hx : Keeps R x) (hf : ∀ a, Keeps R (f a)) :
    Keeps R (x >>= f) := by
  intro s b s'' h
  obtain ⟨a, s', h₁, h₂⟩ := bind_ok.mp h
  exact IsTrans.trans _ _ _ (hx s a s' h₁) (hf a s' b s'' h₂)

/-- What each round of a loop keeps, the loop keeps. -/
theorem keeps_forM {f : α → Tx σ ε PUnit} (hf : ∀ a, Keeps R (f a)) (as : List α) :
    Keeps R (as.forM f) := by
  induction as with
  | nil => exact keeps_pure _
  | cons a as ih => exact keeps_bind (hf a) fun _ => ih

end Keeps

/-! ## The same body on two related states

`Follows R x` says that wherever the body succeeds it also succeeds, with the same result, on every
related state, and leaves related states. -/

/-- A success of the body on one state is a success on every related state. -/
def Follows (R : σ → σ → Prop) (x : Tx σ ε α) : Prop :=
  ∀ s t a s', R s t → x s = .ok (a, s') → ∃ t', x t = .ok (a, t') ∧ R s' t'

section Follows

variable {R : σ → σ → Prop}

theorem follows_pure (a : α) : Follows R (pure a : Tx σ ε α) := by
  intro s t b s' hR h
  obtain ⟨rfl, rfl⟩ := pure_ok.mp h
  exact ⟨t, rfl, hR⟩

theorem follows_check (c : Prop) [Decidable c] (e : ε) : Follows R (check c e : Tx σ ε Unit) := by
  intro s t u s' hR h
  obtain ⟨hc, rfl⟩ := check_ok.mp h
  exact ⟨t, check_ok.mpr ⟨hc, rfl⟩, hR⟩

theorem follows_view {f : σ → α} (hf : ∀ s t, R s t → f t = f s) :
    Follows R (view f : Tx σ ε α) := by
  intro s t a s' hR h
  obtain ⟨rfl, rfl⟩ := view_ok.mp h
  exact ⟨t, view_ok.mpr ⟨hf s t hR, rfl⟩, hR⟩

theorem follows_select {f : σ → Option α} {e : ε} (hf : ∀ s t, R s t → f t = f s) :
    Follows R (select f e : Tx σ ε α) := by
  intro s t a s' hR h
  obtain ⟨ha, rfl⟩ := select_ok.mp h
  exact ⟨t, select_ok.mpr ⟨(hf s t hR).trans ha, rfl⟩, hR⟩

theorem follows_mapError {g : ε → ε} {x : Tx σ ε α} (hx : Follows R x) :
    Follows R (mapError g x) := by
  intro s t a s' hR h
  obtain ⟨t', ht, hR'⟩ := hx s t a s' hR (mapError_ok.mp h)
  exact ⟨t', mapError_ok.mpr ht, hR'⟩

theorem follows_write {f : σ → σ} (hf : ∀ s t, R s t → R (f s) (f t)) :
    Follows R (write f : Tx σ ε Unit) := by
  intro s t u s' hR h
  rw [write_ok.mp h]
  exact ⟨f t, rfl, hf s t hR⟩

theorem follows_bind {x : Tx σ ε α} {f : α → Tx σ ε β} (hx : Follows R x)
    (hf : ∀ a, Follows R (f a)) : Follows R (x >>= f) := by
  intro s t b s'' hR h
  obtain ⟨a, s', h₁, h₂⟩ := bind_ok.mp h
  obtain ⟨t', ht₁, hR'⟩ := hx s t a s' hR h₁
  obtain ⟨t'', ht₂, hR''⟩ := hf a s' t' b s'' hR' h₂
  exact ⟨t'', bind_ok.mpr ⟨a, t', ht₁, ht₂⟩, hR''⟩

end Follows

/-! ## Running a body as a transaction -/

/-- Run a body and keep its state if it commits; `fault` is a failure from outside the body (a lost
connection, a refused commit), which also leaves the state as it was. -/
def withTx (fault : Option ε) (x : Tx σ ε α) (s : σ) : Except ε α × σ :=
  match fault, x s with
  | some e, _ => (.error e, s)
  | none, .error e => (.error e, s)
  | none, .ok (a, s') => (.ok a, s')

/-- A transaction that commits ran its body to the end, with no fault. -/
theorem withTx_ok {fault : Option ε} {x : Tx σ ε α} {s s' : σ} {a : α} :
    withTx fault x s = (.ok a, s') ↔ fault = none ∧ x s = .ok (a, s') := by
  unfold withTx
  cases fault with
  | some e => simp
  | none => cases x s <;> simp [Prod.ext_iff]

/-- A transaction that fails leaves the state alone. -/
theorem withTx_error {fault : Option ε} {x : Tx σ ε α} {s s' : σ} {e : ε}
    (h : withTx fault x s = (.error e, s')) : s' = s := by
  unfold withTx at h
  cases fault with
  | some e' => exact (Prod.ext_iff.mp h).2.symm
  | none =>
    cases hx : x s with
    | error e' =>
      rw [hx] at h
      exact (Prod.ext_iff.mp h).2.symm
    | ok p =>
      rw [hx] at h
      exact absurd (Prod.ext_iff.mp h).1 (by simp)

/-- The error of a transaction is its fault or the error of its body. -/
theorem error_of_withTx {fault : Option ε} {x : Tx σ ε α} {s s' : σ} {e : ε}
    (h : withTx fault x s = (.error e, s')) : fault = some e ∨ fault = none ∧ x s = .error e := by
  unfold withTx at h
  cases fault with
  | some e' => exact .inl (congrArg some (Except.error.inj (Prod.ext_iff.mp h).1))
  | none =>
    cases hx : x s with
    | error e' =>
      rw [hx] at h
      exact .inr ⟨rfl, congrArg Except.error (Except.error.inj (Prod.ext_iff.mp h).1)⟩
    | ok p =>
      rw [hx] at h
      exact absurd (Prod.ext_iff.mp h).1 (by simp)

/-- A transaction leaves the state alone, or there was no fault and its body ran to the end. -/
theorem withTx_state (fault : Option ε) (x : Tx σ ε α) (s : σ) :
    (withTx fault x s).2 = s ∨ fault = none ∧ ∃ a, x s = .ok (a, (withTx fault x s).2) := by
  generalize hr : withTx fault x s = r
  obtain ⟨res, s'⟩ := r
  cases res with
  | error e => exact .inl (withTx_error hr)
  | ok a =>
    obtain ⟨hfault, hok⟩ := withTx_ok.mp hr
    exact .inr ⟨hfault, a, hok⟩

/-- What a body keeps, its transaction keeps, whether it commits or not. -/
theorem keeps_withTx {R : σ → σ → Prop} [IsPreorder σ R] {x : Tx σ ε α} (hx : Keeps R x)
    (fault : Option ε) (s : σ) : R s (withTx fault x s).2 := by
  obtain hsame | ⟨-, a, hok⟩ := withTx_state fault x s
  · rw [hsame]
    exact Std.Refl.refl s
  · exact hx s a _ hok

/-- A transaction that commits on one state commits on every related state. -/
theorem follows_withTx {R : σ → σ → Prop} {x : Tx σ ε α} (hx : Follows R x) {fault : Option ε}
    {s s' t : σ} {a : α} (hR : R s t) (h : withTx fault x s = (.ok a, s')) :
    ∃ t', withTx fault x t = (.ok a, t') ∧ R s' t' := by
  obtain ⟨hfault, hok⟩ := withTx_ok.mp h
  obtain ⟨t', ht, hR'⟩ := hx s t a s' hR hok
  exact ⟨t', withTx_ok.mpr ⟨hfault, ht⟩, hR'⟩

end Tx

end OfflinePay
