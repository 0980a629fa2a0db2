import Mathlib.Tactic

/-!
# Runs of a labelled step function

A system is a function `step : σ → ℓ → σ`; all of its nondeterminism (which actor moves, what the
clock says, which call fails) is in the label. A run is a list of labels. `exec` is the state a run
ends in and `Steps` says that every step of a run satisfies a condition in the state it is taken
from. `exec_invariant` is the one induction over runs: what every step keeps, every run keeps.
`Always` is about every state a run goes through, and `trace` is what the steps of a run answer.
-/

namespace OfflinePay.Run

variable {σ ℓ : Type*} (step : σ → ℓ → σ)

/-- The state a run ends in. -/
def exec (s : σ) (ls : List ℓ) : σ := ls.foldl step s

/-- Every step of the run satisfies `P` in the state it is taken from. -/
def Steps (P : σ → ℓ → Prop) : σ → List ℓ → Prop
  | _, [] => True
  | s, l :: ls => P s l ∧ Steps P (step s l) ls

instance Steps.decidable (P : σ → ℓ → Prop) [∀ s l, Decidable (P s l)] :
    ∀ s ls, Decidable (Steps step P s ls)
  | _, [] => inferInstanceAs (Decidable True)
  | s, l :: ls =>
    have := Steps.decidable P (step s l) ls
    inferInstanceAs (Decidable (P s l ∧ Steps step P (step s l) ls))

variable {step}

@[simp]
theorem exec_nil (s : σ) : exec step s [] = s := rfl

@[simp]
theorem exec_cons (s : σ) (l : ℓ) (ls : List ℓ) : exec step s (l :: ls) = exec step (step s l) ls :=
  rfl

theorem exec_append (s : σ) (ls ms : List ℓ) :
    exec step s (ls ++ ms) = exec step (exec step s ls) ms :=
  List.foldl_append

theorem steps_append {P : σ → ℓ → Prop} {s : σ} {ls ms : List ℓ} :
    Steps step P s (ls ++ ms) ↔ Steps step P s ls ∧ Steps step P (exec step s ls) ms := by
  induction ls generalizing s with
  | nil => simp [Steps]
  | cons l ls ih => simp [Steps, ih, and_assoc]

theorem steps_mono {P Q : σ → ℓ → Prop} (hPQ : ∀ s l, P s l → Q s l) {s : σ} {ls : List ℓ}
    (h : Steps step P s ls) : Steps step Q s ls := by
  induction ls generalizing s with
  | nil => trivial
  | cons l ls ih => exact ⟨hPQ s l h.1, ih h.2⟩

theorem steps_and {P Q : σ → ℓ → Prop} {s : σ} {ls : List ℓ} (hP : Steps step P s ls)
    (hQ : Steps step Q s ls) : Steps step (fun s l => P s l ∧ Q s l) s ls := by
  induction ls generalizing s with
  | nil => trivial
  | cons l ls ih => exact ⟨⟨hP.1, hQ.1⟩, ih hP.2 hQ.2⟩

theorem steps_true (s : σ) (ls : List ℓ) : Steps step (fun _ _ => True) s ls := by
  induction ls generalizing s with
  | nil => trivial
  | cons l ls ih => exact ⟨trivial, ih _⟩

/-- What every allowed step keeps, every allowed run keeps. -/
theorem exec_invariant {I : σ → Prop} {P : σ → ℓ → Prop}
    (hstep : ∀ s l, I s → P s l → I (step s l)) {s : σ} {ls : List ℓ}
    (hs : I s) (hP : Steps step P s ls) : I (exec step s ls) := by
  induction ls generalizing s with
  | nil => exact hs
  | cons l ls ih => exact ih (hstep s l hs hP.1) hP.2

/-- What an invariant implies for a step, it implies for all steps of a run. -/
theorem steps_of_invariant {I : σ → Prop} {P Q : σ → ℓ → Prop}
    (hstep : ∀ s l, I s → P s l → I (step s l) ∧ Q s l) {s : σ} {ls : List ℓ}
    (hs : I s) (hP : Steps step P s ls) : Steps step Q s ls := by
  induction ls generalizing s with
  | nil => trivial
  | cons l ls ih =>
    obtain ⟨hI, hQ⟩ := hstep s l hs hP.1
    exact ⟨hQ, ih hI hP.2⟩

/-- If the step that breaks a condition leaves a mark and no step removes it, a run with such a step
ends with the mark. -/
theorem exec_of_not_steps {I J : σ → Prop} {P : σ → ℓ → Prop}
    (hstep : ∀ s l, I s → I (step s l) ∧ (J s → J (step s l)) ∧ (¬P s l → J (step s l)))
    {s : σ} {ls : List ℓ} (hs : I s) (hP : ¬Steps step P s ls) : J (exec step s ls) := by
  induction ls generalizing s with
  | nil => exact absurd trivial hP
  | cons l ls ih =>
    obtain ⟨hI, -, hmark⟩ := hstep s l hs
    by_cases hl : P s l
    · exact ih hI fun hrest => hP ⟨hl, hrest⟩
    · -- from here on the mark stays
      refine (exec_invariant (I := fun s => I s ∧ J s) (fun s l h _ => ?_) ⟨hI, hmark hl⟩
        (steps_true _ ls)).2
      exact ⟨(hstep s l h.1).1, (hstep s l h.1).2.1 h.2⟩

/-- What does not hold at first and holds in the end came to hold in some step, and has held since.
-/
theorem exists_last_step {J : σ → Prop} {s : σ} {ls : List ℓ} (hs : ¬J s)
    (h : J (exec step s ls)) :
    ∃ ms l ns, ls = ms ++ l :: ns ∧ ¬J (exec step s ms) ∧ J (step (exec step s ms) l) ∧
      Steps step (fun s l => J s ∧ J (step s l)) (step (exec step s ms) l) ns := by
  induction ls using List.reverseRecOn with
  | nil => exact absurd h hs
  | append_singleton ls l ih =>
    rw [exec_append] at h
    by_cases hbefore : J (exec step s ls)
    · obtain ⟨ms, m, ns, rfl, hms, hm, hns⟩ := ih hbefore
      rw [exec_append] at hbefore h
      exact ⟨ms, m, ns ++ [l], by simp, hms, hm,
        steps_append.mpr ⟨hns, ⟨hbefore, h⟩, trivial⟩⟩
    · exact ⟨ls, l, [], rfl, hbefore, h, trivial⟩

/-- A condition on the labels alone. -/
theorem steps_of_forall_label {Q : ℓ → Prop} (s : σ) {ls : List ℓ} (h : ∀ l ∈ ls, Q l) :
    Steps step (fun _ l => Q l) s ls := by
  induction ls generalizing s with
  | nil => trivial
  | cons l ls ih =>
    rw [List.forall_mem_cons] at h
    exact ⟨h.1, ih _ h.2⟩

/-- What every step says of its label holds of all labels. -/
theorem forall_label_of_steps {P : σ → ℓ → Prop} {Q : ℓ → Prop} (hPQ : ∀ s l, P s l → Q l) {s : σ}
    {ls : List ℓ} (h : Steps step P s ls) : ∀ l ∈ ls, Q l := by
  induction ls generalizing s with
  | nil => simp
  | cons l ls ih => exact List.forall_mem_cons.mpr ⟨hPQ s l h.1, ih h.2⟩

/-- A measure that every step lowers is used up by a run that is long enough. -/
theorem exec_measure {I : σ → Prop} {m : σ → ℕ}
    (hstep : ∀ s l, I s → I (step s l) ∧ m (step s l) ≤ m s - 1) {s : σ} (hs : I s) (ls : List ℓ) :
    m (exec step s ls) ≤ m s - ls.length := by
  induction ls generalizing s with
  | nil => exact le_refl _
  | cons l ls ih =>
    obtain ⟨hI, hnext⟩ := hstep s l hs
    have hrest := ih hI
    rw [exec_cons, List.length_cons]
    omega

variable (step) in
/-- `P` holds in every state the run goes through. -/
def Always (P : σ → Prop) (s : σ) (ls : List ℓ) : Prop := ∀ ms, ms <+: ls → P (exec step s ms)

/-- If `Q` is what a step has to satisfy for `P` to go on holding, then `P` holds all along a run
exactly when `Q` holds of all its steps. -/
theorem always_iff_steps {I P : σ → Prop} {Q : σ → ℓ → Prop} (hI : ∀ s l, I s → I (step s l))
    (hstep : ∀ s l, I s → P s → (P (step s l) ↔ Q s l)) {s : σ} (hs : I s) (hP : P s)
    (ls : List ℓ) : Always step P s ls ↔ Steps step Q s ls := by
  induction ls generalizing s with
  | nil =>
    refine ⟨fun _ => trivial, fun _ ms hms => ?_⟩
    rw [List.prefix_nil.mp hms]
    exact hP
  | cons l ls ih =>
    constructor
    · intro h
      have hnext : P (step s l) := h [l] (by simp)
      refine ⟨(hstep s l hs hP).mp hnext, (ih (hI s l hs) hnext).mp fun ms hms => ?_⟩
      exact h (l :: ms) (List.cons_prefix_cons.mpr ⟨rfl, hms⟩)
    · rintro ⟨hQ, hrest⟩ ms hms
      have hnext := (hstep s l hs hP).mpr hQ
      cases ms with
      | nil => exact hP
      | cons m ms =>
        obtain ⟨rfl, htail⟩ := List.cons_prefix_cons.mp hms
        exact (ih (hI s m hs) hnext).mpr hrest ms htail

/-! ## Answers -/

section Trace

variable {β : Type*} {out : σ → ℓ → β} {P : σ → ℓ → Prop}

variable (step) in
/-- The labels of a run with what the steps answer. -/
def trace (out : σ → ℓ → β) : σ → List ℓ → List (ℓ × β)
  | _, [] => []
  | s, l :: ls => (l, out s l) :: trace out (step s l) ls

/-- If some of the labels cannot be told from no step at all by the others, the others are answered
as if they were alone. -/
theorem filter_trace {p : ℓ → Bool} {R : σ → σ → Prop}
    (hskip : ∀ s s' l, R s s' → p l = false → R (step s l) s')
    (hstep : ∀ s s' l, R s s' → p l = true → out s l = out s' l ∧ R (step s l) (step s' l))
    {s s' : σ} (hs : R s s') (ls : List ℓ) :
    (trace step out s ls).filter (fun x => p x.1) = trace step out s' (ls.filter p) := by
  induction ls generalizing s s' with
  | nil => rfl
  | cons l ls ih =>
    cases hl : p l with
    | false =>
      rw [trace, List.filter_cons_of_neg (by simp [hl]), List.filter_cons_of_neg (by simp [hl])]
      exact ih (hskip s s' l hs hl)
    | true =>
      obtain ⟨hout, hnext⟩ := hstep s s' l hs hl
      rw [List.filter_cons_of_pos hl, trace, trace, List.filter_cons_of_pos (by exact hl),
        ih hnext, hout]

/-- If every answer of a kind is paid from a potential that is never overdrawn, there are no more of
them than the potential at first. -/
theorem countP_trace_le {K : Type*} [AddCommMonoidWithOne K] [Preorder K] [AddLeftMono K]
    {q : ℓ × β → Bool} {Φ : σ → K} {I : σ → Prop} (hnonneg : ∀ s, I s → 0 ≤ Φ s)
    (hstep : ∀ s l, I s → P s l →
      I (step s l) ∧ (if q (l, out s l) then 1 else 0) + Φ (step s l) ≤ Φ s)
    {s : σ} {ls : List ℓ} (hs : I s) (hP : Steps step P s ls) :
    ((trace step out s ls).countP q : K) ≤ Φ s := by
  induction ls generalizing s with
  | nil => simpa [trace] using hnonneg s hs
  | cons l ls ih =>
    obtain ⟨hI, hpaid⟩ := hstep s l hs hP.1
    have hrest := ih hI hP.2
    rw [trace, List.countP_cons, Nat.cast_add, Nat.cast_ite, Nat.cast_one, Nat.cast_zero, add_comm]
    exact (add_le_add_right hrest _).trans hpaid

end Trace

end OfflinePay.Run
