import Mathlib.Algebra.BigOperators.Group.List.Basic
import Mathlib.Data.List.Nodup
import Mathlib.Tactic

/-!
# Tables with a primary key

A `Table key` is a list of rows whose keys are pairwise distinct; the distinctness is a field, so a
table that breaks its primary key cannot be built. `insert`, `set` and `erase` are the three row
operations of a keyed store. Each comes with the lookup it leaves behind (`find?_insert`,
`find?_set`, `find?_erase`), and the two that add or change a value come with the effect on a sum
over all rows (`sum_insert`, `sum_set`).

Nothing here mentions a concrete store: the row type, the key type and the key function are
parameters.
-/

namespace OfflinePay

/-- A list of rows with pairwise distinct keys. -/
structure Table {ρ κ : Type} (key : ρ → κ) where
  rows : List ρ
  nodup : (rows.map key).Nodup

namespace Table

variable {ρ κ : Type} {key : ρ → κ}

/-- The table with no rows. -/
def empty : Table key := ⟨[], List.nodup_nil⟩

instance : Inhabited (Table key) := ⟨empty⟩

@[ext]
theorem ext {t t' : Table key} (h : t.rows = t'.rows) : t = t' := by
  cases t
  cases t'
  cases h
  rfl

instance [DecidableEq ρ] : DecidableEq (Table key) := fun t t' =>
  decidable_of_iff (t.rows = t'.rows) ⟨ext, fun h => h ▸ rfl⟩

variable [DecidableEq κ]

/-- The row stored under a key. -/
def find? (t : Table key) (k : κ) : Option ρ := t.rows.find? (fun r => key r = k)

/-- A found row carries the key it was looked up by. -/
theorem key_of_find? {t : Table key} {k : κ} {r : ρ} (h : t.find? k = some r) : key r = k := by
  simpa using List.find?_some h

theorem mem_of_find? {t : Table key} {k : κ} {r : ρ} (h : t.find? k = some r) : r ∈ t.rows :=
  List.mem_of_find?_eq_some h

theorem find?_eq_none {t : Table key} {k : κ} : t.find? k = none ↔ ∀ r ∈ t.rows, key r ≠ k := by
  simp [find?]

omit [DecidableEq κ] in
theorem eq_of_key_eq {t : Table key} {r r' : ρ} (hr : r ∈ t.rows) (hr' : r' ∈ t.rows)
    (h : key r = key r') : r = r' :=
  List.inj_on_of_nodup_map t.nodup hr hr' h

/-- Distinct keys make lookup and membership the same thing. -/
theorem find?_of_mem {t : Table key} {r : ρ} (h : r ∈ t.rows) : t.find? (key r) = some r := by
  have hsome : (t.find? (key r)).isSome := by
    rw [find?, List.find?_isSome]
    exact ⟨r, h, by simp⟩
  obtain ⟨r', hr'⟩ := Option.isSome_iff_exists.mp hsome
  rw [hr', eq_of_key_eq (mem_of_find? hr') h (key_of_find? hr')]

@[simp]
theorem find?_empty (k : κ) : (empty : Table key).find? k = none := rfl

/-! ## Inserting a row -/

/-- Add a row under a fresh key; a row whose key is taken is not added. -/
def insert (t : Table key) (r : ρ) : Table key :=
  if h : t.find? (key r) = none then
    ⟨t.rows ++ [r], by
      rw [List.map_append, List.nodup_append]
      refine ⟨t.nodup, by simp, ?_⟩
      intro k hk k' hk'
      obtain ⟨r', hr', rfl⟩ := List.mem_map.mp hk
      rw [List.map_singleton, List.mem_singleton] at hk'
      rw [hk']
      exact find?_eq_none.mp h r' hr'⟩
  else t

theorem rows_insert {t : Table key} {r : ρ} (h : t.find? (key r) = none) :
    (t.insert r).rows = t.rows ++ [r] := by
  rw [insert, dif_pos h]

theorem find?_insert {t : Table key} {r : ρ} (h : t.find? (key r) = none) (k : κ) :
    (t.insert r).find? k = if key r = k then some r else t.find? k := by
  rw [find?, rows_insert h, List.find?_append]
  by_cases hk : key r = k
  · subst hk
    rw [if_pos rfl]
    have hnone : t.rows.find? (fun x => key x = key r) = none := h
    simp [hnone]
  · rw [if_neg hk]
    cases hf : t.rows.find? (fun x => key x = k) with
    | none => simp [find?, hf, hk]
    | some x => simp [find?, hf]

theorem find?_insert_self {t : Table key} {r : ρ} (h : t.find? (key r) = none) :
    (t.insert r).find? (key r) = some r := by
  rw [find?_insert h, if_pos rfl]

/-- Inserting never hides or changes a row that was there. -/
theorem find?_insert_of_find? {t : Table key} {r x : ρ} {k : κ} (hx : t.find? k = some x) :
    (t.insert r).find? k = some x := by
  by_cases h : t.find? (key r) = none
  · rw [find?_insert h, if_neg, hx]
    rintro rfl
    rw [h] at hx
    exact absurd hx (by simp)
  · rw [insert, dif_neg h, hx]

theorem find?_insert_ne (t : Table key) {r : ρ} {k : κ} (h : key r ≠ k) :
    (t.insert r).find? k = t.find? k := by
  by_cases hfree : t.find? (key r) = none
  · rw [find?_insert hfree, if_neg h]
  · rw [insert, dif_neg hfree]

theorem mem_insert {t : Table key} {r x : ρ} (h : t.find? (key r) = none) :
    x ∈ (t.insert r).rows ↔ x ∈ t.rows ∨ x = r := by
  rw [rows_insert h, List.mem_append, List.mem_singleton]

/-- Inserting adds at most the row itself. -/
theorem mem_or_eq_of_mem_insert {t : Table key} {r x : ρ} (h : x ∈ (t.insert r).rows) :
    x ∈ t.rows ∨ x = r := by
  by_cases hfree : t.find? (key r) = none
  · exact (mem_insert hfree).mp h
  · rw [insert, dif_neg hfree] at h
    exact .inl h

/-! ## Overwriting a row -/

/-- Overwrite the row that has the key of `r`; without such a row nothing changes. -/
def set (t : Table key) (r : ρ) : Table key :=
  ⟨t.rows.map (fun x => if key x = key r then r else x), by
    have hkeys : (t.rows.map (fun x => if key x = key r then r else x)).map key
        = t.rows.map key := by
      rw [List.map_map]
      apply List.map_congr_left
      intro x _
      by_cases hx : key x = key r <;> simp [hx]
    rw [hkeys]
    exact t.nodup⟩

theorem find?_set (t : Table key) (r : ρ) (k : κ) :
    (t.set r).find? k = if key r = k then (t.find? k).map (fun _ => r) else t.find? k := by
  have hcomp : ((fun x => decide (key x = k)) ∘ fun x => if key x = key r then r else x)
      = fun x => decide (key x = k) := by
    funext x
    by_cases hx : key x = key r <;> simp [hx]
  rw [find?, set, List.find?_map, hcomp]
  by_cases hk : key r = k
  · rw [if_pos hk]
    cases hf : t.rows.find? (fun x => key x = k) with
    | none => simp [find?, hf]
    | some x =>
      have hx : key x = k := by simpa using List.find?_some hf
      simp [find?, hf, hx, hk]
  · rw [if_neg hk]
    cases hf : t.rows.find? (fun x => key x = k) with
    | none => simp [find?, hf]
    | some x =>
      have hx : key x = k := by simpa using List.find?_some hf
      simp [find?, hf, hx, Ne.symm hk]

theorem find?_set_self {t : Table key} {r r₀ : ρ} (h : t.find? (key r) = some r₀) :
    (t.set r).find? (key r) = some r := by
  rw [find?_set, if_pos rfl, h, Option.map_some]

/-- Overwriting a row neither adds nor removes a key. -/
theorem find?_set_eq_none (t : Table key) (r : ρ) (k : κ) :
    (t.set r).find? k = none ↔ t.find? k = none := by
  rw [find?_set]
  split <;> simp

theorem find?_set_ne (t : Table key) {r : ρ} {k : κ} (h : key r ≠ k) :
    (t.set r).find? k = t.find? k := by
  rw [find?_set, if_neg h]

/-- Overwriting a row with itself changes nothing. -/
theorem set_self {t : Table key} {r : ρ} (h : t.find? (key r) = some r) : t.set r = t := by
  apply ext
  rw [set]
  conv_rhs => rw [← List.map_id t.rows]
  apply List.map_congr_left
  intro x hx
  by_cases hk : key x = key r
  · have hx' := find?_of_mem hx
    rw [hk, h, Option.some.injEq] at hx'
    rw [if_pos hk, hx', id]
  · rw [if_neg hk, id]

theorem mem_set {t : Table key} {r x : ρ} (h : x ∈ (t.set r).rows) :
    x = r ∨ (x ∈ t.rows ∧ key x ≠ key r) := by
  obtain ⟨y, hy, rfl⟩ := List.mem_map.mp h
  by_cases hk : key y = key r
  · exact Or.inl (by simp [hk])
  · exact Or.inr (by simp [hk, hy])

theorem mem_set_of_ne {t : Table key} {r x : ρ} (hx : x ∈ t.rows) (h : key x ≠ key r) :
    x ∈ (t.set r).rows :=
  List.mem_map.mpr ⟨x, hx, if_neg h⟩

theorem mem_set_self {t : Table key} {r r₀ : ρ} (h : r₀ ∈ t.rows) (hkey : key r₀ = key r) :
    r ∈ (t.set r).rows :=
  List.mem_map.mpr ⟨r₀, h, if_pos hkey⟩

/-! ## Deleting a row -/

/-- Delete the row stored under a key. -/
def erase (t : Table key) (k : κ) : Table key :=
  ⟨t.rows.filter (fun r => key r ≠ k),
    (List.filter_sublist.map key).nodup t.nodup⟩

theorem find?_erase (t : Table key) (k k' : κ) :
    (t.erase k).find? k' = if k = k' then none else t.find? k' := by
  by_cases hk : k = k'
  · subst hk
    rw [if_pos rfl, find?_eq_none]
    intro r hr
    simpa using (List.mem_filter.mp hr).2
  · rw [if_neg hk, find?, erase, List.find?_filter, find?]
    congr 1
    funext r
    by_cases hr : key r = k'
    · simp [hr, Ne.symm hk]
    · simp [hr]

theorem find?_erase_ne (t : Table key) {k k' : κ} (h : k ≠ k') :
    (t.erase k).find? k' = t.find? k' := by
  rw [find?_erase, if_neg h]

/-! ## Updating the rows that match -/

/-- Change all rows whose key satisfies `p`, keeping their keys. -/
def modify (t : Table key) (p : κ → Bool) (f : ρ → ρ) (hf : ∀ r, key (f r) = key r) : Table key :=
  ⟨t.rows.map (fun r => if p (key r) then f r else r), by
    have hkeys : (t.rows.map (fun r => if p (key r) then f r else r)).map key = t.rows.map key := by
      rw [List.map_map]
      apply List.map_congr_left
      intro r _
      cases hp : p (key r) <;> simp [hp, hf]
    rw [hkeys]
    exact t.nodup⟩

theorem find?_modify (t : Table key) (p : κ → Bool) (f : ρ → ρ) (hf : ∀ r, key (f r) = key r)
    (k : κ) : (t.modify p f hf).find? k = (t.find? k).map fun r => if p k then f r else r := by
  have hcomp : ((fun r => decide (key r = k)) ∘ fun r => if p (key r) then f r else r)
      = fun r => decide (key r = k) := by
    funext r
    cases hp : p (key r) <;> simp [hp, hf]
  rw [find?, modify, List.find?_map, hcomp, ← find?]
  cases hr : t.find? k with
  | none => rfl
  | some r => simp [key_of_find? hr]

/-- Insert a row or, if there is one with its key, change that one. -/
def upsert (t : Table key) (r : ρ) (f : ρ → ρ) (hf : ∀ x, key (f x) = key x) : Table key :=
  if t.find? (key r) = none then t.insert r else t.modify (· = key r) f hf

theorem find?_upsert (t : Table key) (r : ρ) (f : ρ → ρ) (hf : ∀ x, key (f x) = key x) (k : κ) :
    (t.upsert r f hf).find? k
      = if key r = k then some ((t.find? k).elim r f) else t.find? k := by
  unfold upsert
  split
  · next hnone =>
    rw [find?_insert hnone]
    split
    · next hk => rw [← hk, hnone, Option.elim_none]
    · rfl
  · next hsome =>
    rw [find?_modify]
    by_cases hk : key r = k
    · subst hk
      obtain ⟨x, hx⟩ := Option.ne_none_iff_exists'.mp hsome
      simp [hx]
    · simp [hk, Ne.symm hk]

theorem mem_keys {t : Table key} {k : κ} : k ∈ t.rows.map key ↔ (t.find? k).isSome = true := by
  rw [List.mem_map, find?, List.find?_isSome]
  simp

/-- Tables with the same keys have the same number of rows. -/
theorem length_rows_congr {t t' : Table key} (h : ∀ k, (t.find? k).isSome = (t'.find? k).isSome) :
    t.rows.length = t'.rows.length := by
  have hperm : (t.rows.map key).Perm (t'.rows.map key) := by
    refine (List.perm_ext_iff_of_nodup t.nodup t'.nodup).mpr fun k => ?_
    rw [mem_keys, mem_keys, h]
  simpa using hperm.length_eq

/-! ## Sums over the rows -/

section Sum

variable {M : Type}

/-- The sum of a quantity over all rows. -/
def sum [AddCommMonoid M] (t : Table key) (f : ρ → M) : M := (t.rows.map f).sum

omit [DecidableEq κ] in
theorem sum_congr [AddCommMonoid M] {t : Table key} {f g : ρ → M}
    (h : ∀ r ∈ t.rows, f r = g r) : t.sum f = t.sum g := by
  rw [sum, sum, List.map_congr_left h]

theorem sum_insert [AddCommMonoid M] {t : Table key} {r : ρ} (h : t.find? (key r) = none)
    (f : ρ → M) : (t.insert r).sum f = t.sum f + f r := by
  rw [sum, rows_insert h, List.map_append, List.sum_append, List.map_singleton,
    List.sum_singleton, sum]

/-- Two quantities that differ at one key only have sums that differ by that row. -/
theorem sum_congr_off [AddCommGroup M] {t : Table key} {k : κ} {r₀ : ρ} (h : t.find? k = some r₀)
    {f g : ρ → M} (hfg : ∀ r ∈ t.rows, key r ≠ k → f r = g r) :
    t.sum g = t.sum f - f r₀ + g r₀ := by
  obtain ⟨rows, hnodup⟩ := t
  simp only [sum, find?] at h ⊢
  induction rows with
  | nil => simp at h
  | cons x xs ih =>
    have hnd : key x ∉ xs.map key ∧ (xs.map key).Nodup := List.nodup_cons.mp hnodup
    simp only [List.map_cons, List.sum_cons]
    by_cases hx : key x = k
    · -- the differing row is the head, so the tails have equal sums
      have hr₀ : x = r₀ := by simpa [hx] using h
      have htail : xs.map f = xs.map g := by
        apply List.map_congr_left
        intro y hy
        refine hfg y (List.mem_cons_of_mem _ hy) ?_
        intro hy'
        exact hnd.1 (List.mem_map.mpr ⟨y, hy, by rw [hy', hx]⟩)
      rw [← hr₀, htail]
      abel
    · have hrec := ih hnd.2 (by simpa [hx] using h)
        (fun r hr => hfg r (List.mem_cons_of_mem _ hr))
      rw [hrec, hfg x List.mem_cons_self hx]
      abel

theorem sum_set [AddCommGroup M] {t : Table key} {r r₀ : ρ} (h : t.find? (key r) = some r₀)
    (f : ρ → M) : (t.set r).sum f = t.sum f - f r₀ + f r := by
  have hmap : (t.set r).sum f = t.sum (fun x => f (if key x = key r then r else x)) := by
    rw [sum, sum, set, List.map_map]
    rfl
  have hoff := sum_congr_off h (f := f) (g := fun x => f (if key x = key r then r else x))
    (fun x _ hx => by rw [if_neg hx])
  rw [hmap, hoff, if_pos (key_of_find? h)]

end Sum

end Table

end OfflinePay
