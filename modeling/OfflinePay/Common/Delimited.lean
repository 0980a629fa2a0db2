import Mathlib.Data.List.Forall2
import Mathlib.Data.List.Infix
import Mathlib.Data.Set.Basic
import Mathlib.Tactic.Ring

/-!
# Fields between delimiters

A text is built from fields with a delimiter between any two of them; the delimiters come from given
languages, one for each place, and the fields are arbitrary. Such a text can be read in one way only
exactly if each delimiter is the only word of its language in itself and the two fields around it
(`unique_iff_locally`): if there is a second reading, then one of the delimiters can be moved by
itself.

The languages have to be infix-free. Words that begin and end with a marker and contain it equally
often form such a language (`Marked`), and between fields without the marker they occur once. A
single field that may hold anything is found by splitting at the first and the last markers
(`split_first`, `split_last`).
-/

namespace OfflinePay.Delimited

variable {α : Type*}

/-- A field, and then delimiters with a field after each. -/
def join (f : List α) : List (List α × List α) → List α
  | [] => f
  | (w, g) :: rest => f ++ (w ++ join g rest)

/-- The delimiters are words of these languages. -/
def Fits (Ds : List (Set (List α))) (ps : List (List α × List α)) : Prop :=
  List.Forall₂ (fun D p => p.1 ∈ D) Ds ps

/-- No word of the language lies in another. -/
def InfixFree (D : Set (List α)) : Prop := ∀ v ∈ D, ∀ w ∈ D, v <:+: w → v = w

/-- `w` is the only word of the language in `f ++ w ++ g`. -/
def OccursOnce (D : Set (List α)) (f w g : List α) : Prop :=
  ∀ a v b, v ∈ D → a ++ (v ++ b) = f ++ (w ++ g) → a = f

/-- Each delimiter occurs once in itself and the fields around it. -/
def Locally : List (Set (List α)) → List α → List (List α × List α) → Prop
  | D :: Ds, f, (w, g) :: rest => OccursOnce D f w g ∧ Locally Ds g rest
  | _, _, _ => True

theorem join_append (x f : List α) (ps : List (List α × List α)) :
    join (x ++ f) ps = x ++ join f ps := by
  cases ps with
  | nil => rfl
  | cons p rest => exact List.append_assoc _ _ _

theorem prefix_join (f : List α) (ps : List (List α × List α)) : f <+: join f ps := by
  cases ps with
  | nil => exact List.prefix_rfl
  | cons p rest => exact List.prefix_append _ _

/-- A word within the text that ends within `f ++ w ++ g` occurs there. -/
theorem OccursOnce.eq_of_prefix {D : Set (List α)} {f w g a v s : List α} (h : OccursOnce D f w g)
    (hv : v ∈ D) (hav : a ++ v <+: s) (hs : f ++ (w ++ g) <+: s)
    (hlen : (a ++ v).length ≤ (f ++ (w ++ g)).length) : a = f := by
  obtain ⟨b, hb⟩ := List.prefix_of_prefix_length_le hav hs hlen
  exact h a v b hv (by rw [← hb, List.append_assoc])

variable {Ds : List (Set (List α))} {f f' : List α} {ps ps' : List (List α × List α)}

/-- In a second reading the first delimiter does not come later. If it did, then so would the next
ones, up to one that ends before the following delimiter of the first reading begins. -/
theorem length_le_of_join_eq (hps : Fits Ds ps) (hps' : Fits Ds ps') (h : Locally Ds f ps)
    (heq : join f' ps' = join f ps) : f'.length ≤ f.length := by
  induction hps generalizing f f' ps' with
  | nil =>
    cases hps'
    rw [show f' = f from heq]
  | @cons D p Ds rest hw hrest ih =>
    obtain ⟨w, g⟩ := p
    obtain ⟨⟨w', g'⟩, rest', hw', hrest', rfl⟩ := List.forall₂_cons_left_iff.mp hps'
    obtain ⟨honce, hlocal⟩ := h
    by_contra hlater
    have hin : f' ++ w' <+: join f ((w, g) :: rest) := by
      rw [← heq, join, ← List.append_assoc]
      exact List.prefix_append _ _
    have hfw : f ++ w <+: join f ((w, g) :: rest) := by
      rw [join, ← List.append_assoc]
      exact List.prefix_append _ _
    have hfwg : f ++ (w ++ g) <+: join f ((w, g) :: rest) := by
      rw [join, List.prefix_append_right_inj, List.prefix_append_right_inj]
      exact prefix_join g rest
    by_cases hend : (f' ++ w').length ≤ (f ++ (w ++ g)).length
    · exact hlater (honce.eq_of_prefix hw' hin hfwg hend ▸ le_refl _)
    · -- the next delimiter comes later as well
      simp only [List.length_append] at hend
      obtain ⟨x, hx⟩ :=
        List.prefix_of_prefix_length_le hfw hin (by simp only [List.length_append]; omega)
      have hnext : join (x ++ g') rest' = join g rest := by
        have hcancel : (f ++ w) ++ (x ++ join g' rest') = (f ++ w) ++ join g rest := by
          rw [← List.append_assoc, hx, List.append_assoc, List.append_assoc]
          exact heq
        rw [join_append]
        exact List.append_cancel_left hcancel
      have hle := ih hrest' hlocal hnext
      have hlen := congrArg List.length hx
      simp only [List.length_append] at hlen hle
      omega

/-- Where the first delimiters begin together they are the same. -/
theorem InfixFree.eq_of_append_eq {D : Set (List α)} {w w' s s' : List α} (hD : InfixFree D)
    (hw : w ∈ D) (hw' : w' ∈ D) (heq : w' ++ s' = w ++ s) : w' = w := by
  have hprefix : w' <+: w ++ s := heq ▸ List.prefix_append w' s'
  obtain h | h := List.prefix_or_prefix_of_prefix hprefix (List.prefix_append w s)
  · exact hD w' hw' w hw h.isInfix
  · exact (hD w hw w' hw' h.isInfix).symm

theorem Locally.unique (hD : ∀ D ∈ Ds, InfixFree D) (hps : Fits Ds ps) (hps' : Fits Ds ps')
    (h : Locally Ds f ps) (heq : join f' ps' = join f ps) : f' = f ∧ ps' = ps := by
  induction hps generalizing f f' ps' with
  | nil =>
    cases hps'
    exact ⟨heq, rfl⟩
  | @cons D p Ds rest hw hrest ih =>
    have hle := length_le_of_join_eq (.cons hw hrest) hps' h heq
    obtain ⟨w, g⟩ := p
    obtain ⟨⟨w', g'⟩, rest', hw', hrest', rfl⟩ := List.forall₂_cons_left_iff.mp hps'
    obtain ⟨honce, hlocal⟩ := h
    have hfree : InfixFree D := hD D List.mem_cons_self
    have hin : f' ++ w' <+: f ++ (w ++ join g rest) := by
      rw [show f ++ (w ++ join g rest) = f' ++ (w' ++ join g' rest') from heq.symm, ← List.append_assoc]
      exact List.prefix_append _ _
    have hfw : f ++ w <+: f ++ (w ++ join g rest) := by
      rw [List.prefix_append_right_inj]
      exact List.prefix_append _ _
    have hfwg : f ++ (w ++ g) <+: f ++ (w ++ join g rest) := by
      rw [List.prefix_append_right_inj, List.prefix_append_right_inj]
      exact prefix_join g rest
    have hf : f' = f := by
      by_cases hend : (f' ++ w').length ≤ (f ++ w).length
      · refine honce.eq_of_prefix hw' hin hfwg (hend.trans ?_)
        simp only [List.length_append]
        omega
      · -- otherwise `w` lies in `w'`
        obtain ⟨x, rfl⟩ := List.prefix_of_prefix_length_le
          ((List.prefix_append f' w').trans hin) (List.prefix_append f _) hle
        have hxw : x ++ w <+: w' := by
          have hlt := List.prefix_of_prefix_length_le hfw hin (Nat.le_of_lt (not_le.mp hend))
          rwa [List.append_assoc, List.prefix_append_right_inj] at hlt
        obtain ⟨y, hy⟩ := hxw
        obtain rfl := hfree w hw w' hw' ⟨x, y, hy⟩
        simp only [List.length_append] at hend
        omega
    subst hf
    have hrestEq : w' ++ join g' rest' = w ++ join g rest := List.append_cancel_left heq
    obtain rfl := hfree.eq_of_append_eq hw hw' hrestEq
    obtain ⟨rfl, rfl⟩ := ih (fun D h => hD D (List.mem_cons_of_mem _ h)) hrest' hlocal
      (List.append_cancel_left hrestEq)
    exact ⟨rfl, rfl⟩

/-- Among all texts with delimiters of these languages, this one can be read in one way only,
exactly if each of its delimiters occurs once in itself and the fields around it. -/
theorem unique_iff_locally (hD : ∀ D ∈ Ds, InfixFree D) (hps : Fits Ds ps) :
    (∀ f' ps', Fits Ds ps' → join f' ps' = join f ps → f' = f ∧ ps' = ps) ↔ Locally Ds f ps := by
  refine ⟨fun h => ?_, fun h f' ps' hps' heq => h.unique hD hps hps' heq⟩
  clear hD
  induction hps generalizing f with
  | nil => trivial
  | @cons D p Ds rest hw hrest ih =>
    obtain ⟨w, g⟩ := p
    refine ⟨fun a v b hv hab => ?_, ih fun g' rest' hrest' heq => ?_⟩
    · -- move this delimiter only
      refine (h a ((v, b) :: rest) (.cons hv hrest) ?_).1
      have hmoved := congrArg (join · rest) hab
      simpa only [join, join_append] using hmoved
    · have hboth := (h f ((w, g') :: rest') (.cons hw hrest') (by rw [join, join, heq])).2
      rw [List.cons.injEq, Prod.mk.injEq] at hboth
      exact ⟨hboth.1.2, hboth.2⟩

/-! ## Markers -/

variable [DecidableEq α] {c : α}

/-- What comes before the first marker and what comes after it. -/
theorem split_first {x x' y y' : List α} (hx : c ∉ x) (hx' : c ∉ x')
    (h : x ++ c :: y = x' ++ c :: y') : x = x' ∧ y = y' := by
  have hbefore : ∀ {x y : List α}, c ∉ x → (x ++ c :: y).takeWhile (· ≠ c) = x := by
    intro x y hx
    rw [List.takeWhile_append_of_pos fun z hz => decide_eq_true (ne_of_mem_of_not_mem hz hx)]
    simp
  obtain rfl : x = x' := by
    rw [← hbefore (y := y) hx, h, hbefore hx']
  exact ⟨rfl, (List.cons.inj (List.append_cancel_left h)).2⟩

/-- What comes before the last marker and what comes after it. -/
theorem split_last {x x' y y' : List α} (hy : c ∉ y) (hy' : c ∉ y')
    (h : x ++ c :: y = x' ++ c :: y') : x = x' ∧ y = y' := by
  have hreverse : y.reverse ++ c :: x.reverse = y'.reverse ++ c :: x'.reverse := by
    simpa using congrArg List.reverse h
  obtain ⟨hyy, hxx⟩ := split_first (by simpa using hy) (by simpa using hy') hreverse
  exact ⟨List.reverse_injective hxx, List.reverse_injective hyy⟩

/-- The words begin and end with the marker and contain it `n` times. -/
def Marked (c : α) (n : ℕ) (D : Set (List α)) : Prop :=
  ∀ v ∈ D, (∃ t, v = c :: t) ∧ (∃ t, v = t ++ [c]) ∧ v.count c = n

variable {n : ℕ} {D : Set (List α)}

/-- Between fields without the marker a word occurs once. -/
theorem Marked.occursOnce (hD : Marked c n D) {w g : List α} (hw : w ∈ D) (hf : c ∉ f)
    (hg : c ∉ g) :
    OccursOnce D f w g := by
  intro a v b hv hab
  obtain ⟨⟨t, rfl⟩, -, hv⟩ := hD v hv
  obtain ⟨⟨u, rfl⟩, -, hw⟩ := hD w hw
  have hcount := congrArg (List.count c) hab
  simp only [List.count_append, List.count_eq_zero.mpr hf, List.count_eq_zero.mpr hg] at hcount
  have ha : c ∉ a := List.count_eq_zero.mp (by omega)
  exact (split_first ha hf hab).1

theorem Marked.infixFree (hD : Marked c n D) : InfixFree D := by
  rintro v hv w hw ⟨a, b, hab⟩
  obtain rfl : a = [] :=
    hD.occursOnce hw List.not_mem_nil List.not_mem_nil a v b hv (by simpa using hab)
  obtain ⟨-, ⟨t, ht⟩, hwc⟩ := hD w hw
  obtain ⟨-, -, hvc⟩ := hD v hv
  have hcount := congrArg (List.count c) hab
  rw [List.nil_append, List.count_append, hvc, hwc, Nat.add_eq_left] at hcount
  obtain rfl | ⟨b', z, rfl⟩ := b.eq_nil_or_concat'
  · simpa using hab
  · -- the last letter of `w` is the marker
    have hlast := congrArg List.getLast? (hab.trans ht)
    rw [← List.append_assoc, List.getLast?_concat, List.getLast?_concat, Option.some.injEq] at hlast
    exact absurd (hlast ▸ List.mem_concat_self) (List.count_eq_zero.mp hcount)

end OfflinePay.Delimited
