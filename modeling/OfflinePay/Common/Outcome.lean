import Mathlib.Logic.Basic

/-!
# Calls that may panic

A Go function with an `error` result returns a value, returns an error, or panics. The first error
and the first panic end a sequence of calls; `bind_eq_ok` and `bind_panics_iff` take a sequence
apart.
-/

namespace OfflinePay

/-- What a call with an `error` result does. -/
inductive Outcome (ε α : Type) where
  | returned (result : Except ε α)
  | panicked (message : String)

namespace Outcome

variable {ε α β : Type}

/-- `if err != nil { return err }` between two calls. -/
protected def bind (x : Outcome ε α) (f : α → Outcome ε β) : Outcome ε β :=
  match x with
  | .returned (.ok a) => f a
  | .returned (.error e) => .returned (.error e)
  | .panicked message => .panicked message

instance : Monad (Outcome ε) where
  pure a := .returned (.ok a)
  bind := Outcome.bind

instance : LawfulMonad (Outcome ε) :=
  LawfulMonad.mk' _ (by rintro α ((_ | _) | _) <;> rfl) (by intros; rfl)
    (by rintro α β γ ((_ | _) | _) f g <;> rfl)

/-- The error, if there is one, is wrapped. -/
def mapError (f : ε → ε) : Outcome ε α → Outcome ε α
  | .returned (.ok a) => .returned (.ok a)
  | .returned (.error e) => .returned (.error (f e))
  | .panicked message => .panicked message

/-- A call that panics unless its arguments meet a condition. -/
def guarded (condition : Bool) (message : String) (result : Except ε α) : Outcome ε α :=
  if condition then .returned result else .panicked message

def Panics (x : Outcome ε α) : Prop := ∃ message, x = .panicked message

theorem returns_iff {x : Outcome ε α} : (∃ result, x = .returned result) ↔ ¬x.Panics := by
  cases x <;> simp [Panics]

@[simp] theorem pure_eq (a : α) : (pure a : Outcome ε α) = .returned (.ok a) := rfl

theorem bind_eq_ok {x : Outcome ε α} {f : α → Outcome ε β} {b : β} :
    x >>= f = .returned (.ok b) ↔ ∃ a, x = .returned (.ok a) ∧ f a = .returned (.ok b) := by
  rcases x with (_ | _) | _ <;> simp [Bind.bind, Outcome.bind]

theorem bind_panics_iff {x : Outcome ε α} {f : α → Outcome ε β} :
    (x >>= f).Panics ↔ x.Panics ∨ ∃ a, x = .returned (.ok a) ∧ (f a).Panics := by
  rcases x with (_ | _) | _ <;> simp [Bind.bind, Outcome.bind, Panics]

@[simp] theorem not_panics_returned (result : Except ε α) : ¬(returned result).Panics := by
  simp [Panics]

@[simp] theorem mapError_eq_ok {f : ε → ε} {x : Outcome ε α} {a : α} :
    x.mapError f = .returned (.ok a) ↔ x = .returned (.ok a) := by
  rcases x with (_ | _) | _ <;> simp [mapError]

@[simp] theorem mapError_panics_iff {f : ε → ε} {x : Outcome ε α} :
    (x.mapError f).Panics ↔ x.Panics := by
  rcases x with (_ | _) | _ <;> simp [mapError, Panics]

@[simp] theorem guarded_eq_ok {condition : Bool} {message : String} {result : Except ε α} {a : α} :
    guarded condition message result = .returned (.ok a) ↔ condition = true ∧ result = .ok a := by
  cases condition <;> simp [guarded]

@[simp] theorem guarded_panics_iff {condition : Bool} {message : String} {result : Except ε α} :
    (guarded condition message result).Panics ↔ condition = false := by
  cases condition <;> simp [guarded, Panics]

end Outcome

end OfflinePay
