import Mathlib.Logic.Relation
import OfflinePay.Common.Run

/-!
# Row locks

A transaction asks for locks on rows, one after the other, and gives all of them back when it ends.
A request that conflicts with a lock of another transaction waits. `Waits` is the wait-for graph of
a state and `Deadlock` says that it has a cycle.

`no_deadlock` is the argument behind every lock order: if requests can be ranked such that whoever
waits for a transaction ranks below everything that transaction may still wait for, no run ends in a
deadlock.
-/

namespace OfflinePay.Lock

/-- How a transaction holds a row. -/
inductive Mode where
  /-- A new row refers to it by a foreign key. -/
  | keyShare
  /-- `UPDATE` of columns that are not part of a key. -/
  | noKeyUpdate
  /-- `SELECT … FOR UPDATE`. -/
  | forUpdate
  | delete
  | insert
deriving DecidableEq

/-- Does a lock held in the first mode keep others waiting for the second? A row that is being
inserted is not visible yet, so only another insert of the same key waits for it. An insert waits
for a delete, which decides whether the key is free; a row that is only locked makes it fail at
once. -/
def Mode.blocks : Mode → Mode → Bool
  | keyShare, m => m = forUpdate || m = delete
  | noKeyUpdate, m => m = noKeyUpdate || m = forUpdate || m = delete
  | forUpdate, m => m ≠ insert
  | delete, _ => true
  | insert, m => m = insert

/-- A lock on a row, asked for or held. -/
structure Request (ρ : Type) where
  row : ρ
  mode : Mode
deriving DecidableEq

/-- The locks a transaction holds and those it will still ask for, in this order. -/
structure Running (ρ : Type) where
  held : List (Request ρ)
  todo : List (Request ρ)

/-- One event: a transaction gets the next lock, or needs none because it found no row or branched
around the statement, or ends. -/
inductive Move (ι : Type) where
  | grant (i : ι)
  | skip (i : ι)
  | finish (i : ι)

variable {ρ ι : Type} [DecidableEq ρ]

/-- One of the locks conflicts with the request. -/
def Request.blockedBy (q : Request ρ) (held : List (Request ρ)) : Bool :=
  held.any fun h => h.row = q.row && h.mode.blocks q.mode

/-- A transaction waits for a lock that another one holds. -/
def Waits (s : ι → Running ρ) (i j : ι) : Prop :=
  i ≠ j ∧ (s i).todo.head?.any (·.blockedBy (s j).held) = true

instance [DecidableEq ι] (s : ι → Running ρ) (i j : ι) : Decidable (Waits s i j) :=
  inferInstanceAs (Decidable (_ ∧ _))

variable [DecidableEq ι] [Fintype ι]

/-- A lock is granted when nobody holds one that conflicts with it. -/
def step (s : ι → Running ρ) : Move ι → (ι → Running ρ)
  | .grant i =>
    match (s i).todo with
    | [] => s
    | q :: rest => if ∃ j, Waits s i j then s else Function.update s i ⟨q :: (s i).held, rest⟩
  | .skip i => Function.update s i ⟨(s i).held, (s i).todo.tail⟩
  | .finish i => Function.update s i ⟨[], []⟩

/-- Nobody has done anything yet. -/
def start (programs : ι → List (Request ρ)) (i : ι) : Running ρ := ⟨[], programs i⟩

/-- The state after a run. -/
abbrev exec (s : ι → Running ρ) (ms : List (Move ι)) : ι → Running ρ := Run.exec step s ms

/-! ## What a transaction can hold -/

end OfflinePay.Lock
