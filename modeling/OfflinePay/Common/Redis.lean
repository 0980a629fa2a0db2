import OfflinePay.Common.Table
import Mathlib.Algebra.Order.Ring.Rat

/-!
# A store of expiring keys with sorted sets

The part of a Redis server that a client sees through `ZREMRANGEBYSCORE`, `ZADD`, `ZCARD`, `EXPIRE`,
`GET` and `SET`. A command is about one key and runs alone, so it is a function of the key's `Slot`.
Each command takes the time of the server: a key is gone once its deadline has passed. A sorted set
that becomes empty is removed together with its deadline, and `ZADD` keeps the deadline of the key
it finds.

If every member's score is a function of the member (`ScoredBy`), then the members of a set after a
command are those before it, filtered or with one added (`members_trim`, `members_add`).
-/

namespace OfflinePay.Redis

variable {μ β : Type}

/-! ## Sorted sets -/

/-- A sorted set: members with their scores, each member once. -/
abbrev ZSet (μ : Type) := Table (Prod.fst : μ × ℚ → μ)

namespace ZSet

/-- Remove the members whose score is in the range. -/
def trim (z : ZSet μ) (lo hi : ℚ) : ZSet μ :=
  ⟨z.rows.filter fun p => ¬(lo ≤ p.2 ∧ p.2 ≤ hi),
    z.nodup.sublist (List.filter_sublist.map _)⟩

/-- Add a member, or change its score. -/
def add [DecidableEq μ] (z : ZSet μ) (score : ℚ) (m : μ) : ZSet μ :=
  z.upsert (m, score) (fun p => (p.1, score)) fun _ => rfl

/-- The members of the set. -/
def members [DecidableEq μ] (z : ZSet μ) : Finset μ := (z.rows.map Prod.fst).toFinset

/-- The score of each member is `f` of it. -/
def ScoredBy (f : μ → ℚ) (z : ZSet μ) : Prop := ∀ p ∈ z.rows, p.2 = f p.1

theorem ScoredBy.trim {f : μ → ℚ} {z : ZSet μ} (h : ScoredBy f z) (lo hi : ℚ) :
    ScoredBy f (z.trim lo hi) :=
  fun p hp => h p (List.mem_of_mem_filter hp)

variable [DecidableEq μ] {f : μ → ℚ} {z : ZSet μ}

theorem card_members (z : ZSet μ) : z.members.card = z.rows.length := by
  rw [members, List.toFinset_card_of_nodup z.nodup, List.length_map]

theorem mem_members {m : μ} : m ∈ z.members ↔ ∃ p ∈ z.rows, p.1 = m := by
  simp [members]

theorem members_eq_empty : z.members = ∅ ↔ z.rows = [] := by
  simp [members]

theorem members_trim (h : ScoredBy f z) (lo hi : ℚ) {m : μ} :
    m ∈ (z.trim lo hi).members ↔ m ∈ z.members ∧ ¬(lo ≤ f m ∧ f m ≤ hi) := by
  rw [mem_members, mem_members]
  constructor
  · rintro ⟨p, hp, rfl⟩
    obtain ⟨hmem, hkeep⟩ := List.mem_filter.1 hp
    refine ⟨⟨p, hmem, rfl⟩, ?_⟩
    rw [← h p hmem]
    exact of_decide_eq_true hkeep
  · rintro ⟨⟨p, hmem, rfl⟩, hkeep⟩
    rw [← h p hmem] at hkeep
    exact ⟨p, List.mem_filter.2 ⟨hmem, decide_eq_true hkeep⟩, rfl⟩

theorem mem_rows_add {score : ℚ} {m : μ} {p : μ × ℚ} :
    p ∈ (z.add score m).rows ↔ p = (m, score) ∨ (p ∈ z.rows ∧ p.1 ≠ m) := by
  have hfind : (z.add score m).find? p.1
      = if p.1 = m then some (m, score) else z.find? p.1 := by
    rw [add, Table.find?_upsert]
    by_cases hpm : p.1 = m
    · subst hpm
      cases hz : z.find? p.1 with
      | none => simp
      | some r => simp [Table.key_of_find? hz]
    · simp [hpm, Ne.symm hpm]
  constructor
  · intro hp
    have hself := Table.find?_of_mem hp
    rw [hfind] at hself
    by_cases hpm : p.1 = m
    · rw [if_pos hpm] at hself
      exact Or.inl (Option.some.inj hself).symm
    · rw [if_neg hpm] at hself
      exact Or.inr ⟨Table.mem_of_find? hself, hpm⟩
  · rintro (rfl | ⟨hp, hpm⟩)
    · exact Table.mem_of_find? (by rw [hfind, if_pos rfl])
    · exact Table.mem_of_find? (by rw [hfind, if_neg hpm, Table.find?_of_mem hp])

theorem ScoredBy.add (h : ScoredBy f z) (m : μ) : ScoredBy f (z.add (f m) m) := by
  intro p hp
  rcases mem_rows_add.1 hp with rfl | ⟨hp, -⟩
  · rfl
  · exact h p hp

theorem members_add {score : ℚ} {m m' : μ} :
    m' ∈ (z.add score m).members ↔ m' = m ∨ m' ∈ z.members := by
  simp only [mem_members, mem_rows_add]
  constructor
  · rintro ⟨p, rfl | ⟨hp, -⟩, rfl⟩
    · exact Or.inl rfl
    · exact Or.inr ⟨p, hp, rfl⟩
  · rintro (rfl | ⟨p, hp, rfl⟩)
    · exact ⟨_, Or.inl rfl, rfl⟩
    · by_cases hpm : p.1 = m
      · exact ⟨_, Or.inl rfl, hpm.symm⟩
      · exact ⟨p, Or.inr ⟨hp, hpm⟩, rfl⟩

end ZSet

/-! ## Keys -/

/-- What a key holds. -/
inductive Value (μ β : Type) where
  | zset (z : ZSet μ)
  | str (s : β)

/-- A key with its value and its deadline, if it has one. -/
structure Entry (μ β : Type) where
  value : Value μ β
  deadline : Option ℤ

/-- A key of the store. -/
abbrev Slot (μ β : Type) := Option (Entry μ β)

/-- `WRONGTYPE Operation against a key holding the wrong kind of value`. -/
inductive CommandError where
  | wrongType
deriving DecidableEq, Repr

namespace Slot

/-- A key whose deadline has passed is not there any more. -/
def live (slot : Slot μ β) (now : ℤ) : Slot μ β :=
  slot.filter fun e => e.deadline.all (now ≤ ·)

/-- `ZREMRANGEBYSCORE key lo hi`. -/
def zremrangebyscore (slot : Slot μ β) (now : ℤ) (lo hi : ℚ) : Except CommandError (Slot μ β) :=
  match slot.live now with
  | none => .ok none
  | some ⟨.str _, _⟩ => .error .wrongType
  | some ⟨.zset z, deadline⟩ =>
    .ok (if (z.trim lo hi).rows.isEmpty then none else some ⟨.zset (z.trim lo hi), deadline⟩)

/-- `ZADD key score member`. -/
def zadd [DecidableEq μ] (slot : Slot μ β) (now : ℤ) (score : ℚ) (m : μ) :
    Except CommandError (Slot μ β) :=
  match slot.live now with
  | none => .ok (some ⟨.zset (ZSet.add Table.empty score m), none⟩)
  | some ⟨.str _, _⟩ => .error .wrongType
  | some ⟨.zset z, deadline⟩ => .ok (some ⟨.zset (z.add score m), deadline⟩)

/-- `EXPIRE key ttl`. -/
def expire (slot : Slot μ β) (now ttl : ℤ) : Slot μ β :=
  (slot.live now).map fun e => { e with deadline := some (now + ttl) }

/-- `ZCARD key`. -/
def zcard (slot : Slot μ β) (now : ℤ) : Except CommandError ℕ :=
  match slot.live now with
  | none => .ok 0
  | some ⟨.str _, _⟩ => .error .wrongType
  | some ⟨.zset z, _⟩ => .ok z.rows.length

/-- `GET key`; a key that is not there answers nil. -/
def get (slot : Slot μ β) (now : ℤ) : Except CommandError (Option β) :=
  match slot.live now with
  | none => .ok none
  | some ⟨.str s, _⟩ => .ok (some s)
  | some ⟨.zset _, _⟩ => .error .wrongType

/-- `SET key value EX ttl`. -/
def set (_slot : Slot μ β) (now : ℤ) (s : β) (ttl : ℤ) : Slot μ β :=
  some ⟨.str s, some (now + ttl)⟩

/-! ### A key that holds scored members -/

variable {f : μ → ℚ} {slot : Slot μ β} {now : ℤ}

/-- The key holds a sorted set with these scores, or is not there. -/
def Scored (f : μ → ℚ) (slot : Slot μ β) : Prop :=
  ∀ e ∈ slot, ∃ z, e.value = .zset z ∧ ZSet.ScoredBy f z

/-- The deadline of a key. -/
def deadline (slot : Slot μ β) : Option ℤ := slot.bind Entry.deadline

/-- The members of the sorted set under a key. -/
def members [DecidableEq μ] (slot : Slot μ β) : Finset μ :=
  match slot with
  | some ⟨.zset z, _⟩ => z.members
  | _ => ∅

@[simp]
theorem members_none [DecidableEq μ] : members (none : Slot μ β) = ∅ := rfl

@[simp]
theorem deadline_none : deadline (none : Slot μ β) = none := rfl

theorem scored_none : Scored f (none : Slot μ β) := by
  intro e he
  cases he

theorem Scored.cases (h : Scored f slot) :
    slot = none ∨ ∃ z d, slot = some ⟨.zset z, d⟩ ∧ ZSet.ScoredBy f z := by
  rcases slot with _ | ⟨value, d⟩
  · exact Or.inl rfl
  · obtain ⟨z, hz, hscore⟩ := h _ rfl
    exact Or.inr ⟨z, d, by rw [← hz], hscore⟩

theorem scored_zset {z : ZSet μ} {d : Option ℤ} (h : ZSet.ScoredBy f z) :
    Scored f (some ⟨.zset z, d⟩ : Slot μ β) := by
  intro e he
  cases he
  exact ⟨z, rfl, h⟩

/-- Either the deadline has passed and the key is gone, or the key is as it was. -/
theorem live_cases (slot : Slot μ β) (now : ℤ) :
    ((∃ d, slot.deadline = some d ∧ d < now) ∧ slot.live now = none) ∨
      ((∀ d, slot.deadline = some d → now ≤ d) ∧ slot.live now = slot) := by
  rcases slot with _ | ⟨value, _ | d⟩
  · exact Or.inr ⟨by simp, rfl⟩
  · exact Or.inr ⟨by simp [deadline], rfl⟩
  · by_cases h : now ≤ d
    · exact Or.inr ⟨by simpa [deadline] using h, by simp [live, h]⟩
    · exact Or.inl ⟨⟨d, rfl, not_le.1 h⟩, by simp [live, h]⟩

theorem Scored.live (h : Scored f slot) (now : ℤ) : Scored f (slot.live now) := by
  rcases live_cases slot now with ⟨-, hlive⟩ | ⟨-, hlive⟩
  · rw [hlive]
    exact scored_none
  · rwa [hlive]

theorem deadline_expire {ttl d : ℤ} (h : (slot.expire now ttl).deadline = some d) :
    d = now + ttl := by
  rw [expire] at h
  cases hlive : slot.live now with
  | none => simp [hlive] at h
  | some e => simpa [hlive, deadline, eq_comm] using h

theorem Scored.expire (h : Scored f slot) (now ttl : ℤ) : Scored f (slot.expire now ttl) := by
  rw [Slot.expire]
  rcases (h.live now).cases with hlive | ⟨z, d, hlive, hscore⟩
  · rw [hlive]
    exact scored_none
  · rw [hlive]
    exact scored_zset hscore

variable [DecidableEq μ]

/-- What `ZREMRANGEBYSCORE` leaves. The deadline goes with the last member. -/
theorem zremrangebyscore_spec (h : Scored f slot) (now : ℤ) (lo hi : ℚ) :
    ∃ slot', slot.zremrangebyscore now lo hi = .ok slot' ∧ Scored f slot' ∧
      (∀ m, m ∈ slot'.members ↔ m ∈ (slot.live now).members ∧ ¬(lo ≤ f m ∧ f m ≤ hi)) ∧
      (∀ d, slot'.deadline = some d → (slot.live now).deadline = some d ∧ slot'.members.Nonempty) := by
  rw [zremrangebyscore]
  rcases (h.live now).cases with hlive | ⟨z, d, hlive, hscore⟩
  · rw [hlive]
    exact ⟨none, rfl, scored_none, by simp, by simp⟩
  · rw [hlive]
    have hmem := fun m => ZSet.members_trim hscore lo hi (m := m)
    by_cases hempty : (z.trim lo hi).rows = []
    · refine ⟨none, by simp [hempty], scored_none, ?_, by simp⟩
      intro m
      have hno : (z.trim lo hi).members = ∅ := ZSet.members_eq_empty.2 hempty
      rw [members_none]
      exact (hno ▸ hmem m :)
    · refine ⟨some ⟨.zset (z.trim lo hi), d⟩, by simp [hempty], scored_zset (hscore.trim lo hi), hmem,
        fun d' hd' => ⟨hd', ?_⟩⟩
      exact Finset.nonempty_iff_ne_empty.2 fun hno => hempty (ZSet.members_eq_empty.1 hno)

/-- What `ZADD` leaves. A new key has no deadline. -/
theorem zadd_spec (h : Scored f slot) (now : ℤ) (m : μ) :
    ∃ slot', slot.zadd now (f m) m = .ok slot' ∧ Scored f slot' ∧
      (∀ m', m' ∈ slot'.members ↔ m' = m ∨ m' ∈ (slot.live now).members) ∧
      slot'.deadline = (slot.live now).deadline := by
  rw [zadd]
  rcases (h.live now).cases with hlive | ⟨z, d, hlive, hscore⟩
  · rw [hlive]
    have hempty : ZSet.ScoredBy f (Table.empty : ZSet μ) := fun p hp => by cases hp
    refine ⟨_, rfl, scored_zset (hempty.add m), fun m' => ?_, rfl⟩
    exact ZSet.members_add.trans (by simp [ZSet.members, Table.empty])
  · rw [hlive]
    exact ⟨_, rfl, scored_zset (hscore.add m), fun m' => ZSet.members_add, rfl⟩

theorem members_expire (slot : Slot μ β) (now ttl : ℤ) :
    (slot.expire now ttl).members = (slot.live now).members := by
  rw [expire]
  rcases slot.live now with _ | ⟨_ | _, _⟩ <;> rfl

theorem zcard_spec (h : Scored f slot) (now : ℤ) :
    slot.zcard now = .ok (slot.live now).members.card := by
  rw [zcard]
  rcases (h.live now).cases with hlive | ⟨z, d, hlive, -⟩
  · rw [hlive]
    rfl
  · rw [hlive]
    exact congrArg _ (ZSet.card_members z).symm

end Slot

/-- A store: a slot for every key. -/
abbrev Store (κ μ β : Type) := κ → Slot μ β

end OfflinePay.Redis
