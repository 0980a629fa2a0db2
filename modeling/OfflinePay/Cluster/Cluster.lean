import OfflinePay.Common.Run

/-!
# The settlement cluster

Reference: `internal/cluster/cluster.go`.

Three nodes with a log each, and the name of the leader. A node has a lock of its own and the
cluster has one for the map and `LeaderID`; a move below is one critical section, so that any number
of calls of `ProposeCommand` and `RecoverNode` can interleave. `CrashNode` is one section of the
cluster's lock. So is `runElection`, once its timeout is over; it is taken as one move. A
replicating goroutine holds the lock of its node while it waits.

`ProposeCommand` returns when its context is done, but the goroutines it has started go on.
-/

namespace OfflinePay

/-- The names of the nodes. -/
inductive NodeID where
  | nodeA | nodeB | nodeC
deriving DecidableEq, Repr

namespace NodeID

/-- The keys of `Nodes`. -/
def all : List NodeID := [nodeA, nodeB, nodeC]

theorem mem_all (id : NodeID) : id ∈ all := by
  cases id <;> decide

theorem nodup_all : all.Nodup := by decide

end NodeID

/-- A node. -/
structure SettlementNode where
  isLeader : Bool := false
  crashed : Bool := false
  log : List String := []
  commitIdx : ℕ := 0

/-- The nodes and the leader. -/
structure Cluster where
  nodes : NodeID → SettlementNode
  leaderID : NodeID

namespace Cluster

/-- `NewCluster`. -/
def new : Cluster where
  nodes
    | .nodeA => { isLeader := true }
    | _ => {}
  leaderID := .nodeA

/-- One node changes. -/
def update (c : Cluster) (id : NodeID) (f : SettlementNode → SettlementNode) : Cluster :=
  { c with nodes := Function.update c.nodes id (f (c.nodes id)) }

@[simp]
theorem leaderID_update (c : Cluster) (id : NodeID) (f : SettlementNode → SettlementNode) :
    (c.update id f).leaderID = c.leaderID := rfl

theorem nodes_update (c : Cluster) (id id' : NodeID) (f : SettlementNode → SettlementNode) :
    (c.update id f).nodes id' = if id' = id then f (c.nodes id) else c.nodes id' :=
  Function.update_apply _ _ _ _

/-- A column of the nodes that the change leaves alone. -/
theorem update_congr {α : Type} {g : SettlementNode → α} {c : Cluster} {id : NodeID}
    {f : SettlementNode → SettlementNode} (hf : g (f (c.nodes id)) = g (c.nodes id))
    (id' : NodeID) :
    g ((c.update id f).nodes id') = g (c.nodes id') := by
  rw [nodes_update]
  split
  · next h => rw [hf, h]
  · rfl

/-! ## What is done in one critical section -/

/-- The check of `ProposeCommand` on the leader it has looked up. -/
def available (c : Cluster) (leader : NodeID) : Bool :=
  !(c.nodes leader).crashed && (c.nodes leader).isLeader

/-- The leader appends the command; the new entry is at `logIdx`. -/
def appendOwn (c : Cluster) (leader : NodeID) (cmd : String) : Cluster :=
  c.update leader fun node => { node with log := node.log ++ [cmd] }

/-- A follower appends the command, if it is not crashed. -/
def replicate (c : Cluster) (id : NodeID) (cmd : String) (logIdx : ℕ) : Cluster :=
  c.update id fun node => { node with log := node.log ++ [cmd], commitIdx := logIdx }

/-- The leader commits. -/
def commit (c : Cluster) (leader : NodeID) (logIdx : ℕ) : Cluster :=
  c.update leader fun node => { node with commitIdx := logIdx }

/-- `CrashNode` sets the flag. -/
def crash (c : Cluster) (id : NodeID) : Cluster :=
  c.update id fun node => { node with crashed := true }

/-- `RecoverNode` clears the flag. -/
def clearCrashed (c : Cluster) (id : NodeID) : Cluster :=
  c.update id fun node => { node with crashed := false }

/-- `RecoverNode` writes what it has copied from the leader. -/
def restore (c : Cluster) (id : NodeID) (log : List String) (commitIdx : ℕ) : Cluster :=
  c.update id fun node => { node with log, commitIdx }

/-- The loop of `runElection` over the nodes, in some order: the best candidate and the size of its
log. -/
def bestCandidate (c : Cluster) (order : List NodeID) : Option NodeID × ℤ :=
  order.foldl (fun best id =>
    if !(c.nodes id).crashed && best.2 < (c.nodes id).log.length then
      (some id, ((c.nodes id).log.length : ℤ))
    else best) (none, -1)

/-- `runElection` after its timeout. The order in which a map is run through is not specified. -/
def runElection (c : Cluster) (order : List NodeID) : Cluster :=
  let reset : Cluster := { c with nodes := fun id => { c.nodes id with isLeader := false } }
  match (c.bestCandidate order).1 with
  | some best => { reset.update best (fun node => { node with isLeader := true }) with leaderID := best }
  | none => reset

theorem bestCandidate_append (c : Cluster) (order : List NodeID) (id : NodeID) :
    c.bestCandidate (order ++ [id]) =
      if !(c.nodes id).crashed && (c.bestCandidate order).2 < (c.nodes id).log.length then
        (some id, ((c.nodes id).log.length : ℤ))
      else c.bestCandidate order := by
  rw [bestCandidate, List.foldl_append]
  rfl

/-- A node that is not crashed is elected, unless there is none. -/
theorem bestCandidate_spec (c : Cluster) (order : List NodeID) :
    (∃ best, (c.bestCandidate order).1 = some best ∧ (c.nodes best).crashed = false) ∨
      c.bestCandidate order = (none, -1) ∧ ∀ id ∈ order, (c.nodes id).crashed = true := by
  induction order using List.reverseRecOn with
  | nil => exact .inr ⟨rfl, by simp⟩
  | append_singleton order id ih =>
    rw [bestCandidate_append]
    split
    · next hbetter =>
      simp only [Bool.and_eq_true, Bool.not_eq_true'] at hbetter
      exact .inl ⟨id, rfl, hbetter.1⟩
    · next hworse =>
      obtain hbest | ⟨hnone, hcrashed⟩ := ih
      · exact .inl hbest
      · refine .inr ⟨hnone, ?_⟩
        rw [List.forall_mem_append, List.forall_mem_singleton]
        refine ⟨hcrashed, ?_⟩
        -- every log is longer than `-1`, so the node was passed over because it is crashed
        rw [hnone] at hworse
        cases hactive : (c.nodes id).crashed with
        | true => rfl
        | false =>
          refine absurd ?_ hworse
          rw [hactive, Bool.not_false, Bool.true_and, decide_eq_true_eq]
          omega

/-! ## Calls that interleave -/

/-- Where a call stands. -/
inductive Pc where
  | idle
  /-- `ProposeCommand`, before it reads `LeaderID`. -/
  | lookup (cmd : String)
  | check (cmd : String) (leader : NodeID)
  | append (cmd : String) (leader : NodeID)
  /-- Before it starts a goroutine for each node but `LeaderID`. -/
  | spawn (cmd : String) (leader : NodeID) (logIdx : ℕ)
  /-- The goroutines for `todo` are at work; `waiting` says that the call has not returned. -/
  | replicate (cmd : String) (leader : NodeID) (logIdx acks : ℕ) (todo : List NodeID)
      (waiting : Bool)
  /-- `RecoverNode`, before it clears the flag. -/
  | clear (id : NodeID)
  /-- Before it reads `LeaderID`. -/
  | source (id : NodeID)
  | copy (id leader : NodeID)
  | restore (id : NodeID) (log : List String) (commitIdx : ℕ)

/-- The cluster and the calls on it. `pending` counts the elections that wait for their timeout.
`committed` records the commands for which `ProposeCommand` has returned `nil`; it is not part of
the program. -/
structure System (ι : Type) where
  cluster : Cluster
  calls : ι → Pc
  pending : ℕ
  committed : List String

/-- The moves. -/
inductive Label (ι : Type) where
  | proposeCommand (i : ι) (cmd : String)
  | recoverNode (i : ι) (id : NodeID)
  /-- The call goes on. -/
  | run (i : ι)
  /-- One of the call's goroutines runs. -/
  | replicate (i : ι) (id : NodeID)
  /-- The context of the call is done. -/
  | cancel (i : ι)
  | crashNode (id : NodeID)
  | runElection (order : List NodeID)

namespace System

variable {ι : Type} [DecidableEq ι]

/-- The call goes to another place. -/
def goto (s : System ι) (i : ι) (pc : Pc) : System ι :=
  { s with calls := Function.update s.calls i pc }

@[simp]
theorem calls_goto (s : System ι) (i j : ι) (pc : Pc) :
    (s.goto i pc).calls j = if j = i then pc else s.calls j :=
  Function.update_apply _ _ _ _

@[simp]
theorem cluster_goto (s : System ι) (i : ι) (pc : Pc) : (s.goto i pc).cluster = s.cluster := rfl

/-- The call goes on. -/
def runCall (s : System ι) (i : ι) : System ι :=
  match s.calls i with
  | .lookup cmd => s.goto i (.check cmd s.cluster.leaderID)
  | .check cmd leader =>
    if s.cluster.available leader then s.goto i (.append cmd leader)
    else s.goto i .idle
  | .append cmd leader =>
    { s with cluster := s.cluster.appendOwn leader cmd }.goto i
      (.spawn cmd leader (s.cluster.nodes leader).log.length)
  | .spawn cmd leader logIdx =>
    s.goto i (.replicate cmd leader logIdx 1 (NodeID.all.filter (· ≠ s.cluster.leaderID)) true)
  | .replicate cmd leader logIdx acks [] waiting =>
    if waiting && 2 ≤ acks then
      { s with
        cluster := s.cluster.commit leader logIdx
        committed := s.committed ++ [cmd] }.goto i .idle
    else s.goto i .idle
  | .clear id => { s with cluster := s.cluster.clearCrashed id }.goto i (.source id)
  | .source id => s.goto i (.copy id s.cluster.leaderID)
  | .copy id leader =>
    s.goto i (.restore id (s.cluster.nodes leader).log (s.cluster.nodes leader).commitIdx)
  | .restore id log commitIdx =>
    { s with cluster := s.cluster.restore id log commitIdx }.goto i .idle
  | _ => s

/-- One move. A move that cannot be made does nothing. -/
def step (s : System ι) : Label ι → System ι
  | .proposeCommand i cmd =>
    match s.calls i with
    | .idle => s.goto i (.lookup cmd)
    | _ => s
  | .recoverNode i id =>
    match s.calls i with
    | .idle => s.goto i (.clear id)
    | _ => s
  | .run i => s.runCall i
  | .replicate i id =>
    match s.calls i with
    | .replicate cmd leader logIdx acks todo waiting =>
      if id ∈ todo then
        if (s.cluster.nodes id).crashed then
          s.goto i (.replicate cmd leader logIdx acks (todo.erase id) waiting)
        else
          { s with cluster := s.cluster.replicate id cmd logIdx }.goto i
            (.replicate cmd leader logIdx (acks + 1) (todo.erase id) waiting)
      else s
    | _ => s
  | .cancel i =>
    match s.calls i with
    | .replicate cmd leader logIdx acks todo _ =>
      s.goto i (.replicate cmd leader logIdx acks todo false)
    | _ => s
  | .crashNode id =>
    { s with
      cluster := s.cluster.crash id
      pending := if id = s.cluster.leaderID then s.pending + 1 else s.pending }
  | .runElection order =>
    if 0 < s.pending ∧ order.Perm NodeID.all then
      { s with cluster := s.cluster.runElection order, pending := s.pending - 1 }
    else s

/-- Everything a move can do. -/
inductive Moved (s : System ι) : Label ι → System ι → Prop where
  | stay (l : Label ι) : Moved s l s
  | propose {i : ι} {cmd : String} (hi : s.calls i = .idle) :
      Moved s (.proposeCommand i cmd) (s.goto i (.lookup cmd))
  | recover {i : ι} {id : NodeID} (hi : s.calls i = .idle) :
      Moved s (.recoverNode i id) (s.goto i (.clear id))
  | lookup {i : ι} {cmd : String} (hi : s.calls i = .lookup cmd) :
      Moved s (.run i) (s.goto i (.check cmd s.cluster.leaderID))
  | check {i : ι} {cmd : String} {leader : NodeID} (hi : s.calls i = .check cmd leader) :
      Moved s (.run i) (s.goto i (.append cmd leader))
  | refuse {i : ι} {cmd : String} {leader : NodeID} (hi : s.calls i = .check cmd leader) :
      Moved s (.run i) (s.goto i .idle)
  | append {i : ι} {cmd : String} {leader : NodeID} (hi : s.calls i = .append cmd leader) :
      Moved s (.run i) ({ s with cluster := s.cluster.appendOwn leader cmd }.goto i
        (.spawn cmd leader (s.cluster.nodes leader).log.length))
  | spawn {i : ι} {cmd : String} {leader : NodeID} {logIdx : ℕ}
      (hi : s.calls i = .spawn cmd leader logIdx) :
      Moved s (.run i) (s.goto i
        (.replicate cmd leader logIdx 1 (NodeID.all.filter (· ≠ s.cluster.leaderID)) true))
  | skip {i : ι} {id : NodeID} {cmd : String} {leader : NodeID} {logIdx acks : ℕ}
      {todo : List NodeID}
      {waiting : Bool} (hi : s.calls i = .replicate cmd leader logIdx acks todo waiting)
      (hcrashed : (s.cluster.nodes id).crashed = true) :
      Moved s (.replicate i id)
        (s.goto i (.replicate cmd leader logIdx acks (todo.erase id) waiting))
  | replicate {i : ι} {id : NodeID} {cmd : String} {leader : NodeID} {logIdx acks : ℕ}
      {todo : List NodeID} {waiting : Bool}
      (hi : s.calls i = .replicate cmd leader logIdx acks todo waiting) (hid : id ∈ todo)
      (hactive : (s.cluster.nodes id).crashed = false) :
      Moved s (.replicate i id) ({ s with cluster := s.cluster.replicate id cmd logIdx }.goto i
        (.replicate cmd leader logIdx (acks + 1) (todo.erase id) waiting))
  | cancel {i : ι} {cmd : String} {leader : NodeID} {logIdx acks : ℕ} {todo : List NodeID}
      {waiting : Bool} (hi : s.calls i = .replicate cmd leader logIdx acks todo waiting) :
      Moved s (.cancel i) (s.goto i (.replicate cmd leader logIdx acks todo false))
  | commit {i : ι} {cmd : String} {leader : NodeID} {logIdx acks : ℕ} {waiting : Bool}
      (hi : s.calls i = .replicate cmd leader logIdx acks [] waiting) :
      Moved s (.run i) ({ s with
        cluster := s.cluster.commit leader logIdx
        committed := s.committed ++ [cmd] }.goto i .idle)
  | fail {i : ι} {cmd : String} {leader : NodeID} {logIdx acks : ℕ} {waiting : Bool}
      (hi : s.calls i = .replicate cmd leader logIdx acks [] waiting) :
      Moved s (.run i) (s.goto i .idle)
  | clear {i : ι} {id : NodeID} (hi : s.calls i = .clear id) :
      Moved s (.run i) ({ s with cluster := s.cluster.clearCrashed id }.goto i (.source id))
  | source {i : ι} {id : NodeID} (hi : s.calls i = .source id) :
      Moved s (.run i) (s.goto i (.copy id s.cluster.leaderID))
  | copy {i : ι} {id leader : NodeID} (hi : s.calls i = .copy id leader) :
      Moved s (.run i) (s.goto i
        (.restore id (s.cluster.nodes leader).log (s.cluster.nodes leader).commitIdx))
  | restore {i : ι} {id : NodeID} {log : List String} {commitIdx : ℕ}
      (hi : s.calls i = .restore id log commitIdx) :
      Moved s (.run i) ({ s with cluster := s.cluster.restore id log commitIdx }.goto i .idle)
  | crash (id : NodeID) : Moved s (.crashNode id) { s with
      cluster := s.cluster.crash id
      pending := if id = s.cluster.leaderID then s.pending + 1 else s.pending }
  | elect {order : List NodeID} (hpending : 0 < s.pending) (horder : order.Perm NodeID.all) :
      Moved s (.runElection order)
        { s with cluster := s.cluster.runElection order, pending := s.pending - 1 }

theorem runCall_moved (s : System ι) (i : ι) : Moved s (.run i) (s.runCall i) := by
  unfold runCall
  split
  · next cmd hi => exact .lookup hi
  · next cmd leader hi =>
    split
    · exact .check hi
    · exact .refuse hi
  · next cmd leader hi => exact .append hi
  · next cmd leader logIdx hi => exact .spawn hi
  · next cmd leader logIdx acks waiting hi =>
    split
    · exact .commit hi
    · exact .fail hi
  · next id hi => exact .clear hi
  · next id hi => exact .source hi
  · next id leader hi => exact .copy hi
  · next id log commitIdx hi => exact .restore hi
  · exact .stay _

theorem step_moved (s : System ι) (l : Label ι) : Moved s l (s.step l) := by
  cases l with
  | proposeCommand i cmd =>
    simp only [step]
    split
    · next hi => exact .propose hi
    · exact .stay _
  | recoverNode i id =>
    simp only [step]
    split
    · next hi => exact .recover hi
    · exact .stay _
  | run i => exact s.runCall_moved i
  | replicate i id =>
    simp only [step]
    split
    · next cmd leader logIdx acks todo waiting hi =>
      split
      · next hid =>
        split
        · next hcrashed => exact .skip hi hcrashed
        · next hactive => exact .replicate hi hid (Bool.not_eq_true _ ▸ hactive)
      · exact .stay _
    · exact .stay _
  | cancel i =>
    simp only [step]
    split
    · next cmd leader logIdx acks todo waiting hi => exact .cancel hi
    · exact .stay _
  | crashNode id => exact .crash id
  | runElection order =>
    simp only [step]
    split
    · next h => exact .elect h.1 h.2
    · exact .stay _

/-- A new cluster. -/
def start : System ι := ⟨.new, fun _ => .idle, 0, []⟩

/-- The state after a run. -/
abbrev exec (s : System ι) (ls : List (Label ι)) : System ι := Run.exec step s ls

end System

end Cluster

end OfflinePay
