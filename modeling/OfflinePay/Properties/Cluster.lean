import OfflinePay.Cluster.Cluster

/-!
# Leadership and logs of the cluster

A crash of the leader starts an election, and an election that finds an active node leaves a leader.
An election that finds none leaves nobody, and nobody starts another one when a node comes back.

Logs are kept equal by copying the leader's: a follower appends what the leader appends, and a
recovering node takes the leader's whole log. `SyncedBut` says which nodes may differ from the
leader meanwhile. It is kept as long as the calls that copy do not overlap with those that append.
-/

namespace OfflinePay.Cluster

/-! ## Leadership -/

/-- Nobody but `LeaderID` has the flag. -/
def Flagged (c : Cluster) : Prop := ∀ id, (c.nodes id).isLeader = true → id = c.leaderID

/-- The flags of the nodes and the name of the leader: what leadership is about. -/
structure SameFlags (c c' : Cluster) : Prop where
  leaderID : c'.leaderID = c.leaderID
  isLeader : ∀ id, (c'.nodes id).isLeader = (c.nodes id).isLeader
  crashed : ∀ id, (c'.nodes id).crashed = (c.nodes id).crashed

theorem SameFlags.refl (c : Cluster) : c.SameFlags c := ⟨rfl, fun _ => rfl, fun _ => rfl⟩

theorem SameFlags.update {c : Cluster} {id : NodeID} {f : SettlementNode → SettlementNode}
    (hleader : (f (c.nodes id)).isLeader = (c.nodes id).isLeader)
    (hcrashed : (f (c.nodes id)).crashed = (c.nodes id).crashed) : c.SameFlags (c.update id f) :=
  ⟨rfl, update_congr (g := (·.isLeader)) hleader, update_congr (g := (·.crashed)) hcrashed⟩

theorem Flagged.congr {c c' : Cluster} (h : c.Flagged) (hleader : c'.leaderID = c.leaderID)
    (hflags : ∀ id, (c'.nodes id).isLeader = (c.nodes id).isLeader) : c'.Flagged := by
  intro id hid
  rw [hflags] at hid
  exact (h id hid).trans hleader.symm

theorem Flagged.update {c : Cluster} (h : c.Flagged) {id : NodeID}
    {f : SettlementNode → SettlementNode}
    (hf : (f (c.nodes id)).isLeader = (c.nodes id).isLeader) : (c.update id f).Flagged :=
  h.congr rfl (update_congr (g := (·.isLeader)) hf)

/-- An election leaves one flag, or none. -/
theorem runElection_flagged (c : Cluster) (order : List NodeID) :
    (c.runElection order).Flagged := by
  intro id hid
  unfold runElection at hid ⊢
  split at hid
  · next best _ =>
    rw [nodes_update] at hid
    split at hid
    · next h => exact h
    · cases hid
  · cases hid

/-- An election that finds an active node leaves a leader. -/
theorem runElection_available {c : Cluster} {order : List NodeID} (horder : order.Perm NodeID.all)
    (hactive : ∃ id, (c.nodes id).crashed = false) :
    (c.runElection order).available (c.runElection order).leaderID = true := by
  obtain ⟨best, hbest, hcrashed⟩ | ⟨-, hall⟩ := c.bestCandidate_spec order
  · simp [runElection, hbest, available, nodes_update, hcrashed]
  · obtain ⟨id, hid⟩ := hactive
    rw [hall id (horder.mem_iff.mpr id.mem_all)] at hid
    cases hid

namespace System

variable {ι : Type} [DecidableEq ι]

/-- Only `LeaderID` has the flag, and it leads unless an election is pending. -/
structure Led (s : System ι) : Prop where
  flagged : s.cluster.Flagged
  ready : 0 < s.pending ∨ s.cluster.available s.cluster.leaderID = true

/-- An election runs only when some node is not crashed. -/
def Attended (s : System ι) : Label ι → Prop
  | .runElection _ => ∃ id, (s.cluster.nodes id).crashed = false
  | _ => True

omit [DecidableEq ι] in
theorem Led.congr {s s' : System ι} (h : s.Led) (hpending : s'.pending = s.pending)
    (hflags : s.cluster.SameFlags s'.cluster) : s'.Led where
  flagged := h.flagged.congr hflags.leaderID hflags.isLeader
  ready := by
    rw [hpending, available, hflags.leaderID, hflags.isLeader, hflags.crashed]
    exact h.ready

omit [DecidableEq ι] in
/-- If the leader crashes, an election is pending. -/
theorem Led.crash {s : System ι} (h : s.Led) (id : NodeID) :
    Led { s with
      cluster := s.cluster.crash id
      pending := if id = s.cluster.leaderID then s.pending + 1 else s.pending } where
  flagged := show (s.cluster.crash id).Flagged from h.flagged.update rfl
  ready := by
    dsimp only
    split
    · exact .inl (Nat.succ_pos _)
    · next hid =>
      refine h.ready.imp_right fun hready => ?_
      rw [available, Cluster.crash, leaderID_update, nodes_update, if_neg (Ne.symm hid)]
      exact hready

omit [DecidableEq ι] in
/-- A node that comes back takes nothing from the leader. -/
theorem Led.clear {s : System ι} (h : s.Led) (id : NodeID) (calls : ι → Pc) :
    Led { s with cluster := s.cluster.clearCrashed id, calls } where
  flagged := show (s.cluster.clearCrashed id).Flagged from h.flagged.update rfl
  ready := by
    refine h.ready.imp_right fun hready => ?_
    rw [available, Bool.and_eq_true] at hready
    rw [available, clearCrashed, leaderID_update, nodes_update]
    split
    · next hid => simp [← hid, hready]
    · simp [hready]

theorem Led.moved {s s' : System ι} (h : s.Led) {l : Label ι} (hl : s.Attended l)
    (hmoved : Moved s l s') : s'.Led := by
  cases hmoved with
  | append | replicate | commit | restore =>
    refine h.congr rfl ?_
    simp only [cluster_goto]
    exact .update rfl rfl
  | clear => exact h.clear _ _
  | crash id => exact h.crash id
  | elect hpending horder =>
    exact ⟨runElection_flagged _ _, .inr (runElection_available horder hl)⟩
  | _ => exact h.congr rfl (.refl _)

omit [DecidableEq ι] in
theorem start_led : (start : System ι).Led where
  flagged := by
    intro id hid
    cases id with
    | nodeA => rfl
    | nodeB => cases hid
    | nodeC => cases hid
  ready := .inr rfl

/-- If every election finds an active node, then there is a leader whenever no election is pending,
and no other node has the flag. -/
theorem not_leaderless {ls : List (Label ι)} (h : Run.Steps step Attended start ls)
    (hpending : (start.exec ls).pending = 0) :
    let c := (start.exec ls).cluster
    (c.nodes c.leaderID).crashed = false ∧ (∀ id, (c.nodes id).isLeader = true ↔ id = c.leaderID) ∧
      c.available c.leaderID = true := by
  intro c
  have hled : (start.exec ls).Led := 
    Run.exec_invariant (fun s l hs hl => hs.moved hl (s.step_moved l)) start_led h
  have hready : c.available c.leaderID = true := by
    obtain hpos | hready := hled.ready
    · exact absurd hpending hpos.ne'
    · exact hready
  have hflags := hready
  rw [available, Bool.and_eq_true, Bool.not_eq_true'] at hflags
  refine ⟨hflags.1, fun id => ⟨hled.flagged id, ?_⟩, hready⟩
  rintro rfl
  exact hflags.2

/-- All three nodes crash, the election finds nobody, and then a node comes back. -/
def leaderlessRun : List (Label Unit) :=
  [.crashNode .nodeA, .crashNode .nodeB, .crashNode .nodeC, .runElection NodeID.all,
    .recoverNode () .nodeB, .run (), .run (), .run (), .run ()]

theorem not_leaderless_elected :
    let s : System Unit := start.exec [.crashNode .nodeA, .runElection NodeID.all]
    s.pending = 0 ∧ (s.cluster.nodes s.cluster.leaderID).crashed = false ∧
      (∀ id, (s.cluster.nodes id).isLeader = true ↔ id = s.cluster.leaderID) ∧
      s.cluster.available s.cluster.leaderID = true :=
  ⟨rfl, not_leaderless ⟨trivial, ⟨.nodeB, rfl⟩, trivial⟩ rfl⟩

theorem recovered_leaderless :
    let s : System Unit := start.exec leaderlessRun
    s.pending = 0 ∧ (s.cluster.nodes .nodeB).crashed = false ∧
      (s.cluster.nodes s.cluster.leaderID).crashed = true ∧
      s.cluster.available s.cluster.leaderID = false := by
  decide

end System

/-! ## Logs -/

/-- The log of the leader. -/
def leaderLog (c : Cluster) : List String := (c.nodes c.leaderID).log

/-- Every log is a part of the leader's, and those of active nodes are all of it, but for the nodes
in `busy`. -/
structure SyncedBut (c : Cluster) (busy : NodeID → Prop) : Prop where
  logs : ∀ id, (c.nodes id).log <+: c.leaderLog
  commits : ∀ id, (c.nodes id).commitIdx ≤ (c.nodes id).log.length - 1
  synced : ∀ id, (c.nodes id).crashed = false → busy id ∨ (c.nodes id).log = c.leaderLog

section SyncedBut

variable {c : Cluster} {busy : NodeID → Prop}

theorem SyncedBut.mono (h : c.SyncedBut busy) {busy' : NodeID → Prop}
    (hbusy : ∀ id, busy id → busy' id) :
    c.SyncedBut busy' :=
  ⟨h.logs, h.commits, fun id hid => (h.synced id hid).imp_left (hbusy id)⟩

theorem leaderLog_update (c : Cluster) (id : NodeID) (f : SettlementNode → SettlementNode) :
    (c.update id f).leaderLog = if c.leaderID = id then (f (c.nodes id)).log else c.leaderLog := by
  rw [leaderLog, leaderID_update, nodes_update, leaderLog, apply_ite SettlementNode.log]

theorem leaderLog_update_of_eq {id : NodeID} {f : SettlementNode → SettlementNode}
    (h : c.leaderID = id → (f (c.nodes id)).log = c.leaderLog) :
    (c.update id f).leaderLog = c.leaderLog := by
  rw [leaderLog_update]
  split
  · next hid => exact h hid
  · rfl

/-- One node changes, and the leader's log does not. -/
theorem SyncedBut.update (h : c.SyncedBut busy) {busy' : NodeID → Prop} {id : NodeID}
    {f : SettlementNode → SettlementNode}
    (hleader : c.leaderID = id → (f (c.nodes id)).log = c.leaderLog)
    (hlog : (f (c.nodes id)).log <+: c.leaderLog)
    (hcommit : (f (c.nodes id)).commitIdx ≤ (f (c.nodes id)).log.length - 1)
    (hsynced : (f (c.nodes id)).crashed = false → busy' id ∨ (f (c.nodes id)).log = c.leaderLog)
    (hbusy : ∀ id', id' ≠ id → busy id' → busy' id') : (c.update id f).SyncedBut busy' := by
  have hsame := leaderLog_update_of_eq hleader
  refine ⟨fun id' => ?_, fun id' => ?_, fun id' => ?_⟩ <;> rw [nodes_update] <;> split
  · rwa [hsame]
  · rw [hsame]
    exact h.logs id'
  · exact hcommit
  · exact h.commits id'
  · next hid =>
    rw [hsame, hid]
    exact hsynced
  · next hid =>
    rw [hsame]
    exact fun hactive => (h.synced id' hactive).imp_left (hbusy id' hid)

theorem SyncedBut.crash (h : c.SyncedBut busy) (id : NodeID) : (c.crash id).SyncedBut busy :=
  h.update (fun hid => by rw [leaderLog, hid]) (h.logs id) (h.commits id) (by simp) fun _ _ hbusy => hbusy

/-- A node that comes back may be behind. -/
theorem SyncedBut.clearCrashed (h : c.SyncedBut busy) {id : NodeID} (hid : busy id) :
    (c.clearCrashed id).SyncedBut busy :=
  h.update (fun hid => by rw [leaderLog, hid]) (h.logs id) (h.commits id) (fun _ => .inl hid)
    fun _ _ hbusy => hbusy

/-- It is not, once it has the leader's log. -/
theorem SyncedBut.restore (h : c.SyncedBut busy) {busy' : NodeID → Prop} {id : NodeID}
    {log : List String} {commitIdx : ℕ} (hlog : log = c.leaderLog)
    (hcommit : commitIdx ≤ log.length - 1)
    (hbusy : ∀ id', id' ≠ id → busy id' → busy' id') :
    (c.restore id log commitIdx).SyncedBut busy' :=
  h.update (fun _ => hlog) (hlog ▸ List.prefix_rfl) hcommit (fun _ => .inr hlog) hbusy

theorem leaderLog_appendOwn (c : Cluster) (cmd : String) :
    (c.appendOwn c.leaderID cmd).leaderLog = c.leaderLog ++ [cmd] := by
  rw [appendOwn, leaderLog_update, if_pos rfl, leaderLog]

/-- The leader is ahead of the others. -/
theorem SyncedBut.appendOwn (h : c.SyncedBut busy) (cmd : String) :
    (c.appendOwn c.leaderID cmd).SyncedBut (· ≠ c.leaderID) := by
  refine ⟨fun id => ?_, fun id => ?_, fun id _ => ?_⟩
  · rw [leaderLog_appendOwn, Cluster.appendOwn, nodes_update]
    split
    · exact List.prefix_rfl
    · exact (h.logs id).trans (List.prefix_append _ _)
  · rw [Cluster.appendOwn, nodes_update]
    split
    · have hcommit := h.commits c.leaderID
      simp only [List.length_append, List.length_singleton]
      omega
    · exact h.commits id
  · by_cases hid : id = c.leaderID
    · right
      rw [leaderLog_appendOwn, Cluster.appendOwn, nodes_update, if_pos hid, leaderLog]
    · exact .inl hid

/-- A follower that had all but the last command has that too. -/
theorem SyncedBut.replicate (h : c.SyncedBut busy) {busy' : NodeID → Prop} {id : NodeID}
    {cmd : String}
    (hlog : (c.nodes id).log ++ [cmd] = c.leaderLog)
    (hbusy : ∀ id', id' ≠ id → busy id' → busy' id') :
    (c.replicate id cmd (c.nodes id).log.length).SyncedBut busy' :=
  h.update (fun _ => hlog) (hlog ▸ List.prefix_rfl) (by simp) (fun _ => .inr hlog) hbusy

theorem SyncedBut.commit (h : c.SyncedBut busy) {logIdx : ℕ} (hidx : logIdx < c.leaderLog.length) :
    (c.commit c.leaderID logIdx).SyncedBut busy :=
  h.update (fun _ => rfl) (h.logs _) (Nat.le_sub_one_of_lt hidx) (h.synced c.leaderID)
    fun _ _ hbusy => hbusy

/-- An election changes the flags only. -/
theorem nodes_runElection (c : Cluster) (order : List NodeID) (id : NodeID) :
    ∃ leads, (c.runElection order).nodes id = { c.nodes id with isLeader := leads } := by
  unfold runElection
  split
  · dsimp only
    rw [nodes_update]
    split
    · next hid => exact ⟨true, by rw [hid]⟩
    · exact ⟨false, rfl⟩
  · exact ⟨false, rfl⟩

/-- Whoever is elected has the leader's log. -/
theorem SyncedBut.leaderLog_runElection (h : c.SyncedBut fun _ => False) (order : List NodeID) :
    (c.runElection order).leaderLog = c.leaderLog := by
  obtain ⟨_, hnode⟩ := c.nodes_runElection order (c.runElection order).leaderID
  rw [leaderLog, hnode]
  obtain ⟨best, hbest, hactive⟩ | ⟨hnone, -⟩ := c.bestCandidate_spec order
  · have hleader : (c.runElection order).leaderID = best := by simp [Cluster.runElection, hbest]
    rw [hleader]
    exact (h.synced best hactive).resolve_left not_false
  · have hleader : (c.runElection order).leaderID = c.leaderID := by
      simp [Cluster.runElection, hnone]
    rw [hleader, leaderLog]

theorem SyncedBut.runElection (h : c.SyncedBut fun _ => False) (order : List NodeID) :
    (c.runElection order).SyncedBut fun _ => False := by
  have hleader := h.leaderLog_runElection order
  refine ⟨fun id => ?_, fun id => ?_, fun id => ?_⟩ <;>
    obtain ⟨_, hnode⟩ := c.nodes_runElection order id <;> rw [hnode]
  · rw [hleader]
    exact h.logs id
  · exact h.commits id
  · rw [hleader]
    exact h.synced id

theorem new_syncedBut (busy : NodeID → Prop) : new.SyncedBut busy := by
  refine ⟨fun id => ?_, fun id => ?_, fun id _ => .inr ?_⟩ <;> cases id <;> decide

end SyncedBut

/-! ## Calls that do not overlap -/

/-- `ProposeCommand` or a goroutine of it is under way. -/
def Pc.proposing : Pc → Bool
  | .lookup _ | .check _ _ | .append _ _ | .spawn _ _ _ | .replicate _ _ _ _ _ _ => true
  | _ => false

/-- The call will still change the log of the node. -/
def Pc.touches (id : NodeID) : Pc → Prop
  | .spawn _ leader _ => id ≠ leader
  | .replicate _ _ _ _ todo _ => id ∈ todo
  | .clear id' | .source id' | .copy id' _ | .restore id' _ _ => id = id'
  | _ => False

/-- The leader has appended the command at `logIdx` and the nodes of `todo` have not. -/
def Replicating (c : Cluster) (cmd : String) (logIdx : ℕ) (todo : NodeID → Prop) : Prop :=
  ∃ before, c.leaderLog = before ++ [cmd] ∧ logIdx = before.length ∧
    ∀ id, todo id → (c.nodes id).crashed = false → (c.nodes id).log = before

/-- What a call relies on. -/
def Supports (c : Cluster) : Pc → Prop
  | .check _ leader | .append _ leader | .copy _ leader => leader = c.leaderID
  | .spawn cmd leader logIdx => leader = c.leaderID ∧ c.Replicating cmd logIdx (· ≠ leader)
  | .replicate cmd leader logIdx _ todo _ =>
    leader = c.leaderID ∧ todo.Nodup ∧ c.Replicating cmd logIdx (· ∈ todo)
  | .restore _ log commitIdx => log = c.leaderLog ∧ commitIdx ≤ log.length - 1
  | _ => True

/-- Recovering calls rely on the leader's log only. -/
theorem Supports.congr {c c' : Cluster} {pc : Pc} (h : c.Supports pc) (hpc : pc.proposing = false)
    (hleader : c'.leaderID = c.leaderID) (hlog : c'.leaderLog = c.leaderLog) : c'.Supports pc := by
  cases pc with
  | copy id leader => exact h.trans hleader.symm
  | restore id log commitIdx => exact ⟨h.1.trans hlog.symm, h.2⟩
  | idle | clear | source => trivial
  | lookup | check | append | spawn | replicate => cases hpc

theorem leaderLog_crash (c : Cluster) (id : NodeID) : (c.crash id).leaderLog = c.leaderLog :=
  leaderLog_update_of_eq fun hid => by rw [leaderLog, hid]

theorem Replicating.crash {c : Cluster} {cmd : String} {logIdx : ℕ} {todo : NodeID → Prop}
    (h : c.Replicating cmd logIdx todo) (id : NodeID) :
    (c.crash id).Replicating cmd logIdx todo := by
  obtain ⟨before, hlog, hidx, hbehind⟩ := h
  refine ⟨before, (leaderLog_crash c id).trans hlog, hidx, fun id' htodo hactive => ?_⟩
  rw [Cluster.crash, nodes_update] at hactive ⊢
  split at hactive
  · cases hactive
  · next hid =>
    rw [if_neg hid]
    exact hbehind id' htodo hactive

/-- No call relies on a node being up. -/
theorem Supports.crash {c : Cluster} {pc : Pc} (h : c.Supports pc) (id : NodeID) :
    (c.crash id).Supports pc := by
  cases pc with
  | check | append => exact h
  | spawn => exact ⟨h.1, h.2.crash id⟩
  | replicate => exact ⟨h.1, h.2.1, h.2.2.crash id⟩
  | lookup => trivial
  | _ => exact h.congr rfl rfl (leaderLog_crash c id)

namespace System

variable {ι : Type} [DecidableEq ι]

/-- `ProposeCommand` and `runElection` start only when no call is under way, `RecoverNode` only when
no `ProposeCommand` is. -/
def Exclusive (s : System ι) : Label ι → Prop
  | .proposeCommand _ _ | .runElection _ => ∀ i, s.calls i = .idle
  | .recoverNode _ _ => ∀ i, (s.calls i).proposing = false
  | _ => True

/-- A call will still change the log of the node. -/
def Busy (s : System ι) (id : NodeID) : Prop := ∃ i, (s.calls i).touches id

/-- Committed commands are in the leader's log, and all logs follow it. -/
structure Synced (s : System ι) : Prop where
  flagged : s.cluster.Flagged
  logs : s.cluster.SyncedBut s.Busy
  committed : ∀ cmd ∈ s.committed, cmd ∈ s.cluster.leaderLog
  alone : ∀ i, (s.calls i).proposing = true → ∀ j, j ≠ i → s.calls j = .idle
  supports : ∀ i, s.cluster.Supports (s.calls i)

/-- Who is busy after a call has gone on. -/
theorem Busy.goto {s : System ι} {i : ι} {pc pc' : Pc} (hi : s.calls i = pc) {id : NodeID}
    (h : s.Busy id) (htouches : pc.touches id → pc'.touches id) : (s.goto i pc').Busy id := by
  obtain ⟨j, hj⟩ := h
  by_cases hji : j = i
  · subst hji
    exact ⟨j, by rw [calls_goto, if_pos rfl]; exact htouches (hi ▸ hj)⟩
  · exact ⟨j, by rwa [calls_goto, if_neg hji]⟩

/-- The call can go to this place without meeting a call that it must not overlap with. -/
def Admits (s : System ι) (i : ι) (pc : Pc) : Prop :=
  (pc.proposing = true → ∀ j, j ≠ i → s.calls j = .idle) ∧
    (pc ≠ .idle → ∀ j, j ≠ i → (s.calls j).proposing = false)

section Synced

variable {s : System ι} {i : ι} {pc pc' : Pc} {c : Cluster}

omit [DecidableEq ι] in
theorem admits_idle (s : System ι) (i : ι) : s.Admits i .idle := by simp [Admits, Pc.proposing]

omit [DecidableEq ι] in
theorem Synced.supports_at (h : s.Synced) (hi : s.calls i = pc) : s.cluster.Supports pc :=
  hi ▸ h.supports i

omit [DecidableEq ι] in
/-- Nobody else proposes while a call is under way. -/
theorem Synced.notProposing (h : s.Synced) (hi : s.calls i = pc) (hbusy : pc ≠ .idle) (j : ι)
    (hj : j ≠ i) : (s.calls j).proposing = false := by
  cases hother : (s.calls j).proposing with
  | false => rfl
  | true => exact absurd (hi ▸ h.alone j hother i hj.symm) hbusy

omit [DecidableEq ι] in
/-- A call that is under way goes on. -/
theorem Synced.admits (h : s.Synced) (hi : s.calls i = pc) (hbusy : pc ≠ .idle)
    (hproposing : pc'.proposing = true → pc.proposing = true) : s.Admits i pc' :=
  ⟨fun hpc => h.alone i (hi ▸ hproposing hpc), fun _ => h.notProposing hi hbusy⟩

/-- A call goes on: what has to be shown. -/
theorem Synced.move (h : s.Synced) {committed : List String} (hadmits : s.Admits i pc')
    (hflagged : c.Flagged) (hlogs : c.SyncedBut (s.goto i pc').Busy)
    (hcommitted : ∀ cmd ∈ committed, cmd ∈ c.leaderLog) (hsupports : c.Supports pc')
    (hothers : ∀ j, j ≠ i → c.Supports (s.calls j)) :
    Synced ({ s with cluster := c, committed }.goto i pc') where
  flagged := hflagged
  logs := hlogs
  committed := hcommitted
  alone := by
    intro j hj k hk
    rw [calls_goto] at hj ⊢
    split at hj
    · next hji =>
      subst hji
      rw [if_neg hk]
      exact hadmits.1 hj k hk
    · next hji =>
      split
      · by_contra hpc
        have hother := hadmits.2 hpc j hji
        rw [hj] at hother
        cases hother
      · exact h.alone j hj k hk
  supports := by
    intro j
    rw [calls_goto]
    split
    · exact hsupports
    · next hj => exact hothers j hj

/-- A call goes on and leaves the cluster alone. -/
theorem Synced.goto (h : s.Synced) (hi : s.calls i = pc) (hadmits : s.Admits i pc')
    (hsupports : s.cluster.Supports pc')
    (htouches : ∀ id, (s.cluster.nodes id).crashed = false → pc.touches id → pc'.touches id) :
    (s.goto i pc').Synced := by
  refine h.move hadmits h.flagged ⟨h.logs.logs, h.logs.commits, fun id hactive => ?_⟩ h.committed
    hsupports fun j _ => h.supports j
  exact (h.logs.synced id hactive).imp_left fun hbusy => hbusy.goto hi (htouches id hactive)

omit [DecidableEq ι] in
/-- While a call of `ProposeCommand` has not appended, all active nodes agree with the leader. -/
theorem Synced.notBusy (h : s.Synced) (hi : s.calls i = pc) (hproposing : pc.proposing = true)
    (htouches : ∀ id, ¬pc.touches id) (id : NodeID) : ¬s.Busy id := by
  rintro ⟨j, hj⟩
  by_cases hji : j = i
  · subst hji
    exact htouches id (hi ▸ hj)
  · rw [h.alone i (hi ▸ hproposing) j hji] at hj
    exact hj

omit [DecidableEq ι] in
/-- Nobody else is there while a command is proposed. -/
theorem Synced.othersIdle (h : s.Synced) (hi : s.calls i = pc) (hproposing : pc.proposing = true)
    (c : Cluster) (j : ι) (hj : j ≠ i) : c.Supports (s.calls j) := by
  rw [h.alone i (hi ▸ hproposing) j hj]
  trivial

theorem Synced.append (h : s.Synced) {cmd : String} {leader : NodeID}
    (hi : s.calls i = .append cmd leader) :
    Synced ({ s with cluster := s.cluster.appendOwn leader cmd }.goto i
      (.spawn cmd leader (s.cluster.nodes leader).log.length)) := by
  obtain rfl : leader = s.cluster.leaderID := h.supports_at hi
  have hlog := leaderLog_appendOwn s.cluster cmd
  refine h.move (h.admits hi nofun fun _ => rfl) ?_ ?_ ?_ ⟨rfl, s.cluster.leaderLog, hlog, rfl, ?_⟩
    (h.othersIdle hi rfl _)
  · exact h.flagged.update rfl
  · refine (h.logs.appendOwn cmd).mono fun id hid => ?_
    exact ⟨i, by rw [calls_goto, if_pos rfl]; exact hid⟩
  · intro cmd' hmem
    rw [hlog]
    exact List.mem_append_left _ (h.committed cmd' hmem)
  · intro id hid hactive
    rw [appendOwn, nodes_update, if_neg hid] at hactive ⊢
    exact (h.logs.synced id hactive).resolve_left (h.notBusy hi rfl (fun _ => not_false) id)

theorem Synced.spawn (h : s.Synced) {cmd : String} {leader : NodeID} {logIdx : ℕ}
    (hi : s.calls i = .spawn cmd leader logIdx) : (s.goto i (.replicate cmd leader logIdx 1
      (NodeID.all.filter (· ≠ s.cluster.leaderID)) true)).Synced := by
  obtain ⟨rfl, before, hlog, hidx, hbehind⟩ := h.supports_at hi
  refine h.goto hi (h.admits hi nofun fun _ => rfl)
    ⟨rfl, NodeID.nodup_all.filter _, before, hlog, hidx, fun id hid => ?_⟩ fun id _ hid => ?_
  · exact hbehind id (by simpa using (List.mem_filter.mp hid).2)
  · exact List.mem_filter.mpr ⟨id.mem_all, decide_eq_true hid⟩

theorem Synced.skip (h : s.Synced) {id : NodeID} {cmd : String} {leader : NodeID} {logIdx acks : ℕ}
    {todo : List NodeID} {waiting : Bool}
    (hi : s.calls i = .replicate cmd leader logIdx acks todo waiting)
    (hcrashed : (s.cluster.nodes id).crashed = true) :
    (s.goto i (.replicate cmd leader logIdx acks (todo.erase id) waiting)).Synced := by
  obtain ⟨hleader, hnodup, before, hlog, hidx, hbehind⟩ := h.supports_at hi
  refine h.goto hi (h.admits hi nofun fun _ => rfl) ⟨hleader, hnodup.erase id, before, hlog, hidx, ?_⟩
    fun id' hactive htodo => ?_
  · exact fun id' hid' => hbehind id' (List.mem_of_mem_erase hid')
  · refine (List.mem_erase_of_ne ?_).mpr htodo
    rintro rfl
    rw [hcrashed] at hactive
    cases hactive

theorem Synced.replicate (h : s.Synced) {id : NodeID} {cmd : String} {leader : NodeID}
    {logIdx acks : ℕ} {todo : List NodeID} {waiting : Bool}
    (hi : s.calls i = .replicate cmd leader logIdx acks todo waiting) (hid : id ∈ todo)
    (hactive : (s.cluster.nodes id).crashed = false) :
    Synced ({ s with cluster := s.cluster.replicate id cmd logIdx }.goto i
      (.replicate cmd leader logIdx (acks + 1) (todo.erase id) waiting)) := by
  obtain ⟨hleader, hnodup, before, hlog, rfl, hbehind⟩ := h.supports_at hi
  obtain rfl := hbehind id hid hactive
  have hsame : (s.cluster.replicate id cmd (s.cluster.nodes id).log.length).leaderLog
      = s.cluster.leaderLog := leaderLog_update_of_eq fun _ => hlog.symm
  refine h.move (h.admits hi nofun fun _ => rfl) ?_ ?_ ?_
    ⟨hleader, hnodup.erase id, _, hsame.trans hlog, rfl, ?_⟩ (h.othersIdle hi rfl _)
  · exact h.flagged.update rfl
  · refine h.logs.replicate hlog.symm fun id' hne hbusy => hbusy.goto hi fun htodo => ?_
    exact (List.mem_erase_of_ne hne).mpr htodo
  · rw [hsame]
    exact h.committed
  · intro id' hid' hactive'
    have hmem := hnodup.mem_erase_iff.mp hid'
    rw [Cluster.replicate, nodes_update, if_neg hmem.1] at hactive' ⊢
    exact hbehind id' hmem.2 hactive'

theorem Synced.commit (h : s.Synced) {cmd : String} {leader : NodeID} {logIdx acks : ℕ}
    {waiting : Bool} (hi : s.calls i = .replicate cmd leader logIdx acks [] waiting) :
    Synced ({ s with
      cluster := s.cluster.commit leader logIdx
      committed := s.committed ++ [cmd] }.goto i .idle) := by
  obtain ⟨rfl, -, before, hlog, rfl, -⟩ := h.supports_at hi
  have hsame : (s.cluster.commit s.cluster.leaderID before.length).leaderLog = s.cluster.leaderLog :=
    leaderLog_update_of_eq fun _ => rfl
  refine h.move (admits_idle s i) ?_ ?_ ?_ trivial (h.othersIdle hi rfl _)
  · exact h.flagged.update rfl
  · refine (h.logs.commit (by simp [hlog])).mono fun id hbusy => hbusy.goto hi fun hnil => ?_
    exact absurd hnil List.not_mem_nil
  · rw [hsame, List.forall_mem_append, List.forall_mem_singleton, hlog]
    exact ⟨hlog ▸ h.committed, List.mem_append_right _ List.mem_cons_self⟩

theorem Synced.clear (h : s.Synced) {id : NodeID} (hi : s.calls i = .clear id) :
    Synced ({ s with cluster := s.cluster.clearCrashed id }.goto i (.source id)) := by
  have hsame : (s.cluster.clearCrashed id).leaderLog = s.cluster.leaderLog :=
    leaderLog_update_of_eq fun hid => by rw [leaderLog, hid]
  refine h.move (h.admits hi nofun nofun) ?_ ?_ (by rw [hsame]; exact h.committed) trivial fun j hj => ?_
  · exact h.flagged.update rfl
  · exact (h.logs.clearCrashed ⟨i, by rw [hi]; rfl⟩).mono fun id' hbusy => hbusy.goto hi fun hid => hid
  · exact (h.supports j).congr (h.notProposing hi nofun j hj) rfl hsame

theorem Synced.restore (h : s.Synced) {id : NodeID} {log : List String} {commitIdx : ℕ}
    (hi : s.calls i = .restore id log commitIdx) :
    Synced ({ s with cluster := s.cluster.restore id log commitIdx }.goto i .idle) := by
  obtain ⟨rfl, hcommit⟩ := h.supports_at hi
  have hsame : (s.cluster.restore id s.cluster.leaderLog commitIdx).leaderLog = s.cluster.leaderLog :=
    leaderLog_update_of_eq fun _ => rfl
  refine h.move (admits_idle s i) ?_ ?_ (by rw [hsame]; exact h.committed) trivial fun j hj => ?_
  · exact h.flagged.update rfl
  · exact h.logs.restore rfl hcommit fun id' hne hbusy => hbusy.goto hi fun hid => absurd hid hne
  · exact (h.supports j).congr (h.notProposing hi nofun j hj) rfl hsame

omit [DecidableEq ι] in
/-- A crash can come at any time. -/
theorem Synced.crash (h : s.Synced) (id : NodeID) (pending : ℕ) :
    Synced { s with cluster := s.cluster.crash id, pending } where
  flagged := show (s.cluster.crash id).Flagged from h.flagged.update rfl
  logs := h.logs.crash id
  committed := by
    rw [leaderLog_crash]
    exact h.committed
  alone := h.alone
  supports := fun i => (h.supports i).crash id

omit [DecidableEq ι] in
theorem Synced.elect (h : s.Synced) (hidle : ∀ i, s.calls i = .idle) (order : List NodeID)
    (pending : ℕ) : Synced { s with cluster := s.cluster.runElection order, pending } := by
  have hlogs : s.cluster.SyncedBut fun _ => False := h.logs.mono fun id ⟨i, hi⟩ => by
    rw [hidle i] at hi
    exact hi
  refine ⟨runElection_flagged _ _, (hlogs.runElection order).mono fun _ => False.elim, ?_, h.alone,
    fun i => ?_⟩
  · rw [hlogs.leaderLog_runElection]
    exact h.committed
  · dsimp only
    rw [hidle i]
    trivial

theorem Synced.moved {s' : System ι} (h : s.Synced) {l : Label ι} (hl : s.Exclusive l)
    (hmoved : Moved s l s') : s'.Synced := by
  cases hmoved with
  | stay => exact h
  | propose hi => exact h.goto hi ⟨fun _ j _ => hl j, fun _ j _ => by rw [hl j]; rfl⟩ trivial nofun
  | recover hi => exact h.goto hi ⟨nofun, fun _ j _ => hl j⟩ trivial nofun
  | lookup hi => exact h.goto hi (h.admits hi nofun fun _ => rfl) rfl nofun
  | check hi =>
    have hleader := h.supports_at hi
    exact h.goto hi (h.admits hi nofun fun _ => rfl) hleader nofun
  | refuse hi => exact h.goto hi (admits_idle s _) trivial nofun
  | append hi => exact h.append hi
  | spawn hi => exact h.spawn hi
  | skip hi hcrashed => exact h.skip hi hcrashed
  | replicate hi hid hactive => exact h.replicate hi hid hactive
  | cancel hi =>
    have hreplicating := h.supports_at hi
    exact h.goto hi (h.admits hi nofun fun _ => rfl) hreplicating fun _ _ hid => hid
  | commit hi => exact h.commit hi
  | fail hi => exact h.goto hi (admits_idle s _) trivial nofun
  | clear hi => exact h.clear hi
  | source hi => exact h.goto hi (h.admits hi nofun nofun) rfl fun id _ hid => hid
  | copy hi =>
    obtain rfl := h.supports_at hi
    exact h.goto hi (h.admits hi nofun nofun) ⟨rfl, h.logs.commits _⟩ fun _ _ hid => hid
  | restore hi => exact h.restore hi
  | crash id => exact h.crash id _
  | elect hpending horder => exact h.elect hl _ _

end Synced

omit [DecidableEq ι] in
theorem start_synced : (start : System ι).Synced where
  flagged := start_led.flagged
  logs := new_syncedBut _
  committed := nofun
  alone := nofun
  supports := fun _ => trivial

end System

/-! ## Committed commands -/

/-- The indices of a node's log up to its `CommitIdx`; an empty log has none. -/
def upTo (node : SettlementNode) : ℕ := if node.log = [] then 0 else node.commitIdx + 1

theorem SyncedBut.getElem?_eq {c : Cluster} {busy : NodeID → Prop} (h : c.SyncedBut busy)
    {id : NodeID}
    {k : ℕ} (hk : k < upTo (c.nodes id)) : (c.nodes id).log[k]? = c.leaderLog[k]? := by
  have hlength : k < (c.nodes id).log.length := by
    have hcommit := h.commits id
    unfold upTo at hk
    split at hk
    · omega
    · next hne =>
      have hpos := List.length_pos_iff.mpr hne
      omega
  obtain ⟨rest, hrest⟩ := h.logs id
  rw [← hrest, List.getElem?_append_left hlength]

namespace System

variable {ι : Type} [DecidableEq ι]

/-- Every leader has all committed commands, and active nodes agree up to the smaller `CommitIdx`.
-/
structure Safe (s : System ι) : Prop where
  survives : ∀ cmd ∈ s.committed, ∀ id, id = s.cluster.leaderID ∨ (s.cluster.nodes id).isLeader = true →
    cmd ∈ (s.cluster.nodes id).log
  agree : ∀ id id', (s.cluster.nodes id).crashed = false → (s.cluster.nodes id').crashed = false →
    ∀ k < upTo (s.cluster.nodes id), k < upTo (s.cluster.nodes id') →
      (s.cluster.nodes id).log[k]? = (s.cluster.nodes id').log[k]?

omit [DecidableEq ι] in
theorem Synced.safe {s : System ι} (h : s.Synced) : s.Safe where
  survives := by
    intro cmd hmem id hid
    have hleader : id = s.cluster.leaderID := hid.elim (fun h => h) (h.flagged id)
    rw [hleader]
    exact h.committed cmd hmem
  agree := by
    intro id id' _ _ k hk hk'
    rw [h.logs.getElem?_eq hk, h.logs.getElem?_eq hk']

/-- If the calls that change logs do not overlap, no committed command is lost and the logs agree.
-/
theorem committed_survive {ls : List (Label ι)} (h : Run.Steps step Exclusive start ls) :
    (start.exec ls).Safe :=
  (Run.exec_invariant (fun s l hs hl => hs.moved hl (s.step_moved l)) start_synced h).safe

/-- `ProposeCommand` with both followers there. -/
def proposed : List (Label Bool) :=
  [.proposeCommand true "SETTLE", .run true, .run true, .run true, .run true, .replicate true .nodeB,
    .replicate true .nodeC, .run true]

theorem committed_survive_proposed :
    ((start : System Bool).exec proposed).committed = ["SETTLE"] ∧ (start.exec proposed).Safe :=
  ⟨by decide, committed_survive ⟨fun _ => rfl, trivial, trivial, trivial, trivial, trivial, trivial,
    trivial, trivial⟩⟩

/-- Both followers are down. `RecoverNode` clears the flag of a follower and copies the empty log of
the leader; then a command is committed by the leader and this follower, whose log is emptied again.
The leader crashes. -/
def overwrittenRun : List (Label Bool) :=
  [.crashNode .nodeB, .crashNode .nodeC, .recoverNode false .nodeB, .run false, .run false, .run false,
    .proposeCommand true "SETTLE", .run true, .run true, .run true, .run true, .replicate true .nodeB,
    .replicate true .nodeC, .run true, .run false, .crashNode .nodeA, .runElection NodeID.all]

theorem committed_overwritten :
    let s : System Bool := start.exec overwrittenRun
    s.committed = ["SETTLE"] ∧ s.cluster.leaderID = .nodeB ∧
      s.cluster.available .nodeB = true ∧ (s.cluster.nodes .nodeB).log = [] := by
  decide

end System

end OfflinePay.Cluster
