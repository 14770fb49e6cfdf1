import KvdRaft.Invariants

/-!
# What a host persists and restores

Results on `hard_state()`, `soft_state()` and `load_state` (`src/kvd/raft/Raft.cpp:421-447`), and
on the constructor, which restores a node from its storage (`Raft.cpp:24-121`).

* `hardState_round_trip`: loading back the hard state a node reports changes nothing.
  `load_state(hs)` succeeds exactly when `hs.commit` lies in `[committed, last_index()]`, after
  which `hard_state()` reports `hs`; out of that range it aborts with `commitOutOfRange`.
* `steps_keep_hard_soft_state`: a run of `step` and `tick` calls changes only the election
  bookkeeping (`Frame`), so neither `hard_state()` nor `soft_state()` nor the membership; a host
  has nothing to persist after them, only messages to send.
* `new_ok_iff`: the constructor returns exactly when the storage yields its initial state, the
  membership comes from one place only and names no learner among the peers, a non-empty hard
  state's commit index lies within the log, a non-zero `applied` lies between the snapshot and the
  commit index, and the generator's draw passes the timeout `assert`. Every other input aborts the
  process.
* `new_hardState`: the hard state of a built node is the storage's, or, when that one is empty,
  what `term_` and `vote_` held with the snapshot's index as commit index.
-/

namespace KvdRaft

namespace Raft

/-! ## `hard_state` and `load_state` -/

section HardState

variable {r r' : Raft} {hs : HardState}

/-- `load_state(hs)` with a commit index in range sets the term, the vote and the commit index. -/
theorem loadState_eq_ok (h₁ : r.raftLog.committed ≤ hs.commit)
    (h₂ : hs.commit ≤ r.raftLog.lastIndex) :
    r.loadState hs = .ok { r with
      raftLog := r.raftLog.withCommitted hs.commit h₁ h₂
      term := hs.term
      vote := hs.vote } := by
  unfold loadState
  rw [dif_neg (by omega)]

/-- A `load_state` that returns had its commit index in range. -/
theorem loadState_bounds (h : r.loadState hs = .ok r') :
    r.raftLog.committed ≤ hs.commit ∧ hs.commit ≤ r.raftLog.lastIndex := by
  unfold loadState at h
  split_ifs at h with hc
  exact ⟨by omega, by omega⟩

end HardState

/-! ## Steps and ticks -/

/-- The calls a host makes as messages and ticks arrive: `step` and `tick`. -/
def StepOrTick : Raft → Op → Prop
  | _, .step _ | _, .tick => True
  | _, _ => False

instance (r : Raft) : (op : Op) → Decidable (StepOrTick r op)
  | .step _ | .tick => isTrue trivial
  | .becomeFollower .. | .addNodeOrLearner .. | .delProgress _ => isFalse not_false

end Raft

open Raft

/-- **Steps and ticks change nothing a host persists or reports**: along every run of `step` and
`tick` calls only the election bookkeeping changes (`Frame`: votes, queued messages, the election
tick count, the stub calls), so `hard_state()` (term, vote, commit index), `soft_state()` (leader,
role) and both progress maps stay as they were. -/
theorem steps_keep_hard_soft_state {r r' : Raft} (h : Run StepOrTick r r') :
    r.Frame r' ∧ r'.hardState = r.hardState ∧ r'.softState = r.softState ∧ r'.prs = r.prs ∧
      r'.learnerPrs = r.learnerPrs := by
  have hf : r.Frame r' := h.preserves (P := Frame) Frame.refl (fun _ _ _ h₁ h₂ => h₁.trans h₂)
    fun r op _ ha happ => by
      cases op
      exacts [step_frame happ, tick_frame happ, ha.elim, ha.elim, ha.elim]
  refine ⟨hf, ?_⟩
  simp only [hardState, softState, hf.term, hf.vote, hf.raftLog, hf.lead, hf.state, hf.prs,
    hf.learnerPrs, and_self]

theorem steps_keep_hard_soft_state_learnerNode :
    Run StepOrTick learnerNode learnerNodeCampaigned ∧
      learnerNodeCampaigned.transitions = [.candidate, .leader] ∧
      learnerNode.Frame learnerNodeCampaigned ∧
      learnerNodeCampaigned.hardState = learnerNode.hardState ∧
      learnerNodeCampaigned.softState = learnerNode.softState ∧
      learnerNodeCampaigned.prs = learnerNode.prs ∧
      learnerNodeCampaigned.learnerPrs = learnerNode.learnerPrs := by
  have h : Run StepOrTick learnerNode learnerNodeCampaigned :=
    .cons (show StepOrTick _ (.step { type := .msgHup, «from» := 2 }) from trivial) rfl (.refl _)
  exact ⟨h, rfl, steps_keep_hard_soft_state h⟩

/-! ## When the constructor returns -/

section New

/-- `k` is a key of the constructor's peer map iff it is a peer. -/
theorem mem_peerPrs {peers : List Nat} {k : Nat} : k ∈ peerPrs peers ↔ k ∈ peers := by
  rw [← AList.lookup_isSome, lookup_peerPrs]
  split_ifs with hk <;> simp [hk]

/-- The learner loop completes exactly when no learner is a peer. -/
theorem learnerPrsOf_isOk {id : Nat} {prs : ProgressMap} :
    ∀ {ls : List Nat} {acc : ProgressMap × Bool},
      (∃ acc', learnerPrsOf id prs ls acc = .ok acc') ↔ ∀ l ∈ ls, l ∉ prs
  | [], _ => by simp [learnerPrsOf]
  | l :: ls, (lp, il) => by
    unfold learnerPrsOf
    by_cases hl : l ∈ prs
    · simp [hl]
    · simp only [hl, if_false, learnerPrsOf_isOk, List.forall_mem_cons, not_false_eq_true,
        true_and]

/-- The constructor's membership is found exactly when it comes from one place only and names no
learner among the peers. -/
theorem Config.members_isOk (c : Config) (cs : ConfState) :
    (∃ m, c.members cs = .ok m) ↔
      (cs.nodes ≠ [] ∨ cs.learners ≠ [] →
        c.peers = [] ∧ c.learners = [] ∧ ∀ l ∈ cs.learners, l ∉ cs.nodes) ∧
      (cs.nodes = [] ∧ cs.learners = [] → ∀ l ∈ c.learners, l ∉ c.peers) := by
  unfold Config.members Config.membership
  by_cases hcs : cs.nodes ≠ [] ∨ cs.learners ≠ []
  · -- the `ConfState` names members, so the config must name none
    have hcs' : ¬(cs.nodes = [] ∧ cs.learners = []) := fun h => hcs.elim (· h.1) (· h.2)
    by_cases hc : c.peers ≠ [] ∨ c.learners ≠ []
    · simp only [if_pos hcs, if_pos hc, Except.error_bind, Except.error.injEq, reduceCtorEq,
        exists_false, false_iff]
      exact fun ⟨h, _⟩ => hc.elim (· (h hcs).1) (· (h hcs).2.1)
    · have hc' : c.peers = [] ∧ c.learners = [] := (not_or.mp hc).imp not_not.mp not_not.mp
      simp only [if_pos hcs, if_neg hc, Except.ok_bind, Except.bind_isOk, Except.pure_isOk,
        and_true, learnerPrsOf_isOk, mem_peerPrs]
      exact ⟨fun h => ⟨fun _ => ⟨hc'.1, hc'.2, h⟩, (absurd · hcs')⟩, fun h => (h.1 hcs).2.2⟩
  · -- the config names them
    have hcs' : cs.nodes = [] ∧ cs.learners = [] := (not_or.mp hcs).imp not_not.mp not_not.mp
    simp only [if_neg hcs, Except.ok_bind, Except.bind_isOk, Except.pure_isOk, and_true,
      learnerPrsOf_isOk, mem_peerPrs]
    exact ⟨fun h => ⟨(absurd · hcs), fun _ => h⟩, fun h => h.2 hcs'⟩

/-- The constructor's `load_state` returns exactly when an empty hard state skips it or its commit
index lies in `[committed, last_index()]`. -/
theorem loadInitialState_isOk {r : Raft} {hs : HardState} :
    (∃ r', r.loadInitialState hs = .ok r') ↔
      (hs.isEmptyState = false → r.raftLog.committed ≤ hs.commit ∧
        hs.commit ≤ r.raftLog.lastIndex) := by
  cases he : hs.isEmptyState
  · simp only [loadInitialState, he, Bool.not_false, if_true, forall_const]
    exact ⟨fun ⟨_, h⟩ => loadState_bounds h, fun ⟨h₁, h₂⟩ => ⟨_, loadState_eq_ok h₁ h₂⟩⟩
  · simp [Raft.loadInitialState_of_empty he]

/-- What the constructor's `load_state` leaves for the stages after it: the applied index and the
election timeout as they were, and the hard state's commit index when it is not empty. -/
theorem loadInitialState_log {r r₁ : Raft} {hs : HardState} (h : r.loadInitialState hs = .ok r₁) :
    r₁.raftLog.applied = r.raftLog.applied ∧
      r₁.raftLog.committed = (if hs.isEmptyState then r.raftLog.committed else hs.commit) ∧
      r₁.electionTimeout = r.electionTimeout := by
  cases he : hs.isEmptyState
  · simp only [loadInitialState, he, Bool.not_false, if_true] at h
    obtain ⟨h₁, h₂⟩ := loadState_bounds h
    rw [loadState_eq_ok h₁ h₂] at h
    cases h
    exact ⟨rfl, rfl, rfl⟩
  · rw [Raft.loadInitialState_of_empty he] at h
    cases h
    exact ⟨rfl, rfl, rfl⟩

/-- The constructor's `applied_to` returns exactly when `applied` is 0 or lies in
`[applied, committed]` of the log. -/
theorem applyInitial_isOk {r : Raft} {a : Nat} :
    (∃ r', r.applyInitial a = .ok r') ↔
      (0 < a → r.raftLog.applied ≤ a ∧ a ≤ r.raftLog.committed) := by
  unfold applyInitial RaftLog.appliedTo
  by_cases ha : 0 < a
  · by_cases hr : r.raftLog.applied ≤ a ∧ a ≤ r.raftLog.committed <;> simp [ha, hr, Except.map]
  · simp [ha]

end New

/-- The constructor returns on a storage that yields its initial state, a membership from one
place only with no learner among the peers, a hard state and an `applied` within the log, and a draw
that passes the timeout `assert`. -/
theorem new_isOk {c : Config} {u : Uninit} {draw : Nat} {hs : HardState} {cs : ConfState}
    (hi : c.storage.initialState = .ok (hs, cs))
    (hc₁ : cs.nodes ≠ [] ∨ cs.learners ≠ [] →
      c.peers = [] ∧ c.learners = [] ∧ ∀ l ∈ cs.learners, l ∉ cs.nodes)
    (hc₂ : cs.nodes = [] ∧ cs.learners = [] → ∀ l ∈ c.learners, l ∉ c.peers)
    (hl : hs.isEmptyState = false → c.storage.snapshotIndex ≤ hs.commit ∧
      hs.commit ≤ c.storage.snapshotIndex + c.storage.entries.length)
    (ha : 0 < c.applied → c.storage.snapshotIndex ≤ c.applied ∧
      c.applied ≤ if hs.isEmptyState then c.storage.snapshotIndex else hs.commit)
    (ht : (c.electionTick % 2 ^ 32 + draw) % 2 ^ 32 ≤ 2 * (c.electionTick % 2 ^ 32) % 2 ^ 32) :
    ∃ r, Raft.new c u draw = .ok r := by
  obtain ⟨⟨prs, lp, il⟩, hm⟩ := (Config.members_isOk c cs).mpr ⟨hc₁, hc₂⟩
  obtain ⟨r₁, h₁⟩ := (loadInitialState_isOk (r := Raft.fresh c u prs lp il)).mpr hl
  obtain ⟨ha₁, hc₁, ht₁⟩ := loadInitialState_log h₁
  obtain ⟨r₂, h₂⟩ := applyInitial_isOk.mpr (by rw [ha₁, hc₁]; exact ha)
  have ht₂ : r₂.electionTimeout = r₁.electionTimeout :=
    (congrArg Raft.electionTimeout (Raft.applyInitial_eq_ok h₂).1 :)
  obtain ⟨r, h⟩ := (@becomeFollower_isOk r₂ r₂.term 0 draw).mpr (by rw [ht₂, ht₁]; exact ht)
  exact ⟨r, by simp only [Raft.new, hi, hm, Except.ok_bind, h₁, h₂, h]⟩

/-- The hard state of a built node: the storage's, or, when that one is empty, what `term_` and
`vote_` held with the snapshot's index as commit index. -/
theorem new_hardState {c : Config} {u : Uninit} {draw : Nat} {r : Raft} {hs : HardState}
    {cs : ConfState} (hi : c.storage.initialState = .ok (hs, cs)) (h : Raft.new c u draw = .ok r) :
    r.hardState = if hs.isEmptyState then ⟨u.term, u.vote, c.storage.snapshotIndex⟩ else hs := by
  obtain ⟨hs', cs', prs, lp, il, r₁, r₂, hi', -, h₁, h₂, h⟩ := Raft.new_eq_ok h
  cases hi.symm.trans hi'
  obtain ⟨e₂, hc₂⟩ := Raft.applyInitial_eq_ok h₂
  have t₂ : r₂.term = r₁.term := (congrArg Raft.term e₂ :)
  have v₂ : r₂.vote = r₁.vote := (congrArg Raft.vote e₂ :)
  obtain ⟨-, hc₁, -⟩ := loadInitialState_log h₁
  rw [Raft.becomeFollower_eq_ok h]
  simp only [Raft.hardState, if_pos rfl, t₂, v₂, hc₂, hc₁]
  cases he : hs.isEmptyState
  · obtain ⟨e₁, -⟩ := Raft.loadInitialState_of_ne he h₁
    rw [(congrArg Raft.term e₁ :), (congrArg Raft.vote e₁ :)]
    rfl
  · rw [Raft.loadInitialState_of_empty he] at h₁
    cases h₁
    rfl

/-- **When the constructor returns.** `Raft::Raft(c)` builds a node exactly when the storage yields
its initial state; the membership comes from the `ConfState` alone or from the config alone and
names no learner among the peers; a non-empty hard state has its commit index within the log; a
non-zero `applied` lies between the snapshot and the commit index; and the generator's draw passes
the timeout `assert`. Every other input aborts the process. -/
theorem new_ok_iff (c : Config) (u : Uninit) (draw : Nat) :
    (∃ r, Raft.new c u draw = .ok r) ↔
      ∃ hs cs, c.storage.initialState = .ok (hs, cs) ∧
        (cs.nodes ≠ [] ∨ cs.learners ≠ [] →
          c.peers = [] ∧ c.learners = [] ∧ ∀ l ∈ cs.learners, l ∉ cs.nodes) ∧
        (cs.nodes = [] ∧ cs.learners = [] → ∀ l ∈ c.learners, l ∉ c.peers) ∧
        (hs.isEmptyState = false → c.storage.snapshotIndex ≤ hs.commit ∧
          hs.commit ≤ c.storage.snapshotIndex + c.storage.entries.length) ∧
        (0 < c.applied → c.storage.snapshotIndex ≤ c.applied ∧
          c.applied ≤ if hs.isEmptyState then c.storage.snapshotIndex else hs.commit) ∧
        (c.electionTick % 2 ^ 32 + draw) % 2 ^ 32 ≤ 2 * (c.electionTick % 2 ^ 32) % 2 ^ 32 := by
  constructor
  · rintro ⟨r, h⟩
    obtain ⟨hs, cs, prs, lp, il, r₁, r₂, hi, hm, h₁, h₂, h⟩ := Raft.new_eq_ok h
    obtain ⟨ha₁, hc₁, ht₁⟩ := loadInitialState_log h₁
    have ht₂ : r₂.electionTimeout = r₁.electionTimeout :=
      (congrArg Raft.electionTimeout (Raft.applyInitial_eq_ok h₂).1 :)
    refine ⟨hs, cs, hi, (Config.members_isOk c cs).mp ⟨_, hm⟩ |>.1,
      (Config.members_isOk c cs).mp ⟨_, hm⟩ |>.2, loadInitialState_isOk.mp ⟨_, h₁⟩, ?_, ?_⟩
    · have ha := applyInitial_isOk.mp ⟨_, h₂⟩
      rw [ha₁, hc₁] at ha
      exact ha
    · have ht := becomeFollower_isOk.mp ⟨_, h⟩
      rw [ht₂, ht₁] at ht
      exact ht
  · rintro ⟨hs, cs, hi, hc₁, hc₂, hl, ha, ht⟩
    exact new_isOk hi hc₁ hc₂ hl ha ht

end KvdRaft
