import Mathlib.Data.Finset.Basic
import KvdRaft.Persist

/-!
# What membership is for: a configuration of voters and learners

`prs_` and `learner_prs_` (`src/kvd/raft/Raft.h`) keep a progress for every member of the cluster.
What the two maps stand for is a *configuration*: a set of voters and a set of learners, no id in
both. `Configuration` is that abstract state, with its disjointness as a field, and a host's calls
act on it as the comments of `add_node_or_learner` and `del_progress` say
(`src/kvd/raft/Raft.cpp:348-382, 503-507`):

* adding a voter inserts it, and promotes it when it is a learner ("can only change Learner to
  Voter");
* adding a learner inserts it unless it is a voter, which is never demoted;
* `del_progress` removes the id from both sets;
* `step`, `tick` and `become_follower` leave the configuration alone.

`Raft.voters` and `Raft.learners`, the key sets of the two maps, are the abstraction function, and
`Raft.Refines r m` says that a node's maps hold exactly the configuration `m`.

Results:
* `Raft.Refines.apply`, `Raft.Refines.run`: on a node that keeps the membership invariant, every
  call moves the key sets as the abstract call moves the configuration.
* `membership_refines`: from the peers and learners the constructor starts with, every run ends
  with the configuration that the run's additions and deletions give.
* `member_kept_unless_deleted`: along a run that does not delete `k`, a voter `k` stays a voter,
  and a learner `k` stays a learner or becomes a voter.
* `restart_restores`: a node built from the hard state and the `ConfState` a reachable node
  reports, on the same log, has the same hard state and the same configuration, unless the hard
  state is empty and `term_` or `vote_` held something other than 0 (the constructor skips
  `load_state` for an empty hard state and never initialises the two).
-/

namespace KvdRaft

/-- A cluster configuration: the voters and the learners, no id in both. -/
@[ext] structure Configuration where
  voters : Finset Nat
  learners : Finset Nat
  disjoint : Disjoint voters learners

namespace Configuration

variable (m : Configuration) (id : Nat)

/-- Add `id` as a voter; a learner is promoted. -/
def addVoter : Configuration where
  voters := insert id m.voters
  learners := m.learners.erase id
  disjoint := Finset.disjoint_insert_left.mpr
    ⟨Finset.not_mem_erase id _, m.disjoint.mono_right (Finset.erase_subset _ _)⟩

/-- Add `id` as a learner; a voter is never demoted. -/
def addLearner : Configuration :=
  if h : id ∈ m.voters then m
  else { m with
    learners := insert id m.learners
    disjoint := Finset.disjoint_insert_right.mpr ⟨h, m.disjoint⟩ }

/-- `add_node_or_learner(id, is_learner)` on the configuration. -/
def add (isLearner : Bool) : Configuration :=
  if isLearner then m.addLearner id else m.addVoter id

/-- `del_progress(id)` on the configuration. -/
def remove : Configuration where
  voters := m.voters.erase id
  learners := m.learners.erase id
  disjoint := m.disjoint.mono (Finset.erase_subset _ _) (Finset.erase_subset _ _)

/-- A host's call on the configuration: only additions and deletions change it. -/
def apply : Op → Configuration
  | .addNodeOrLearner id isLearner => m.add id isLearner
  | .delProgress id => m.remove id
  | .step _ | .tick | .becomeFollower .. => m

variable {m id} {k : Nat} {l : Bool}

theorem not_mem_learners (h : k ∈ m.voters) : k ∉ m.learners :=
  Finset.disjoint_left.mp m.disjoint h

@[simp] theorem addLearner_voters : (m.addLearner id).voters = m.voters := by
  unfold addLearner
  split_ifs <;> rfl

theorem mem_addLearner_learners :
    k ∈ (m.addLearner id).learners ↔ k ∈ m.learners ∨ (k = id ∧ id ∉ m.voters) := by
  unfold addLearner
  split_ifs with h
  · simp [h]
  · simp [h, or_comm]

/-- An id is a voter after an addition iff it was one or the addition was of a voter. -/
theorem mem_add_voters : k ∈ (m.add id l).voters ↔ k ∈ m.voters ∨ (k = id ∧ l = false) := by
  cases l <;> simp [add, addVoter, or_comm]

/-- The added id is a learner after an addition iff it was not a voter and the addition was of
a learner; the other ids keep their place. -/
theorem mem_add_learners :
    k ∈ (m.add id l).learners ↔ if k = id then k ∉ m.voters ∧ l = true else k ∈ m.learners := by
  split_ifs with hk
  · subst hk
    cases l
    · simp [add, addVoter]
    · simp only [add, if_true, mem_addLearner_learners, true_and, and_true]
      exact ⟨fun h => h.elim (fun hl hv => not_mem_learners hv hl) id, .inr⟩
  · cases l <;> simp [add, addVoter, mem_addLearner_learners, hk]

/-- **Only a deletion takes an id out.** A call other than `del_progress(k)` keeps a voter `k`,
and keeps a learner `k` as a learner or a voter. -/
theorem apply_keeps {op : Op} (hop : op ≠ .delProgress k) :
    (k ∈ m.voters → k ∈ (m.apply op).voters) ∧
      (k ∈ m.learners → k ∈ (m.apply op).voters ∨ k ∈ (m.apply op).learners) := by
  cases op with
  | addNodeOrLearner id l =>
    refine ⟨fun hk => mem_add_voters.mpr (.inl hk), fun hk => ?_⟩
    simp only [apply, mem_add_voters, mem_add_learners]
    by_cases he : k = id
    · subst he
      have hv : k ∉ m.voters := fun hv => not_mem_learners hv hk
      cases l <;> simp [hv]
    · simp [he, hk]
  | delProgress id =>
    have hne : k ≠ id := fun h => hop (h ▸ rfl)
    simp only [apply, remove, Finset.mem_erase, hne, ne_eq, not_false_eq_true, true_and]
    exact ⟨fun h => h, .inr⟩
  | step _ | tick | becomeFollower _ _ _ => exact ⟨fun h => h, .inr⟩

/-- What `apply_keeps` gives along a sequence of calls none of which deletes `k`. -/
theorem foldl_keeps {ops : List Op} (hd : Op.delProgress k ∉ ops) :
    ∀ {m : Configuration}, (k ∈ m.voters → k ∈ (ops.foldl apply m).voters) ∧
      (k ∈ m.learners →
        k ∈ (ops.foldl apply m).voters ∨ k ∈ (ops.foldl apply m).learners) := by
  induction ops with
  | nil => exact ⟨fun h => h, .inr⟩
  | cons op ops ih =>
    intro m
    have hop : op ≠ .delProgress k := fun h => hd (h ▸ List.mem_cons_self _ _)
    obtain ⟨ihv, ihl⟩ := @ih (fun h => hd (List.mem_cons_of_mem _ h)) (m.apply op)
    obtain ⟨hv, hl⟩ := apply_keeps (m := m) hop
    exact ⟨ihv ∘ hv, fun hk => (hl hk).elim (.inl ∘ ihv) ihl⟩

end Configuration

namespace Raft

variable {r r' : Raft} {m : Configuration}

/-- The voters a node keeps: the ids of `prs_`. -/
def voters (r : Raft) : Finset Nat := r.prs.keys.toFinset

/-- The learners a node keeps: the ids of `learner_prs_`. -/
def learners (r : Raft) : Finset Nat := r.learnerPrs.keys.toFinset

@[simp] theorem mem_voters {k : Nat} : k ∈ r.voters ↔ k ∈ r.prs := List.mem_toFinset

@[simp] theorem mem_learners {k : Nat} : k ∈ r.learners ↔ k ∈ r.learnerPrs := List.mem_toFinset

/-- The node's maps hold exactly the configuration `m`. -/
def Refines (r : Raft) (m : Configuration) : Prop := r.voters = m.voters ∧ r.learners = m.learners

theorem refines_iff :
    r.Refines m ↔ ∀ k, (k ∈ r.prs ↔ k ∈ m.voters) ∧ (k ∈ r.learnerPrs ↔ k ∈ m.learners) := by
  simp only [Refines, Finset.ext_iff, mem_voters, mem_learners, forall_and]

/-- The configuration a node keeps, for a node that keeps the membership invariant. -/
def configuration (r : Raft) (h : MembershipInv r) : Configuration where
  voters := r.voters
  learners := r.learners
  disjoint := Finset.disjoint_left.mpr fun _ hk => by
    simpa using h.disjoint (mem_voters.mp hk)

theorem refines_configuration (h : MembershipInv r) : r.Refines (r.configuration h) := ⟨rfl, rfl⟩

/-! ## Each call refines its abstract call -/

namespace Refines

/-- A call that keeps both maps keeps the configuration. -/
theorem of_maps (hr : r.Refines m) (hp : r'.prs = r.prs) (hl : r'.learnerPrs = r.learnerPrs) :
    r'.Refines m := by
  unfold Refines voters learners
  rw [hp, hl]
  exact hr

theorem becomeFollower (hr : r.Refines m) {t l d : Nat} (hb : r.becomeFollower t l d = .ok r') :
    r'.Refines m := by
  rw [becomeFollower_eq_ok hb]
  unfold Refines voters learners
  simp only [ProgressMap.keys_mapWithId]
  exact hr

theorem delProgress (hr : r.Refines m) (id : Nat) : (r.delProgress id).Refines (m.remove id) := by
  rw [refines_iff] at hr ⊢
  intro k
  simp only [Raft.delProgress, AList.mem_erase, Configuration.remove, Finset.mem_erase, hr k,
    and_self]

/-- Where a run of additions leaves a learner: it is one after `addedView` iff it was no voter
and some call added it as a learner. -/
theorem isSome_addedView_snd {last : Nat} {v : Option Progress × Option Progress} (h : ViewOk v)
    (l : Bool) : (addedView last v (!l) l).2.isSome = (!v.1.isSome && l) := by
  rcases v with ⟨_ | p, _ | q⟩ <;> cases l <;> simp_all [addedView, ViewOk]

theorem addNodeOrLearner (hr : r.Refines m) (h : MembershipInv r) {id : Nat} {l : Bool}
    (ha : r.addNodeOrLearner id l = .ok r') : r'.Refines (m.add id l) := by
  obtain ⟨r'', ha', hv, -⟩ := addNodeOrLearner_view h id l
  cases ha.symm.trans ha'
  rw [refines_iff] at hr ⊢
  intro k
  have hp : ∀ s : Raft, k ∈ s.prs ↔ (s.view k).1.isSome := fun _ => AList.lookup_isSome.symm
  have hq : ∀ s : Raft, k ∈ s.learnerPrs ↔ (s.view k).2.isSome :=
    fun _ => AList.lookup_isSome.symm
  rw [hp, hq, hv, Configuration.mem_add_voters, Configuration.mem_add_learners, ← (hr k).1,
    ← (hr k).2, hp, hq]
  split_ifs with hk
  · subst hk
    rw [isSome_addedView, isSome_addedView_snd (h.view_ok k)]
    cases l <;> simp
  · simp [hk]

/-- **Every call refines its abstract call.** -/
theorem apply (hr : r.Refines m) (h : MembershipInv r) {op : Op} (ha : r.apply op = .ok r') :
    r'.Refines (m.apply op) := by
  cases op with
  | step _ => exact hr.of_maps (step_frame ha).prs (step_frame ha).learnerPrs
  | tick => exact hr.of_maps (tick_frame ha).prs (tick_frame ha).learnerPrs
  | becomeFollower _ _ _ => exact hr.becomeFollower ha
  | addNodeOrLearner _ _ => exact hr.addNodeOrLearner h ha
  | delProgress id => cases ha; exact hr.delProgress id

/-- **Every run refines the abstract run.** -/
theorem run : ∀ {ops : List Op} {r r' : Raft} {m : Configuration}, r.Refines m →
    MembershipInv r → r.run ops = .ok r' → r'.Refines (ops.foldl Configuration.apply m)
  | [], _, _, _, hr, _, hrun => by cases hrun; exact hr
  | _ :: _, _, _, _, hr, h, hrun => by
    obtain ⟨_, ha, hrun⟩ := Except.bind_eq_ok.mp hrun
    exact (hr.apply h ha).run (h.apply ha) hrun

end Refines

end Raft

/-! ## The configuration the constructor starts with -/

/-- The constructor's maps hold its peers and its learners. -/
theorem Config.members_keys {c : Config} {cs : ConfState} {prs lp : ProgressMap} {il : Bool}
    {peers learners : List Nat} (hm : c.membership cs = .ok (peers, learners))
    (h : c.members cs = .ok (prs, lp, il)) :
    ∀ k, (k ∈ prs ↔ k ∈ peers) ∧ (k ∈ lp ↔ k ∈ learners) := by
  unfold Config.members at h
  obtain ⟨⟨peers', learners'⟩, hm', h⟩ := Except.bind_eq_ok.mp h
  cases hm.symm.trans hm'
  obtain ⟨⟨lp', il'⟩, hl, h⟩ := Except.bind_eq_ok.mp h
  cases h
  obtain ⟨-, hlook, -⟩ := learnerPrsOf_eq_ok hl
  refine fun k => ⟨mem_peerPrs, ?_⟩
  rw [← AList.lookup_isSome, hlook]
  by_cases hk : k ∈ learners <;> simp [hk]

/-- The node the constructor builds holds the peers and the learners it starts with. -/
theorem Raft.new_keys {c : Config} {u : Uninit} {d : Nat} {r : Raft} {hs : HardState}
    {cs : ConfState} {peers learners : List Nat} (hi : c.storage.initialState = .ok (hs, cs))
    (hm : c.membership cs = .ok (peers, learners)) (h : Raft.new c u d = .ok r) :
    ∀ k, (k ∈ r.prs ↔ k ∈ peers) ∧ (k ∈ r.learnerPrs ↔ k ∈ learners) := by
  obtain ⟨hs', cs', prs, lp, il, r₁, r₂, hi', hm', h₁, h₂, h⟩ := Raft.new_eq_ok h
  cases hi.symm.trans hi'
  have e₁ := Raft.loadInitialState_eq h₁
  have e₂ := (Raft.applyInitial_eq_ok h₂).1
  have hp : r₂.prs = prs := (congrArg Raft.prs e₂ :).trans (congrArg Raft.prs e₁ :)
  have hl : r₂.learnerPrs = lp :=
    (congrArg Raft.learnerPrs e₂ :).trans (congrArg Raft.learnerPrs e₁ :)
  rw [Raft.becomeFollower_eq_ok h]
  simpa only [ProgressMap.mem_mapWithId, hp, hl] using Config.members_keys hm hm'

/-! ## Results -/

open Raft

/-- **The maps refine the configuration.** Take a node the constructor builds from the peers and
the learners of its config or its `ConfState`. After every run of calls, `prs_` holds exactly the
voters and `learner_prs_` exactly the learners of the configuration that the run's additions and
deletions make of those peers and learners; `step`, `tick` and `become_follower` change neither. -/
theorem membership_refines {c : Config} {u : Uninit} {d : Nat} {r r' : Raft} {hs : HardState}
    {cs : ConfState} {peers learners : List Nat} {ops : List Op}
    (hi : c.storage.initialState = .ok (hs, cs)) (hm : c.membership cs = .ok (peers, learners))
    (h : Raft.new c u d = .ok r) (hrun : r.run ops = .ok r') :
    ∃ m : Configuration, m.voters = peers.toFinset ∧ m.learners = learners.toFinset ∧
      r'.Refines (ops.foldl Configuration.apply m) := by
  have hinv := MembershipInv.new h
  have hk := Raft.new_keys hi hm h
  refine ⟨r.configuration hinv, ?_, ?_, (refines_configuration hinv).run hinv hrun⟩ <;>
    ext k <;> simp [configuration, hk k]

/-- Add 3 as a learner, promote the learner 2, ask for 2 as a learner again, delete 1. -/
def reconfigure : List Op :=
  [.addNodeOrLearner 3 true, .addNodeOrLearner 2 false, .addNodeOrLearner 2 true, .delProgress 1]

/-- The learner node after `reconfigure`. -/
def learnerNodeReconfigured : Raft := (learnerNode.run reconfigure).toOption.getD learnerNode

theorem membership_refines_learnerNode :
    learnerConfig.storage.initialState = .ok ({}, {}) ∧
      learnerConfig.membership {} = .ok ([1], [2]) ∧
      Raft.new learnerConfig {} 0 = .ok learnerNode ∧
      learnerNode.run reconfigure = .ok learnerNodeReconfigured ∧
      ∃ m : Configuration, m.voters = [1].toFinset ∧ m.learners = [2].toFinset ∧
        learnerNodeReconfigured.Refines (reconfigure.foldl Configuration.apply m) :=
  ⟨rfl, rfl, new_learnerNode, rfl,
    membership_refines (c := learnerConfig) rfl rfl new_learnerNode rfl⟩

/-- **No id leaves the cluster but by `del_progress`.** Along every run from a reachable node that
does not call `del_progress(k)`, a voter `k` stays a voter (a learner call never demotes it), and a
learner `k` stays a learner or is promoted to a voter. -/
theorem member_kept_unless_deleted {r r' : Raft} {ops : List Op} {k : Nat} (h : Reachable r)
    (hd : Op.delProgress k ∉ ops) (hrun : r.run ops = .ok r') :
    (k ∈ r.prs → k ∈ r'.prs) ∧ (k ∈ r.learnerPrs → k ∈ r'.prs ∨ k ∈ r'.learnerPrs) := by
  have hinv := MembershipInv.reachable h
  have hr := (refines_configuration hinv).run hinv hrun
  have h₀ := refines_iff.mp (refines_configuration hinv) k
  rw [refines_iff] at hr
  simp only [hr k, h₀]
  exact Configuration.foldl_keeps hd

theorem member_kept_unless_deleted_learnerNode :
    Reachable learnerNode ∧ Op.delProgress 2 ∉ reconfigure ∧
      learnerNode.run reconfigure = .ok learnerNodeReconfigured ∧
      (2 ∈ learnerNode.prs → 2 ∈ learnerNodeReconfigured.prs) ∧
      (2 ∈ learnerNode.learnerPrs →
        2 ∈ learnerNodeReconfigured.prs ∨ 2 ∈ learnerNodeReconfigured.learnerPrs) := by
  have hd : Op.delProgress 2 ∉ reconfigure := by simp [reconfigure]
  exact ⟨.new new_learnerNode, hd, rfl, member_kept_unless_deleted (.new new_learnerNode) hd rfl⟩

/-! ## Restarting from what a node persisted -/

/-- The membership a config that names no peers and no learners takes from a `ConfState`. -/
theorem Config.membership_of_empty {c : Config} (hc : c.peers = [] ∧ c.learners = [])
    (nodes learners : List Nat) : c.membership ⟨nodes, learners⟩ = .ok (nodes, learners) := by
  unfold Config.membership
  rw [hc.1, hc.2]
  split_ifs with hne h
  · exact absurd h (by simp)
  · rfl
  · obtain ⟨rfl, rfl⟩ := (not_or.mp hne).imp not_not.mp not_not.mp
    rfl

/-- **A restart restores what the node persisted.** Take a reachable node, and a config that
names no peers and no learners, whose storage holds the node's log, its `hard_state()` and a
`ConfState` listing the keys of `prs_` and `learner_prs_`, with `applied = 0`, an election tick
below `2 ^ 31` and a draw the generator can return. The constructor returns, and the node it builds
has the same hard state, the same voters and the same learners, unless the hard state is empty and
`term_` or `vote_` held something other than 0. -/
theorem restart_restores {r : Raft} {c : Config} {u : Uninit} {d : Nat}
    {nodes learners : List Nat} (h : Reachable r) (hn : ∀ k, k ∈ nodes ↔ k ∈ r.prs)
    (hl : ∀ k, k ∈ learners ↔ k ∈ r.learnerPrs) (hc : c.peers = [] ∧ c.learners = [])
    (hs : c.storage =
      { initialState := .ok (r.hardState, ⟨nodes, learners⟩)
        snapshotIndex := r.raftLog.snapshotIndex
        snapshotTerm := r.raftLog.snapshotTerm
        entries := r.raftLog.entries })
    (ha : c.applied = 0) (ht : c.electionTick < 2 ^ 31) (hd : d ≤ c.electionTick)
    (hu : r.hardState.isEmptyState = false ∨ u = {}) :
    ∃ r', Raft.new c u d = .ok r' ∧ r'.hardState = r.hardState ∧ r'.voters = r.voters ∧
      r'.learners = r.learners := by
  have hinv := MembershipInv.reachable h
  have hi : c.storage.initialState = .ok (r.hardState, ⟨nodes, learners⟩) := by rw [hs]
  have hlog : r.raftLog.snapshotIndex ≤ r.raftLog.committed :=
    r.raftLog.snapshotIndex_le_applied.trans r.raftLog.applied_le_committed
  obtain ⟨r', hr'⟩ : ∃ r', Raft.new c u d = .ok r' := by
    refine new_isOk hi (fun _ => ⟨hc.1, hc.2, fun l hq hp => ?_⟩) (fun _ l hq => ?_)
      (fun _ => by rw [hs]; exact ⟨hlog, r.raftLog.committed_le_lastIndex⟩)
      (fun hp => absurd ha (Nat.pos_iff_ne_zero.mp hp)) ?_
    · exact hinv.disjoint ((hn l).mp hp) ((hl l).mp hq)
    · rw [hc.2] at hq
      cases hq
    · rw [Nat.mod_eq_of_lt (by omega), Nat.mod_eq_of_lt (by omega), Nat.mod_eq_of_lt (by omega)]
      omega
  have hk := Raft.new_keys hi (Config.membership_of_empty hc nodes learners) hr'
  refine ⟨r', hr', ?_, ?_, ?_⟩
  · rw [new_hardState hi hr']
    cases he : r.hardState.isEmptyState
    · rfl
    · obtain rfl := hu.resolve_left (by rw [he]; decide)
      simp only [HardState.isEmptyState, Raft.hardState, Bool.and_eq_true, beq_iff_eq] at he
      simp only [if_true, Raft.hardState, HardState.mk.injEq, he, hs, true_and]
      omega
  · ext k
    simp only [mem_voters, (hk k).1, hn k]
  · ext k
    simp only [mem_learners, (hk k).2, hl k]

/-- The learner node's hard state and its members, as a storage to restart from. -/
def learnerRestartConfig : Config :=
  { id := 2
    electionTick := 10
    storage :=
      { initialState := .ok (learnerNode.hardState, ⟨[1], [2]⟩)
        snapshotIndex := learnerNode.raftLog.snapshotIndex
        snapshotTerm := learnerNode.raftLog.snapshotTerm
        entries := learnerNode.raftLog.entries } }

theorem restart_restores_learnerNode :
    Reachable learnerNode ∧ (∀ k, k ∈ [1] ↔ k ∈ learnerNode.prs) ∧
      (∀ k, k ∈ [2] ↔ k ∈ learnerNode.learnerPrs) ∧
      learnerRestartConfig.peers = [] ∧ learnerRestartConfig.learners = [] ∧
      learnerRestartConfig.applied = 0 ∧ learnerRestartConfig.electionTick < 2 ^ 31 ∧
      3 ≤ learnerRestartConfig.electionTick ∧
      ∃ r', Raft.new learnerRestartConfig {} 3 = .ok r' ∧ r'.hardState = learnerNode.hardState ∧
        r'.voters = learnerNode.voters ∧ r'.learners = learnerNode.learners := by
  have hn : ∀ k, k ∈ [1] ↔ k ∈ learnerNode.prs := fun k => by
    show k ∈ [1] ↔ k ∈ learnerNode.prs.keys
    rw [show learnerNode.prs.keys = [1] from rfl]
  have hl : ∀ k, k ∈ [2] ↔ k ∈ learnerNode.learnerPrs := fun k => by
    show k ∈ [2] ↔ k ∈ learnerNode.learnerPrs.keys
    rw [show learnerNode.learnerPrs.keys = [2] from rfl]
  exact ⟨.new new_learnerNode, hn, hl, rfl, rfl, rfl, by decide, by decide,
    restart_restores (.new new_learnerNode) hn hl ⟨rfl, rfl⟩ rfl rfl (by decide) (by decide)
      (.inr rfl)⟩

end KvdRaft
