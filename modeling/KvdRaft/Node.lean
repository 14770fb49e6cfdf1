import KvdRaft.Campaign
import KvdRaft.Membership

/-!
# Building a node, and its runs

Model of `Raft::Raft(const Config&)` (`src/kvd/raft/Raft.cpp:24-121`) and of the calls a host makes
on a node afterwards.

* `term_` and `vote_` are missing from the constructor's initializer list, and the constructor
  reads `term_` (`become_follower(term_, 0)`) whether or not `load_state` wrote it. Their
  initial contents are indeterminate: the model takes them as an input, `Uninit`. `state_` is
  missing too, but `become_follower` writes it before anything reads it.
* The constructor's `nodes()` call and its log line only feed `LOG_INFO`; they are left out.
* `Op` lists the calls of a run: `step`, `tick`, `become_follower` (with the generator's draw for
  its `reset`), `add_node_or_learner` and `del_progress`. `Reachable` is every node a constructor
  call and a sequence of such calls builds; `Run adm` is a sequence whose every call satisfies
  `adm` in the state it is made in.
-/

namespace KvdRaft

/-- The `Config` fields the constructor reads. -/
structure Config where
  id : Nat
  peers : List Nat := []
  learners : List Nat := []
  electionTick : Nat
  storage : Storage
  applied : Nat := 0
  preVote : Bool := false

/-- The indeterminate initial contents of `term_` and `vote_`. -/
structure Uninit where
  term : Nat := 0
  vote : Nat := 0

/-- The peers and learners the node starts with: the storage's `ConfState` when it names any, and
then the config must name none. -/
def Config.membership (c : Config) (cs : ConfState) : Except Fatal (List Nat × List Nat) :=
  if cs.nodes ≠ [] ∨ cs.learners ≠ [] then
    if c.peers ≠ [] ∨ c.learners ≠ [] then .error .peersAndConfState
    else .ok (cs.nodes, cs.learners)
  else .ok (c.peers, c.learners)

/-- The constructor's loop over the peers: a fresh progress with `next = 1` for each. -/
def peerPrs (peers : List Nat) : ProgressMap :=
  peers.foldl (fun prs peer => prs.insert peer { next := 1 }) ∅

/-- The constructor's loop over the learners: a learner's progress with `next = 1` for each,
refused for a peer; the node's own id among them sets `is_learner_`. -/
def learnerPrsOf (id : Nat) (prs : ProgressMap) :
    List Nat → ProgressMap × Bool → Except Fatal (ProgressMap × Bool)
  | [], acc => .ok acc
  | l :: ls, (lp, il) =>
    if l ∈ prs then .error (.learnerAndPeer l)
    else learnerPrsOf id prs ls (lp.insert l { next := 1, isLearner := true }, il || id == l)

/-- The constructor's membership: the progress maps and `is_learner_`. -/
def Config.members (c : Config) (cs : ConfState) :
    Except Fatal (ProgressMap × ProgressMap × Bool) := do
  let (peers, learners) ← c.membership cs
  let (learnerPrs, isLearner) ← learnerPrsOf c.id (peerPrs peers) learners (∅, false)
  pure (peerPrs peers, learnerPrs, isLearner)

/-- The node as the initializer list and the membership loops leave it. -/
def Raft.fresh (c : Config) (u : Uninit) (prs learnerPrs : ProgressMap) (isLearner : Bool) :
    Raft where
  id := c.id
  term := u.term
  vote := u.vote
  raftLog := RaftLog.new c.storage
  prs := prs
  learnerPrs := learnerPrs
  state := .follower
  isLearner := isLearner
  votes := ∅
  msgs := []
  lead := 0
  leadTransferee := 0
  pendingConfIndex := 0
  uncommittedSize := 0
  electionElapsed := 0
  heartbeatElapsed := 0
  preVote := c.preVote
  electionTimeout := c.electionTick % 2 ^ 32
  randomizedElectionTimeout := 0
  randomDevice := ⟨0, c.electionTick⟩
  transitions := []

/-- The constructor's `if (!hs.is_empty_state()) load_state(hs);`. -/
def Raft.loadInitialState (r : Raft) (hs : HardState) : Except Fatal Raft :=
  if !hs.isEmptyState then r.loadState hs else .ok r

/-- The constructor's `if (c.applied > 0) raft_log_->applied_to(c.applied);`. -/
def Raft.applyInitial (r : Raft) (applied : Nat) : Except Fatal Raft :=
  if applied > 0 then (r.raftLog.appliedTo applied).map fun l => { r with raftLog := l } else .ok r

/-- `Raft::Raft(c)`, with `u` the indeterminate `term_` and `vote_` and `draw` what the generator
returns to the `reset` of `become_follower(term_, 0)`. -/
def Raft.new (c : Config) (u : Uninit) (draw : Nat) : Except Fatal Raft :=
  match c.storage.initialState with
  | .error s => .error (.initialState s)
  | .ok (hs, cs) => do
    let (prs, learnerPrs, isLearner) ← c.members cs
    let r ← (Raft.fresh c u prs learnerPrs isLearner).loadInitialState hs
    let r ← r.applyInitial c.applied
    r.becomeFollower r.term 0 draw

/-! ### What the constructor builds -/

theorem lookup_peerPrs (peers : List Nat) (k : Nat) :
    (peerPrs peers).lookup k = if k ∈ peers then some { next := 1 } else none := by
  suffices ∀ acc : ProgressMap,
      (peers.foldl (fun prs peer => prs.insert peer { next := 1 }) acc).lookup k =
        if k ∈ peers then some { next := 1 } else acc.lookup k from this ∅
  induction peers with
  | nil => simp
  | cons x xs ih =>
    intro acc
    rw [List.foldl_cons, ih]
    by_cases hx : k = x
    · subst hx; by_cases hxs : k ∈ xs <;> simp [hxs]
    · by_cases hxs : k ∈ xs <;> simp [hx, hxs]

/-- The learner loop, when it does not abort: no learner is a peer, each gets a learner's progress,
and the node's flag is set when its id is among them. -/
theorem learnerPrsOf_eq_ok {id : Nat} {prs : ProgressMap} :
    ∀ {ls : List Nat} {acc acc' : ProgressMap × Bool}, learnerPrsOf id prs ls acc = .ok acc' →
      (∀ l ∈ ls, l ∉ prs) ∧
      (∀ k, acc'.1.lookup k =
        if k ∈ ls then some { next := 1, isLearner := true } else acc.1.lookup k) ∧
      acc'.2 = (acc.2 || decide (id ∈ ls))
  | [], _, _, h => by cases h; simp
  | l :: ls, (lp, il), acc', h => by
    unfold learnerPrsOf at h
    split_ifs at h with hl
    obtain ⟨hls, hlook, hflag⟩ := learnerPrsOf_eq_ok h
    refine ⟨by simp_all, fun k => ?_, ?_⟩
    · rw [hlook]
      by_cases hk : k = l
      · subst hk; by_cases hks : k ∈ ls <;> simp [hks]
      · by_cases hks : k ∈ ls <;> simp [hk, hks]
    · rw [hflag]
      by_cases hi : id = l
      · subst hi; simp
      · simp [hi, Bool.or_assoc, beq_eq_false_iff_ne.mpr hi]

theorem Raft.loadInitialState_of_empty {r : Raft} {hs : HardState} (he : hs.isEmptyState = true) :
    r.loadInitialState hs = .ok r := by
  simp [loadInitialState, he]

/-- A non-empty hard state sets the term, the vote and the commit index, and nothing else. -/
theorem Raft.loadInitialState_of_ne {r r' : Raft} {hs : HardState}
    (he : hs.isEmptyState = false) (h : r.loadInitialState hs = .ok r') :
    r' = { r with raftLog := r'.raftLog, term := hs.term, vote := hs.vote } ∧
      r'.raftLog.committed = hs.commit := by
  simp only [loadInitialState, he, Bool.not_false, if_true, loadState] at h
  split_ifs at h
  cases h
  exact ⟨rfl, rfl⟩

/-- The constructor's `load_state` call changes the log, the term and the vote only. -/
theorem Raft.loadInitialState_eq {r r' : Raft} {hs : HardState}
    (h : r.loadInitialState hs = .ok r') :
    r' = { r with raftLog := r'.raftLog, term := r'.term, vote := r'.vote } := by
  unfold loadInitialState loadState at h
  split_ifs at h <;> cases h <;> rfl

/-- `applied_to` changes the log only, and keeps its commit index. -/
theorem Raft.applyInitial_eq_ok {r r' : Raft} {applied : Nat}
    (h : r.applyInitial applied = .ok r') :
    r' = { r with raftLog := r'.raftLog } ∧ r'.raftLog.committed = r.raftLog.committed := by
  unfold applyInitial at h
  split_ifs at h
  · cases hl : r.raftLog.appliedTo applied with
    | error e => simp [hl, Except.map] at h
    | ok l =>
      simp only [hl, Except.map, Except.ok.injEq] at h
      subst h
      exact ⟨rfl, RaftLog.committed_appliedTo _ hl⟩
  · cases h
    exact ⟨rfl, rfl⟩

/-- **The constructor, call by call.** -/
theorem Raft.new_eq_ok {c : Config} {u : Uninit} {draw : Nat} {r : Raft}
    (h : Raft.new c u draw = .ok r) :
    ∃ hs cs prs learnerPrs isLearner r₁ r₂, c.storage.initialState = .ok (hs, cs) ∧
      c.members cs = .ok (prs, learnerPrs, isLearner) ∧
      (Raft.fresh c u prs learnerPrs isLearner).loadInitialState hs = .ok r₁ ∧
      r₁.applyInitial c.applied = .ok r₂ ∧ r₂.becomeFollower r₂.term 0 draw = .ok r := by
  unfold Raft.new at h
  split at h
  · cases h
  · rename_i hs cs hi
    obtain ⟨⟨prs, lp, il⟩, hm, h⟩ := Except.bind_eq_ok.mp h
    obtain ⟨r₁, h₁, h⟩ := Except.bind_eq_ok.mp h
    obtain ⟨r₂, h₂, h⟩ := Except.bind_eq_ok.mp h
    exact ⟨hs, cs, prs, lp, il, r₁, r₂, hi, hm, h₁, h₂, h⟩

/-! ### Nodes to instantiate the theorems at -/

/-- The node `c` builds on zeroed memory with a zero draw; the unbuilt node if the constructor
aborts. -/
def Config.build (c : Config) : Raft :=
  match Raft.new c {} 0 with
  | .ok r => r
  | .error _ => Raft.fresh c {} ∅ ∅ false

/-- A storage with no hard state, no membership and no entries. -/
def emptyStorage : Storage := { initialState := .ok ({}, {}) }

/-- Node 2, the learner of the one-voter cluster `{1}`, on an empty storage. -/
def learnerConfig : Config :=
  { id := 2, peers := [1], learners := [2], electionTick := 10, storage := emptyStorage }

/-- The node `learnerConfig` builds. -/
def learnerNode : Raft := learnerConfig.build

theorem new_learnerNode : Raft.new learnerConfig {} 0 = .ok learnerNode := rfl

/-- The calls a host makes on a built node. -/
inductive Op
  | step (m : Message)
  | tick
  | becomeFollower (term lead draw : Nat)
  | addNodeOrLearner (id : Nat) (isLearner : Bool)
  | delProgress (id : Nat)

namespace Raft

/-- Make one call. -/
def apply (r : Raft) : Op → Except Fatal Raft
  | .step m => r.step m
  | .tick => r.tick
  | .becomeFollower term lead draw => r.becomeFollower term lead draw
  | .addNodeOrLearner id isLearner => r.addNodeOrLearner id isLearner
  | .delProgress id => .ok (r.delProgress id)

/-- Make the calls in order, stopping at the first abort. -/
def run (r : Raft) : List Op → Except Fatal Raft
  | [] => .ok r
  | op :: ops => do
    let r ← r.apply op
    r.run ops

end Raft

/-- The nodes a constructor call and a sequence of calls of `Op` (`step`, `tick`,
`become_follower`, `add_node_or_learner`, `del_progress`) build. -/
inductive Reachable : Raft → Prop
  | new {c : Config} {u : Uninit} {draw : Nat} {r : Raft} : Raft.new c u draw = .ok r → Reachable r
  | apply {r r' : Raft} {op : Op} : Reachable r → r.apply op = .ok r' → Reachable r'

/-- A run from `r` to `r'` whose every call `op`, made in state `s`, satisfies `adm s op`. -/
inductive Run (adm : Raft → Op → Prop) : Raft → Raft → Prop
  | refl (r : Raft) : Run adm r r
  | cons {r r₁ r' : Raft} {op : Op} : adm r op → r.apply op = .ok r₁ → Run adm r₁ r' → Run adm r r'

/-- A property kept by every admissible call holds at the end of every admissible run. -/
theorem Run.preserves {adm : Raft → Op → Prop} {P : Raft → Raft → Prop}
    (hrefl : ∀ r, P r r) (htrans : ∀ r r₁ r', P r r₁ → P r₁ r' → P r r')
    (hstep : ∀ r op r₁, adm r op → r.apply op = .ok r₁ → P r r₁) {r r' : Raft}
    (h : Run adm r r') : P r r' := by
  induction h with
  | refl r => exact hrefl r
  | cons ha happ _ ih => exact htrans _ _ _ (hstep _ _ _ ha happ) ih

end KvdRaft
