import Mathlib.Data.List.AList
import Mathlib.Algebra.Group.Nat.Basic

/-!
# The value types of the Raft core

Model of the types `Raft.cpp` reads and writes: `proto::MessageType`, `proto::Entry`,
`proto::HardState`, `proto::ConfState`, `proto::Message`, `Progress`, and the
`std::unordered_map`s of the node (`prs_`, `learner_prs_`, `votes_`). Their headers (`proto.h`,
`Progress.h`) are not part of the source: what is modelled is what `Raft.cpp` uses of them, with
the defaults a default-constructed value has.

* `uint64_t` ids, terms and log indices are `Nat`. `Raft.cpp` adds one to a term or an index in
  three places (`campaign`, `add_node_or_learner`, `step`); none of them is taken to wrap.
* A `std::unordered_map` is an `AList`, a list of entries with distinct keys. The list order is one
  order the C++ map may iterate in; no result below depends on it, and two maps are compared by
  `lookup`, as `unordered_map::operator==` compares them.
* Every `LOG_FATAL` is a constructor of `Fatal` whose docstring holds the source's format string: a
  call that aborts the process returns `.error`.
-/

namespace KvdRaft

/-- `proto::MessageType`: the local and peer message types. -/
inductive MessageType
  | msgHup | msgBeat | msgProp | msgApp | msgAppResp | msgVote | msgVoteResp | msgSnap
  | msgHeartbeat | msgHeartbeatResp | msgUnreachable | msgSnapStatus | msgCheckQuorum
  | msgTransferLeader | msgTimeoutNow | msgReadIndex | msgReadIndexResp | msgPreVote
  | msgPreVoteResp
  deriving Repr, DecidableEq

/-- `proto::EntryType`. -/
inductive EntryType
  | entryNormal | entryConfChange
  deriving Repr, DecidableEq

/-- `proto::Entry`, as far as the node reads it. An entry's index is its position in the log
(`RaftLog.entry?`), and its payload is never read. -/
structure Entry where
  term : Nat
  type : EntryType
  deriving Repr, DecidableEq

/-- `proto::HardState`. -/
structure HardState where
  term : Nat := 0
  vote : Nat := 0
  commit : Nat := 0
  deriving Repr, DecidableEq

/-- Modelled from the spec: `HardState::is_empty_state` (proto.h is not under src/). A hard state
`{term, vote, commit}` is empty when it is the default one, all three zero. -/
def HardState.isEmptyState (hs : HardState) : Bool :=
  hs.term == 0 && hs.vote == 0 && hs.commit == 0

/-- `proto::ConfState`: voter ids and learner ids. -/
structure ConfState where
  nodes : List Nat := []
  learners : List Nat := []
  deriving Repr, DecidableEq

/-- `proto::Message`, with the fields `Raft.cpp` sets or reads; a default-constructed message has
type 0 (`MsgHup`), every number zero and an empty context. Entries, commit, snapshot and the reject
fields are never set by the modelled code. -/
structure Message where
  type : MessageType := .msgHup
  «from» : Nat := 0
  «to» : Nat := 0
  term : Nat := 0
  logTerm : Nat := 0
  index : Nat := 0
  context : String := ""
  deriving Repr, DecidableEq

/-- The four types `send` requires a term for: vote requests and vote responses. -/
def MessageType.isVote (t : MessageType) : Bool :=
  t == .msgVote || t == .msgVoteResp || t == .msgPreVote || t == .msgPreVoteResp

/-- `RaftState`, in the order of the enum. -/
inductive RaftState
  | follower | candidate | leader | preCandidate
  deriving Repr, DecidableEq

/-- The campaign types: the `kCampaign*` string constants `campaign` is called with. -/
inductive CampaignType
  | preElection | election | transfer
  deriving Repr, DecidableEq

/-- `kCampaignTransfer`, whose bytes a transfer campaign puts in each request's context. -/
def kCampaignTransfer : String := "CampaignTransfer"

/-- Modelled from the spec: `Progress` (Progress.h is not under src/), with the fields `Raft.cpp`
sets or reads. A fresh `Progress(max_inflight)` has `match = next = 0`, is a voter's and is not
recently active; its state, pause flag, pending snapshot and inflight window are never read. -/
structure Progress where
  «match» : Nat := 0
  next : Nat := 0
  isLearner : Bool := false
  recentActive : Bool := false
  deriving Repr, DecidableEq

/-- `std::unordered_map<uint64_t, ProgressPtr>`: `prs_` and `learner_prs_`. Every map owns its
progress objects (no pointer is shared between two entries), so a progress is a value. -/
abbrev ProgressMap := AList fun _ : Nat => Progress

/-- `std::unordered_map<uint64_t, bool>`: `votes_`. -/
abbrev VoteMap := AList fun _ : Nat => Bool

/-- Modelled from the spec: the error kinds of a log read (`Compacted`, `Unavailable`). -/
inductive LogError
  | compacted | unavailable
  deriving Repr, DecidableEq

/-- The ways the modelled code aborts the process: every `LOG_FATAL` and `assert` of `Raft.cpp`,
and the check of the log code the constructor calls. -/
inductive Fatal
  /-- `Raft::Raft`: `"%s"`, the status of a failed `Storage::initial_state`. -/
  | initialState (status : String)
  /-- `Raft::Raft`:
  `"cannot specify both newRaft(peers, learners) and ConfState.(Nodes, Learners)"`. -/
  | peersAndConfState
  /-- `Raft::Raft`: `"node %lu is in both learner and peer list"`. -/
  | learnerAndPeer (node : Nat)
  /-- `Raft::load_state`: `"%lu state.commit %lu is out of range [%lu, %lu]"`. -/
  | commitOutOfRange (id commit committed lastIndex : Nat)
  /-- Modelled from the spec: `RaftLog::applied_to(i)` needs `committed ≥ i ≥ applied`. -/
  | appliedOutOfRange (i applied committed : Nat)
  /-- `Raft::step`: `"unexpected error getting unapplied entries (%s)"`. -/
  | unappliedEntries (err : LogError)
  /-- `Raft::send`: `"term should be set when sending %d"`. -/
  | termNotSet (type : MessageType)
  /-- `Raft::send`: `"term should not be set when sending %d (was %lu)"`. -/
  | termSet (type : MessageType) (term : Nat)
  /-- `Raft::set_progress`: `"%lu unexpected changing from voter to learner for %lu"`. -/
  | voterToLearner (id node : Nat)
  /-- `Raft::reset_randomized_election_timeout`:
  `assert(randomized_election_timeout_ <= 2 * election_timeout_)`, checked as in the test build. -/
  | randomizedTimeoutAssert (randomized electionTimeout : Nat)
  deriving Repr, DecidableEq

/-! ## `Except` -/

section Except

variable {ε α β : Type}

@[simp] theorem Except.ok_bind (a : α) (f : α → Except ε β) : (Except.ok a >>= f) = f a := rfl

@[simp] theorem Except.error_bind (e : ε) (f : α → Except ε β) :
    (Except.error e >>= f) = Except.error e := rfl

/-- A bind that returns `.ok` ran both halves. -/
theorem Except.bind_eq_ok {x : Except ε α} {f : α → Except ε β} {b : β} :
    x >>= f = .ok b ↔ ∃ a, x = .ok a ∧ f a = .ok b := by
  cases x <;> simp

/-- A bind returns a value exactly when both halves do. -/
theorem Except.bind_isOk {x : Except ε α} {f : α → Except ε β} :
    (∃ b, (x >>= f) = .ok b) ↔ ∃ a, x = .ok a ∧ ∃ b, f a = .ok b := by
  cases x <;> simp

theorem Except.pure_isOk (a : α) : (∃ b, (pure a : Except ε α) = .ok b) ↔ True :=
  iff_true_intro ⟨a, rfl⟩

end Except

/-! ## Rewriting every progress in place -/

/-- Assign `f id p` to every entry of the map, as a `for_each_progress` callback that writes
through its `ProgressPtr&` does. Keys and their order do not change. -/
def ProgressMap.mapWithId (f : Nat → Progress → Progress) (m : ProgressMap) : ProgressMap :=
  ⟨m.entries.map fun e => ⟨e.1, f e.1 e.2⟩, by
    have : (m.entries.map fun e => (⟨e.1, f e.1 e.2⟩ : Σ _ : Nat, Progress)).keys = m.keys := by
      simp [List.keys, AList.keys, Function.comp_def]
    simpa [List.NodupKeys, this] using m.keys_nodup⟩

namespace ProgressMap

variable (f : Nat → Progress → Progress) (m : ProgressMap)

@[simp] theorem keys_mapWithId : (m.mapWithId f).keys = m.keys := by
  simp [mapWithId, AList.keys, List.keys, Function.comp_def]

@[simp] theorem mem_mapWithId {k : Nat} : k ∈ m.mapWithId f ↔ k ∈ m := by
  simp [AList.mem_keys]

@[simp] theorem lookup_mapWithId (k : Nat) :
    (m.mapWithId f).lookup k = (m.lookup k).map (f k) := by
  rcases m with ⟨l, hl⟩
  simp only [mapWithId, AList.lookup]
  clear hl
  induction l with
  | nil => rfl
  | cons e l ih =>
    obtain ⟨a, b⟩ := e
    by_cases h : k = a
    · subst h; simp
    · rw [List.map_cons, List.dlookup_cons_ne _ _ h, List.dlookup_cons_ne _ _ h, ih]

end ProgressMap

end KvdRaft
