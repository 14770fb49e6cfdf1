import KvdRaft.RaftLog

/-!
# The node

Model of `Raft` (`src/kvd/raft/Raft.h`, `Raft.cpp`): its members and the operations the others are
built from (`reset`, `become_follower`, `poll`, `send`, `get_progress`, `set_progress`,
`del_progress`, `load_state`), and the two states it reports (`hard_state`, `soft_state`).

* `Raft` keeps the members the modelled code reads or writes. Left out, because no modelled
  function reads them: `max_msg_size_`, `max_uncommitted_size_`, `max_inflight_` (only passed to
  `Progress`'s inflight window), `match_buf_`, `read_states_`, `check_quorum_`,
  `heartbeat_timeout_`, `disable_proposal_forwarding_`, and `read_only_`, whose two queues `reset`
  clears and nothing fills.
* `step_` and `tick_` are left out as members: `become_follower` is the only code that binds them
  (to `step_follower` and `tick_election`), and the constructor calls it, so every node runs those
  two (`Campaign.lean`).
* `become_pre_candidate`, `become_candidate` and `become_leader` are stubs that only log
  `"no impl yet"`. The model records each call in `transitions`, which no code reads, so that what a
  run asks for can be stated.
* The `uint32_t` members (`election_elapsed_`, `heartbeat_elapsed_`, `election_timeout_`,
  `randomized_election_timeout_`) are `Nat`s kept below `2 ^ 32` by the arithmetic that writes them.
* `random_device_.gen()` is an input: `draw`, the value the generator returns, is an argument of
  every operation that resets the timers.
-/

namespace KvdRaft

/-- Modelled from the spec: `RandomDevice` (not under src/), the election-timeout jitter, built as
`random_device_(0, c.election_tick)`. Its draws are inputs of the model. -/
structure RandomDevice where
  min : Nat
  max : Nat
  deriving Repr, DecidableEq

/-- Modelled from the spec: the values `gen()` can return, those of the range `[min, max]` the
device is built with, both bounds included. -/
def RandomDevice.CanReturn (d : RandomDevice) (x : Nat) : Prop := d.min ≤ x ∧ x ≤ d.max

instance (d : RandomDevice) (x : Nat) : Decidable (d.CanReturn x) :=
  inferInstanceAs (Decidable (_ ∧ _))

/-- Modelled from the spec: `SoftState` (Ready.h is not under src/), the leader and the role that
`soft_state()` reports and a `Ready` carries when they change. -/
structure SoftState where
  lead : Nat
  raftState : RaftState
  deriving Repr, DecidableEq

/-- The members of `Raft` the modelled code reads or writes, and the record of stub calls. -/
structure Raft where
  id : Nat
  term : Nat
  vote : Nat
  raftLog : RaftLog
  prs : ProgressMap
  learnerPrs : ProgressMap
  state : RaftState
  isLearner : Bool
  votes : VoteMap
  msgs : List Message
  lead : Nat
  leadTransferee : Nat
  pendingConfIndex : Nat
  uncommittedSize : Nat
  electionElapsed : Nat
  heartbeatElapsed : Nat
  preVote : Bool
  electionTimeout : Nat
  randomizedElectionTimeout : Nat
  randomDevice : RandomDevice
  /-- The calls of the stubbed role transitions, oldest first. -/
  transitions : List RaftState

/-- The granted votes of a `votes_` map: the `true` entries `poll` counts. -/
def grantedVotes (votes : VoteMap) : Nat := votes.entries.countP (·.2)

namespace Raft

variable (r : Raft)

/-- `quorum()`: `prs_.size() / 2 + 1`. -/
def quorum : Nat := r.prs.keys.length / 2 + 1

/-- `promotable()`: the node is in `prs_`. -/
def promotable : Bool := decide (r.id ∈ r.prs)

/-- `past_election_timeout()`. -/
def pastElectionTimeout : Bool := decide (r.randomizedElectionTimeout ≤ r.electionElapsed)

/-- The ids `for_each_progress` visits, in order: the keys of `prs_`, then those of
`learner_prs_`. -/
def forEachProgressIds : List Nat := r.prs.keys ++ r.learnerPrs.keys

/-- `get_progress(id)`: `prs_` first, then `learner_prs_`; `none` is `nullptr`. -/
def getProgress (id : Nat) : Option Progress :=
  match r.prs.lookup id with
  | some p => some p
  | none => r.learnerPrs.lookup id

/-- `set_progress(id, match, next, is_learner)`: a voter's fresh progress replaces any learner
entry of `id`; a learner's is refused for a voter. -/
def setProgress (id «match» next : Nat) (isLearner : Bool) : Except Fatal Raft :=
  if !isLearner then
    .ok { r with
      learnerPrs := r.learnerPrs.erase id
      prs := r.prs.insert id { «match», next } }
  else if id ∈ r.prs then .error (.voterToLearner r.id id)
  else .ok { r with learnerPrs := r.learnerPrs.insert id { «match», next, isLearner := true } }

/-- `del_progress(id)`. -/
def delProgress (id : Nat) : Raft :=
  { r with prs := r.prs.erase id, learnerPrs := r.learnerPrs.erase id }

/-- `become_pre_candidate()`, a stub: the call is recorded. -/
def becomePreCandidate : Raft := { r with transitions := r.transitions ++ [.preCandidate] }

/-- `become_candidate()`, a stub: the call is recorded. -/
def becomeCandidate : Raft := { r with transitions := r.transitions ++ [.candidate] }

/-- `become_leader()`, a stub: the call is recorded. -/
def becomeLeader : Raft := { r with transitions := r.transitions ++ [.leader] }

/-- `abort_leader_transfer()`. -/
def abortLeaderTransfer : Raft := { r with leadTransferee := 0 }

/-- `reset_randomized_election_timeout()`, where `draw` is what `random_device_.gen()` returns. The
sum and the doubled timeout of the `assert` are `uint32_t` arithmetic. -/
def resetRandomizedElectionTimeout (draw : Nat) : Except Fatal Raft :=
  let t := (r.electionTimeout + draw) % 2 ^ 32
  if t ≤ 2 * r.electionTimeout % 2 ^ 32 then .ok { r with randomizedElectionTimeout := t }
  else .error (.randomizedTimeoutAssert t r.electionTimeout)

/-- The progress `reset`'s callback leaves for `id`: a fresh one that keeps the learner flag, with
`next = last_index()` and, for the node itself, `match = last_index()`. -/
def resetProgress (id : Nat) (p : Progress) : Progress :=
  { next := r.raftLog.lastIndex
    isLearner := p.isLearner
    «match» := if id = r.id then r.raftLog.lastIndex else 0 }

/-- `reset(term)`: a new term clears the vote; timers, leader, votes, progress and the
uncommitted tally start over. -/
def reset (term draw : Nat) : Except Fatal Raft := do
  let r := if r.term ≠ term then { r with term := term, vote := 0 } else r
  let r ← { r with lead := 0, electionElapsed := 0, heartbeatElapsed := 0 }
    |>.resetRandomizedElectionTimeout draw
  let r := r.abortLeaderTransfer
  pure { r with
    votes := ∅
    prs := r.prs.mapWithId r.resetProgress
    learnerPrs := r.learnerPrs.mapWithId r.resetProgress
    pendingConfIndex := 0
    uncommittedSize := 0 }

/-- `become_follower(term, lead)`. -/
def becomeFollower (term lead draw : Nat) : Except Fatal Raft := do
  let r ← r.reset term draw
  pure { r with lead := lead, state := .follower }

/-- `poll(id, type, v)`: record `v` for `id` unless `id` has voted already, then count the granted
votes. The message type is only logged. -/
def poll (id : Nat) (v : Bool) : Raft × Nat :=
  let votes := if id ∈ r.votes then r.votes else r.votes.insert id v
  ({ r with votes := votes }, grantedVotes votes)

/-- `send(msg)`: stamp the sender; a vote message must carry a term, any other must not and gets
`term_` (a proposal and a read index excepted). -/
def send (m : Message) : Except Fatal Raft :=
  let m := { m with «from» := r.id }
  if m.type.isVote then
    if m.term = 0 then .error (.termNotSet m.type) else .ok { r with msgs := r.msgs ++ [m] }
  else if m.term ≠ 0 then .error (.termSet m.type m.term)
  else
    let m := if m.type ≠ .msgProp ∧ m.type ≠ .msgReadIndex then { m with term := r.term } else m
    .ok { r with msgs := r.msgs ++ [m] }

/-- `load_state(hs)`: the hard state's commit must lie in `[committed, last_index]`. -/
def loadState (hs : HardState) : Except Fatal Raft :=
  if h : hs.commit < r.raftLog.committed ∨ r.raftLog.lastIndex < hs.commit then
    .error (.commitOutOfRange r.id hs.commit r.raftLog.committed r.raftLog.lastIndex)
  else
    .ok { r with
      raftLog := r.raftLog.withCommitted hs.commit (by omega) (by omega)
      term := hs.term
      vote := hs.vote }

/-- `hard_state()`: the state a host persists, the term, the vote and the commit index. -/
def hardState : HardState := { term := r.term, vote := r.vote, commit := r.raftLog.committed }

/-- `soft_state()`: the leader and the role. -/
def softState : SoftState := ⟨r.lead, r.state⟩

/-! ## What `become_follower` leaves -/

variable {r} {r' : Raft} {term lead draw : Nat}

/-- `reset` clears the votes. -/
theorem reset_votes (h : r.reset term draw = .ok r') : r'.votes = ∅ := by
  unfold reset at h
  dsimp only at h
  obtain ⟨r₁, -, h⟩ := Except.bind_eq_ok.mp h
  cases h
  rfl

/-- **`become_follower` in one equation**: a new term clears the vote, and every progress is the
one `reset`'s callback gives. It fails only on the timeout `assert`. -/
theorem becomeFollower_eq_ok (h : r.becomeFollower term lead draw = .ok r') :
    r' = { r with
      term := term
      vote := if r.term = term then r.vote else 0
      lead := lead
      state := .follower
      electionElapsed := 0
      heartbeatElapsed := 0
      randomizedElectionTimeout := (r.electionTimeout + draw) % 2 ^ 32
      leadTransferee := 0
      votes := ∅
      prs := r.prs.mapWithId r.resetProgress
      learnerPrs := r.learnerPrs.mapWithId r.resetProgress
      pendingConfIndex := 0
      uncommittedSize := 0 } := by
  unfold becomeFollower reset resetRandomizedElectionTimeout at h
  by_cases ht : r.term = term <;>
    simp only [ht, ne_eq, not_true_eq_false, not_false_eq_true, if_true, if_false] at h ⊢ <;>
    split_ifs at h
  all_goals first | (cases h; rfl) | simp at h

end Raft

end KvdRaft
