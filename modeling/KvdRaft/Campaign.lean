import KvdRaft.Raft

/-!
# Elections: `campaign`, `step` and `tick`

Model of `Raft::campaign`, `Raft::step`, `Raft::tick_election` and `Raft::tick`
(`src/kvd/raft/Raft.cpp:158-287, 411-419, 613-624`).

* `campaign` is cut where its two branches meet: `campaignPoll` is the self-vote and what follows
  it, `campaignElection` the branch of every type but `kCampaignPreElection`, whose won vote calls
  `campaign(kCampaignElection)`, that is `campaignElection .election`.
* `voteRequest` builds a request one assignment at a time, as the source does: `msg->term` is
  assigned twice, the second time from `last_term()`, and `log_term` is never assigned.
* `step` returns `Status::ok()` on every path that returns, so its result is the node after the
  call or the abort. Its default case runs `step_`, which is `step_follower` on every node, a stub
  that returns `Status::ok()`.

Results: `Frame` says that a call changed at most the election bookkeeping (votes, outgoing
messages, the election tick count, the record of stub calls). `step_frame` and `tick_frame`: no
`step` or `tick` changes anything else, so term, vote, role, leader, membership, progress and log
stay as they were.
-/

namespace KvdRaft

/-- `num_of_pending_conf(entries)`: the conf-change entries among `entries`. -/
def numOfPendingConf (entries : List Entry) : Nat :=
  entries.countP (·.type = .entryConfChange)

namespace Raft

/-- The vote request `campaign` builds for `to`, assignment by assignment. -/
def voteRequest (r : Raft) (campaignType : CampaignType) (voteMsg : MessageType)
    (term «to» : Nat) : Message :=
  let msg : Message := {}
  let msg := { msg with term := term }
  let msg := { msg with «to» := «to» }
  let msg := { msg with type := voteMsg }
  let msg := { msg with index := r.raftLog.lastIndex }
  let msg := { msg with term := r.raftLog.lastTerm }
  { msg with context := if campaignType = .transfer then kCampaignTransfer else "" }

/-- The loop of `campaign` over the keys of `prs_`: a request to every id but the node's own. -/
def sendVoteRequests (campaignType : CampaignType) (voteMsg : MessageType) (term : Nat) :
    Raft → List Nat → Except Fatal Raft
  | r, [] => .ok r
  | r, id :: ids =>
    if id = r.id then sendVoteRequests campaignType voteMsg term r ids
    else do
      let r ← r.send (r.voteRequest campaignType voteMsg term id)
      sendVoteRequests campaignType voteMsg term r ids

variable (r : Raft)

/-- `campaign` after its type-specific transition: the node votes for itself; when `quorum()`
equals the granted votes it moves on with `won`, otherwise it sends the vote requests. -/
def campaignPoll (campaignType : CampaignType) (voteMsg : MessageType) (term : Nat)
    (won : Raft → Except Fatal Raft) : Except Fatal Raft :=
  let p := r.poll r.id true
  if r.quorum = p.2 then won p.1
  else sendVoteRequests campaignType voteMsg term p.1 r.prs.keys

/-- `campaign(t)` for `t ≠ kCampaignPreElection`: `become_candidate()`, then ask for `term_`; a won
vote calls `become_leader()`. -/
def campaignElection (campaignType : CampaignType) : Except Fatal Raft :=
  let r := r.becomeCandidate
  r.campaignPoll campaignType .msgVote r.term fun r => .ok r.becomeLeader

/-- `campaign(campaign_type)`. A pre-election asks for `term_ + 1` after `become_pre_candidate()`,
and a won pre-vote runs `campaign(kCampaignElection)`. -/
def campaign (campaignType : CampaignType) : Except Fatal Raft :=
  if campaignType = .preElection then
    let r := r.becomePreCandidate
    r.campaignPoll campaignType .msgPreVote (r.term + 1) fun r => r.campaignElection .election
  else r.campaignElection campaignType

/-- The `MsgHup` case of `step`: a node that is not the leader campaigns, unless the committed but
unapplied entries hold a conf change. -/
def stepHup : Except Fatal Raft :=
  if r.state ≠ .leader then
    match r.raftLog.slice (r.raftLog.applied + 1) (r.raftLog.committed + 1) with
    | .error e => .error (.unappliedEntries e)
    | .ok entries =>
      if numOfPendingConf entries > 0 ∧ r.raftLog.committed > r.raftLog.applied then .ok r
      else if r.preVote then r.campaign .preElection
      else r.campaign .election
  else .ok r

/-- The term check at the head of `step`: at term 0 every message goes on (`"local msg"`); the
branches for a higher and a lower term are empty, and a message of the node's own non-zero term
stops with `Status::ok()`. -/
def termCheckPasses (m : Message) : Bool :=
  r.term == 0 || r.term < m.term || m.term < r.term

/-- `step(msg)`. -/
def step (m : Message) : Except Fatal Raft :=
  if r.termCheckPasses m then
    match m.type with
    | .msgHup => r.stepHup
    | _ => .ok r
  else .ok r

/-- `tick_election()`: count the tick; a promotable node past its timeout restarts the count and
steps a local `MsgHup`, dropping the status. -/
def tickElection : Except Fatal Raft :=
  let r := { r with electionElapsed := (r.electionElapsed + 1) % 2 ^ 32 }
  if r.promotable && r.pastElectionTimeout then
    let r := { r with electionElapsed := 0 }
    r.step { type := .msgHup, «from» := r.id }
  else .ok r

/-- `tick()`: `tick_` is `tick_election` on every node. -/
def tick : Except Fatal Raft := r.tickElection

/-! ## What a step can change -/

/-- The node with its election bookkeeping erased. -/
def withoutElection : Raft :=
  { r with votes := ∅, msgs := [], electionElapsed := 0, transitions := [] }

/-- `r'` differs from `r` at most in the election bookkeeping: votes, outgoing messages, the
election tick count and the record of stub calls. -/
def Frame (r r' : Raft) : Prop := r'.withoutElection = r.withoutElection

variable {r} {r₁ r₂ : Raft}

@[refl] theorem Frame.refl (r : Raft) : Frame r r := rfl

theorem Frame.trans (h₁ : Frame r r₁) (h₂ : Frame r₁ r₂) : Frame r r₂ := Eq.trans h₂ h₁

theorem Frame.term (h : Frame r r₁) : r₁.term = r.term := (congrArg Raft.term h :)
theorem Frame.vote (h : Frame r r₁) : r₁.vote = r.vote := (congrArg Raft.vote h :)
theorem Frame.id (h : Frame r r₁) : r₁.id = r.id := (congrArg Raft.id h :)
theorem Frame.prs (h : Frame r r₁) : r₁.prs = r.prs := (congrArg Raft.prs h :)
theorem Frame.learnerPrs (h : Frame r r₁) : r₁.learnerPrs = r.learnerPrs :=
  (congrArg Raft.learnerPrs h :)
theorem Frame.isLearner (h : Frame r r₁) : r₁.isLearner = r.isLearner :=
  (congrArg Raft.isLearner h :)
theorem Frame.raftLog (h : Frame r r₁) : r₁.raftLog = r.raftLog := (congrArg Raft.raftLog h :)
theorem Frame.state (h : Frame r r₁) : r₁.state = r.state := (congrArg Raft.state h :)
theorem Frame.lead (h : Frame r r₁) : r₁.lead = r.lead := (congrArg Raft.lead h :)

theorem poll_frame (id : Nat) (v : Bool) : Frame r (r.poll id v).1 := rfl

/-- A `send` that does not abort queues one message and changes nothing else. -/
theorem send_eq_ok {m : Message} (h : r.send m = .ok r₁) :
    ∃ m', r₁ = { r with msgs := r.msgs ++ [m'] } := by
  unfold send at h
  dsimp only at h
  split_ifs at h <;> cases h <;> exact ⟨_, rfl⟩

theorem send_frame {m : Message} (h : r.send m = .ok r₁) : Frame r r₁ := by
  obtain ⟨_, rfl⟩ := send_eq_ok h
  rfl

theorem sendVoteRequests_frame {t : CampaignType} {vm : MessageType} {term : Nat} :
    ∀ {ids : List Nat} {r r₁ : Raft}, sendVoteRequests t vm term r ids = .ok r₁ → Frame r r₁
  | [], _, _, h => by cases h; rfl
  | id :: ids, r, r₁, h => by
    unfold sendVoteRequests at h
    split_ifs at h
    · exact sendVoteRequests_frame h
    · obtain ⟨r', hs, h⟩ := Except.bind_eq_ok.mp h
      exact (send_frame hs).trans (sendVoteRequests_frame h)

theorem campaignPoll_frame {t : CampaignType} {vm : MessageType} {term : Nat}
    {won : Raft → Except Fatal Raft} (hwon : ∀ r r₁, won r = .ok r₁ → Frame r r₁)
    (h : r.campaignPoll t vm term won = .ok r₁) : Frame r r₁ := by
  unfold campaignPoll at h
  dsimp only at h
  split_ifs at h
  · exact (poll_frame _ _).trans (hwon _ _ h)
  · exact (poll_frame _ _).trans (sendVoteRequests_frame h)

theorem campaignElection_frame {t : CampaignType} (h : r.campaignElection t = .ok r₁) :
    Frame r r₁ := by
  unfold campaignElection at h
  exact (show Frame r r.becomeCandidate from rfl).trans <|
    campaignPoll_frame (fun _ _ h => by cases h; rfl) h

theorem campaign_frame {t : CampaignType} (h : r.campaign t = .ok r₁) : Frame r r₁ := by
  unfold campaign at h
  split_ifs at h
  · exact (show Frame r r.becomePreCandidate from rfl).trans <|
      campaignPoll_frame (fun _ _ h => campaignElection_frame h) h
  · exact campaignElection_frame h

theorem stepHup_frame (h : r.stepHup = .ok r₁) : Frame r r₁ := by
  unfold stepHup at h
  split at h
  · split at h
    · cases h
    · split_ifs at h
      · cases h; rfl
      · exact campaign_frame h
      · exact campaign_frame h
  · cases h; rfl

/-- **A step changes at most the election bookkeeping.** -/
theorem step_frame {m : Message} (h : r.step m = .ok r₁) : Frame r r₁ := by
  unfold step at h
  split_ifs at h
  · split at h
    · exact stepHup_frame h
    · cases h; rfl
  · cases h; rfl

/-- **A tick changes at most the election bookkeeping.** -/
theorem tick_frame (h : r.tick = .ok r₁) : Frame r r₁ := by
  unfold tick tickElection at h
  dsimp only at h
  split_ifs at h
  · exact step_frame (r := { r with electionElapsed := 0 }) h
  · cases h; rfl

end Raft

end KvdRaft
