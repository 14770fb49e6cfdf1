import KvdRaft.Election
import KvdRaft.MembershipInv
import KvdRaft.Reset

/-!
# What every reachable node satisfies

Invariants of the whole node over every run from the constructor, and what a campaign does on a
node that keeps them. They hold because of what the code leaves out: the role transitions are
stubs, no handler of a peer's message is implemented, and nothing replicates.

* `Raft.NodeInv`: the node is a follower (`become_follower` is the only code that writes
  `state_`); `votes_` is empty or holds only the node's own grant (`poll` is called by `campaign`
  alone, for the node itself, and `reset` clears the map); every queued message is one of the
  node's vote requests (`IsVoteRequest`); every progress is the one `reset` gave or the one
  `add_node_or_learner` gave a new member (`ProgressShape`).
* `campaign_of_votesOwn`: on such a node the size of `prs_` alone decides a campaign. With at most
  one id it calls `become_leader` at once, after `become_candidate` (and first
  `become_pre_candidate` for a pre-election); otherwise it calls the first transition only and
  queues one request per other voter (`campaignRequests`), or aborts on a log whose last term is 0.
* `withoutMembers`: all that `add_node_or_learner` and `del_progress` keep.

Results:
* `NodeInv.reachable`: every reachable node keeps the invariant. `follower_with_own_vote`,
  `queued_messages_are_vote_requests` and `progress_reset_or_added` spell it out.
* `campaign_outcome`: the campaign of every reachable node, in closed form.
* `leader_call_needs_one_voter`: no call on a reachable node reaches `become_leader` unless `prs_`
  holds at most one id, whether or not the node is one of them.
* `msgs_only_grow`: along every run from a reachable node `msgs_` only grows; no call drops or
  reorders a queued message.
-/

namespace KvdRaft

namespace Raft

/-! ## The invariant -/

/-- `m` is a vote request of the node's campaigns: from itself to another id, a `MsgVote` or a
`MsgPreVote`, carrying `last_term()` (never 0) and `last_index()`, with no `log_term`. -/
def IsVoteRequest (r : Raft) (m : Message) : Prop :=
  (m.type = .msgVote ∨ m.type = .msgPreVote) ∧ m.from = r.id ∧ m.to ≠ r.id ∧
    m.term = r.raftLog.lastTerm ∧ m.term ≠ 0 ∧ m.index = r.raftLog.lastIndex ∧ m.logTerm = 0

/-- The progress `p` of `k` is the one `reset` gives (`next = last_index()`, and `match` is
`last_index()` for the node itself and 0 for any other id) or the one a new member gets
(`next = last_index() + 1`, `match = 0`). -/
def ProgressShape (r : Raft) (k : Nat) (p : Progress) : Prop :=
  (p.next = r.raftLog.lastIndex ∧ p.match = if k = r.id then r.raftLog.lastIndex else 0) ∨
    (p.next = r.raftLog.lastIndex + 1 ∧ p.match = 0)

/-- **The node invariant.** -/
structure NodeInv (r : Raft) : Prop where
  /-- `state_` is `Follower`. -/
  follower : r.state = .follower
  /-- `votes_` is empty or holds only the node's own grant. -/
  votes_own : r.votes = ∅ ∨ r.votes = AList.singleton r.id true
  /-- Every queued message is one of the node's vote requests. -/
  msgs_requests : ∀ m ∈ r.msgs, r.IsVoteRequest m
  /-- Every progress is `reset`'s or a new member's. -/
  progress_shape : ∀ k p, r.prs.lookup k = some p ∨ r.learnerPrs.lookup k = some p →
    r.ProgressShape k p

/-- The requests a campaign of type `t` queues when it is not won at once: one to every key of
`prs_` but the node's own, in order. -/
def campaignRequests (r : Raft) (t : CampaignType) : List Message :=
  (r.prs.keys.filter (· ≠ r.id)).map fun k =>
    { type := if t = .preElection then .msgPreVote else .msgVote, «from» := r.id, «to» := k,
      term := r.raftLog.lastTerm, index := r.raftLog.lastIndex,
      context := if t = .transfer then kCampaignTransfer else "" }

/-! ## A campaign on a node whose only vote is its own -/

section Campaign

variable {r r' : Raft} {t : CampaignType}

/-- `quorum()` is 1 exactly when `prs_` holds at most one id. -/
theorem quorum_eq_one_iff : r.quorum = 1 ↔ r.prs.keys.length ≤ 1 := by
  unfold quorum
  omega

/-- Polling its own grant leaves `{id ↦ true}`, one granted vote. -/
theorem poll_own (hv : r.votes = ∅ ∨ r.votes = AList.singleton r.id true) :
    r.poll r.id true = ({ r with votes := AList.singleton r.id true }, 1) := by
  rcases hv with hv | hv
  · simp [poll, hv, AList.insert_empty, grantedVotes, AList.singleton_entries]
  · have hmem : r.id ∈ r.votes := by
      rw [hv]
      exact List.mem_singleton_self r.id
    simp only [poll, if_pos hmem]
    rw [hv]
    rfl

/-- The self-vote decides: with at most one id in `prs_` the vote is won, otherwise the requests
go out. -/
theorem campaignPoll_of_votesOwn (r : Raft)
    (hv : r.votes = ∅ ∨ r.votes = AList.singleton r.id true)
    {vm : MessageType} {term : Nat} (won : Raft → Except Fatal Raft) :
    r.campaignPoll t vm term won =
      if r.prs.keys.length ≤ 1 then won { r with votes := AList.singleton r.id true }
      else sendVoteRequests t vm term { r with votes := AList.singleton r.id true } r.prs.keys := by
  simp only [campaignPoll, poll_own hv]
  by_cases hq : r.prs.keys.length ≤ 1
  · rw [if_pos (quorum_eq_one_iff.mpr hq), if_pos hq]
  · rw [if_neg (mt quorum_eq_one_iff.mp hq), if_neg hq]

/-- The loop of a campaign that is not won at once, from any node with the same id and log: it
queues `campaignRequests`, or aborts at its first request on a log whose last term is 0. -/
theorem sendVoteRequests_prs (hq : ¬r.prs.keys.length ≤ 1) (r₀ : Raft) (hid : r₀.id = r.id)
    (hlog : r₀.raftLog = r.raftLog) (term : Nat) :
    sendVoteRequests t (if t = .preElection then .msgPreVote else .msgVote) term r₀ r.prs.keys =
      if r.raftLog.lastTerm = 0 then
        .error (.termNotSet (if t = .preElection then .msgPreVote else .msgVote))
      else .ok { r₀ with msgs := r₀.msgs ++ r.campaignRequests t } := by
  have hvm : (if t = .preElection then MessageType.msgPreVote else .msgVote).isVote = true := by
    split_ifs <;> rfl
  by_cases hlt : r.raftLog.lastTerm = 0
  · have hlt₀ : r₀.raftLog.lastTerm = 0 := by rw [hlog, hlt]
    obtain hnil | ⟨k, hk, hne⟩ := (r.prs.keys_nodup.ne_singleton_iff r.id).mp fun e => by
      simp [e] at hq
    · simp [hnil] at hq
    · rw [if_pos hlt]
      exact sendVoteRequests_error hvm hlt₀ ⟨k, hk, hid ▸ hne⟩
  · have hlt₀ : r₀.raftLog.lastTerm ≠ 0 := by rw [hlog]; exact hlt
    rw [if_neg hlt, sendVoteRequests_eq hvm hlt₀]
    simp only [voteRequest_eq]
    rw [hid, hlog]
    rfl

/-- `campaign(t)` for `t ≠ kCampaignPreElection` on a node whose only vote is its own. -/
theorem campaignElection_of_votesOwn (r : Raft)
    (hv : r.votes = ∅ ∨ r.votes = AList.singleton r.id true) :
    r.campaignElection t =
      if r.prs.keys.length ≤ 1 then
        .ok { r with
          votes := AList.singleton r.id true
          transitions := r.transitions ++ [.candidate, .leader] }
      else sendVoteRequests t .msgVote r.term
        { r with
          votes := AList.singleton r.id true
          transitions := r.transitions ++ [.candidate] } r.prs.keys := by
  unfold campaignElection
  dsimp only
  rw [campaignPoll_of_votesOwn r.becomeCandidate hv]
  simp only [becomeCandidate, becomeLeader, List.append_assoc, List.singleton_append]

/-- **A campaign on a node whose only vote is its own**, in closed form. The size of `prs_` alone
decides it: with at most one id the node calls `become_leader` at once; otherwise it calls the
first transition only and queues `campaignRequests`, or aborts on a log whose last term is 0. -/
theorem campaign_of_votesOwn (hv : r.votes = ∅ ∨ r.votes = AList.singleton r.id true)
    (t : CampaignType) :
    r.campaign t =
      if r.prs.keys.length ≤ 1 then
        .ok { r with
          votes := AList.singleton r.id true
          transitions := r.transitions ++
            if t = .preElection then [.preCandidate, .candidate, .leader]
            else [.candidate, .leader] }
      else if r.raftLog.lastTerm = 0 then
        .error (.termNotSet (if t = .preElection then .msgPreVote else .msgVote))
      else
        .ok { r with
          votes := AList.singleton r.id true
          transitions := r.transitions ++ [if t = .preElection then .preCandidate else .candidate]
          msgs := r.msgs ++ r.campaignRequests t } := by
  unfold campaign
  by_cases hpre : t = .preElection
  · subst hpre
    simp only [↓reduceIte]
    rw [campaignPoll_of_votesOwn r.becomePreCandidate hv]
    by_cases hq : r.prs.keys.length ≤ 1
    · rw [if_pos (show r.becomePreCandidate.prs.keys.length ≤ 1 from hq), if_pos hq,
        campaignElection_of_votesOwn
        { r.becomePreCandidate with votes := AList.singleton r.becomePreCandidate.id true }
        (.inr rfl),
        if_pos (show r.becomePreCandidate.prs.keys.length ≤ 1 from hq)]
      simp [becomePreCandidate]
    · rw [if_neg (show ¬r.becomePreCandidate.prs.keys.length ≤ 1 from hq), if_neg hq]
      exact sendVoteRequests_prs hq
        { r.becomePreCandidate with votes := AList.singleton r.becomePreCandidate.id true }
        rfl rfl _
  · rw [if_neg hpre, campaignElection_of_votesOwn r hv]
    by_cases hq : r.prs.keys.length ≤ 1
    · simp only [if_pos hq, if_neg hpre]
    · have := sendVoteRequests_prs (t := t) hq
        { r with votes := AList.singleton r.id true, transitions := r.transitions ++ [.candidate] }
        rfl rfl r.term
      simp only [if_neg hq, if_neg hpre] at this ⊢
      exact this

/-- What a campaign appends to the record of stub calls: `become_leader` only when `prs_` holds
at most one id. -/
theorem campaign_transitions (hv : r.votes = ∅ ∨ r.votes = AList.singleton r.id true)
    (h : r.campaign t = .ok r') :
    ∃ b, r'.transitions = r.transitions ++ b ∧ (.leader ∈ b → r.prs.keys.length ≤ 1) := by
  rw [campaign_of_votesOwn hv] at h
  split_ifs at h with hq <;> cases h
  all_goals first | exact ⟨_, rfl, fun _ => hq⟩ | exact ⟨_, rfl, by simp⟩

/-- A campaign only appends to the queued messages. -/
theorem campaign_msgs (hv : r.votes = ∅ ∨ r.votes = AList.singleton r.id true)
    (h : r.campaign t = .ok r') : r.msgs <+: r'.msgs := by
  rw [campaign_of_votesOwn hv] at h
  split_ifs at h <;> cases h
  all_goals first | exact List.prefix_refl _ | exact List.prefix_append _ _

/-- Every request `campaignRequests` lists is one of the node's vote requests, on a log whose last
term is not 0. -/
theorem isVoteRequest_of_mem_campaignRequests (hlt : r.raftLog.lastTerm ≠ 0) {m : Message}
    (hm : m ∈ r.campaignRequests t) : r.IsVoteRequest m := by
  simp only [campaignRequests, List.mem_map, List.mem_filter, decide_eq_true_eq] at hm
  obtain ⟨k, ⟨-, hk⟩, rfl⟩ := hm
  exact ⟨by split_ifs <;> simp, rfl, hk, rfl, hlt, rfl, rfl⟩

end Campaign

/-! ## What `step`, `tick` and `add_node_or_learner` do -/

section Calls

variable {r r' : Raft}

/-- The `MsgHup` case of a step leaves the node as it was or runs a campaign. -/
theorem stepHup_cases (h : r.stepHup = .ok r') : r' = r ∨ ∃ t, r.campaign t = .ok r' := by
  unfold stepHup at h
  split at h
  · split at h
    · cases h
    · split_ifs at h
      · exact .inl (Except.ok.inj h).symm
      all_goals exact .inr ⟨_, h⟩
  · exact .inl (Except.ok.inj h).symm

/-- A step leaves the node as it was or runs a campaign. -/
theorem step_cases {m : Message} (h : r.step m = .ok r') :
    r' = r ∨ ∃ t, r.campaign t = .ok r' := by
  unfold step at h
  split_ifs at h
  · split at h
    · exact stepHup_cases h
    · exact .inl (Except.ok.inj h).symm
  · exact .inl (Except.ok.inj h).symm

/-- A tick only counts, or restarts the count and steps a `MsgHup`. -/
theorem tick_cases (h : r.tick = .ok r') :
    r' = { r with electionElapsed := (r.electionElapsed + 1) % 2 ^ 32 } ∨
      ({ r with electionElapsed := 0 } : Raft).step { type := .msgHup, «from» := r.id } =
        .ok r' := by
  unfold tick tickElection at h
  dsimp only at h
  split_ifs at h
  · exact .inr h
  · exact .inl (Except.ok.inj h).symm

/-- The node with its membership erased: all that `add_node_or_learner` and `del_progress`
keep. -/
def withoutMembers (r : Raft) : Raft := { r with prs := ∅, learnerPrs := ∅, isLearner := false }

theorem markRecentActive_withoutMembers (r : Raft) (id : Nat) :
    (r.markRecentActive id).withoutMembers = r.withoutMembers := by
  unfold markRecentActive
  split
  · rfl
  · split <;> rfl

theorem addedNode_withoutMembers (r : Raft) (id : Nat) (l : Bool) :
    (r.addedNode id l).withoutMembers = r.withoutMembers := by
  unfold addedNode
  split_ifs <;> exact markRecentActive_withoutMembers _ _

/-- `add_node_or_learner` changes the membership only. -/
theorem addNodeOrLearner_withoutMembers {id : Nat} {l : Bool}
    (h : r.addNodeOrLearner id l = .ok r') : r'.withoutMembers = r.withoutMembers := by
  unfold addNodeOrLearner at h
  split at h
  · obtain ⟨r₁, h₁, h⟩ := Except.bind_eq_ok.mp h
    cases h
    rw [addedNode_withoutMembers]
    unfold setProgress at h₁
    split_ifs at h₁ <;> cases h₁ <;> rfl
  · split_ifs at h <;> cases h
    · rfl
    · rfl
    · exact addedNode_withoutMembers _ _ _

end Calls

/-- A progress `addedView` leaves is one of `v`'s, up to its flags, or a new member's. -/
theorem mem_addedView {last : Nat} {v : Option Progress × Option Progress} {a b : Bool}
    {p : Progress} (hp : (addedView last v a b).1 = some p ∨ (addedView last v a b).2 = some p) :
    (∃ q, (v.1 = some q ∨ v.2 = some q) ∧ q.next = p.next ∧ q.match = p.match) ∨
      (p.next = last + 1 ∧ p.match = 0) := by
  rcases v with ⟨_ | q, _ | q'⟩
  · -- a new member, or none
    cases a <;> cases b <;>
      simp only [addedView, reduceCtorEq, false_or, or_false, or_self, Option.some.injEq] at hp <;>
      first | exact hp.elim | exact .inr (hp ▸ ⟨rfl, rfl⟩)
  · -- a learner, promoted or kept
    cases a
    · exact .inl ⟨p, hp, rfl, rfl⟩
    · simp only [addedView, reduceCtorEq, or_false, Option.some.injEq] at hp
      exact .inl ⟨q', .inr rfl, hp ▸ rfl, hp ▸ rfl⟩
  all_goals exact .inl ⟨p, hp, rfl, rfl⟩

/-! ## Every reachable node keeps the invariant -/

namespace NodeInv

variable {r r' : Raft}

theorem campaign (h : NodeInv r) {t : CampaignType} (ht : r.campaign t = .ok r') : NodeInv r' := by
  rw [campaign_of_votesOwn h.votes_own] at ht
  split_ifs at ht <;> cases ht
  all_goals first
    | exact ⟨h.follower, .inr rfl, h.msgs_requests, h.progress_shape⟩
    | exact ⟨h.follower, .inr rfl, fun m hm => (List.mem_append.mp hm).elim (h.msgs_requests m)
        (isVoteRequest_of_mem_campaignRequests (by assumption)), h.progress_shape⟩

theorem step (h : NodeInv r) {m : Message} (hs : r.step m = .ok r') : NodeInv r' := by
  rcases step_cases hs with rfl | ⟨_, ht⟩
  exacts [h, h.campaign ht]

theorem tick (h : NodeInv r) (ht : r.tick = .ok r') : NodeInv r' := by
  rcases tick_cases ht with rfl | hs
  · exact ⟨h.1, h.2, h.3, h.4⟩
  · exact (show NodeInv { r with electionElapsed := 0 } from ⟨h.1, h.2, h.3, h.4⟩).step hs

/-- `become_follower` establishes the invariant on any node whose queued messages are its vote
requests. -/
theorem of_becomeFollower {term lead draw : Nat} (hm : ∀ m ∈ r.msgs, r.IsVoteRequest m)
    (h : r.becomeFollower term lead draw = .ok r') : NodeInv r' := by
  refine ⟨?_, ?_, ?_, fun k p hp => .inl ?_⟩
  all_goals obtain rfl := becomeFollower_eq_ok h
  · rfl
  · exact .inl rfl
  · exact hm
  · exact becomeFollower_progress h hp

theorem addNodeOrLearner (h : NodeInv r) (hm : MembershipInv r) {id : Nat} {l : Bool}
    (ha : r.addNodeOrLearner id l = .ok r') : NodeInv r' := by
  obtain ⟨r₁, ha₁, hv, hid, hlog, -, -⟩ := addNodeOrLearner_view hm id l
  obtain rfl : r₁ = r' := Except.ok.inj (ha₁.symm.trans ha)
  have hw := addNodeOrLearner_withoutMembers ha
  have hvotes : r₁.votes = r.votes := (congrArg Raft.votes hw :)
  have hmsgs : r₁.msgs = r.msgs := (congrArg Raft.msgs hw :)
  refine ⟨(congrArg Raft.state hw :).trans h.follower, ?_, ?_, fun k p hp => ?_⟩
  · rw [hvotes, hid]
    exact h.votes_own
  · rw [hmsgs]
    intro m hm'
    unfold IsVoteRequest
    rw [hid, hlog]
    exact h.msgs_requests m hm'
  · change (r₁.view k).1 = some p ∨ (r₁.view k).2 = some p at hp
    rw [hv k] at hp
    unfold ProgressShape
    rw [hid, hlog]
    split_ifs at hp with hk
    · rcases mem_addedView hp with ⟨q, hq, hn, hmt⟩ | hnew
      · rw [← hn, ← hmt]
        exact hk ▸ h.progress_shape _ q hq
      · exact .inr hnew
    · exact h.progress_shape k p hp

theorem delProgress (h : NodeInv r) (id : Nat) : NodeInv (r.delProgress id) := by
  refine ⟨h.follower, h.votes_own, h.msgs_requests, fun k p hp => h.progress_shape k p ?_⟩
  by_cases hk : k = id
  · subst hk
    simp [Raft.delProgress] at hp
  · simpa [Raft.delProgress, AList.lookup_erase_ne hk] using hp

/-- **The constructor establishes the invariant.** -/
theorem new {c : Config} {u : Uninit} {draw : Nat} (h : Raft.new c u draw = .ok r) :
    NodeInv r := by
  obtain ⟨hs, cs, prs, lp, il, r₁, r₂, -, -, h₁, h₂, h⟩ := Raft.new_eq_ok h
  have hm₂ : r₂.msgs = [] := (congrArg Raft.msgs (Raft.applyInitial_eq_ok h₂).1).trans
    (congrArg Raft.msgs (Raft.loadInitialState_eq h₁))
  exact of_becomeFollower (by simp [hm₂]) h

/-- **Every call keeps the invariant** on a node that also keeps the membership invariant. -/
theorem apply (h : NodeInv r) (hm : MembershipInv r) {op : Op} (ha : r.apply op = .ok r') :
    NodeInv r' := by
  cases op with
  | step m => exact h.step ha
  | tick => exact h.tick ha
  | becomeFollower t l d => exact of_becomeFollower h.msgs_requests ha
  | addNodeOrLearner id l => exact h.addNodeOrLearner hm ha
  | delProgress id => cases ha; exact h.delProgress id

theorem reachable (h : Reachable r) : NodeInv r := by
  induction h with
  | new h => exact new h
  | apply hr ha ih => exact ih.apply (MembershipInv.reachable hr) ha

/-- What a call appends to the record of stub calls: `become_leader` only when `prs_` holds at
most one id. -/
theorem apply_transitions (h : NodeInv r) {op : Op} (ha : r.apply op = .ok r') :
    ∃ b, r'.transitions = r.transitions ++ b ∧ (.leader ∈ b → r.prs.keys.length ≤ 1) := by
  have keep : r'.transitions = r.transitions →
      ∃ b, r'.transitions = r.transitions ++ b ∧ (.leader ∈ b → r.prs.keys.length ≤ 1) :=
    fun e => ⟨[], by rw [e, List.append_nil], by simp⟩
  have step : ∀ {r₀ : Raft} {m : Message}, r₀.step m = .ok r' → r₀.votes = r.votes →
      r₀.id = r.id → r₀.transitions = r.transitions → r₀.prs = r.prs →
      ∃ b, r'.transitions = r.transitions ++ b ∧ (.leader ∈ b → r.prs.keys.length ≤ 1) := by
    intro r₀ m hs hv hid ht hp
    rcases step_cases hs with rfl | ⟨_, hc⟩
    · exact keep ht
    · rw [← ht, ← hp]
      exact campaign_transitions (by rw [hv, hid]; exact h.votes_own) hc
  cases op with
  | step m => exact step ha rfl rfl rfl rfl
  | tick =>
    rcases tick_cases ha with rfl | hs
    exacts [keep rfl, step hs rfl rfl rfl rfl]
  | becomeFollower t l d => exact keep (by rw [becomeFollower_eq_ok ha])
  | addNodeOrLearner id l =>
    exact keep (congrArg Raft.transitions (addNodeOrLearner_withoutMembers ha) :)
  | delProgress id => cases ha; exact keep rfl

/-- A call only appends to the queued messages. -/
theorem apply_msgs (h : NodeInv r) {op : Op} (ha : r.apply op = .ok r') : r.msgs <+: r'.msgs := by
  have step : ∀ {r₀ : Raft} {m : Message}, r₀.step m = .ok r' → r₀.votes = r.votes →
      r₀.id = r.id → r₀.msgs = r.msgs → r.msgs <+: r'.msgs := by
    intro r₀ m hs hv hid hm
    rcases step_cases hs with rfl | ⟨_, hc⟩
    · exact hm ▸ List.prefix_refl _
    · exact hm ▸ campaign_msgs (by rw [hv, hid]; exact h.votes_own) hc
  cases op with
  | step m => exact step ha rfl rfl rfl
  | tick =>
    rcases tick_cases ha with rfl | hs
    exacts [List.prefix_refl _, step hs rfl rfl rfl]
  | becomeFollower t l d => exact (becomeFollower_eq_ok ha) ▸ List.prefix_refl _
  | addNodeOrLearner id l =>
    exact (congrArg Raft.msgs (addNodeOrLearner_withoutMembers ha) :) ▸ List.prefix_refl _
  | delProgress id => cases ha; exact List.prefix_refl _

end NodeInv

end Raft

open Raft

/-! ## Reachable nodes -/

/-- Node 1 of the cluster `{1, 2, 3}`, on a storage whose one entry has term 1. -/
def threeVoterLogConfig : Config :=
  { id := 1, peers := [1, 2, 3], electionTick := 10,
    storage := { initialState := .ok ({}, {}), entries := [{ term := 1, type := .entryNormal }] } }

/-- The node `threeVoterLogConfig` builds, after a `MsgHup`: it has asked nodes 2 and 3 for their
votes. -/
def threeVoterCampaigned : Raft :=
  (threeVoterLogConfig.build.step { type := .msgHup, «from» := 1 }).toOption.getD
    threeVoterLogConfig.build

theorem threeVoterCampaigned_reachable : Reachable threeVoterCampaigned :=
  .apply (.new (rfl : Raft.new threeVoterLogConfig {} 0 = .ok threeVoterLogConfig.build))
    (rfl : threeVoterLogConfig.build.apply (.step { type := .msgHup, «from» := 1 }) =
      .ok threeVoterCampaigned)

/-- **No run leaves the follower state, and no vote but the node's own is ever recorded**: in every
node the constructor and a sequence of `step`, `tick`, `become_follower`, `add_node_or_learner`
and `del_progress` calls build, `state_` is `Follower` and `votes_` is empty or holds only the
node's own grant. -/
theorem follower_with_own_vote {r : Raft} (h : Reachable r) :
    r.state = .follower ∧ (r.votes = ∅ ∨ r.votes = AList.singleton r.id true) :=
  ⟨(NodeInv.reachable h).follower, (NodeInv.reachable h).votes_own⟩

theorem follower_with_own_vote_threeVoter :
    Reachable threeVoterCampaigned ∧ threeVoterCampaigned.votes = AList.singleton 1 true ∧
      threeVoterCampaigned.state = .follower ∧ (threeVoterCampaigned.votes = ∅ ∨
        threeVoterCampaigned.votes = AList.singleton threeVoterCampaigned.id true) :=
  ⟨threeVoterCampaigned_reachable, rfl, follower_with_own_vote threeVoterCampaigned_reachable⟩

/-- **Every queued message is one of the node's vote requests**: in every reachable node each
message of `msgs_` is a `MsgVote` or a `MsgPreVote` from the node to another id, with
`last_term()` as its term (never 0), `last_index()` as its index and no `log_term`. -/
theorem queued_messages_are_vote_requests {r : Raft} (h : Reachable r) :
    ∀ m ∈ r.msgs, (m.type = .msgVote ∨ m.type = .msgPreVote) ∧ m.from = r.id ∧ m.to ≠ r.id ∧
      m.term = r.raftLog.lastTerm ∧ m.term ≠ 0 ∧ m.index = r.raftLog.lastIndex ∧ m.logTerm = 0 :=
  (NodeInv.reachable h).msgs_requests

theorem queued_messages_are_vote_requests_threeVoter :
    Reachable threeVoterCampaigned ∧ (threeVoterCampaigned.msgs.map (·.to)) = [3, 2] ∧
      ∀ m ∈ threeVoterCampaigned.msgs, (m.type = .msgVote ∨ m.type = .msgPreVote) ∧
        m.from = threeVoterCampaigned.id ∧ m.to ≠ threeVoterCampaigned.id ∧
        m.term = threeVoterCampaigned.raftLog.lastTerm ∧ m.term ≠ 0 ∧
        m.index = threeVoterCampaigned.raftLog.lastIndex ∧ m.logTerm = 0 :=
  ⟨threeVoterCampaigned_reachable, rfl,
    queued_messages_are_vote_requests threeVoterCampaigned_reachable⟩

/-- **Nothing moves a progress**: in every reachable node each progress, voter's or learner's, is
the one `reset` gave (`next = last_index()`, `match = last_index()` for the node itself and 0
otherwise) or the one a new member got (`next = last_index() + 1`, `match = 0`). -/
theorem progress_reset_or_added {r : Raft} (h : Reachable r) :
    ∀ k p, r.prs.lookup k = some p ∨ r.learnerPrs.lookup k = some p →
      (p.next = r.raftLog.lastIndex ∧ p.match = if k = r.id then r.raftLog.lastIndex else 0) ∨
        (p.next = r.raftLog.lastIndex + 1 ∧ p.match = 0) :=
  (NodeInv.reachable h).progress_shape

theorem progress_reset_or_added_threeVoter :
    Reachable threeVoterCampaigned ∧
      ∀ k p, threeVoterCampaigned.prs.lookup k = some p ∨
          threeVoterCampaigned.learnerPrs.lookup k = some p →
        (p.next = threeVoterCampaigned.raftLog.lastIndex ∧
            p.match = if k = threeVoterCampaigned.id then threeVoterCampaigned.raftLog.lastIndex
              else 0) ∨
          (p.next = threeVoterCampaigned.raftLog.lastIndex + 1 ∧ p.match = 0) :=
  ⟨threeVoterCampaigned_reachable, progress_reset_or_added threeVoterCampaigned_reachable⟩

/-- **The campaign of a reachable node.** With at most one id in `prs_` it is won at once:
`become_leader` follows `become_candidate` (and `become_pre_candidate` for a pre-election), and
the node's own grant is its only vote. Otherwise only the first transition is called and one
request goes to every other key of `prs_`, or the process aborts when the log's last term is 0. -/
theorem campaign_outcome {r : Raft} (h : Reachable r) (t : CampaignType) :
    r.campaign t =
      if r.prs.keys.length ≤ 1 then
        .ok { r with
          votes := AList.singleton r.id true
          transitions := r.transitions ++
            if t = .preElection then [.preCandidate, .candidate, .leader]
            else [.candidate, .leader] }
      else if r.raftLog.lastTerm = 0 then
        .error (.termNotSet (if t = .preElection then .msgPreVote else .msgVote))
      else
        .ok { r with
          votes := AList.singleton r.id true
          transitions := r.transitions ++ [if t = .preElection then .preCandidate else .candidate]
          msgs := r.msgs ++ r.campaignRequests t } :=
  campaign_of_votesOwn (NodeInv.reachable h).votes_own t

theorem campaign_outcome_threeVoter :
    Reachable threeVoterCampaigned ∧
    threeVoterCampaigned.campaign .transfer =
      if threeVoterCampaigned.prs.keys.length ≤ 1 then
        .ok { threeVoterCampaigned with
          votes := AList.singleton threeVoterCampaigned.id true
          transitions := threeVoterCampaigned.transitions ++
            if CampaignType.transfer = .preElection then [.preCandidate, .candidate, .leader]
            else [.candidate, .leader] }
      else if threeVoterCampaigned.raftLog.lastTerm = 0 then
        .error (.termNotSet (if CampaignType.transfer = .preElection then .msgPreVote else .msgVote))
      else
        .ok { threeVoterCampaigned with
          votes := AList.singleton threeVoterCampaigned.id true
          transitions := threeVoterCampaigned.transitions ++
            [if CampaignType.transfer = .preElection then .preCandidate else .candidate]
          msgs := threeVoterCampaigned.msgs ++ threeVoterCampaigned.campaignRequests .transfer } :=
  ⟨threeVoterCampaigned_reachable, campaign_outcome threeVoterCampaigned_reachable .transfer⟩

/-- **`become_leader` needs a cluster of at most one voter**: a call on a reachable node that
reaches `become_leader` is made while `prs_` holds at most one id. -/
theorem leader_call_needs_one_voter {r r' : Raft} {op : Op} (h : Reachable r)
    (ha : r.apply op = .ok r')
    (hl : r.transitions.count .leader < r'.transitions.count .leader) :
    r.prs.keys.length ≤ 1 := by
  obtain ⟨b, hb, hlead⟩ := (NodeInv.reachable h).apply_transitions ha
  rw [hb, List.count_append] at hl
  exact hlead (List.count_pos_iff.mp (by omega))

/-- The learner node after a `MsgHup`. -/
def learnerNodeCampaigned : Raft :=
  (learnerNode.step { type := .msgHup, «from» := 2 }).toOption.getD learnerNode

theorem leader_call_needs_one_voter_learnerNode :
    learnerNode.apply (.step { type := .msgHup, «from» := 2 }) = .ok learnerNodeCampaigned ∧
      learnerNode.transitions.count .leader < learnerNodeCampaigned.transitions.count .leader ∧
      learnerNode.prs.keys.length ≤ 1 := by
  have e : learnerNode.apply (.step { type := .msgHup, «from» := 2 }) = .ok learnerNodeCampaigned :=
    rfl
  have hl : learnerNode.transitions.count .leader <
      learnerNodeCampaigned.transitions.count .leader := by decide
  exact ⟨e, hl, leader_call_needs_one_voter (.new new_learnerNode) e hl⟩

/-- **The core never drops a queued message.** Along every run from a reachable node, `msgs_` only
grows: what was queued stays, in order, at the front, and only the host takes messages out. -/
theorem msgs_only_grow {r r' : Raft} {ops : List Op} (h : Reachable r)
    (hrun : r.run ops = .ok r') : r.msgs <+: r'.msgs := by
  induction ops generalizing r with
  | nil => cases hrun; exact List.prefix_refl _
  | cons op ops ih =>
    obtain ⟨r₁, ha, hrun⟩ := Except.bind_eq_ok.mp hrun
    exact ((NodeInv.reachable h).apply_msgs ha).trans (ih (.apply h ha) hrun)

/-- `threeVoterCampaigned` after ten ticks: its timer runs out and it campaigns again. -/
def threeVoterTicked : Raft :=
  (threeVoterCampaigned.run (List.replicate 10 .tick)).toOption.getD threeVoterCampaigned

theorem msgs_only_grow_threeVoter :
    Reachable threeVoterCampaigned ∧
      threeVoterCampaigned.run (List.replicate 10 .tick) = .ok threeVoterTicked ∧
      threeVoterCampaigned.msgs <+: threeVoterTicked.msgs := by
  have hrun : threeVoterCampaigned.run (List.replicate 10 .tick) = .ok threeVoterTicked := rfl
  exact ⟨threeVoterCampaigned_reachable, hrun, msgs_only_grow threeVoterCampaigned_reachable hrun⟩

end KvdRaft
