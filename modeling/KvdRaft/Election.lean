import Mathlib.Data.List.Dedup
import KvdRaft.Node

/-!
# What a `MsgHup` starts

Results on `step(MsgHup)` and `campaign` (`Campaign.lean`), for every node.

* `stepHup_of_gate`, `stepHup_of_open`: the gate of the `MsgHup` case. The leader, and a node
  whose committed but unapplied entries hold a conf change, stay as they are; any other node
  campaigns, with a pre-vote first when `pre_vote_` is set. The gate never aborts: the slice it
  reads lies within the log (`RaftLog.slice_unapplied`). `step_msgHup_gate` is the same through
  `step` for every `MsgHup` the code builds: it carries term 0, so it passes `step`'s term check.
* `sendVoteRequests_eq`, `sendVoteRequests_error`: the requests `campaign` sends. There is one to
  every key of `prs_` but the node's own and none to a learner, each of the campaign's type, with
  `index = last_index()` and the transfer context. Each carries `last_term()` as its term
  whatever term is sought, and no `log_term`; on a log whose last term is 0 the first request
  aborts the process.
* `tick_of_not_promotable`: a tick checks membership first, so a node outside `prs_` only counts
  its ticks, however many (`ticks_outside_prs_only_count`).
* `poll_tally_first_grants`: after a reset, each `poll` of a sequence returns the number of
  distinct ids whose first poll granted the vote (`firstGrants`); a later poll of the same id
  changes nothing, so the tally never decreases and never exceeds the ids polled.
-/

namespace KvdRaft

namespace Raft

variable {r r' : Raft}

/-! ## The gate of `MsgHup` -/

/-- The committed but unapplied entries hold a conf change (the gate's `pending > 0 &&
committed > applied`) iff some index of `(applied, committed]` holds one. -/
theorem pendingConf_iff (l : RaftLog) :
    (numOfPendingConf ((l.entries.drop (l.applied + 1 - l.firstIndex)).take
        (l.committed - l.applied)) > 0 ∧ l.committed > l.applied) ↔
      ∃ i e, l.applied < i ∧ i ≤ l.committed ∧ l.entry? i = some e ∧
        e.type = .entryConfChange := by
  have hf : l.firstIndex ≤ l.applied + 1 := by
    have := l.snapshotIndex_le_applied
    simp only [RaftLog.firstIndex]
    omega
  have hm := l.mem_slice hf (l.committed + 1)
  rw [Nat.add_sub_add_right] at hm
  simp only [numOfPendingConf, gt_iff_lt, List.countP_pos_iff, decide_eq_true_eq]
  constructor
  · rintro ⟨⟨e, he, ht⟩, -⟩
    obtain ⟨i, hi₁, hi₂, hi⟩ := (hm e).mp he
    exact ⟨i, e, by omega, by omega, hi, ht⟩
  · rintro ⟨i, e, hi₁, hi₂, hi, ht⟩
    exact ⟨⟨e, (hm e).mpr ⟨i, by omega, by omega, hi⟩, ht⟩, by omega⟩

/-- The leader, and a node with an unapplied conf change, ignore a `MsgHup`. -/
theorem stepHup_of_gate (h : r.state = .leader ∨ ∃ i e, r.raftLog.applied < i ∧
      i ≤ r.raftLog.committed ∧ r.raftLog.entry? i = some e ∧ e.type = .entryConfChange) :
    r.stepHup = .ok r := by
  rcases h with h | h
  · simp [stepHup, h]
  · simp only [stepHup, RaftLog.slice_unapplied, (pendingConf_iff _).mpr h, and_self, if_true,
      ite_self]

/-- Any other node campaigns, pre-vote first when `pre_vote_` is set. -/
theorem stepHup_of_open (hs : r.state ≠ .leader) (hp : ¬∃ i e, r.raftLog.applied < i ∧
      i ≤ r.raftLog.committed ∧ r.raftLog.entry? i = some e ∧ e.type = .entryConfChange) :
    r.stepHup = r.campaign (if r.preVote then .preElection else .election) := by
  simp only [stepHup, RaftLog.slice_unapplied, hs, ne_eq, not_false_eq_true, if_true,
    (pendingConf_iff _).not.mpr hp, if_false]
  split_ifs <;> rfl

/-- `step` on a `MsgHup`: the gate, behind the term check. -/
theorem step_of_msgHup {m : Message} (hm : m.type = .msgHup) :
    r.step m = if r.termCheckPasses m then r.stepHup else .ok r := by
  simp only [step, hm]

/-- A message passes the term check at term 0, and otherwise when its term is not the node's. -/
theorem termCheckPasses_iff {m : Message} :
    r.termCheckPasses m = true ↔ r.term = 0 ∨ m.term ≠ r.term := by
  simp only [termCheckPasses, Bool.or_eq_true, beq_iff_eq, decide_eq_true_eq]
  omega

/-! ## The vote requests -/

section Requests

variable {t : CampaignType} {vm : MessageType} {term : Nat}

/-- The request `campaign` builds for `k`: the sought term is overwritten by `last_term()`, and
`log_term` keeps its default 0. -/
theorem voteRequest_eq (k : Nat) :
    r.voteRequest t vm term k =
      { type := vm, «to» := k, term := r.raftLog.lastTerm, index := r.raftLog.lastIndex,
        context := if t = .transfer then kCampaignTransfer else "" } := rfl

/-- `send` on a vote message: stamped and queued when it has a term, an abort when not. -/
theorem send_of_isVote {m : Message} (hv : m.type.isVote = true) :
    r.send m = if m.term = 0 then .error (.termNotSet m.type)
      else .ok { r with msgs := r.msgs ++ [{ m with «from» := r.id }] } := by
  simp only [send, hv, if_true]

/-- On a log whose last term is not 0, `campaign`'s loop queues one request for every id of `ids`
but the node's own, in order, and changes nothing else. -/
theorem sendVoteRequests_eq (hvm : vm.isVote = true) (hlt : r.raftLog.lastTerm ≠ 0)
    (ids : List Nat) :
    sendVoteRequests t vm term r ids = .ok { r with
      msgs := r.msgs ++ (ids.filter (· ≠ r.id)).map
        fun k => { r.voteRequest t vm term k with «from» := r.id } } := by
  induction ids generalizing r with
  | nil => simp [sendVoteRequests]
  | cons k ids ih =>
    by_cases hk : k = r.id
    · simp [sendVoteRequests, hk, ih hlt]
    · rw [sendVoteRequests, if_neg hk, send_of_isVote (by exact hvm), voteRequest_eq]
      simp only [if_neg hlt, Except.ok_bind]
      rw [ih (by exact hlt)]
      simp [hk, voteRequest_eq]

/-- On a log whose last term is 0, the loop aborts at its first request. -/
theorem sendVoteRequests_error (hvm : vm.isVote = true) (hlt : r.raftLog.lastTerm = 0)
    {ids : List Nat} (hids : ∃ k ∈ ids, k ≠ r.id) :
    sendVoteRequests t vm term r ids = .error (.termNotSet vm) := by
  induction ids with
  | nil => simp at hids
  | cons k ids ih =>
    by_cases hk : k = r.id
    · rw [sendVoteRequests, if_pos hk]
      exact ih (by simpa [hk] using hids)
    · rw [sendVoteRequests, if_neg hk, send_of_isVote (by exact hvm), voteRequest_eq]
      simp only [hlt, if_true, Except.error_bind]

end Requests

/-- A tick checks membership first: a node outside `prs_` only counts it. -/
theorem tick_of_not_promotable (h : r.id ∉ r.prs) :
    r.tick = .ok { r with electionElapsed := (r.electionElapsed + 1) % 2 ^ 32 } := by
  simp [tick, tickElection, promotable, h]

end Raft

/-- **Ticks never make a node outside `prs_` campaign**: from a count below `2 ^ 32`, any number `k`
of ticks only advances `election_elapsed_` by `k`, as a `uint32_t`. Nothing else changes: no vote
is polled, no request queued, no transition called. -/
theorem ticks_outside_prs_only_count {r : Raft} (h : r.id ∉ r.prs)
    (hlt : r.electionElapsed < 2 ^ 32) (k : Nat) :
    r.run (List.replicate k .tick) =
      .ok { r with electionElapsed := (r.electionElapsed + k) % 2 ^ 32 } := by
  induction k generalizing r with
  | zero =>
    rw [Nat.add_zero, Nat.mod_eq_of_lt hlt]
    rfl
  | succ k ih =>
    rw [List.replicate_succ, Raft.run, Raft.apply, Raft.tick_of_not_promotable h, Except.ok_bind,
      ih (r := { r with electionElapsed := (r.electionElapsed + 1) % 2 ^ 32 }) h
        (Nat.mod_lt _ (Nat.two_pow_pos 32))]
    simp only [Nat.mod_add_mod, Nat.add_assoc, Nat.add_comm 1 k]

theorem ticks_outside_prs_only_count_learnerNode :
    learnerNode.id ∉ learnerNode.prs ∧ learnerNode.electionElapsed < 2 ^ 32 ∧
      learnerNode.run (List.replicate 25 .tick) =
        .ok { learnerNode with electionElapsed := (learnerNode.electionElapsed + 25) % 2 ^ 32 } :=
  ⟨by decide, by decide, ticks_outside_prs_only_count (by decide) (by decide) 25⟩

/-! ## The tally of `poll` -/

/-- The node after the `poll` calls `ps`, in order. -/
def Raft.pollAll (r : Raft) (ps : List (Nat × Bool)) : Raft :=
  ps.foldl (fun r p => (r.poll p.1 p.2).1) r

/-- The number of distinct ids whose first poll in `ps` granted the vote. -/
def firstGrants (ps : List (Nat × Bool)) : Nat :=
  ((ps.map Prod.fst).dedup.filter fun k => ps.lookup k = some true).length

section Tally

variable {r : Raft}

/-- `poll` keeps a recorded vote, and records the vote of an id that has none. -/
theorem lookup_poll (id k : Nat) (v : Bool) :
    (r.poll id v).1.votes.lookup k = (r.votes.lookup k).or (if k = id then some v else none) := by
  by_cases hid : id ∈ r.votes
  · by_cases hk : k = id
    · subst hk
      obtain ⟨w, hw⟩ := Option.isSome_iff_exists.mp (AList.lookup_isSome.mpr hid)
      simp [Raft.poll, hid, hw]
    · simp [Raft.poll, hid, hk]
  · by_cases hk : k = id
    · subst hk
      simp [Raft.poll, hid, AList.lookup_eq_none.mpr hid]
    · simp [Raft.poll, hid, hk, AList.lookup_insert_ne hk]

/-- After a sequence of polls every id has its first recorded vote: the one it had, or else its
first in the sequence. -/
theorem lookup_pollAll (ps : List (Nat × Bool)) (k : Nat) :
    (r.pollAll ps).votes.lookup k = (r.votes.lookup k).or (ps.lookup k) := by
  induction ps generalizing r with
  | nil => simp [Raft.pollAll]
  | cons p ps ih =>
    obtain ⟨id, v⟩ := p
    show ((r.poll id v).1.pollAll ps).votes.lookup k = _
    rw [ih, lookup_poll, Option.or_assoc, List.lookup_cons]
    by_cases hk : k = id
    · subst hk
      simp
    · simp [hk, beq_eq_false_iff_ne.mpr hk]

theorem pollAll_append (ps qs : List (Nat × Bool)) :
    r.pollAll (ps ++ qs) = (r.pollAll ps).pollAll qs := List.foldl_append _ _ _ _

/-- The granted votes of a map are its keys whose vote is `true`. -/
theorem grantedVotes_eq (m : VoteMap) :
    grantedVotes m = (m.keys.filter fun k => m.lookup k = some true).length := by
  obtain ⟨l, hl⟩ := m
  simp only [grantedVotes, AList.keys, AList.lookup]
  induction l with
  | nil => rfl
  | cons e l ih =>
    obtain ⟨k, v⟩ := e
    obtain ⟨hk, hl⟩ := List.nodupKeys_cons.mp hl
    have hf : (l.keys.filter fun k' => (⟨k, v⟩ :: l).dlookup k' = some true) =
        l.keys.filter fun k' => l.dlookup k' = some true :=
      List.filter_congr fun k' hk' => by
        rw [List.dlookup_cons_ne _ _ fun e => hk (e ▸ hk')]
    rw [List.countP_cons, List.keys_cons, List.filter_cons, hf, ih hl]
    cases v <;> simp

/-- A vote map that agrees with the first polls of `ps` on every id counts `firstGrants ps`. -/
theorem grantedVotes_of_lookup {m : VoteMap} {ps : List (Nat × Bool)}
    (h : ∀ k, m.lookup k = ps.lookup k) : grantedVotes m = firstGrants ps := by
  have hp : m.keys.Perm (ps.map Prod.fst).dedup :=
    (List.perm_ext_iff_of_nodup m.keys_nodup (List.nodup_dedup _)).mpr fun k => by
      rw [List.mem_dedup]
      refine (AList.mem_keys.trans AList.lookup_isSome.symm).trans ?_
      rw [h, List.lookup_isSome_iff]
      simp only [List.mem_map, beq_iff_eq]
      exact ⟨fun ⟨p, hp, e⟩ => ⟨p, hp, e.symm⟩, fun ⟨p, hp, e⟩ => ⟨p, hp, e.symm⟩⟩
  rw [grantedVotes_eq, firstGrants, ((hp.filter _).length_eq)]
  congr 1
  exact List.filter_congr fun k _ => by rw [h]

/-- From a node with no votes, the votes after a sequence of polls count `firstGrants`. -/
theorem grantedVotes_pollAll (hv : r.votes = ∅) (ps : List (Nat × Bool)) :
    grantedVotes (r.pollAll ps).votes = firstGrants ps :=
  grantedVotes_of_lookup fun k => by simp [lookup_pollAll, hv]

/-- Appending polls never lowers the number of first grants. -/
theorem firstGrants_le_append (ps qs : List (Nat × Bool)) :
    firstGrants ps ≤ firstGrants (ps ++ qs) := by
  refine (List.subperm_of_subset ((List.nodup_dedup _).filter _) fun k hk => ?_).length_le
  simp only [List.mem_filter, List.mem_dedup, decide_eq_true_eq] at hk ⊢
  obtain ⟨hk, hl⟩ := hk
  refine ⟨by simp only [List.map_append, List.mem_append]; exact .inl hk, ?_⟩
  rw [List.lookup_append, hl]
  rfl

/-- `poll` returns the granted votes of the map it leaves. -/
theorem poll_snd (id : Nat) (v : Bool) : (r.poll id v).2 = grantedVotes (r.poll id v).1.votes :=
  rfl

/-- A poll of an id that has voted changes nothing. -/
theorem poll_of_mem {id : Nat} (hid : id ∈ r.votes) (v : Bool) : (r.poll id v).1 = r := by
  simp [Raft.poll, hid]

/-- From a node with no votes, the ids that have voted after a sequence of polls are those it
polled. -/
theorem mem_pollAll (hv : r.votes = ∅) {ps : List (Nat × Bool)} {k : Nat}
    (hk : k ∈ ps.map Prod.fst) : k ∈ (r.pollAll ps).votes := by
  rw [← AList.lookup_isSome, lookup_pollAll, hv, AList.lookup_empty, Option.none_or,
    List.lookup_isSome_iff]
  obtain ⟨p, hp, rfl⟩ := List.mem_map.mp hk
  exact ⟨p, hp, beq_self_eq_true _⟩

end Tally

/-- **The tally of `poll`.** After a reset, every call of a sequence of `poll` calls returns the
number of distinct ids whose first poll in the sequence granted the vote. So the tally never
exceeds the number of distinct ids polled and never decreases, and a later poll of an id already
polled, a duplicate or a contradicting one, leaves it as it was. -/
theorem poll_tally_first_grants {r₀ r : Raft} {term draw : Nat}
    (hr : r₀.reset term draw = .ok r) (ps : List (Nat × Bool)) (id : Nat) (v : Bool) :
    ((r.pollAll ps).poll id v).2 = firstGrants (ps ++ [(id, v)]) ∧
      ((r.pollAll ps).poll id v).2 ≤ ((ps ++ [(id, v)]).map Prod.fst).dedup.length ∧
      (∀ qs id' v', ((r.pollAll ps).poll id v).2 ≤
        ((r.pollAll (ps ++ (id, v) :: qs)).poll id' v').2) ∧
      (∀ id' v', id' ∈ (ps ++ [(id, v)]).map Prod.fst →
        ((r.pollAll (ps ++ [(id, v)])).poll id' v').2 = ((r.pollAll ps).poll id v).2) := by
  have hv := Raft.reset_votes hr
  -- Each call returns the granted votes of the polls up to and including it.
  have tally : ∀ ps id v, ((r.pollAll ps).poll id v).2 = firstGrants (ps ++ [(id, v)]) :=
    fun ps id v => by
      rw [poll_snd, ← grantedVotes_pollAll hv, pollAll_append]
      rfl
  refine ⟨tally ps id v, (tally ps id v).symm ▸ List.length_filter_le _ _,
    fun qs id' v' => ?_, fun id' v' h' => ?_⟩
  · rw [tally, tally, show ps ++ (id, v) :: qs ++ [(id', v')] =
      ps ++ [(id, v)] ++ (qs ++ [(id', v')]) by simp]
    exact firstGrants_le_append _ _
  · rw [poll_snd, poll_of_mem (mem_pollAll hv h'), poll_snd, pollAll_append]
    rfl

/-- The learner node after `reset(0)` with a zero draw. -/
def learnerNodeReset : Raft := (learnerNode.reset 0 0).toOption.getD learnerNode

theorem poll_tally_first_grants_learnerNode :
    learnerNode.reset 0 0 = .ok learnerNodeReset ∧
    ((learnerNodeReset.pollAll [(1, true), (2, false), (1, false)]).poll 3 true).2 =
        firstGrants ([(1, true), (2, false), (1, false)] ++ [(3, true)]) ∧
      ((learnerNodeReset.pollAll [(1, true), (2, false), (1, false)]).poll 3 true).2 ≤
        (([(1, true), (2, false), (1, false)] ++ [(3, true)]).map Prod.fst).dedup.length ∧
      (∀ qs id' v', ((learnerNodeReset.pollAll [(1, true), (2, false), (1, false)]).poll 3 true).2 ≤
        ((learnerNodeReset.pollAll ([(1, true), (2, false), (1, false)] ++ (3, true) :: qs)).poll
          id' v').2) ∧
      (∀ id' v', id' ∈ ([(1, true), (2, false), (1, false)] ++ [(3, true)]).map Prod.fst →
        ((learnerNodeReset.pollAll ([(1, true), (2, false), (1, false)] ++ [(3, true)])).poll
          id' v').2 =
          ((learnerNodeReset.pollAll [(1, true), (2, false), (1, false)]).poll 3 true).2) := by
  have h : learnerNode.reset 0 0 = .ok learnerNodeReset := rfl
  exact ⟨h, poll_tally_first_grants h _ _ _⟩

/-- **The `MsgHup` gate.** The leader, and a node with an unapplied committed conf change, come
out of every `MsgHup` unchanged. On any other member of `prs_`, a `MsgHup` as the code builds it,
with term 0 (`tick_election`'s), makes the node campaign, pre-vote first iff `pre_vote_`. -/
theorem step_msgHup_gate {r : Raft} {m : Message} (hm : m.type = .msgHup) :
    ((r.state = .leader ∨ ∃ i e, r.raftLog.applied < i ∧ i ≤ r.raftLog.committed ∧
        r.raftLog.entry? i = some e ∧ e.type = .entryConfChange) → r.step m = .ok r) ∧
    (m.term = 0 → r.id ∈ r.prs → r.state ≠ .leader → (¬∃ i e, r.raftLog.applied < i ∧
        i ≤ r.raftLog.committed ∧ r.raftLog.entry? i = some e ∧ e.type = .entryConfChange) →
      r.step m = r.campaign (if r.preVote then .preElection else .election)) := by
  rw [Raft.step_of_msgHup hm]
  refine ⟨fun h => by rw [Raft.stepHup_of_gate h, ite_self], fun h0 _ hs hp => ?_⟩
  have ht : r.termCheckPasses m = true :=
    Raft.termCheckPasses_iff.mpr ((eq_or_ne r.term 0).imp_right fun h => h0 ▸ h.symm)
  rw [if_pos ht, Raft.stepHup_of_open hs hp]

/-- Node 1, the only voter, at term 1 with a committed conf change at index 1. -/
def confChangeConfig : Config :=
  { id := 1, peers := [1], electionTick := 10,
    storage := { initialState := .ok ({ term := 1, commit := 1 }, {}),
                 entries := [{ term := 1, type := .entryConfChange }] } }

/-- The node `confChangeConfig` builds: the conf change is not applied. -/
def confChangeNode : Raft := confChangeConfig.build

/-- The same node built with `applied = 1`: the conf change is applied. -/
def confAppliedNode : Raft := { confChangeConfig with applied := 1 }.build

theorem step_msgHup_gate_confChange :
    ({ type := .msgHup, «from» := 1 } : Message).type = .msgHup ∧
      (∃ i e, confChangeNode.raftLog.applied < i ∧ i ≤ confChangeNode.raftLog.committed ∧
        confChangeNode.raftLog.entry? i = some e ∧ e.type = .entryConfChange) ∧
      confChangeNode.step { type := .msgHup, «from» := 1 } = .ok confChangeNode ∧
      confAppliedNode.id ∈ confAppliedNode.prs ∧ confAppliedNode.state ≠ .leader ∧
      (¬∃ i e, confAppliedNode.raftLog.applied < i ∧ i ≤ confAppliedNode.raftLog.committed ∧
        confAppliedNode.raftLog.entry? i = some e ∧ e.type = .entryConfChange) ∧
      confAppliedNode.step { type := .msgHup, «from» := 1 } =
        confAppliedNode.campaign .election := by
  have hm : ({ type := .msgHup, «from» := 1 } : Message).type = .msgHup := rfl
  have hg : ∃ i e, confChangeNode.raftLog.applied < i ∧ i ≤ confChangeNode.raftLog.committed ∧
      confChangeNode.raftLog.entry? i = some e ∧ e.type = .entryConfChange :=
    ⟨1, _, by decide, by decide, rfl, rfl⟩
  have ho : ¬∃ i e, confAppliedNode.raftLog.applied < i ∧
      i ≤ confAppliedNode.raftLog.committed ∧ confAppliedNode.raftLog.entry? i = some e ∧
      e.type = .entryConfChange :=
    fun ⟨_, _, h₁, h₂, _⟩ => absurd (h₁.trans_le h₂) (by decide)
  exact ⟨hm, hg, (step_msgHup_gate hm).1 (.inr hg), by decide, by decide, ho,
    (step_msgHup_gate hm).2 rfl (by decide) (by decide) ho⟩

/-- Node 2, a learner, wins the election of the one-voter cluster `{1}` on its own vote: a
`MsgHup` makes it call `become_candidate` and then `become_leader`, with no voter's vote
recorded. -/
theorem learner_wins_on_own_vote :
    learnerNode.prs.keys = [1] ∧ learnerNode.quorum = 1 ∧ learnerNode.transitions = [] ∧
      ∃ r', learnerNode.step { type := .msgHup, «from» := 2 } = .ok r' ∧
        r'.votes.entries = [⟨2, true⟩] ∧ r'.transitions = [.candidate, .leader] :=
  ⟨rfl, rfl, rfl, _, rfl, rfl, rfl⟩

/-- Node 3, the learner of the voters `{1, 2}`, at term 1 with one entry of term 1. -/
def learnerOfTwoConfig : Config :=
  { id := 3, peers := [1, 2], learners := [3], electionTick := 10,
    storage := { initialState := .ok ({ term := 1 }, {}),
                 entries := [{ term := 1, type := .entryNormal }] } }

/-- The node `learnerOfTwoConfig` builds. -/
def learnerOfTwoNode : Raft := learnerOfTwoConfig.build

/-- Given a `MsgHup`, the learner records its own vote, calls `become_candidate` and sends a
`MsgVote` to each voter. -/
theorem learner_campaigns :
    Raft.new learnerOfTwoConfig {} 0 = .ok learnerOfTwoNode ∧
      learnerOfTwoNode.id ∉ learnerOfTwoNode.prs ∧ learnerOfTwoNode.msgs = [] ∧
      ∃ r', learnerOfTwoNode.step { type := .msgHup, «from» := 3 } = .ok r' ∧
        r'.votes.lookup 3 = some true ∧ r'.transitions = [.candidate] ∧
        r'.msgs.map (·.type) = [.msgVote, .msgVote] ∧ r'.msgs.map (·.to) = [2, 1] :=
  ⟨rfl, by decide, rfl, _, rfl, rfl, rfl, rfl, rfl⟩

/-- Node 1 of the voters `{1, 2, 3}`, at term 1 from its hard state, with an empty log. -/
def threeVoterConfig : Config :=
  { id := 1, peers := [1, 2, 3], electionTick := 10,
    storage := { initialState := .ok ({ term := 1 }, {}) } }

/-- The node `threeVoterConfig` builds. -/
def threeVoterNode : Raft := threeVoterConfig.build

/-- Its campaign for term 1 builds its first request with term `last_term() = 0`, and `send`
aborts: `"term should be set when sending MsgVote"`. -/
theorem vote_request_without_term :
    Raft.new threeVoterConfig {} 0 = .ok threeVoterNode ∧ threeVoterNode.term = 1 ∧
      threeVoterNode.raftLog.lastTerm = 0 ∧
      threeVoterNode.step { type := .msgHup, «from» := 1 } = .error (.termNotSet .msgVote) :=
  ⟨rfl, rfl, rfl, rfl⟩

end KvdRaft
