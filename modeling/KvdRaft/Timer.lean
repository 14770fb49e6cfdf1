import KvdRaft.Invariants

/-!
# The election timer along runs

`reset_randomized_election_timeout` draws the randomized timeout, and `tick_election` counts up to
it (`src/kvd/raft/Raft.cpp:613-640`). This file follows both along whole runs.

* `TimeoutInv`: the timers of a node built with an election tick below `2 ^ 31`. The generator
  draws from `[0, election_timeout_]`, and the randomized timeout lies in
  `[election_timeout_, 2 * election_timeout_]`. `GenDraw` admits the `become_follower` calls
  whose draw the generator can return.
* `CanCampaign`: a member of `prs_` with no committed conf change waiting to apply, whose campaign
  does not abort on its vote requests. `tick_spec`: one tick of such a node only counts, or, on
  the tick that reaches the timeout, restarts the count and opens one campaign.

Results:
* `randomized_timeout_in_range`: along every run whose draws the generator can return, the
  randomized timeout stays within `[election_timeout_, 2 * election_timeout_]`, and the `assert`
  of `reset_randomized_election_timeout` never fires.
* `ticks_campaign_every_timeout`: **the timer is periodic.** `k` ticks of a reachable node that
  may campaign leave the count at `(elapsed + k) % T` and open `(elapsed + k) / T` campaigns, `T`
  being the randomized timeout, and change nothing but the election bookkeeping.
-/

namespace KvdRaft

open Raft

/-! ## The randomized timeout along runs -/

/-- The calls of a run whose draws the generator can return: `become_follower` is the only call
that draws from `random_device_`. -/
def GenDraw (r : Raft) : Op → Prop
  | .becomeFollower _ _ d => r.randomDevice.CanReturn d
  | _ => True

instance (r : Raft) : (op : Op) → Decidable (GenDraw r op)
  | .becomeFollower _ _ d => inferInstanceAs (Decidable (r.randomDevice.CanReturn d))
  | .step _ | .tick | .addNodeOrLearner .. | .delProgress _ => isTrue trivial

/-- **The timer invariant** of a node built with an election tick below `2 ^ 31`. -/
structure TimeoutInv (r : Raft) : Prop where
  /-- `election_timeout_` is below `2 ^ 31`, so no sum of it with a draw wraps. -/
  small : r.electionTimeout < 2 ^ 31
  /-- The generator draws from `[0, election_timeout_]`. -/
  device : r.randomDevice = ⟨0, r.electionTimeout⟩
  /-- The randomized timeout is at least `election_timeout_`. -/
  lower : r.electionTimeout ≤ r.randomizedElectionTimeout
  /-- The randomized timeout is at most `2 * election_timeout_`. -/
  upper : r.randomizedElectionTimeout ≤ 2 * r.electionTimeout

namespace TimeoutInv

variable {r r' : Raft}

/-- The invariant reads the timers and the generator only. -/
theorem of_eq (h : TimeoutInv r) (he : r'.electionTimeout = r.electionTimeout)
    (hr : r'.randomizedElectionTimeout = r.randomizedElectionTimeout)
    (hd : r'.randomDevice = r.randomDevice) : TimeoutInv r' :=
  ⟨he ▸ h.small, by rw [hd, he]; exact h.device, by rw [he, hr]; exact h.lower,
    by rw [he, hr]; exact h.upper⟩

/-- `become_follower` with a draw the generator can return sets the randomized timeout within
`[election_timeout_, 2 * election_timeout_]`, whatever it was. -/
theorem of_becomeFollower {term lead d : Nat} (hs : r.electionTimeout < 2 ^ 31)
    (hdev : r.randomDevice = ⟨0, r.electionTimeout⟩) (hd : r.randomDevice.CanReturn d)
    (hb : r.becomeFollower term lead d = .ok r') : TimeoutInv r' := by
  have hd : d ≤ r.electionTimeout := by rw [hdev] at hd; exact hd.2
  obtain rfl := becomeFollower_eq_ok hb
  have ht : (r.electionTimeout + d) % 2 ^ 32 = r.electionTimeout + d :=
    Nat.mod_eq_of_lt (by omega)
  refine ⟨hs, hdev, ?_, ?_⟩ <;> dsimp only <;> rw [ht] <;> omega

theorem apply (h : TimeoutInv r) {op : Op} (hg : GenDraw r op) (ha : r.apply op = .ok r') :
    TimeoutInv r' := by
  have frame : r.Frame r' → TimeoutInv r' := fun hf =>
    h.of_eq (congrArg Raft.electionTimeout hf :) (congrArg Raft.randomizedElectionTimeout hf :)
      (congrArg Raft.randomDevice hf :)
  cases op with
  | step m => exact frame (step_frame ha)
  | tick => exact frame (tick_frame ha)
  | becomeFollower t l d => exact of_becomeFollower h.small h.device hg ha
  | addNodeOrLearner id l =>
    have hw := addNodeOrLearner_withoutMembers ha
    exact h.of_eq (congrArg Raft.electionTimeout hw :)
      (congrArg Raft.randomizedElectionTimeout hw :)
      (congrArg Raft.randomDevice hw :)
  | delProgress id => cases ha; exact h.of_eq rfl rfl rfl

/-- The constructor establishes the invariant from an election tick below `2 ^ 31` and a draw the
generator can return. -/
theorem new {c : Config} {u : Uninit} {d : Nat} (hc : c.electionTick < 2 ^ 31)
    (hd : d ≤ c.electionTick) (h : Raft.new c u d = .ok r) : TimeoutInv r := by
  obtain ⟨hs, cs, prs, lp, il, r₁, r₂, -, -, h₁, h₂, h⟩ := Raft.new_eq_ok h
  have e₁ := Raft.loadInitialState_eq h₁
  have e₂ := (Raft.applyInitial_eq_ok h₂).1
  have ht : r₂.electionTimeout = c.electionTick := by
    rw [(congrArg Raft.electionTimeout e₂ :), (congrArg Raft.electionTimeout e₁ :)]
    exact Nat.mod_eq_of_lt (by omega)
  have hdev : r₂.randomDevice = ⟨0, r₂.electionTimeout⟩ := by
    rw [(congrArg Raft.randomDevice e₂ :), (congrArg Raft.randomDevice e₁ :), ht]; rfl
  exact of_becomeFollower (by omega) hdev (by rw [hdev, ht]; exact ⟨Nat.zero_le _, hd⟩) h

end TimeoutInv

/-! ## The period of the timer -/

/-- The stub call that opens a campaign of `r`: `become_pre_candidate` when `pre_vote_` is set,
`become_candidate` otherwise. -/
def Raft.campaignStart (r : Raft) : RaftState := if r.preVote then .preCandidate else .candidate

/-- A node whose `MsgHup` starts a campaign that returns: a member of `prs_`, with no committed
conf change waiting to apply, and with a log whose last term is not 0 when there are peers to
ask. -/
structure CanCampaign (r : Raft) : Prop where
  /-- `promotable()`. -/
  member : r.id ∈ r.prs
  /-- The gate of the `MsgHup` case is open. -/
  no_pending_conf : ¬∃ i e, r.raftLog.applied < i ∧ i ≤ r.raftLog.committed ∧
    r.raftLog.entry? i = some e ∧ e.type = .entryConfChange
  /-- The vote requests carry a term. -/
  requests_ok : r.prs.keys.length ≤ 1 ∨ r.raftLog.lastTerm ≠ 0

section Period

variable {r r' : Raft}

theorem CanCampaign.of_frame (h : CanCampaign r) (hf : r.Frame r') : CanCampaign r' :=
  ⟨by rw [hf.id, hf.prs]; exact h.member, by rw [hf.raftLog]; exact h.no_pending_conf,
    by rw [hf.prs, hf.raftLog]; exact h.requests_ok⟩

/-- The campaign a `MsgHup` starts on a node that may campaign returns, keeps the tick count, and
calls `campaignStart` once more. -/
theorem campaign_of_canCampaign (hi : NodeInv r) (hc : CanCampaign r) :
    ∃ r', r.campaign (if r.preVote then .preElection else .election) = .ok r' ∧
      r'.electionElapsed = r.electionElapsed ∧
      r'.transitions.count r.campaignStart = r.transitions.count r.campaignStart + 1 := by
  rw [campaign_of_votesOwn hi.votes_own]
  by_cases hq : r.prs.keys.length ≤ 1
  · rw [if_pos hq]
    exact ⟨_, rfl, rfl, by cases hp : r.preVote <;> simp [campaignStart, hp]⟩
  · rw [if_neg hq, if_neg (hc.requests_ok.resolve_left hq)]
    exact ⟨_, rfl, rfl, by cases hp : r.preVote <;> simp [campaignStart, hp]⟩

/-- **One tick** of a node that may campaign, below its timeout: it only counts, or, on the tick
that reaches the timeout, restarts the count and opens one campaign. -/
theorem tick_spec (hi : NodeInv r) (hc : CanCampaign r)
    (hT : r.randomizedElectionTimeout < 2 ^ 32)
    (he : r.electionElapsed < r.randomizedElectionTimeout) :
    ∃ r', r.tick = .ok r' ∧ r.Frame r' ∧
      (r.electionElapsed + 1 < r.randomizedElectionTimeout →
        r'.electionElapsed = r.electionElapsed + 1 ∧ r'.transitions = r.transitions) ∧
      (r.electionElapsed + 1 = r.randomizedElectionTimeout →
        r'.electionElapsed = 0 ∧
          r'.transitions.count r.campaignStart = r.transitions.count r.campaignStart + 1) := by
  by_cases hlt : r.electionElapsed + 1 < r.randomizedElectionTimeout
  · exact ⟨_, tick_of_lt hT hlt, rfl, fun _ => ⟨rfl, rfl⟩, fun h => absurd h (by omega)⟩
  · have heq : r.electionElapsed + 1 = r.randomizedElectionTimeout := by omega
    let r₀ : Raft := { r with electionElapsed := 0 }
    have hi₀ : NodeInv r₀ := ⟨hi.follower, hi.votes_own, hi.msgs_requests, hi.progress_shape⟩
    have hc₀ : CanCampaign r₀ := hc.of_frame rfl
    obtain ⟨r', hcamp, hel, hcount⟩ := campaign_of_canCampaign hi₀ hc₀
    have htc : r₀.termCheckPasses { type := .msgHup, «from» := r.id } = true :=
      termCheckPasses_iff.mpr ((eq_or_ne r.term 0).imp_right Ne.symm)
    have hstep : r.tick = .ok r' := by
      rw [tick_at_timeout hc.member hT heq, step_of_msgHup rfl, if_pos htc,
        stepHup_of_open (r := r₀) (by rw [hi₀.follower]; decide) hc₀.no_pending_conf]
      exact hcamp
    exact ⟨r', hstep, (show r.Frame r₀ from rfl).trans (campaign_frame hcamp),
      fun h => absurd h hlt, fun _ => ⟨hel, hcount⟩⟩

/-- `k` ticks of a node that keeps the node invariant and may campaign, below its timeout `T`:
the count ends at `(elapsed + k) % T` and `(elapsed + k) / T` campaigns open. -/
theorem ticks_spec : ∀ (k : Nat) {r : Raft}, NodeInv r → CanCampaign r →
    r.randomizedElectionTimeout < 2 ^ 32 → r.electionElapsed < r.randomizedElectionTimeout →
    ∃ r', r.run (List.replicate k .tick) = .ok r' ∧ r.Frame r' ∧
      r'.electionElapsed = (r.electionElapsed + k) % r.randomizedElectionTimeout ∧
      r'.transitions.count r.campaignStart = r.transitions.count r.campaignStart +
        (r.electionElapsed + k) / r.randomizedElectionTimeout
  | 0, r, _, _, _, he =>
    ⟨r, rfl, rfl, (Nat.mod_eq_of_lt he).symm,
      by rw [Nat.add_zero, Nat.div_eq_of_lt he, Nat.add_zero]⟩
  | k + 1, r, hi, hc, hT, he => by
    obtain ⟨r₁, ht, hf, hlt, heq⟩ := tick_spec hi hc hT he
    have hT₁ : r₁.randomizedElectionTimeout = r.randomizedElectionTimeout :=
      (congrArg Raft.randomizedElectionTimeout hf :)
    have hp₁ : r₁.preVote = r.preVote := (congrArg Raft.preVote hf :)
    have hs₁ : r₁.campaignStart = r.campaignStart := by rw [campaignStart, hp₁, campaignStart]
    have hrun₁ : r.run (List.replicate (k + 1) .tick) = r₁.run (List.replicate k .tick) := by
      rw [List.replicate_succ, Raft.run, Raft.apply, ht, Except.ok_bind]
    by_cases h : r.electionElapsed + 1 < r.randomizedElectionTimeout
    · -- the tick only counts
      obtain ⟨he₁, ht₁⟩ := hlt h
      obtain ⟨r', hrun, hf', hel, hcount⟩ :=
        ticks_spec k (hi.tick ht) (hc.of_frame hf) (hT₁ ▸ hT) (by rw [he₁, hT₁]; exact h)
      have key : r.electionElapsed + 1 + k = r.electionElapsed + (k + 1) := by omega
      refine ⟨r', hrun₁.trans hrun, hf.trans hf', ?_, ?_⟩
      · rw [hel, he₁, hT₁, key]
      · rw [← hs₁, hcount, ht₁, he₁, hT₁, key]
    · -- the tick reaches the timeout and campaigns
      obtain ⟨he₁, hc₁⟩ := heq (by omega)
      obtain ⟨r', hrun, hf', hel, hcount⟩ :=
        ticks_spec k (hi.tick ht) (hc.of_frame hf) (hT₁ ▸ hT) (by rw [he₁, hT₁]; omega)
      have key : r.electionElapsed + (k + 1) = r.randomizedElectionTimeout + k := by omega
      refine ⟨r', hrun₁.trans hrun, hf.trans hf', ?_, ?_⟩
      · rw [hel, he₁, hT₁, key, Nat.zero_add, Nat.add_mod_left]
      · rw [← hs₁, hcount, hs₁, hc₁, he₁, hT₁, key, Nat.zero_add, Nat.add_div_left k (by omega)]
        omega

end Period

/-! ## Results -/

/-- **The timeout `assert` never fires on a generator's draw.** From a node built with an election
tick below `2 ^ 31` and a draw the generator can return, along every run whose `become_follower`
draws are values the generator can return, the randomized timeout stays within
`[election_timeout_, 2 * election_timeout_]`, and `become_follower` with any such draw returns. -/
theorem randomized_timeout_in_range {c : Config} {u : Uninit} {d : Nat} {r r' : Raft}
    (hc : c.electionTick < 2 ^ 31) (hd : d ≤ c.electionTick) (h : Raft.new c u d = .ok r)
    (hrun : Run GenDraw r r') :
    r'.electionTimeout ≤ r'.randomizedElectionTimeout ∧
      r'.randomizedElectionTimeout ≤ 2 * r'.electionTimeout ∧
      ∀ term lead d', r'.randomDevice.CanReturn d' →
        ∃ r'', r'.becomeFollower term lead d' = .ok r'' := by
  have hi : TimeoutInv r' :=
    hrun.preserves (P := fun a b => TimeoutInv a → TimeoutInv b) (fun _ => id)
      (fun _ _ _ h₁ h₂ => h₂ ∘ h₁) (fun _ _ _ hg ha hi => hi.apply hg ha) (TimeoutInv.new hc hd h)
  refine ⟨hi.lower, hi.upper, fun term lead d' hd' => becomeFollower_isOk.mpr ?_⟩
  have hd' : d' ≤ r'.electionTimeout := by rw [hi.device] at hd'; exact hd'.2
  have := hi.small
  rw [Nat.mod_eq_of_lt (by omega), Nat.mod_eq_of_lt (by omega)]
  omega

/-- The learner node after `become_follower(3, 1)` with the generator's top draw, 10. -/
def learnerNodeTopDraw : Raft := (learnerNode.becomeFollower 3 1 10).toOption.getD learnerNode

theorem randomized_timeout_in_range_learnerNode :
    learnerConfig.electionTick < 2 ^ 31 ∧ 0 ≤ learnerConfig.electionTick ∧
      Raft.new learnerConfig {} 0 = .ok learnerNode ∧ Run GenDraw learnerNode learnerNodeTopDraw ∧
      learnerNodeTopDraw.randomizedElectionTimeout = 20 ∧
      (learnerNodeTopDraw.electionTimeout ≤ learnerNodeTopDraw.randomizedElectionTimeout ∧
        learnerNodeTopDraw.randomizedElectionTimeout ≤ 2 * learnerNodeTopDraw.electionTimeout ∧
        ∀ term lead d', learnerNodeTopDraw.randomDevice.CanReturn d' →
          ∃ r'', learnerNodeTopDraw.becomeFollower term lead d' = .ok r'') := by
  have hrun : Run GenDraw learnerNode learnerNodeTopDraw :=
    .cons (show GenDraw _ (.becomeFollower 3 1 10) by decide) rfl (.refl _)
  exact ⟨by decide, by decide, new_learnerNode, hrun, rfl,
    randomized_timeout_in_range (by decide) (by decide) new_learnerNode hrun⟩

/-- **The election timer is periodic.** Take a reachable node that may campaign, whose tick count
`e` is below its randomized timeout `T < 2 ^ 32`. Its `k` ticks return, leave the count at
`(e + k) % T`, and open `(e + k) / T` campaigns, each with the same stub call; term, vote, role,
leader, membership and log stay as they were. -/
theorem ticks_campaign_every_timeout {r : Raft} (h : Reachable r) (hc : CanCampaign r)
    (hT : r.randomizedElectionTimeout < 2 ^ 32)
    (he : r.electionElapsed < r.randomizedElectionTimeout) (k : Nat) :
    ∃ r', r.run (List.replicate k .tick) = .ok r' ∧ r.Frame r' ∧
      r'.electionElapsed = (r.electionElapsed + k) % r.randomizedElectionTimeout ∧
      r'.transitions.count r.campaignStart = r.transitions.count r.campaignStart +
        (r.electionElapsed + k) / r.randomizedElectionTimeout :=
  ticks_spec k (NodeInv.reachable h) hc hT he

/-- The node `threeVoterLogConfig` builds. -/
def threeVoterLogNode : Raft := threeVoterLogConfig.build

theorem ticks_campaign_every_timeout_threeVoter :
    Reachable threeVoterLogNode ∧ CanCampaign threeVoterLogNode ∧
      threeVoterLogNode.randomizedElectionTimeout < 2 ^ 32 ∧
      threeVoterLogNode.electionElapsed < threeVoterLogNode.randomizedElectionTimeout ∧
      ∃ r', threeVoterLogNode.run (List.replicate 25 .tick) = .ok r' ∧ threeVoterLogNode.Frame r' ∧
        r'.electionElapsed = (threeVoterLogNode.electionElapsed + 25) %
          threeVoterLogNode.randomizedElectionTimeout ∧
        r'.transitions.count threeVoterLogNode.campaignStart =
          threeVoterLogNode.transitions.count threeVoterLogNode.campaignStart +
            (threeVoterLogNode.electionElapsed + 25) /
              threeVoterLogNode.randomizedElectionTimeout := by
  have hr : Reachable threeVoterLogNode := .new (rfl : Raft.new threeVoterLogConfig {} 0 = .ok _)
  have hc : CanCampaign threeVoterLogNode :=
    ⟨by decide, fun ⟨_, _, h₁, h₂, _⟩ => absurd (h₁.trans_le h₂) (by decide), .inr (by decide)⟩
  exact ⟨hr, hc, by decide, by decide,
    ticks_campaign_every_timeout hr hc (by decide) (by decide) 25⟩

end KvdRaft
