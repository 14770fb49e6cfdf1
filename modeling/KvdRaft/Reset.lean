import KvdRaft.Node

/-!
# What `reset` and the constructor leave

Results on terms, votes and progress, from the constructor and along runs.

* `apply_term_vote`, `run_term_vote`: on a run of `step`, `tick` and `become_follower(t, l)` with
  `t` no lower than the node's term, the term never decreases, and while it stays the same the vote
  does too. Only `reset` writes either, and only on a change of term.
* `becomeFollower_progress`: after `become_follower` every progress is the one `reset` gives,
  with `next = last_index()`, and the node's own has `match = next`; the constructor and
  `add_node_or_learner` give `last_index() + 1`.
* `becomeFollower_campaign_tick`: a draw `d` no larger than the timeout gives the randomized
  timeout `election_timeout_ + d`, and a member of `prs_` then
  campaigns on exactly that tick (`run_ticks`, `tick_at_timeout`). The generator is built with
  `(0, election_tick)`, so its top draw gives `2 * election_timeout_`.
* `resetRandomizedElectionTimeout_isOk`, `becomeFollower_isOk`: both return exactly when the
  draw passes the `assert`, `(election_timeout_ + d) % 2 ^ 32 ≤ 2 * election_timeout_ % 2 ^ 32`.
* `new_initial`: the constructor leaves a follower with no leader and no votes, whose term, vote
  and commit index are the hard state's when it is not empty. When it is empty, the term and the
  vote are whatever `term_` and `vote_` held before the constructor ran (`new_keeps_uninit_term`).
-/

namespace KvdRaft

/-! ## Terms and votes along a run -/

/-- The calls of a term-respecting run: any `step` or `tick`, and `become_follower` to a term no
lower than the node's. -/
def TermCall (r : Raft) : Op → Prop
  | .step _ | .tick => True
  | .becomeFollower term _ _ => r.term ≤ term
  | _ => False

instance (r : Raft) : (op : Op) → Decidable (TermCall r op)
  | .step _ | .tick => isTrue trivial
  | .becomeFollower term _ _ => inferInstanceAs (Decidable (r.term ≤ term))
  | .addNodeOrLearner .. | .delProgress _ => isFalse id

section TermVote

variable {r r' : Raft}

/-- One call: the term does not decrease, and a call that keeps it keeps the vote. -/
theorem apply_term_vote {op : Op} (ha : TermCall r op) (h : r.apply op = .ok r') :
    r.term ≤ r'.term ∧ (r'.term = r.term → r'.vote = r.vote) := by
  cases op with
  | step m =>
    have f := Raft.step_frame h
    exact ⟨f.term.ge, fun _ => f.vote⟩
  | tick =>
    have f := Raft.tick_frame h
    exact ⟨f.term.ge, fun _ => f.vote⟩
  | becomeFollower t l d =>
    obtain rfl := Raft.becomeFollower_eq_ok h
    refine ⟨ha, fun ht => ?_⟩
    simp only at ht ⊢
    simp [ht]
  | addNodeOrLearner => exact ha.elim
  | delProgress => exact ha.elim

/-- A whole run: the term does not decrease, and a run that ends at the term it started from ends
with the vote it started from. -/
theorem run_term_vote (h : Run TermCall r r') :
    r.term ≤ r'.term ∧ (r'.term = r.term → r'.vote = r.vote) :=
  Run.preserves (P := fun r r' => r.term ≤ r'.term ∧ (r'.term = r.term → r'.vote = r.vote))
    (fun _ => ⟨le_rfl, fun _ => rfl⟩)
    (fun _ _ _ h₁ h₂ => ⟨h₁.1.trans h₂.1, fun ht => by
      rw [h₂.2 (by omega), h₁.2 (by omega)]⟩)
    (fun _ _ _ ha happ => apply_term_vote ha happ) h

end TermVote

/-- **The term never decreases and a vote is kept within its term.** Along every term-respecting
run the term does not decrease, and when it ends where it began so does the vote. A
`become_follower` to the node's own term keeps the vote, and one to a higher term clears it. -/
theorem term_monotone_vote_kept {r r' : Raft} (h : Run TermCall r r') :
    r.term ≤ r'.term ∧ (r'.term = r.term → r'.vote = r.vote) ∧
      (∀ lead draw r₁, r.becomeFollower r.term lead draw = .ok r₁ → r₁.vote = r.vote) ∧
      (∀ term lead draw r₁, r.term < term → r.becomeFollower term lead draw = .ok r₁ →
        r₁.vote = 0) := by
  refine ⟨(run_term_vote h).1, (run_term_vote h).2, fun _ _ _ h₁ => ?_, fun _ _ _ _ ht h₁ => ?_⟩
  · rw [Raft.becomeFollower_eq_ok h₁]
    simp
  · rw [Raft.becomeFollower_eq_ok h₁]
    simp [ht.ne]

/-- Node 1 of the voters `{1, 2, 3}`, whose hard state holds term 2 and a vote for node 3. -/
def votedConfig : Config :=
  { id := 1, peers := [1, 2, 3], electionTick := 10,
    storage := { initialState := .ok ({ term := 2, vote := 3 }, {}) } }

/-- The node `votedConfig` builds. -/
def votedNode : Raft := votedConfig.build

/-- `votedNode` after a tick and `become_follower(2, 3)`, to its own term. -/
def votedFollower : Raft :=
  (votedNode.run [.tick, .becomeFollower 2 3 0]).toOption.getD votedNode

theorem term_monotone_vote_kept_votedNode :
    votedNode.term = 2 ∧ votedNode.vote = 3 ∧ Run TermCall votedNode votedFollower ∧
      votedFollower.term = votedNode.term ∧ votedFollower.vote = 3 ∧
      (votedNode.term ≤ votedFollower.term ∧
        (votedFollower.term = votedNode.term → votedFollower.vote = votedNode.vote) ∧
        (∀ lead draw r₁, votedNode.becomeFollower votedNode.term lead draw = .ok r₁ →
          r₁.vote = votedNode.vote) ∧
        (∀ term lead draw r₁, votedNode.term < term →
          votedNode.becomeFollower term lead draw = .ok r₁ → r₁.vote = 0)) := by
  have h : Run TermCall votedNode votedFollower :=
    .cons (show TermCall _ .tick from trivial) rfl
      (.cons (show TermCall _ (.becomeFollower 2 3 0) by decide) rfl (.refl _))
  exact ⟨rfl, rfl, h, rfl, rfl, term_monotone_vote_kept h⟩

/-! ## Progress after `reset` -/

section Progress

variable {r r' : Raft} {term lead draw : Nat}

/-- After `become_follower` every progress is the one `reset`'s callback gives: `next` is
`last_index()`, and `match` is `last_index()` for the node itself and 0 for every other id. -/
theorem becomeFollower_progress (h : r.becomeFollower term lead draw = .ok r') {k : Nat}
    {p : Progress} (hp : r'.prs.lookup k = some p ∨ r'.learnerPrs.lookup k = some p) :
    p.next = r.raftLog.lastIndex ∧ p.match = if k = r.id then r.raftLog.lastIndex else 0 := by
  rw [Raft.becomeFollower_eq_ok h] at hp
  simp only [ProgressMap.lookup_mapWithId, Option.map_eq_some'] at hp
  rcases hp with ⟨q, -, rfl⟩ | ⟨q, -, rfl⟩ <;> exact ⟨rfl, rfl⟩

end Progress

/-- The learner node as the constructor leaves it: on its empty log `reset` gave node 1 and
itself `match = next = 0`. -/
theorem learnerNode_progress :
    learnerNode.raftLog.lastIndex = 0 ∧
      learnerNode.prs.lookup 1 = some { «match» := 0, next := 0 } ∧
      learnerNode.learnerPrs.lookup 2 = some { «match» := 0, next := 0, isLearner := true } :=
  ⟨rfl, rfl, rfl⟩

/-! ## The randomized election timeout -/

section Timeout

variable {r r' : Raft} {term lead draw : Nat}

/-- One tick below the timeout only counts. -/
theorem tick_of_lt (hlt : r.randomizedElectionTimeout < 2 ^ 32)
    (he : r.electionElapsed + 1 < r.randomizedElectionTimeout) :
    r.tick = .ok { r with electionElapsed := r.electionElapsed + 1 } := by
  have hn : ¬r.randomizedElectionTimeout ≤ r.electionElapsed + 1 := by omega
  unfold Raft.tick Raft.tickElection
  dsimp only
  rw [Nat.mod_eq_of_lt (show r.electionElapsed + 1 < 2 ^ 32 by omega)]
  simp [Raft.pastElectionTimeout, hn]

/-- `k` ticks that stay below the timeout only count: `election_elapsed_` grows by `k`, and
nothing else changes. -/
theorem run_ticks {k : Nat} (hlt : r.randomizedElectionTimeout < 2 ^ 32)
    (hk : r.electionElapsed + k < r.randomizedElectionTimeout) :
    r.run (List.replicate k .tick) = .ok { r with electionElapsed := r.electionElapsed + k } := by
  induction k generalizing r with
  | zero => rfl
  | succ k ih =>
    simp only [List.replicate_succ, Raft.run, Raft.apply, tick_of_lt hlt (by omega : _ < _),
      Except.ok_bind]
    rw [ih]
    · simp only [Nat.add_assoc, Nat.add_comm 1 k]
    · exact hlt
    · simp only
      omega

/-- The tick that reaches the timeout restarts the count and, on a member of `prs_`, steps a local
`MsgHup`. -/
theorem tick_at_timeout (hp : r.id ∈ r.prs) (hlt : r.randomizedElectionTimeout < 2 ^ 32)
    (he : r.electionElapsed + 1 = r.randomizedElectionTimeout) :
    r.tick = ({ r with electionElapsed := 0 } : Raft).step { type := .msgHup, «from» := r.id } := by
  unfold Raft.tick Raft.tickElection
  dsimp only
  rw [Nat.mod_eq_of_lt (show r.electionElapsed + 1 < 2 ^ 32 by omega)]
  simp [Raft.promotable, Raft.pastElectionTimeout, hp, he]

/-- The timeout `assert` passes exactly when the sum, as `uint32_t`, is at most twice the
timeout. -/
theorem resetRandomizedElectionTimeout_isOk {r : Raft} {draw : Nat} :
    (∃ r', r.resetRandomizedElectionTimeout draw = .ok r') ↔
      (r.electionTimeout + draw) % 2 ^ 32 ≤ 2 * r.electionTimeout % 2 ^ 32 := by
  unfold Raft.resetRandomizedElectionTimeout
  dsimp only
  split_ifs with hb
  · exact iff_of_true ⟨_, rfl⟩ hb
  · exact iff_of_false (fun ⟨_, h⟩ => h) hb

/-- `become_follower` returns exactly when the draw passes the timeout `assert`. -/
theorem becomeFollower_isOk {r : Raft} {term lead draw : Nat} :
    (∃ r', r.becomeFollower term lead draw = .ok r') ↔
      (r.electionTimeout + draw) % 2 ^ 32 ≤ 2 * r.electionTimeout % 2 ^ 32 := by
  unfold Raft.becomeFollower Raft.reset
  simp only [Except.bind_isOk, Except.pure_isOk, and_true, resetRandomizedElectionTimeout_isOk]
  split_ifs <;> rfl

/-- **When a follower campaigns.** After `become_follower` with a draw no larger than a timeout
below `2 ^ 31`, a member of `prs_` counts `election_timeout_ + draw - 1` ticks and steps a
`MsgHup` at the next: it campaigns on tick `election_timeout_ + draw`, up to
`2 * election_timeout_`. -/
theorem becomeFollower_campaign_tick (h : r.becomeFollower term lead draw = .ok r')
    (hlt : r.electionTimeout < 2 ^ 31) (hd : draw ≤ r.electionTimeout)
    (hpos : 0 < r.electionTimeout + draw) (hp : r.id ∈ r.prs) :
    r'.randomizedElectionTimeout = r.electionTimeout + draw ∧
      r'.run (List.replicate (r.electionTimeout + draw - 1) .tick) =
        .ok { r' with electionElapsed := r.electionTimeout + draw - 1 } ∧
      ({ r' with electionElapsed := r.electionTimeout + draw - 1 } : Raft).tick =
        ({ r' with electionElapsed := 0 } : Raft).step { type := .msgHup, «from» := r.id } := by
  obtain rfl := Raft.becomeFollower_eq_ok h
  have ht : (r.electionTimeout + draw) % 2 ^ 32 = r.electionTimeout + draw :=
    Nat.mod_eq_of_lt (by omega)
  refine ⟨ht, ?_, ?_⟩
  · rw [run_ticks (by simp only [ht]; omega) (by simp only [ht]; omega), Nat.zero_add]
  · rw [tick_at_timeout (by simpa using hp) (by simp only [ht]; omega) (by simp only [ht]; omega)]

end Timeout

/-- Node 1, the only voter, with an election tick of 10, on an empty storage. -/
def oneVoterConfig : Config :=
  { id := 1, peers := [1], electionTick := 10, storage := emptyStorage }

/-- Built with the generator's top draw, 10, the node's randomized timeout is 20, twice its
election timeout, and it campaigns only on its 20th tick. -/
theorem top_draw_doubles_timeout :
    oneVoterConfig.electionTick = 10 ∧
      ∃ r, Raft.new oneVoterConfig {} 10 = .ok r ∧ r.randomDevice.CanReturn 10 ∧
        r.electionTimeout = 10 ∧ r.randomizedElectionTimeout = 20 ∧
        r.run (List.replicate 19 .tick) = .ok { r with electionElapsed := 19 } ∧
        ∃ r', r.run (List.replicate 20 .tick) = .ok r' ∧ r'.transitions = [.candidate, .leader] :=
  ⟨rfl, _, rfl, by decide, rfl, rfl, rfl, _, rfl, rfl⟩

/-- The node `oneVoterConfig` builds, after `become_follower(2, 0)` with a draw of 4. -/
def oneVoterFollower : Raft :=
  (oneVoterConfig.build.becomeFollower 2 0 4).toOption.getD oneVoterConfig.build

theorem becomeFollower_campaign_tick_oneVoter :
    oneVoterConfig.build.becomeFollower 2 0 4 = .ok oneVoterFollower ∧
      oneVoterConfig.build.electionTimeout < 2 ^ 31 ∧ 4 ≤ oneVoterConfig.build.electionTimeout ∧
      0 < oneVoterConfig.build.electionTimeout + 4 ∧
      oneVoterConfig.build.id ∈ oneVoterConfig.build.prs ∧
      oneVoterFollower.randomizedElectionTimeout = oneVoterConfig.build.electionTimeout + 4 ∧
      oneVoterFollower.run (List.replicate (oneVoterConfig.build.electionTimeout + 4 - 1) .tick) =
        .ok { oneVoterFollower with
          electionElapsed := oneVoterConfig.build.electionTimeout + 4 - 1 } ∧
      ({ oneVoterFollower with
          electionElapsed := oneVoterConfig.build.electionTimeout + 4 - 1 } : Raft).tick =
        ({ oneVoterFollower with electionElapsed := 0 } : Raft).step
          { type := .msgHup, «from» := oneVoterConfig.build.id } := by
  have h : oneVoterConfig.build.becomeFollower 2 0 4 = .ok oneVoterFollower := rfl
  exact ⟨h, by decide, by decide, by decide, by decide,
    becomeFollower_campaign_tick h (by decide) (by decide) (by decide) (by decide)⟩

/-! ## The constructor -/

/-- **What the constructor leaves**: a follower with no leader and no votes. A non-empty hard state
gives the term, the vote and the commit index; with an empty one the term and the vote are what
`term_` and `vote_` held before. -/
theorem new_initial {c : Config} {u : Uninit} {draw : Nat} {r : Raft}
    (h : Raft.new c u draw = .ok r) :
    r.state = .follower ∧ r.lead = 0 ∧ r.votes = ∅ ∧
      ∃ hs cs, c.storage.initialState = .ok (hs, cs) ∧
        (hs.isEmptyState = false →
          r.term = hs.term ∧ r.vote = hs.vote ∧ r.raftLog.committed = hs.commit) ∧
        (hs.isEmptyState = true → r.term = u.term ∧ r.vote = u.vote) := by
  obtain ⟨hs, cs, prs, lp, il, r₁, r₂, hi, -, h₁, h₂, h⟩ := Raft.new_eq_ok h
  obtain ⟨e₂, hc₂⟩ := Raft.applyInitial_eq_ok h₂
  have t₂ : r₂.term = r₁.term := (congrArg Raft.term e₂ :)
  have v₂ : r₂.vote = r₁.vote := (congrArg Raft.vote e₂ :)
  rw [Raft.becomeFollower_eq_ok h]
  refine ⟨rfl, rfl, rfl, hs, cs, hi, fun he => ?_, fun he => ?_⟩
  · obtain ⟨e₁, hc₁⟩ := Raft.loadInitialState_of_ne he h₁
    have t₁ : r₁.term = hs.term := (congrArg Raft.term e₁ :)
    have v₁ : r₁.vote = hs.vote := (congrArg Raft.vote e₁ :)
    simp [t₂, v₂, t₁, v₁, hc₂, hc₁]
  · rw [Raft.loadInitialState_of_empty he] at h₁
    cases h₁
    simp [t₂, v₂, Raft.fresh]

/-- With an empty hard state the constructor keeps whatever `term_` and `vote_` held. -/
theorem new_keeps_uninit_term :
    ∃ r, Raft.new learnerConfig { term := 7, vote := 3 } 0 = .ok r ∧ r.term = 7 ∧ r.vote = 3 := by
  obtain ⟨r, h⟩ : ∃ r, Raft.new learnerConfig { term := 7, vote := 3 } 0 = .ok r := ⟨_, rfl⟩
  obtain ⟨-, -, -, hs, cs, hi, -, hu⟩ := new_initial h
  cases hi
  exact ⟨r, h, hu rfl⟩

end KvdRaft
