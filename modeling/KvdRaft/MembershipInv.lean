import KvdRaft.Node

/-!
# The membership invariant

`add_node_or_learner` finds an id's progress with `get_progress` and then reads which map it is in
from the progress's `is_learner` flag, so it is right only while that flag agrees with the map.
This file proves that it always does.

* `Raft.view r k` is where `k` stands: its progress in `prs_` and in `learner_prs_`. `ViewOk`
  allows a voter with a voter's progress, a learner with a learner's, or neither; `SelfOk` says
  `is_learner_` agrees with where the node's own id stands. `MembershipInv` is both.
* `addedView` is the closed form of any run of `add_node_or_learner` calls on one id: where the id
  ends depends only on where it started and on whether some call added it as a voter, and whether
  some call added it as a learner (`addedView_addedView`).

Results:
* `MembershipInv.reachable`: the constructor establishes the invariant and every call keeps it;
  `membership_disjoint_of_reachable` spells it out: the maps are disjoint, their flags agree with
  them, `is_learner_` agrees with them, and `for_each_progress` visits every member once.
* `addNodeOrLearner_view`: one call moves its id as `addedView` says and leaves every other id.
* `add_calls_same_set`: two runs of `add_node_or_learner` calls with the same set of arguments,
  in any order and with any repetitions, leave the same maps and the same `is_learner_`.
* `del_undoes_add`: deleting a new id right after adding it gives the node back, all but
  `is_learner_`, which keeps what the addition set when the id is the node's own.
* `nodes_of_reachable`: `nodes` reports the voters sorted, without duplicates and without a
  learner; `learner_nodes` is undefined (`Raft.learnerNodes_eq_none`).
-/

namespace KvdRaft

/-- Where `k` stands: its progress in `prs_` and in `learner_prs_`. -/
def Raft.view (r : Raft) (k : Nat) : Option Progress × Option Progress :=
  (r.prs.lookup k, r.learnerPrs.lookup k)

/-- The places the invariant allows: a voter with a voter's progress, a learner with a learner's,
or no member. -/
def ViewOk : Option Progress × Option Progress → Prop
  | (some p, none) => p.isLearner = false
  | (none, some p) => p.isLearner = true
  | (none, none) => True
  | (some _, some _) => False

/-- `is_learner_` agrees with where the node's own id stands. -/
def SelfOk (isLearner : Bool) : Option Progress × Option Progress → Prop
  | (some _, _) => isLearner = false
  | (none, some _) => isLearner = true
  | (none, none) => True

/-- **The membership invariant.** -/
structure MembershipInv (r : Raft) : Prop where
  /-- Every id is a voter, a learner or neither, with the matching flag. -/
  view_ok : ∀ k, ViewOk (r.view k)
  /-- The node's own flag agrees with where it stands. -/
  self_ok : SelfOk r.isLearner (r.view r.id)

section Places

variable {f : Progress → Progress} {v : Option Progress × Option Progress} {b : Bool}

theorem viewOk_map (hf : ∀ p, (f p).isLearner = p.isLearner) (h : ViewOk v) :
    ViewOk (v.1.map f, v.2.map f) := by
  rcases v with ⟨_ | p, _ | q⟩ <;> simp_all [ViewOk]

theorem selfOk_map (h : SelfOk b v) : SelfOk b (v.1.map f, v.2.map f) := by
  rcases v with ⟨_ | p, _ | q⟩ <;> simp_all [SelfOk]

end Places

namespace MembershipInv

variable {r r' : Raft}

/-- The invariant reads only the views, the node's id and its learner flag. -/
theorem of_view (h : MembershipInv r) (hv : ∀ k, r'.view k = r.view k) (hid : r'.id = r.id)
    (hl : r'.isLearner = r.isLearner) : MembershipInv r' where
  view_ok k := by rw [hv]; exact h.view_ok k
  self_ok := by rw [hid, hv, hl]; exact h.self_ok

/-- No id is both a voter and a learner. -/
theorem disjoint {k : Nat} (h : MembershipInv r) (hp : k ∈ r.prs) : k ∉ r.learnerPrs := fun hq => by
  have := h.view_ok k
  obtain ⟨p, hp⟩ := Option.isSome_iff_exists.mp (AList.lookup_isSome.mpr hp)
  obtain ⟨q, hq⟩ := Option.isSome_iff_exists.mp (AList.lookup_isSome.mpr hq)
  simp [Raft.view, hp, hq, ViewOk] at this

/-- A voter's progress has the voter's flag. -/
theorem voter_flag {k : Nat} {p : Progress} (h : MembershipInv r) (hp : r.prs.lookup k = some p) :
    p.isLearner = false := by
  have := h.view_ok k
  cases hq : r.learnerPrs.lookup k <;> simp_all [Raft.view, ViewOk]

/-- A learner's progress has the learner's flag. -/
theorem learner_flag {k : Nat} {p : Progress} (h : MembershipInv r)
    (hq : r.learnerPrs.lookup k = some p) : p.isLearner = true := by
  have := h.view_ok k
  cases hp : r.prs.lookup k <;> simp_all [Raft.view, ViewOk]

theorem self_of_voter (h : MembershipInv r) (hp : r.id ∈ r.prs) : r.isLearner = false := by
  obtain ⟨p, hp⟩ := Option.isSome_iff_exists.mp (AList.lookup_isSome.mpr hp)
  simpa [Raft.view, hp, SelfOk] using h.self_ok

theorem self_of_learner (h : MembershipInv r) (hq : r.id ∈ r.learnerPrs) : r.isLearner = true := by
  obtain ⟨q, hq'⟩ := Option.isSome_iff_exists.mp (AList.lookup_isSome.mpr hq)
  have hp : r.prs.lookup r.id = none := AList.lookup_eq_none.mpr fun hp => h.disjoint hp hq
  simpa [Raft.view, hp, hq', SelfOk] using h.self_ok

/-- `for_each_progress` visits every member once. -/
theorem forEachProgressIds_nodup (h : MembershipInv r) : r.forEachProgressIds.Nodup :=
  List.nodup_append.mpr ⟨r.prs.keys_nodup, r.learnerPrs.keys_nodup,
    fun _ hp hq => h.disjoint (AList.mem_keys.mpr hp) (AList.mem_keys.mpr hq)⟩

theorem of_frame (h : MembershipInv r) (hf : r.Frame r') : MembershipInv r' :=
  h.of_view (fun k => by simp [Raft.view, hf.prs, hf.learnerPrs]) hf.id hf.isLearner

theorem becomeFollower {t l d : Nat} (h : MembershipInv r)
    (hb : r.becomeFollower t l d = .ok r') : MembershipInv r' := by
  rw [Raft.becomeFollower_eq_ok hb]
  have hf : ∀ k p, (r.resetProgress k p).isLearner = p.isLearner := fun _ _ => rfl
  exact ⟨fun k => by simpa [Raft.view] using viewOk_map (hf k) (h.view_ok k),
    by simpa [Raft.view] using selfOk_map (f := r.resetProgress r.id) h.self_ok⟩

theorem delProgress (h : MembershipInv r) (id : Nat) : MembershipInv (r.delProgress id) := by
  refine ⟨fun k => ?_, ?_⟩
  · by_cases hk : k = id
    · subst hk; simp [Raft.view, Raft.delProgress, ViewOk]
    · simpa [Raft.view, Raft.delProgress, hk] using h.view_ok k
  · by_cases hk : r.id = id
    · subst hk; simp [Raft.view, Raft.delProgress, SelfOk]
    · simpa [Raft.view, Raft.delProgress, hk] using h.self_ok

end MembershipInv

/-! ## `add_node_or_learner` -/

/-- Where a run of `add_node_or_learner` calls leaves an id that stood at `v`: `voter` says that
some call added it as a voter, `learner` that some call added it as a learner. A new progress has
`next = last + 1`. -/
def addedView (last : Nat) : Option Progress × Option Progress → Bool → Bool →
    Option Progress × Option Progress
  | (some p, q), _, _ => (some p, q)
  | (none, some p), true, _ => (some { p with isLearner := false, recentActive := true }, none)
  | (none, some p), false, _ => (none, some p)
  | (none, none), true, _ => (some { next := last + 1, recentActive := true }, none)
  | (none, none), false, true =>
    (none, some { next := last + 1, isLearner := true, recentActive := true })
  | (none, none), false, false => (none, none)

section AddedView

variable (last : Nat) (v : Option Progress × Option Progress) (a b a' b' : Bool)

/-- **Calls compose by or-ing what they ask**: the place depends on the set of calls only. -/
theorem addedView_addedView :
    addedView last (addedView last v a b) a' b' = addedView last v (a || a') (b || b') := by
  rcases v with ⟨_ | p, _ | q⟩ <;> cases a <;> cases b <;> cases a' <;> cases b' <;> rfl

@[simp] theorem addedView_false_false : addedView last v false false = v := by
  rcases v with ⟨_ | p, _ | q⟩ <;> rfl

/-- An id ends as a voter iff it was one or some call added it as one. -/
theorem isSome_addedView : (addedView last v a b).1.isSome = (v.1.isSome || a) := by
  rcases v with ⟨_ | p, _ | q⟩ <;> cases a <;> cases b <;> rfl

theorem eq_of_addedView_eq_none (h : addedView last v a b = (none, none)) :
    v = (none, none) ∧ a = false ∧ b = false := by
  rcases v with ⟨_ | p, _ | q⟩ <;> cases a <;> cases b <;> simp_all [addedView]

variable {last v a b}

theorem viewOk_addedView (h : ViewOk v) : ViewOk (addedView last v a b) := by
  rcases v with ⟨_ | p, _ | q⟩ <;> cases a <;> cases b <;> simp_all [addedView, ViewOk]

end AddedView

/-- The invariant after a call that moved `id` as `addedView` says and no other id. -/
theorem MembershipInv.of_add {r r' : Raft} {last id : Nat} {a b : Bool} (h : MembershipInv r)
    (hv : ∀ k, r'.view k = if k = id then addedView last (r.view id) a b else r.view k)
    (hid : r'.id = r.id) (hl : r.id ≠ id → r'.isLearner = r.isLearner)
    (hself : r.id = id → SelfOk r'.isLearner (r'.view id)) : MembershipInv r' where
  view_ok k := by
    rw [hv]
    split_ifs
    · exact viewOk_addedView (h.view_ok id)
    · exact h.view_ok k
  self_ok := by
    rw [hid]
    by_cases he : r.id = id
    · rw [he]; exact hself he
    · rw [hv, if_neg he, hl he]; exact h.self_ok

variable {r : Raft}

/-- **One call of `add_node_or_learner`**: it never aborts on a node that keeps the invariant,
moves its id as `addedView` says, leaves every other id, and keeps the invariant. -/
theorem addNodeOrLearner_view (h : MembershipInv r) (id : Nat) (l : Bool) :
    ∃ r', r.addNodeOrLearner id l = .ok r' ∧
      (∀ k, r'.view k =
        if k = id then addedView r.raftLog.lastIndex (r.view id) (!l) l else r.view k) ∧
      r'.id = r.id ∧ r'.raftLog = r.raftLog ∧ (r.id ≠ id → r'.isLearner = r.isLearner) ∧
      MembershipInv r' := by
  have hv := h.view_ok id
  unfold Raft.view at hv
  rcases hp : r.prs.lookup id with _ | p <;> rcases hq : r.learnerPrs.lookup id with _ | q <;>
    rw [hp, hq] at hv <;> simp only [ViewOk] at hv
  · -- a new id
    rw [Raft.addNodeOrLearner_of_new hp hq]
    refine ⟨_, rfl, (fun hview => ⟨hview, by cases l <;> rfl, by cases l <;> rfl,
      fun hne => by cases l <;> simp [hne], h.of_add hview (by cases l <;> rfl)
        (fun hne => by cases l <;> simp [hne]) fun he => ?_⟩) ?_⟩
    · intro k
      by_cases hk : k = id
      · subst hk; cases l <;> simp [Raft.view, hp, hq, addedView]
      · cases l <;> simp [Raft.view, hk]
    · subst he
      cases l <;> simp [Raft.view, hp, SelfOk]
  · -- a learner
    rw [Raft.addNodeOrLearner_of_learner hp hq hv]
    refine ⟨_, rfl, (fun hview => ⟨hview, by cases l <;> rfl, by cases l <;> rfl,
      fun hne => by cases l <;> simp [hne], h.of_add hview (by cases l <;> rfl)
        (fun hne => by cases l <;> simp [hne]) fun he => ?_⟩) ?_⟩
    · intro k
      by_cases hk : k = id
      · subst hk; cases l <;> simp [Raft.view, hp, hq, addedView]
      · cases l <;> simp [Raft.view, hk]
    · subst he
      cases l
      · simp [Raft.view, SelfOk]
      · exact h.self_ok
  · -- a voter
    rw [Raft.addNodeOrLearner_of_voter hp hv]
    refine ⟨r, rfl, fun k => ?_, rfl, rfl, fun _ => rfl, h⟩
    split_ifs with hk
    · subst hk; simp [Raft.view, hp, hq, addedView]
    · rfl

/-! ## Every reachable node keeps the invariant -/

/-- The maps and the flag the constructor builds keep the invariant. -/
theorem members_inv {c : Config} {cs : ConfState} {prs lp : ProgressMap} {il : Bool}
    (h : c.members cs = .ok (prs, lp, il)) :
    (∀ k, ViewOk (prs.lookup k, lp.lookup k)) ∧ SelfOk il (prs.lookup c.id, lp.lookup c.id) := by
  unfold Config.members at h
  obtain ⟨⟨peers, learners⟩, -, h⟩ := Except.bind_eq_ok.mp h
  obtain ⟨⟨lp', il'⟩, hl, h⟩ := Except.bind_eq_ok.mp h
  cases h
  obtain ⟨hdisj, hlook, hflag⟩ := learnerPrsOf_eq_ok hl
  have hnot : ∀ k ∈ peers, k ∉ learners := fun k hk hl =>
    hdisj k hl (AList.lookup_isSome.mp (by simp [lookup_peerPrs, hk]))
  simp only [AList.lookup_empty] at hlook hflag
  refine ⟨fun k => ?_, ?_⟩
  · rw [hlook, lookup_peerPrs]
    by_cases hp : k ∈ peers
    · simp [hp, hnot k hp, ViewOk]
    · by_cases hq : k ∈ learners <;> simp [hp, hq, ViewOk]
  · rw [hlook, lookup_peerPrs, hflag]
    by_cases hp : c.id ∈ peers
    · simp [hp, hnot _ hp, SelfOk]
    · by_cases hq : c.id ∈ learners <;> simp [hp, hq, SelfOk]

namespace MembershipInv

variable {r r' : Raft}

/-- **The constructor establishes the invariant.** -/
theorem new {c : Config} {u : Uninit} {draw : Nat} (h : Raft.new c u draw = .ok r) :
    MembershipInv r := by
  obtain ⟨hs, cs, prs, lp, il, r₁, r₂, -, hm, h₁, h₂, h⟩ := Raft.new_eq_ok h
  obtain ⟨hv, hself⟩ := members_inv hm
  have h₀ : MembershipInv (Raft.fresh c u prs lp il) := ⟨hv, hself⟩
  have i₁ : MembershipInv r₁ := by
    cases he : hs.isEmptyState
    · obtain ⟨e, -⟩ := Raft.loadInitialState_of_ne he h₁
      exact h₀.of_view (fun _ => by rw [e]; rfl) (by rw [e]) (by rw [e])
    · rw [Raft.loadInitialState_of_empty he] at h₁
      cases h₁
      exact h₀
  have e₂ := (Raft.applyInitial_eq_ok h₂).1
  exact (i₁.of_view (fun _ => by rw [e₂]; rfl) (by rw [e₂]) (by rw [e₂])).becomeFollower h

theorem addNodeOrLearner (h : MembershipInv r) {id : Nat} {l : Bool}
    (ha : r.addNodeOrLearner id l = .ok r') : MembershipInv r' := by
  obtain ⟨r'', ha', -, -, -, -, hi⟩ := addNodeOrLearner_view h id l
  rw [ha] at ha'
  cases ha'
  exact hi

/-- **Every call keeps the invariant.** -/
theorem apply (h : MembershipInv r) {op : Op} (ha : r.apply op = .ok r') : MembershipInv r' := by
  cases op with
  | step m => exact h.of_frame (Raft.step_frame ha)
  | tick => exact h.of_frame (Raft.tick_frame ha)
  | becomeFollower t l d => exact h.becomeFollower ha
  | addNodeOrLearner id l => exact h.addNodeOrLearner ha
  | delProgress id => cases ha; exact h.delProgress id

theorem reachable (h : Reachable r) : MembershipInv r := by
  induction h with
  | new h => exact new h
  | apply _ ha ih => exact ih.apply ha

end MembershipInv

/-- **Voters and learners never mix**: in every reachable node the two maps are disjoint (so
`get_progress` is unambiguous), every progress's flag agrees with its map (so `quorum()` counts
voters only), `is_learner_` agrees with where the node stands, and `for_each_progress` visits
every member exactly once. -/
theorem membership_disjoint_of_reachable {r : Raft} (h : Reachable r) :
    (∀ k, k ∈ r.prs → k ∉ r.learnerPrs) ∧
    (∀ k p, r.prs.lookup k = some p → p.isLearner = false) ∧
    (∀ k p, r.learnerPrs.lookup k = some p → p.isLearner = true) ∧
    (r.id ∈ r.learnerPrs → r.isLearner = true) ∧
    (r.id ∈ r.prs → r.isLearner = false) ∧
    r.forEachProgressIds.Nodup := by
  have h := MembershipInv.reachable h
  exact ⟨fun _ => h.disjoint, fun _ _ => h.voter_flag, fun _ _ => h.learner_flag,
    h.self_of_learner, h.self_of_voter, h.forEachProgressIds_nodup⟩

/-! ### Runs of `add_node_or_learner` calls -/

/-- The calls `add_node_or_learner(id, is_learner)`, one per pair of `cs`, in order. -/
def addCalls (cs : List (Nat × Bool)) : List Op := cs.map fun c => .addNodeOrLearner c.1 c.2

section AddCalls

variable {r : Raft}

/-- A run of add calls from a consistent node never aborts, and every key ends as `addedView`
gives from whether some call added it as a voter and whether some call added it as a learner. -/
theorem run_addCalls (h : MembershipInv r) (cs : List (Nat × Bool)) :
    ∃ r', r.run (addCalls cs) = .ok r' ∧
      (∀ k, r'.view k = addedView r.raftLog.lastIndex (r.view k)
        (decide ((k, false) ∈ cs)) (decide ((k, true) ∈ cs))) ∧
      r'.id = r.id ∧ r'.raftLog = r.raftLog ∧
      ((∀ c ∈ cs, c.1 ≠ r.id) → r'.isLearner = r.isLearner) ∧ MembershipInv r' := by
  induction cs generalizing r with
  | nil => exact ⟨r, rfl, fun k => by simp, rfl, rfl, fun _ => rfl, h⟩
  | cons c cs ih =>
    obtain ⟨id, l⟩ := c
    obtain ⟨r₁, h₁, hv₁, hid₁, hlog₁, hl₁, i₁⟩ := addNodeOrLearner_view h id l
    obtain ⟨r', h', hv', hid', hlog', hl', i'⟩ := ih i₁
    refine ⟨r', ?_, fun k => ?_, hid'.trans hid₁, hlog'.trans hlog₁, fun hne => ?_, i'⟩
    · simpa [addCalls, Raft.run, Raft.apply, h₁] using h'
    · rw [hv', hv₁, hlog₁]
      by_cases hk : k = id
      · subst hk
        rw [if_pos rfl, addedView_addedView]
        cases l <;> simp
      · simp [hk]
    · have hne₁ : r.id ≠ id := fun e => hne (id, l) (List.mem_cons_self _ _) e.symm
      rw [hl' fun c hc => hid₁ ▸ hne c (List.mem_cons_of_mem _ hc), hl₁ hne₁]

end AddCalls

/-- **Add calls commute and are idempotent**: from a consistent node, two runs of
`add_node_or_learner` calls with the same set of `(id, is_learner)` pairs, in any order and with
any repetitions, both complete and leave the same progress in both maps for every key, and the
same `is_learner_`; the voters are the old ones and every id added as a voter. -/
theorem add_calls_same_set {r : Raft} (h : MembershipInv r) {cs₁ cs₂ : List (Nat × Bool)}
    (hs : ∀ c, c ∈ cs₁ ↔ c ∈ cs₂) :
    ∃ r₁ r₂, r.run (addCalls cs₁) = .ok r₁ ∧ r.run (addCalls cs₂) = .ok r₂ ∧
      (∀ k, r₁.prs.lookup k = r₂.prs.lookup k) ∧
      (∀ k, r₁.learnerPrs.lookup k = r₂.learnerPrs.lookup k) ∧
      r₁.isLearner = r₂.isLearner ∧
      (∀ k, k ∈ r₁.prs ↔ k ∈ r.prs ∨ (k, false) ∈ cs₁) := by
  obtain ⟨r₁, h₁, hv₁, hid₁, -, hl₁, i₁⟩ := run_addCalls h cs₁
  obtain ⟨r₂, h₂, hv₂, hid₂, -, hl₂, i₂⟩ := run_addCalls h cs₂
  have hv : ∀ k, r₁.view k = r₂.view k := fun k => by simp only [hv₁, hv₂, hs]
  -- A key neither run added keeps the node's own flag.
  have hself : ∀ cs : List (Nat × Bool), decide ((r.id, false) ∈ cs) = false →
      decide ((r.id, true) ∈ cs) = false → ∀ c ∈ cs, c.1 ≠ r.id := by
    rintro cs ha hb ⟨k, b⟩ hc rfl
    cases b
    exacts [of_decide_eq_false ha hc, of_decide_eq_false hb hc]
  refine ⟨r₁, r₂, h₁, h₂, fun k => congrArg Prod.fst (hv k),
    fun k => congrArg Prod.snd (hv k), ?_, fun k => ?_⟩
  · have s₁ := i₁.self_ok
    have s₂ := i₂.self_ok
    rw [hid₁] at s₁
    rw [hid₂, ← hv r.id] at s₂
    rcases e : r₁.view r.id with ⟨_ | p, _ | q⟩ <;> rw [e] at s₁ s₂ <;> simp only [SelfOk] at s₁ s₂
    · obtain ⟨-, ha, hb⟩ := eq_of_addedView_eq_none _ _ _ _ ((hv₁ r.id).symm.trans e)
      rw [hl₁ (hself cs₁ ha hb), hl₂ (hself cs₂ (by simpa [hs] using ha) (by simpa [hs] using hb))]
    all_goals rw [s₁, s₂]
  · have := isSome_addedView r.raftLog.lastIndex (r.view k) (decide ((k, false) ∈ cs₁))
      (decide ((k, true) ∈ cs₁))
    rw [← hv₁] at this
    rw [← AList.lookup_isSome, ← AList.lookup_isSome]
    simp only [Raft.view] at this
    simp [this]

theorem add_calls_same_set_learnerNode :
    MembershipInv learnerNode ∧
    (∀ c, c ∈ [(3, true), (3, false), (3, true)] ↔ c ∈ [(3, false), (3, true)]) ∧
    ∃ r₁ r₂, learnerNode.run (addCalls [(3, true), (3, false), (3, true)]) = .ok r₁ ∧
      learnerNode.run (addCalls [(3, false), (3, true)]) = .ok r₂ ∧
      (∀ k, r₁.prs.lookup k = r₂.prs.lookup k) ∧
      (∀ k, r₁.learnerPrs.lookup k = r₂.learnerPrs.lookup k) ∧
      r₁.isLearner = r₂.isLearner ∧
      (∀ k, k ∈ r₁.prs ↔
        k ∈ learnerNode.prs ∨ (k, false) ∈ [(3, true), (3, false), (3, true)]) := by
  have hs : ∀ c, c ∈ [(3, true), (3, false), (3, true)] ↔ c ∈ [(3, false), (3, true)] := by
    simp only [List.mem_cons, List.mem_singleton, List.not_mem_nil, or_false]
    tauto
  exact ⟨MembershipInv.reachable (.new new_learnerNode), hs,
    add_calls_same_set (MembershipInv.reachable (.new new_learnerNode)) hs⟩

theorem learnerNode_membership_disjoint :
    Reachable learnerNode ∧
    ((∀ k, k ∈ learnerNode.prs → k ∉ learnerNode.learnerPrs) ∧
    (∀ k p, learnerNode.prs.lookup k = some p → p.isLearner = false) ∧
    (∀ k p, learnerNode.learnerPrs.lookup k = some p → p.isLearner = true) ∧
    (learnerNode.id ∈ learnerNode.learnerPrs → learnerNode.isLearner = true) ∧
    (learnerNode.id ∈ learnerNode.prs → learnerNode.isLearner = false) ∧
    learnerNode.forEachProgressIds.Nodup) :=
  ⟨.new new_learnerNode, membership_disjoint_of_reachable (.new new_learnerNode)⟩

/-! ### Adding an id, then deleting it -/

section AList

variable {β : Nat → Type} {s : AList β} {a : Nat}

theorem erase_of_not_mem (h : a ∉ s) : s.erase a = s := AList.ext (List.kerase_of_not_mem_keys h)

theorem erase_insert_of_not_mem {b : β a} (h : a ∉ s) : (s.insert a b).erase a = s := by
  refine AList.ext ?_
  show List.kerase a (⟨a, b⟩ :: List.kerase a s.entries) = s.entries
  rw [List.kerase_cons_eq (show a = (Sigma.mk a b).1 from rfl), List.kerase_of_not_mem_keys h]

end AList

/-- **`del_progress` undoes the addition of a new id**, all but `is_learner_`: adding an id that
is in neither map and then deleting it gives back the node, except that when the id is the
node's own, `is_learner_` keeps the flag the addition set. -/
theorem del_undoes_add {r r' : Raft} {id : Nat} {l : Bool} (hp : id ∉ r.prs)
    (hq : id ∉ r.learnerPrs) (h : r.addNodeOrLearner id l = .ok r') :
    r'.delProgress id = { r with isLearner := if r.id = id then l else r.isLearner } := by
  rw [Raft.addNodeOrLearner_of_new (AList.lookup_eq_none.mpr hp) (AList.lookup_eq_none.mpr hq)]
    at h
  cases l <;> cases h <;>
    simp only [Raft.delProgress, erase_insert_of_not_mem hp, erase_insert_of_not_mem hq,
      erase_of_not_mem hp, erase_of_not_mem hq, Bool.false_eq_true, if_false, if_true]

theorem del_undoes_add_learnerNode :
    3 ∉ learnerNode.prs ∧ 3 ∉ learnerNode.learnerPrs ∧
      learnerNode.addNodeOrLearner 3 false =
        .ok ((learnerNode.addNodeOrLearner 3 false).toOption.getD learnerNode) ∧
      ((learnerNode.addNodeOrLearner 3 false).toOption.getD learnerNode).delProgress 3 =
        { learnerNode with isLearner := if learnerNode.id = 3 then false else learnerNode.isLearner } :=
  ⟨by decide, by decide, rfl, del_undoes_add (by decide) (by decide) rfl⟩

/-! ### The configuration a node reports -/

/-- In every reachable node `nodes` returns the voters in strictly ascending order, none of them a
learner. -/
theorem nodes_of_reachable {r : Raft} (h : Reachable r) :
    ∃ l, r.nodes [] = some l ∧ l.Sorted (· < ·) ∧ (∀ k, k ∈ l ↔ k ∈ r.prs) ∧
      ∀ k ∈ l, k ∉ r.learnerPrs := by
  obtain ⟨l, hl, hs, hm⟩ := Raft.nodes_nil (r := r)
  exact ⟨l, hl, hs, hm, fun k hk => (MembershipInv.reachable h).disjoint ((hm k).mp hk)⟩

theorem nodes_of_reachable_learnerNode :
    Reachable learnerNode ∧ ∃ l, learnerNode.nodes [] = some l ∧ l.Sorted (· < ·) ∧
      (∀ k, k ∈ l ↔ k ∈ learnerNode.prs) ∧ ∀ k ∈ l, k ∉ learnerNode.learnerPrs :=
  ⟨.new new_learnerNode, nodes_of_reachable (.new new_learnerNode)⟩

/-- On the learner node `nodes` returns `[1]`, while `learner_nodes` is undefined although
`learner_prs_` holds `2`. -/
theorem learner_nodes_undefined :
    learnerNode.nodes [] = some [1] ∧ learnerNode.learnerPrs.keys = [2] ∧
      learnerNode.learnerNodes [] = none :=
  ⟨rfl, rfl, Raft.learnerNodes_eq_none []⟩

end KvdRaft
