import Mathlib.Data.List.Sort
import KvdRaft.Raft

/-!
# Membership: `add_node_or_learner`, `nodes`, `learner_nodes`

Model of `Raft::add_node_or_learner`, `Raft::add_node`, `Raft::nodes` and `Raft::learner_nodes`
(`src/kvd/raft/Raft.cpp:348-382, 449-463, 602-605`).

* `get_progress(id)->recent_active = true` sets the flag on the progress `get_progress` finds. After
  `set_progress` or a promotion `id` is always found; the `nullptr` case is left unchanged.
* `prs_[id] = pr` and `get_progress(id)->... = ...` write one entry; the model inserts the new value
  (`AList.insert`), which moves the entry to the front of the list. The C++ map's iteration order
  is unspecified in any case.
* `nodes` and `learner_nodes` run one loop: walk an iterator of one map until it equals the end
  iterator of a map, push each key, sort. `collectKeys walk stop` is that loop. `nodes` walks
  `prs_` to `prs_.end()`. `learner_nodes` walks `learner_prs_` to `prs_.end()`: its first `!=`
  compares iterators of two containers, outside the domain of `==` for forward iterators, so its
  behaviour is undefined (`none`). With libstdc++ and libc++ every `end()` of an `unordered_map` is
  a null node and the loop happens to stop; the standard does not say so.
-/

namespace KvdRaft

/-- The two progress maps, as the containers an iterator walks. -/
inductive ProgressMapName
  | prs | learnerPrs
  deriving Repr, DecidableEq

namespace Raft

variable (r : Raft)

/-- `get_progress(id)->recent_active = true`. -/
def markRecentActive (id : Nat) : Raft :=
  match r.prs.lookup id with
  | some p => { r with prs := r.prs.insert id { p with recentActive := true } }
  | none =>
    match r.learnerPrs.lookup id with
    | some p => { r with learnerPrs := r.learnerPrs.insert id { p with recentActive := true } }
    | none => r

/-- The end of `add_node_or_learner` once `id` has its progress: the node's own learner flag, and
the recently-active mark. -/
def addedNode (id : Nat) (isLearner : Bool) : Raft :=
  let r := if r.id = id then { r with isLearner := isLearner } else r
  r.markRecentActive id

/-- `add_node_or_learner(id, is_learner)`. A new id gets a fresh progress with
`next = last_index() + 1`. A voter added again, a voter added as a learner and a learner added
again are ignored; a learner added as a voter is promoted with its own progress. -/
def addNodeOrLearner (id : Nat) (isLearner : Bool) : Except Fatal Raft :=
  match r.getProgress id with
  | none => do
    let r ← r.setProgress id 0 (r.raftLog.lastIndex + 1) isLearner
    pure (r.addedNode id isLearner)
  | some pr =>
    if isLearner && !pr.isLearner then .ok r
    else if isLearner == pr.isLearner then .ok r
    else
      .ok ({ r with
        learnerPrs := r.learnerPrs.erase id
        prs := r.prs.insert id { pr with isLearner := false } }.addedNode id isLearner)

/-- `add_node(id)`. -/
def addNode (id : Nat) : Except Fatal Raft := r.addNodeOrLearner id false

/-- The keys of one progress map, in iteration order. -/
def keysOf : ProgressMapName → List Nat
  | .prs => r.prs.keys
  | .learnerPrs => r.learnerPrs.keys

/-- The loop of `nodes` and `learner_nodes`: push the key of every entry from `walk.begin()` until
the iterator equals `stop.end()`, then sort. Over one map that is every key; over two maps the
first comparison is undefined (`none`). -/
def collectKeys (walk stop : ProgressMapName) (v : List Nat) : Option (List Nat) :=
  if walk = stop then some ((v ++ r.keysOf walk).insertionSort (· ≤ ·)) else none

/-- `nodes(node)`: walks `prs_` to `prs_.end()`. -/
def nodes (node : List Nat) : Option (List Nat) := r.collectKeys .prs .prs node

/-- `learner_nodes(learner)`: walks `learner_prs_` to `prs_.end()`. -/
def learnerNodes (learner : List Nat) : Option (List Nat) := r.collectKeys .learnerPrs .prs learner

/-! ## `nodes` and `learner_nodes` -/

variable {r} {id : Nat} {p : Progress}

/-- From an empty `v`, `nodes` returns the keys of `prs_` in strictly ascending order. -/
theorem nodes_nil : ∃ l, r.nodes [] = some l ∧ l.Sorted (· < ·) ∧ ∀ k, k ∈ l ↔ k ∈ r.prs := by
  have hp := List.perm_insertionSort (· ≤ ·) r.prs.keys
  refine ⟨_, rfl, (List.sorted_insertionSort _ _).lt_of_le (hp.nodup_iff.mpr r.prs.keys_nodup),
    fun k => ?_⟩
  simp [keysOf, hp.mem_iff, AList.mem_keys]

/-- `learner_nodes` is undefined on every node: its loop compares an iterator of `learner_prs_`
with `prs_.end()`. -/
theorem learnerNodes_eq_none (v : List Nat) : r.learnerNodes v = none := rfl

/-! ## `add_node_or_learner`, case by case -/

theorem addedNode_of_prs (h : r.prs.lookup id = some p) (b : Bool) :
    r.addedNode id b = { r with
      prs := r.prs.insert id { p with recentActive := true }
      isLearner := if r.id = id then b else r.isLearner } := by
  unfold addedNode markRecentActive
  split_ifs <;> simp [h]

theorem addedNode_of_learnerPrs (h : r.prs.lookup id = none) (h' : r.learnerPrs.lookup id = some p)
    (b : Bool) :
    r.addedNode id b = { r with
      learnerPrs := r.learnerPrs.insert id { p with recentActive := true }
      isLearner := if r.id = id then b else r.isLearner } := by
  unfold addedNode markRecentActive
  split_ifs <;> simp [h, h']

/-- A voter stays as it is, whatever the call asks. -/
theorem addNodeOrLearner_of_voter (h : r.prs.lookup id = some p) (hp : p.isLearner = false)
    (l : Bool) : r.addNodeOrLearner id l = .ok r := by
  cases l <;> simp [addNodeOrLearner, getProgress, h, hp]

/-- A learner stays as it is when added as a learner, and is promoted when added as a voter. -/
theorem addNodeOrLearner_of_learner (h : r.prs.lookup id = none)
    (h' : r.learnerPrs.lookup id = some p) (hp : p.isLearner = true) (l : Bool) :
    r.addNodeOrLearner id l =
      .ok (if l then r else { r with
        learnerPrs := r.learnerPrs.erase id
        prs := r.prs.insert id { p with isLearner := false, recentActive := true }
        isLearner := if r.id = id then false else r.isLearner }) := by
  cases l
  · simp [addNodeOrLearner, getProgress, h, h', hp, addedNode_of_prs]
  · simp [addNodeOrLearner, getProgress, h, h', hp]

/-- A new id gets a fresh progress with `next = last_index() + 1`, recently active. -/
theorem addNodeOrLearner_of_new (h : r.prs.lookup id = none) (h' : r.learnerPrs.lookup id = none)
    (l : Bool) :
    r.addNodeOrLearner id l =
      .ok (if l then { r with
        learnerPrs := r.learnerPrs.insert id
          { next := r.raftLog.lastIndex + 1, isLearner := true, recentActive := true }
        isLearner := if r.id = id then true else r.isLearner }
      else { r with
        learnerPrs := r.learnerPrs.erase id
        prs := r.prs.insert id { next := r.raftLog.lastIndex + 1, recentActive := true }
        isLearner := if r.id = id then false else r.isLearner }) := by
  have hn : id ∉ r.prs := AList.lookup_eq_none.mp h
  cases l
  · simp [addNodeOrLearner, getProgress, h, h', setProgress, addedNode_of_prs]
  · simp [addNodeOrLearner, getProgress, h, h', setProgress, hn, addedNode_of_learnerPrs]

end Raft

end KvdRaft
