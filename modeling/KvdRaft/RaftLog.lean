import KvdRaft.Proto

/-!
# The log, as the node reads it

Modelled from the spec: `RaftLog` and `Storage` (RaftLog.h, RaftLog.cpp, Storage.h and
MemoryStorage are not under src/). `Raft.cpp` reads the log through `last_index`, `last_term`,
`committed`, `applied` and one `slice`, and writes it only from the constructor (`applied_to`, and
`load_state`'s assignment to `committed`).

* The log is the storage snapshot's index and term followed by the entries after it. The
  storage/unstable split of the spec (4.3) never changes what these reads return, so the entries
  are one list: the entry at index `i` is `entries[i - firstIndex]`.
* The spec's invariants `applied ≤ committed ≤ last_index` and `first_index ≤ applied + 1` are
  fields of `RaftLog`, so a log that breaks them cannot be built; `applied_to` and `load_state`
  check them before they write (`Fatal.appliedOutOfRange`, `Fatal.commitOutOfRange`).
* `slice lo hi` fails with `compacted` below the first index and `unavailable` past
  `last_index + 1` (spec 4.1); the one call in `Raft.cpp` passes `RaftLog::unlimited()`, so the
  size cap is left out.

Results: `slice_eq_ok` (within bounds a slice returns the entries of `[lo, hi)`, and `mem_slice`
says which) and `slice_unapplied`: the slice `step` takes of the unapplied committed entries never
fails.
-/

namespace KvdRaft

/-- Modelled from the spec: the storage a node is built from: what `initial_state` returns (an
error for a corrupted storage), its snapshot's index and term, and the entries after it. -/
structure Storage where
  initialState : Except String (HardState × ConfState)
  snapshotIndex : Nat := 0
  snapshotTerm : Nat := 0
  entries : List Entry := []

/-- Modelled from the spec: `RaftLog`, with its invariants as fields. -/
structure RaftLog where
  snapshotIndex : Nat
  snapshotTerm : Nat
  entries : List Entry
  committed : Nat
  applied : Nat
  applied_le_committed : applied ≤ committed
  committed_le_lastIndex : committed ≤ snapshotIndex + entries.length
  snapshotIndex_le_applied : snapshotIndex ≤ applied

namespace RaftLog

variable (l : RaftLog)

/-- `first_index()`: the index after the snapshot. -/
def firstIndex : Nat := l.snapshotIndex + 1

/-- `last_index()`. -/
def lastIndex : Nat := l.snapshotIndex + l.entries.length

/-- `last_term()`: the term of the last entry, the snapshot's when there is none. -/
def lastTerm : Nat := (l.entries.getLast?.map Entry.term).getD l.snapshotTerm

/-- The entry at index `i`, if the log holds one there. -/
def entry? (i : Nat) : Option Entry :=
  if l.snapshotIndex < i then l.entries[i - l.firstIndex]? else none

/-- `slice(lo, hi, unlimited())`: the entries of `[lo, hi)`. -/
def slice (lo hi : Nat) : Except LogError (List Entry) :=
  if lo < l.firstIndex then .error .compacted
  else if l.lastIndex + 1 < hi then .error .unavailable
  else .ok ((l.entries.drop (lo - l.firstIndex)).take (hi - lo))

/-- The log of a new node (`RaftLog(storage, ...)`): everything in storage is committed and applied
up to the snapshot. -/
def new (s : Storage) : RaftLog where
  snapshotIndex := s.snapshotIndex
  snapshotTerm := s.snapshotTerm
  entries := s.entries
  committed := s.snapshotIndex
  applied := s.snapshotIndex
  applied_le_committed := le_rfl
  committed_le_lastIndex := Nat.le_add_right _ _
  snapshotIndex_le_applied := le_rfl

/-- `applied_to(i)`: `applied = i`, once `committed ≥ i ≥ applied` is checked. -/
def appliedTo (i : Nat) : Except Fatal RaftLog :=
  if h : l.applied ≤ i ∧ i ≤ l.committed then
    .ok { l with
      applied := i
      applied_le_committed := h.2
      snapshotIndex_le_applied := le_trans l.snapshotIndex_le_applied h.1 }
  else .error (.appliedOutOfRange i l.applied l.committed)

/-- `committed() = c`, the write of `load_state` once it has checked `c` against the log. -/
def withCommitted (c : Nat) (h₁ : l.committed ≤ c) (h₂ : c ≤ l.lastIndex) : RaftLog :=
  { l with
    committed := c
    applied_le_committed := le_trans l.applied_le_committed h₁
    committed_le_lastIndex := h₂ }

theorem committed_appliedTo {i : Nat} {l' : RaftLog} (h : l.appliedTo i = .ok l') :
    l'.committed = l.committed := by
  unfold appliedTo at h
  split_ifs at h
  cases h
  rfl

/-! ## Slices -/

theorem committed_le_lastIndex' : l.committed ≤ l.lastIndex := l.committed_le_lastIndex

theorem slice_eq_ok {lo hi : Nat} (h₁ : l.firstIndex ≤ lo) (h₂ : hi ≤ l.lastIndex + 1) :
    l.slice lo hi = .ok ((l.entries.drop (lo - l.firstIndex)).take (hi - lo)) := by
  simp [slice, Nat.not_lt.mpr h₁, Nat.not_lt.mpr h₂]

/-- An entry of a slice within bounds is the entry at some index of `[lo, hi)`, and back. -/
theorem mem_slice {lo : Nat} (h₁ : l.firstIndex ≤ lo) (hi : Nat) (e : Entry) :
    e ∈ (l.entries.drop (lo - l.firstIndex)).take (hi - lo) ↔
      ∃ i, lo ≤ i ∧ i < hi ∧ l.entry? i = some e := by
  simp only [List.mem_iff_getElem?, List.getElem?_take, List.getElem?_drop, entry?]
  constructor
  · rintro ⟨j, hj⟩
    split_ifs at hj with hlt
    refine ⟨lo + j, by omega, by omega, ?_⟩
    rw [if_pos (by simp only [firstIndex] at h₁; omega)]
    rwa [show lo + j - l.firstIndex = lo - l.firstIndex + j by omega]
  · rintro ⟨i, hlo, hhi, he⟩
    split_ifs at he
    refine ⟨i - lo, ?_⟩
    rw [if_pos (by omega), show lo - l.firstIndex + (i - lo) = i - l.firstIndex by omega, he]

/-- **The slice `step` takes never fails**: `(applied, committed]` lies inside the log. -/
theorem slice_unapplied :
    l.slice (l.applied + 1) (l.committed + 1) =
      .ok ((l.entries.drop (l.applied + 1 - l.firstIndex)).take (l.committed - l.applied)) := by
  have := l.snapshotIndex_le_applied
  have := l.committed_le_lastIndex'
  rw [slice_eq_ok l (by simp only [firstIndex]; omega) (by omega)]
  congr 2
  omega

end RaftLog

end KvdRaft
