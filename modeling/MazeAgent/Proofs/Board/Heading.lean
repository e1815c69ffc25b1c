import MazeAgent.Proofs.Board.Adjacency

/-!
# Directions between tiles

Whether two tiles are adjacent is told from the distances of their coordinates, which have no sign.
The direction from one to the other is told from the differences, which have one, and the neighbours
of a tile are found by stepping away from it. All three agree for all coordinates that there are:
where a computation leaves its range the tiles are too far apart for a step.

**Results.**
* `Tile.directionTo_eq_error_iff`: the offset that is no step.
* `Tile.isAdjacent_eq_false_iff`: the tiles that are not adjacent.
* `Tile.directionTo_opposite`: the way back.
* `Snapshot.mem_neighbors_iff`, `Snapshot.nodup_neighbors`: the neighbours by their directions.
* `Tile.directionTo_agrees`: what all of them say about two tiles.
-/

namespace MazeAgent

namespace Direction

theorem offset_opposite (direction : Direction) :
    direction.opposite.rowOffset.toInt = -direction.rowOffset.toInt ∧
      direction.opposite.colOffset.toInt = -direction.colOffset.toInt := by
  cases direction <;> decide

/-- An offset that is refused is told as it is. -/
theorem eq_of_ofOffset_eq_error {row col : Int32} {error : StepError}
    (h : ofOffset row col = .error error) : error = ⟨row, col⟩ := by
  unfold ofOffset at h
  split_ifs at h
  exact (Except.error.inj h).symm

end Direction

namespace Tile

variable {a b : Tile} {direction : Direction}

theorem step_opposite (h : a.step direction = .ok b) : b.step direction.opposite = .ok a := by
  obtain ⟨hrow, hcol⟩ := step_eq_ok_iff.mp h
  obtain ⟨hrow', hcol'⟩ := direction.offset_opposite
  exact step_eq_ok_iff.mpr ⟨by omega, by omega⟩

theorem directionTo_opposite (h : a.directionTo b = .ok (.ok direction)) :
    b.directionTo a = .ok (.ok direction.opposite) :=
  directionTo_eq_ok_iff.mpr (step_opposite (directionTo_eq_ok_iff.mp h))

/-- The difference of two tiles is the error when no step leads from the first to the second. -/
theorem directionTo_eq_error_iff {error : StepError} :
    a.directionTo b = .ok (.error error) ↔ (∀ direction, a.step direction ≠ .ok b) ∧
      error.row.toInt = b.row.toInt - a.row.toInt ∧
      error.col.toInt = b.col.toInt - a.col.toInt := by
  constructor
  · intro h
    refine ⟨?_, ?_⟩
    · intro direction hstep
      rw [directionTo_eq_ok_iff.mpr hstep] at h
      cases h
    · obtain ⟨⟨row, col⟩, hoffset, herror⟩ := Checked.bind_eq_ok_iff.mp h
      obtain rfl := Direction.eq_of_ofOffset_eq_error (Except.ok.inj herror)
      exact offsetTo_eq_ok_iff.mp hoffset
  · rintro ⟨hstep, hoffset⟩
    have hdirection : a.directionTo b = .ok (Direction.ofOffset error.row error.col) :=
      Checked.bind_eq_ok_iff.mpr ⟨_, offsetTo_eq_ok_iff.mpr hoffset, rfl⟩
    cases hresult : Direction.ofOffset error.row error.col with
    | ok direction =>
        rw [hresult] at hdirection
        exact absurd (directionTo_eq_ok_iff.mp hdirection) (hstep direction)
    | error other =>
        rw [hdirection, hresult, Direction.eq_of_ofOffset_eq_error hresult]

/-- Tiles without a step between them are not adjacent, unless they are too far apart to tell. -/
theorem isAdjacent_eq_false_iff :
    a.isAdjacent b = .ok false ↔ (∀ direction, a.step direction ≠ .ok b) ∧
      (a.row.toInt - b.row.toInt).natAbs + (a.col.toInt - b.col.toInt).natAbs < UInt32.size := by
  rw [← not_exists, exists_step_iff, isAdjacent_eq_ite]
  split
  · next hlt => simp [hlt]
  · next hge => exact iff_of_false (by simp) (fun h => hge h.2)

end Tile

/-! ## Neighbours -/

namespace Snapshot

variable {board : Snapshot} {tile next : Tile} {ways : List (Direction × Tile)}

/-- The neighbours of a tile can be listed when all steps from it can be made. -/
theorem neighbors_succeeds_iff :
    (board.neighbors tile).Succeeds ↔ ∀ direction, (tile.step direction).Succeeds := by
  constructor
  · rintro ⟨ways, hways, -⟩ direction
    obtain ⟨found, hfound⟩ := Checked.exists_of_filterMapM hways direction.mem_all
    obtain ⟨next, hnext, -⟩ := Checked.bind_eq_ok_iff.mp hfound
    exact ⟨next, hnext, trivial⟩
  · intro h
    apply Checked.succeeds_filterMapM
    intro direction _
    exact (h direction).bind_ok

theorem mem_neighbors_iff {direction : Direction} (h : board.neighbors tile = .ok ways) :
    (direction, next) ∈ ways ↔
      board.isWalkable next = true ∧ tile.directionTo next = .ok (.ok direction) := by
  rw [Checked.mem_filterMapM_iff h, Tile.directionTo_eq_ok_iff]
  constructor
  · rintro ⟨other, -, hneighbor⟩
    obtain ⟨rfl, hstep, hwalkable⟩ := neighbor?_eq_some_iff.mp hneighbor
    exact ⟨hwalkable, hstep⟩
  · rintro ⟨hwalkable, hstep⟩
    exact ⟨direction, direction.mem_all, neighbor?_eq_some_iff.mpr ⟨rfl, hstep, hwalkable⟩⟩

/-- No two directions lead to the same neighbour. -/
theorem nodup_neighbors (h : board.neighbors tile = .ok ways) : (ways.map Prod.snd).Nodup := by
  have hall : Direction.all.Pairwise (· ≠ ·) := by decide
  refine List.pairwise_map.mpr (Checked.pairwise_filterMapM hall ?_ h)
  rintro direction other ⟨_, next⟩ ⟨_, next'⟩ hne hnext hother rfl
  obtain ⟨-, hstep, -⟩ := neighbor?_eq_some_iff.mp hnext
  obtain ⟨-, hstep', -⟩ := neighbor?_eq_some_iff.mp hother
  have hsame := (Tile.directionTo_eq_ok_iff.mpr hstep).symm.trans
    (Tile.directionTo_eq_ok_iff.mpr hstep')
  exact hne (Except.ok.inj (Except.ok.inj hsame))

end Snapshot

/-- For any two tiles: the direction from the first to the second is that of the step between them,
and in every other case the error is their difference. They are adjacent when there is a direction,
and then the opposite direction leads back. On every snapshot the second tile is among the
neighbours of the first, with its direction and once, when it can be entered. -/
theorem Tile.directionTo_agrees (a b : Tile) :
    (∀ direction, a.directionTo b = .ok (.ok direction) ↔ a.step direction = .ok b) ∧
    (∀ error, a.directionTo b = .ok (.error error) ↔ (∀ direction, a.step direction ≠ .ok b) ∧
      error.row.toInt = b.row.toInt - a.row.toInt ∧
      error.col.toInt = b.col.toInt - a.col.toInt) ∧
    (a.isAdjacent b = .ok true ↔ ∃ direction, a.directionTo b = .ok (.ok direction)) ∧
    (a.isAdjacent b = .ok false ↔ (∀ direction, a.directionTo b ≠ .ok (.ok direction)) ∧
      (a.row.toInt - b.row.toInt).natAbs + (a.col.toInt - b.col.toInt).natAbs < UInt32.size) ∧
    (∀ direction, a.directionTo b = .ok (.ok direction) →
      b.directionTo a = .ok (.ok direction.opposite)) ∧
    ∀ board : Snapshot,
      ((board.neighbors a).Succeeds ↔ ∀ direction, (a.step direction).Succeeds) ∧
      ∀ ways, board.neighbors a = .ok ways →
        (∀ direction, (direction, b) ∈ ways ↔
          board.isWalkable b = true ∧ a.directionTo b = .ok (.ok direction)) ∧
        (ways.map Prod.snd).Nodup := by
  refine ⟨fun _ => directionTo_eq_ok_iff, fun _ => directionTo_eq_error_iff, ?_, ?_,
    fun _ => directionTo_opposite, ?_⟩
  · simp only [directionTo_eq_ok_iff]
    exact isAdjacent_iff
  · simp only [ne_eq, directionTo_eq_ok_iff]
    exact isAdjacent_eq_false_iff
  · intro board
    exact ⟨Snapshot.neighbors_succeeds_iff, fun _ hways =>
      ⟨fun _ => Snapshot.mem_neighbors_iff hways, Snapshot.nodup_neighbors hways⟩⟩

/-- The last two rows of coordinates, where a step further down is out of range. -/
theorem Tile.directionTo_agrees_edge :
    (⟨2147483646, 5⟩ : Tile).directionTo ⟨2147483647, 5⟩ = .ok (.ok .down) ∧
      (⟨2147483647, 5⟩ : Tile).directionTo ⟨2147483646, 5⟩ = .ok (.ok .up) ∧
      (⟨2147483647, 5⟩ : Tile).directionTo ⟨0, 6⟩ = .ok (.error ⟨-2147483647, 1⟩) ∧
      ∀ board : Snapshot, ¬ (board.neighbors ⟨2147483647, 5⟩).Succeeds := by
  obtain ⟨hdown, -, -, -, hback, -⟩ := directionTo_agrees ⟨2147483646, 5⟩ ⟨2147483647, 5⟩
  obtain ⟨-, herror, -, -, -, hneighbors⟩ := directionTo_agrees ⟨2147483647, 5⟩ ⟨0, 6⟩
  have hstep : (⟨2147483646, 5⟩ : Tile).directionTo ⟨2147483647, 5⟩ = .ok (.ok .down) :=
    (hdown .down).mpr (by decide)
  refine ⟨hstep, hback .down hstep, (herror ⟨-2147483647, 1⟩).mpr ⟨?_, ?_⟩, ?_⟩
  · intro direction
    cases direction <;> decide
  · decide
  · intro board hsucceeds
    obtain ⟨next, hnext, -⟩ := (hneighbors board).1.mp hsucceeds .down
    cases hnext

end MazeAgent
