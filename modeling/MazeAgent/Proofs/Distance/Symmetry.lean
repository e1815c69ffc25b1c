import MazeAgent.Proofs.Distance.Estimate
import MazeAgent.Proofs.Planner.Fault

/-!
# Symmetry of distances

The two ways around between two cells have the same distance. A metric squares the offsets or
drops their signs. A table holds the length of a shortest walk, and a shortest walk between open
cells can be walked back. It has no length for a pair with a wall, or in two separate parts of the
maze, in either order: then the metric tells the distance both ways.

**Results.**
* `Metric.ofCells_comm`, `Metric.ofCells_eq_zero_iff`, `Metric.ofCells_step`: the metrics.
* `Maze.walkLength_comm`, `Maze.walkLength_eq_zero_iff`, `Maze.walkLength_exit`: the lengths of
  shortest walks.
* `Distances.Faithful.between_symmetric`: the distance of two tiles on the board, in either order.
-/

namespace MazeAgent

/-! ## Metrics -/

namespace Metric

variable {a b : Cell}

theorem whole_eq_zero_iff (metric : Metric) {rows cols : Nat} :
    metric.whole rows cols = 0 ↔ rows = 0 ∧ cols = 0 := by
  cases metric with
  | euclidean =>
      rw [whole, Nat.sqrt_eq_zero, Nat.add_eq_zero_iff, mul_self_eq_zero, mul_self_eq_zero]
  | manhattan => exact Nat.add_eq_zero_iff

theorem stepsLeft_eq_zero_iff (metric : Metric) : metric.stepsLeft a b = 0 ↔ a = b := by
  rw [stepsLeft, whole_eq_zero_iff]
  constructor
  · rintro ⟨hrow, hcol⟩
    exact Cell.ext_row_col (by omega) (by omega)
  · rintro rfl
    omega

theorem ofCells_eq_zero_iff (metric : Metric) : metric.ofCells a b = 0 ↔ a = b :=
  (metric.ofCells_isWithin a b).eq_zero_iff.trans metric.stepsLeft_eq_zero_iff

/-- The signs of the offsets make no difference. -/
theorem span_neg (metric : Metric) {rows cols : Int} (hrows : rows.natAbs ≤ 30)
    (hcols : cols.natAbs ≤ 27) : metric.span (-rows) (-cols) = metric.span rows cols := by
  cases metric with
  | euclidean =>
      have hcols' : cols.natAbs ≤ 30 := hcols.trans (by norm_num)
      simp only [span, straight]
      rw [mul_self_ofInt hrows, mul_self_ofInt hcols', mul_self_ofInt (by rwa [Int.natAbs_neg]),
        mul_self_ofInt (by rwa [Int.natAbs_neg]), Int.natAbs_neg, Int.natAbs_neg]
  | manhattan => simp only [span, Int.natAbs_neg]

theorem ofCells_comm (metric : Metric) (a b : Cell) : metric.ofCells a b = metric.ofCells b a := by
  obtain ⟨hrow, hcol⟩ := natAbs_offset_le b a
  rw [ofCells, ← Int.neg_sub, ← Int.neg_sub (b.col : Int)]
  exact metric.span_neg hrow hcol

theorem span_offset (metric : Metric) (direction : Direction) :
    metric.span direction.rowOffset.toInt direction.colOffset.toInt = 1 := by
  cases metric <;> cases direction <;> decide +kernel

theorem ofCells_step (metric : Metric) {direction : Direction}
    (h : a.step? direction = some b) : metric.ofCells a b = 1 := by
  obtain ⟨hrow, hcol⟩ := Cell.step?_eq_some_iff.mp h
  rw [ofCells_comm, ofCells, hrow, hcol, add_sub_cancel_left, add_sub_cancel_left]
  exact metric.span_offset direction

end Metric

/-! ## Lengths of walks -/

namespace Maze

variable {maze : Maze} {a b : Cell}

theorem walkLength_comm (h : maze.Joined a b) : maze.walkLength a b = maze.walkLength b a :=
  ((walkLength_isDistance h.2).symm h.1).unique (walkLength_isDistance h.symm.2)

theorem walkLength_eq_zero_iff (h : maze.Connected a b) : maze.walkLength a b = 0 ↔ a = b := by
  have hdistance := walkLength_isDistance h
  constructor
  · intro hzero
    rw [hzero] at hdistance
    exact isDistance_zero_iff.mp hdistance
  · intro heq
    exact hdistance.unique (isDistance_zero_iff.mpr heq)

/-- No step ends where it starts. -/
theorem ne_of_mem_exits (h : b ∈ maze.exits a) : a ≠ b := by
  rintro rfl
  obtain ⟨⟨direction, hstep⟩, -⟩ := mem_exits_iff.mp h
  obtain ⟨hrow, hcol⟩ := Cell.step?_eq_some_iff.mp hstep
  have hoffset := direction.offset_natAbs
  omega

theorem walkLength_exit (h : b ∈ maze.exits a) : maze.walkLength a b = 1 := by
  have hwalk : maze.Walk 1 a b := (Walk.stay a).step h
  have hconnected : maze.Connected a b := ⟨1, hwalk⟩
  have hle := (walkLength_isDistance hconnected).2 1 hwalk
  have hpos : maze.walkLength a b ≠ 0 :=
    fun hzero => ne_of_mem_exits h ((walkLength_eq_zero_iff hconnected).mp hzero)
  omega

end Maze

/-! ## Distances of a maze -/

namespace Distances

variable {distances : Distances} {maze : Maze} {a b : Cell}

/-- The table holds both directions of a pair or neither. -/
theorem Faithful.ofCells_comm (h : distances.Faithful maze) (a b : Cell) :
    distances.ofCells a b = distances.ofCells b a := by
  cases h with
  | ofMetric metric => exact metric.ofCells_comm a b
  | ofTable metric =>
      by_cases hjoined : maze.Joined a b
      · rw [ofCells_of_joined metric hjoined, ofCells_of_joined metric hjoined.symm,
          Maze.walkLength_comm hjoined]
      · -- A wall at either end or a gap between them leaves both orders to the metric.
        rw [ofCells_of_not_joined metric hjoined,
          ofCells_of_not_joined metric (fun hback => hjoined hback.symm), metric.ofCells_comm]

theorem Faithful.ofCells_eq_zero_iff (h : distances.Faithful maze) :
    distances.ofCells a b = 0 ↔ a = b := by
  cases h with
  | ofMetric metric => exact metric.ofCells_eq_zero_iff
  | ofTable metric =>
      by_cases hjoined : maze.Joined a b
      · have hlt := (Maze.walkLength_isDistance hjoined.2).lt
        rw [ofCells_of_joined metric hjoined, (Single.isWithin_ofNat (by omega)).eq_zero_iff,
          Maze.walkLength_eq_zero_iff hjoined.2]
      · rw [ofCells_of_not_joined metric hjoined, metric.ofCells_eq_zero_iff]

/-- A step between open cells is one long. -/
theorem Faithful.ofCells_exit (h : distances.Faithful maze) (hopen : maze.isOpen a = true)
    (hexit : b ∈ maze.exits a) : distances.ofCells a b = 1 := by
  cases h with
  | ofMetric metric =>
      obtain ⟨⟨direction, hstep⟩, -⟩ := Maze.mem_exits_iff.mp hexit
      exact metric.ofCells_step hstep
  | ofTable metric =>
      have hjoined : maze.Joined a b := ⟨hopen, 1, (Maze.Walk.stay a).step hexit⟩
      rw [ofCells_of_joined metric hjoined, Maze.walkLength_exit hexit]
      rfl

variable {board : Snapshot} {first last : Tile}

/-- Two tiles on the board have a distance, which is the same in both directions. It is a number,
it is zero for a tile and itself only, and one for a step between tiles that can be entered. -/
theorem Faithful.between_symmetric (h : distances.Faithful board.walls)
    (hfirst : first.onBoard = true) (hlast : last.onBoard = true) :
    ∃ distance, distances.between first last = .ok distance ∧
      distances.between last first = .ok distance ∧
      distance.IsProper ∧
      (distance = 0 ↔ first = last) ∧
      (board.isWalkable first = true → board.isWalkable last = true →
        first.isAdjacent last = .ok true → distance = 1) := by
  obtain ⟨a, rfl⟩ := Tile.onBoard_iff.mp hfirst
  obtain ⟨b, rfl⟩ := Tile.onBoard_iff.mp hlast
  refine ⟨distances.ofCells a b, distances.between_tile a b, ?_, h.isProper_ofCells a b, ?_, ?_⟩
  · rw [h.ofCells_comm a b]
    exact distances.between_tile b a
  · rw [h.ofCells_eq_zero_iff, Tile.tile_injective.eq_iff]
  · intro hwalkable hopen hadjacent
    rw [Snapshot.isWalkable_tile] at hwalkable hopen
    exact h.ofCells_exit hwalkable
      (Maze.mem_exits_iff.mpr ⟨Cell.isAdjacent_tile_iff.mp hadjacent, hopen⟩)

/-- Next to the start of the detour. -/
theorem between_symmetric_detour :
    ∃ distance, (ofTable .euclidean (.ofMaze Snapshot.detour.walls)).between ⟨1, 1⟩ ⟨1, 2⟩ =
        .ok distance ∧
      (ofTable .euclidean (.ofMaze Snapshot.detour.walls)).between ⟨1, 2⟩ ⟨1, 1⟩ =
        .ok distance ∧ distance = 1 := by
  have hfaithful : (ofTable .euclidean (.ofMaze Snapshot.detour.walls)).Faithful
      Snapshot.detour.walls := .ofTable .euclidean
  obtain ⟨distance, hbetween, hback, -, -, hadjacent⟩ :=
    hfaithful.between_symmetric (by decide : (⟨1, 1⟩ : Tile).onBoard = true)
      (by decide : (⟨1, 2⟩ : Tile).onBoard = true)
  exact ⟨distance, hbetween, hback,
    hadjacent (by decide +kernel) (by decide +kernel) (by decide +kernel)⟩

end Distances
end MazeAgent
