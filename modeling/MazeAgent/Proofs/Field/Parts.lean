import MazeAgent.Proofs.Planner.Fault

/-!
# The parts of a score

A score is made in three steps: what ghosts and rewards make of a tile, less the pull of super
pellets unless one lies on the tile, less a bonus on the tile ahead of the agent. A field that is
computed holds the score of every open cell, whatever the order in which the cells are scored.

**Results.**
* `FieldConfig.pull`, `FieldConfig.lurePull_tile`: the pull at a cell, which never faults.
* `FieldConfig.score_eq`: the three steps.
* `FieldConfig.exists_scores`, `FieldConfig.field_eq_ok`: the scores that a field holds, and the
  field that holds given scores.
-/

namespace MazeAgent
namespace FieldConfig

variable {config : FieldConfig} {board : Snapshot} {distances : Distances} {field : Field}

/-- What a tile is worth by itself: ghosts repel, pellets and fruit attract. -/
def base (config : FieldConfig) (board : Snapshot) (distances : Distances) (tile : Tile) :
    Checked Single := do
  let ghosts ← config.repulsion board distances tile
  let pellet ← config.pelletReward board tile
  let superPellet ← config.superPelletReward board distances tile
  let fruit ← config.fruitReward board distances tile
  return ghosts - pellet - superPellet - fruit

/-- A value less the bonus of the tile ahead of the agent. -/
def withMomentum (config : FieldConfig) (ahead : Option Tile) (tile : Tile) (value : Single) :
    Single :=
  if ahead = some tile then value - config.momentumBonus else value

/-- The pull of super pellets at a cell: each of them that is near, but not on the cell, adds the
lure divided by its distance. -/
def pull (config : FieldConfig) (distances : Distances) (lures : List Cell) (cell : Cell) :
    Single :=
  let near := lures.filter (fun lure =>
    0 < distances.ofCells cell lure ∧ distances.ofCells cell lure < config.superPelletLureRadius)
  Single.sum (near.map (fun lure => config.superPelletLure / distances.ofCells cell lure))

theorem lurePull_tile (lures : List Cell) (cell : Cell) :
    config.lurePull distances lures cell.tile = .ok (config.pull distances lures cell) := by
  have hall : lures.mapM (fun lure => distances.between cell.tile lure.tile) =
      (.ok (lures.map (distances.ofCells cell)) : Checked (List Single)) := by
    simp only [Distances.between_tile]
    exact List.mapM_pure
  unfold lurePull pull
  rw [hall, Checked.ok_bind, List.filter_map]
  dsimp only
  rw [List.map_map]
  simp only [Function.comp_def, Bool.decide_and]
  rfl

theorem score_eq (lures : List Cell) (ahead : Option Tile) (cell : Cell) :
    config.score board distances lures ahead cell = (do
      let base ← config.base board distances cell.tile
      return config.withMomentum ahead cell.tile
        (if board.superPellets.get cell then
          base
        else
          base - config.pull distances lures cell)) := by
  unfold score base withMomentum
  simp only [bind_assoc, pure_bind, Snapshot.hasSuperPellet_tile, lurePull_tile, Checked.ok_bind]
  cases board.superPellets.get cell <;> rfl

/-- A field that is computed has the walls of the snapshot and holds the score of every open
cell. -/
theorem exists_scores (h : config.field board distances = .ok field) :
    field.walls = board.walls ∧ ∃ lures ahead, config.lures board distances = .ok lures ∧
      board.tileAhead = .ok ahead ∧ ∀ cell, board.walls.isOpen cell = true →
        config.score board distances lures ahead cell = .ok (field.scores.get cell) := by
  obtain ⟨lures, hlures, h⟩ := Checked.bind_eq_ok_iff.mp h
  obtain ⟨ahead, hahead, h⟩ := Checked.bind_eq_ok_iff.mp h
  obtain ⟨scores, hscores, h⟩ := Checked.bind_eq_ok_iff.mp h
  cases h
  refine ⟨rfl, lures, ahead, hlures, hahead, ?_⟩
  intro cell hopen
  -- From the step that scores the cell on, its score stays, since any later score of it is equal.
  obtain ⟨before, after, hcells⟩ := List.append_of_mem (Maze.mem_openCells_iff.mpr hopen)
  rw [hcells, List.foldlM_append, Checked.bind_eq_ok_iff] at hscores
  obtain ⟨earlier, -, hscores⟩ := hscores
  rw [List.foldlM_cons, Checked.bind_eq_ok_iff] at hscores
  obtain ⟨middle, hmiddle, hscores⟩ := hscores
  obtain ⟨score, hscore, hmiddle⟩ := Checked.bind_eq_ok_iff.mp hmiddle
  cases hmiddle
  refine @Checked.keeps_foldlM _ _ _ (fun scores =>
    config.score board distances lures ahead cell = .ok (scores.get cell)) _ _ _ ?_ hscores ?_
  · intro grid other later hkept hstep
    obtain ⟨value, hvalue, hlater⟩ := Checked.bind_eq_ok_iff.mp hstep
    cases hlater
    rw [Grid.get_set]
    split
    · next heq => rw [← heq, hvalue]
    · exact hkept
  · rw [hscore, Grid.get_set_self]

/-- The scores of the open cells make up the field. -/
theorem field_eq_ok {lures : List Cell} {ahead : Option Tile} {scores : List (Cell × Single)}
    (hlures : config.lures board distances = .ok lures) (hahead : board.tileAhead = .ok ahead)
    (hcells : board.walls.openCells = scores.map Prod.fst)
    (hscores : ∀ entry ∈ scores,
      config.score board distances lures ahead entry.1 = .ok entry.2) :
    config.field board distances = .ok ⟨board.walls,
      scores.foldl (fun grid entry => grid.set entry.1 entry.2) (Grid.filled 0)⟩ := by
  have hfold : ∀ grid : Grid Single, (scores.map Prod.fst).foldlM
      (fun (grid : Grid Single) cell => do
        return grid.set cell (← config.score board distances lures ahead cell)) grid =
      (.ok (scores.foldl (fun grid entry => grid.set entry.1 entry.2) grid) : Checked _) := by
    clear hcells
    induction scores with
    | nil => exact fun _ => rfl
    | cons entry rest ih =>
        intro grid
        obtain ⟨hentry, hrest⟩ := List.forall_mem_cons.mp hscores
        rw [List.map_cons, List.foldlM_cons, hentry]
        exact ih hrest (grid.set entry.1 entry.2)
  unfold field
  rw [hlures, hahead, hcells, Checked.ok_bind, Checked.ok_bind, hfold]
  rfl

theorem score?_tile (hwalls : field.walls = board.walls) {cell : Cell}
    (hopen : board.walls.isOpen cell = true) :
    field.score? cell.tile = some (field.scores.get cell) := by
  unfold Field.score? Field.isOpen
  rw [Tile.cell?_tile, hwalls]
  exact if_pos hopen

end FieldConfig
end MazeAgent
