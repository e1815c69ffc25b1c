import MazeAgent.Board.Snapshot
import MazeAgent.Proofs.Checked
import Mathlib.Data.Set.Card
import Mathlib.Tactic

/-!
# Adjacent tiles

Cells step within the board and tiles step within the coordinates. On the board the two agree:
no step from a cell faults, and a step of the tile ends where the step of the cell ends, or off
the board.

**Results.**
* `Cell.step?_eq_some_iff`: the offsets of the neighbour of a cell.
* `Tile.step_tile`: the step of a tile that lies on the board.
* `Tile.exists_step_iff`, `Tile.isAdjacent_iff`, `Tile.directionTo_eq_ok_iff`: what a step,
  adjacency and a direction say about two tiles.
* `Cell.isAdjacent_tile_iff`: two cells are adjacent when a step leads from one to the other.
* `Snapshot.isNeighbor_tile_iff`: entering a tile in one step.
* `Snapshot.isNeighbor_iff_of_neighbors`: the neighbours of a tile are what can be entered from it.
* `Snapshot.neighbors_tile`: the neighbours of a cell are its exits.
-/

namespace MazeAgent

/-! ## Offsets -/

namespace Direction

theorem mem_all (direction : Direction) : direction ∈ all := by
  cases direction <;> simp [all]

/-- A step changes one coordinate by one. -/
theorem offset_natAbs (direction : Direction) :
    direction.rowOffset.toInt.natAbs + direction.colOffset.toInt.natAbs = 1 := by
  cases direction <;> decide

/-- A change of one coordinate by one is a step. -/
theorem exists_offset (row col : Int) (h : row.natAbs + col.natAbs = 1) :
    ∃ direction : Direction,
      direction.rowOffset.toInt = row ∧ direction.colOffset.toInt = col := by
  have hcases : (row = -1 ∧ col = 0) ∨ (row = 1 ∧ col = 0) ∨
      (row = 0 ∧ col = -1) ∨ (row = 0 ∧ col = 1) := by omega
  rcases hcases with ⟨rfl, rfl⟩ | ⟨rfl, rfl⟩ | ⟨rfl, rfl⟩ | ⟨rfl, rfl⟩
  · exact ⟨.up, by decide⟩
  · exact ⟨.down, by decide⟩
  · exact ⟨.left, by decide⟩
  · exact ⟨.right, by decide⟩

/-- The offset of a direction tells the direction. -/
theorem ofOffset_offset (direction : Direction) :
    ofOffset direction.rowOffset direction.colOffset = .ok direction := by
  cases direction <;> decide

theorem offset_of_ofOffset {row col : Int32} {direction : Direction}
    (h : ofOffset row col = .ok direction) :
    row = direction.rowOffset ∧ col = direction.colOffset := by
  unfold ofOffset at h
  split at h
  · next hoffset =>
    cases h
    exact hoffset
  · split at h
    · next hoffset =>
      cases h
      exact hoffset
    · split at h
      · next hoffset =>
        cases h
        exact hoffset
      · split at h
        · next hoffset =>
          cases h
          exact hoffset
        · cases h

end Direction

namespace Coordinate

/-- A number between the bounds of a coordinate is held exactly. -/
theorem ofInt_of_mem (fault : Fault) {n : Int} (hlow : -2147483648 ≤ n) (hhigh : n < 2147483648) :
    ofInt fault n = .ok (Int32.ofInt n) ∧ (Int32.ofInt n).toInt = n := by
  constructor
  · unfold ofInt
    rw [if_pos]
    rw [Int32.toInt_minValue, Int32.toInt_maxValue]
    omega
  · exact Int32.toInt_ofInt_of_le (by omega) (by omega)

theorem ofInt_returns (fault : Fault) {n : Int} (hlow : -2147483648 ≤ n)
    (hhigh : n < 2147483648) : (ofInt fault n).Returns (fun value => value.toInt = n) := by
  obtain ⟨hok, hvalue⟩ := ofInt_of_mem fault hlow hhigh
  exact ⟨_, hok, hvalue⟩

theorem toInt_of_ofInt {fault : Fault} {n : Int} {value : Int32} (h : ofInt fault n = .ok value) :
    value.toInt = n := by
  unfold ofInt at h
  split at h
  · next hrange =>
    rw [Int32.toInt_minValue, Int32.toInt_maxValue] at hrange
    cases h
    exact Int32.toInt_ofInt_of_le (by omega) (by omega)
  · cases h

/-- A number is a coordinate when some coordinate has its value. -/
theorem ofInt_eq_ok_iff {fault : Fault} {n : Int} {value : Int32} :
    ofInt fault n = .ok value ↔ value.toInt = n := by
  constructor
  · exact toInt_of_ofInt
  · rintro rfl
    obtain ⟨hok, hvalue⟩ := ofInt_of_mem fault value.le_toInt value.toInt_lt
    rw [hok, Int32.toInt_inj.mp hvalue]

theorem ofInt_of_not_mem (fault : Fault) {n : Int} (h : n < -2147483648 ∨ 2147483648 ≤ n) :
    ofInt fault n = .error fault := by
  unfold ofInt
  rw [if_neg]
  rw [Int32.toInt_minValue, Int32.toInt_maxValue]
  omega

end Coordinate

/-! ## Steps of cells -/

namespace Cell

/-- The neighbour of a cell, by its coordinates. -/
theorem step?_eq_some_iff {cell next : Cell} {direction : Direction} :
    cell.step? direction = some next ↔
      (next.row : Int) = cell.row + direction.rowOffset.toInt ∧
      (next.col : Int) = cell.col + direction.colOffset.toInt := by
  obtain ⟨i⟩ := cell
  obtain ⟨j⟩ := next
  have hi := i.isLt
  have hj := j.isLt
  have hup : (-1 : Int32).toInt = -1 := by decide
  have hstay : (0 : Int32).toInt = 0 := by decide
  have hdown : (1 : Int32).toInt = 1 := by decide
  cases direction with
  | up =>
      simp only [step?, row, col, Direction.rowOffset, Direction.colOffset, hup, hstay]
      split <;> simp [Fin.ext_iff] <;> omega
  | down =>
      simp only [step?, row, col, Direction.rowOffset, Direction.colOffset, hdown, hstay]
      split <;> simp [Fin.ext_iff] <;> omega
  | left =>
      simp only [step?, row, col, Direction.rowOffset, Direction.colOffset, hup, hstay]
      split <;> simp [Fin.ext_iff] <;> omega
  | right =>
      simp only [step?, row, col, Direction.rowOffset, Direction.colOffset, hdown, hstay]
      split <;> simp [Fin.ext_iff] <;> omega

theorem step?_injective {cell next : Cell} {direction other : Direction}
    (h : cell.step? direction = some next) (hother : cell.step? other = some next) :
    direction = other := by
  obtain ⟨hrow, hcol⟩ := step?_eq_some_iff.mp h
  obtain ⟨hrow', hcol'⟩ := step?_eq_some_iff.mp hother
  have hrows : direction.rowOffset = other.rowOffset := Int32.toInt_inj.mp (by omega)
  have hcols : direction.colOffset = other.colOffset := Int32.toInt_inj.mp (by omega)
  have hoffset := direction.ofOffset_offset
  rw [hrows, hcols, other.ofOffset_offset] at hoffset
  cases hoffset
  rfl

end Cell

/-! ## Steps of tiles -/

namespace Tile

theorem ext_toInt {a b : Tile} (hrow : a.row.toInt = b.row.toInt)
    (hcol : a.col.toInt = b.col.toInt) : a = b := by
  cases a
  cases b
  congr 1
  · exact Int32.toInt_inj.mp hrow
  · exact Int32.toInt_inj.mp hcol

/-- A cell at the coordinates of a tile is the cell of the tile. -/
theorem eq_tile_iff {tile : Tile} {cell : Cell} :
    tile = cell.tile ↔ tile.row.toInt = cell.row ∧ tile.col.toInt = cell.col := by
  constructor
  · rintro rfl
    exact ⟨cell.row_tile, cell.col_tile⟩
  · rintro ⟨hrow, hcol⟩
    exact ext_toInt (by rw [hrow, cell.row_tile]) (by rw [hcol, cell.col_tile])

/-- The coordinates of a tile on the board are small. -/
theorem bounds {tile : Tile} (h : tile.onBoard = true) :
    0 ≤ tile.row.toInt ∧ tile.row.toInt < 31 ∧ 0 ≤ tile.col.toInt ∧ tile.col.toInt < 28 := by
  obtain ⟨cell, rfl⟩ := onBoard_iff.mp h
  have hrow := cell.row_lt
  have hcol := cell.col_lt
  rw [cell.row_tile, cell.col_tile]
  omega

theorem tile_injective : Function.Injective Cell.tile := by
  intro a b h
  have hcell := congrArg Tile.cell? h
  rw [cell?_tile, cell?_tile] at hcell
  exact Option.some.inj hcell

/-- The number of tiles of a kind, by a list of them. -/
theorem ncard_eq_length {kind : Tile → Prop} {tiles : List Tile} (hnodup : tiles.Nodup)
    (hmem : ∀ tile, tile ∈ tiles ↔ kind tile) : {tile | kind tile}.ncard = tiles.length := by
  have hset : {tile | kind tile} = (tiles.toFinset : Set Tile) := by
    ext tile
    rw [List.coe_toFinset]
    exact (hmem tile).symm
  rw [hset, Set.ncard_coe_finset, List.toFinset_card_of_nodup hnodup]

/-- A step adds the offset of its direction. -/
theorem step_eq_ok_iff {tile next : Tile} {direction : Direction} :
    tile.step direction = .ok next ↔
      next.row.toInt = tile.row.toInt + direction.rowOffset.toInt ∧
      next.col.toInt = tile.col.toInt + direction.colOffset.toInt := by
  simp only [step, Checked.bind_eq_ok_iff, Coordinate.add, Coordinate.ofInt_eq_ok_iff]
  constructor
  · rintro ⟨row, hrow, col, hcol, hnext⟩
    cases hnext
    exact ⟨hrow, hcol⟩
  · rintro ⟨hrow, hcol⟩
    exact ⟨next.row, hrow, next.col, hcol, rfl⟩

/-- The offset between two tiles is the difference of their coordinates. -/
theorem offsetTo_eq_ok_iff {a b : Tile} {row col : Int32} :
    a.offsetTo b = .ok (row, col) ↔
      row.toInt = b.row.toInt - a.row.toInt ∧ col.toInt = b.col.toInt - a.col.toInt := by
  simp only [offsetTo, Checked.bind_eq_ok_iff, Coordinate.sub, Coordinate.ofInt_eq_ok_iff]
  constructor
  · rintro ⟨row, hrow, col, hcol, hpair⟩
    cases hpair
    exact ⟨hrow, hcol⟩
  · rintro ⟨hrow, hcol⟩
    exact ⟨row, hrow, col, hcol, rfl⟩

/-- A step from a cell does not fault, and ends on the board where the cell has a neighbour. -/
theorem step_tile (cell : Cell) (direction : Direction) :
    ∃ next, cell.tile.step direction = .ok next ∧ next.cell? = cell.step? direction := by
  have hrow := cell.row_lt
  have hcol := cell.col_lt
  have hoffset := direction.offset_natAbs
  obtain ⟨-, hvalueRow⟩ := Coordinate.ofInt_of_mem .additionOverflow
    (n := cell.row + direction.rowOffset.toInt) (by omega) (by omega)
  obtain ⟨-, hvalueCol⟩ := Coordinate.ofInt_of_mem .additionOverflow
    (n := cell.col + direction.colOffset.toInt) (by omega) (by omega)
  refine ⟨⟨Int32.ofInt (cell.row + direction.rowOffset.toInt),
    Int32.ofInt (cell.col + direction.colOffset.toInt)⟩, ?_, ?_⟩
  · rw [step_eq_ok_iff, cell.row_tile, cell.col_tile]
    exact ⟨hvalueRow, hvalueCol⟩
  · apply Option.ext
    intro next
    rw [cell?_eq_some, eq_tile_iff, Cell.step?_eq_some_iff]
    constructor
    · rintro ⟨hnextRow, hnextCol⟩
      exact ⟨by rw [← hnextRow, hvalueRow], by rw [← hnextCol, hvalueCol]⟩
    · rintro ⟨hnextRow, hnextCol⟩
      exact ⟨by rw [hnextRow, hvalueRow], by rw [hnextCol, hvalueCol]⟩

theorem step_tile_eq_ok_iff {cell next : Cell} {direction : Direction} :
    cell.tile.step direction = .ok next.tile ↔ cell.step? direction = some next := by
  rw [step_eq_ok_iff, Cell.step?_eq_some_iff, cell.row_tile, cell.col_tile, next.row_tile,
    next.col_tile]

/-- A step leads to a tile when the coordinates differ by one in all. -/
theorem exists_step_iff {a b : Tile} :
    (∃ direction, a.step direction = .ok b) ↔
      (a.row.toInt - b.row.toInt).natAbs + (a.col.toInt - b.col.toInt).natAbs = 1 := by
  constructor
  · rintro ⟨direction, h⟩
    obtain ⟨hrow, hcol⟩ := step_eq_ok_iff.mp h
    have hoffset := direction.offset_natAbs
    omega
  · intro h
    obtain ⟨direction, hrow, hcol⟩ :=
      Direction.exists_offset (b.row.toInt - a.row.toInt) (b.col.toInt - a.col.toInt) (by omega)
    exact ⟨direction, step_eq_ok_iff.mpr ⟨by omega, by omega⟩⟩

theorem isAdjacent_eq_ite (a b : Tile) :
    a.isAdjacent b =
      if (a.row.toInt - b.row.toInt).natAbs + (a.col.toInt - b.col.toInt).natAbs < UInt32.size then
        .ok (decide ((a.row.toInt - b.row.toInt).natAbs + (a.col.toInt - b.col.toInt).natAbs = 1))
      else
        .error .additionOverflow := by
  unfold isAdjacent manhattan
  dsimp only
  split
  · next hlt =>
    have hone : (1 : UInt32).toNat = 1 := rfl
    rw [Checked.ok_bind]
    refine congrArg Except.ok (Bool.eq_iff_iff.mpr ?_)
    rw [beq_iff_eq, ← UInt32.toNat_inj, decide_eq_true_eq, hone]
    exact (UInt32.toNat_ofNat_of_lt' hlt).congr_left
  · rfl

/-- Two tiles are adjacent when a step leads from the first to the second. -/
theorem isAdjacent_iff {a b : Tile} :
    a.isAdjacent b = .ok true ↔ ∃ direction, a.step direction = .ok b := by
  have hsize : UInt32.size = 4294967296 := rfl
  rw [exists_step_iff, isAdjacent_eq_ite]
  split
  · simp
  · next hge => exact iff_of_false (by simp) (by omega)

/-- The direction from one tile to another is the direction of the step between them. -/
theorem directionTo_eq_ok_iff {a b : Tile} {direction : Direction} :
    a.directionTo b = .ok (.ok direction) ↔ a.step direction = .ok b := by
  rw [directionTo, Checked.bind_eq_ok_iff, step_eq_ok_iff]
  constructor
  · rintro ⟨⟨row, col⟩, hoffset, hdirection⟩
    obtain ⟨hrow, hcol⟩ := offsetTo_eq_ok_iff.mp hoffset
    obtain ⟨rfl, rfl⟩ := Direction.offset_of_ofOffset (Except.ok.inj hdirection)
    omega
  · rintro ⟨hrow, hcol⟩
    refine ⟨(direction.rowOffset, direction.colOffset), ?_, ?_⟩
    · exact offsetTo_eq_ok_iff.mpr ⟨by omega, by omega⟩
    · exact congrArg Except.ok direction.ofOffset_offset

end Tile

theorem Cell.isAdjacent_tile_iff {a b : Cell} :
    a.tile.isAdjacent b.tile = .ok true ↔ ∃ direction, a.step? direction = some b := by
  simp only [Tile.isAdjacent_iff, Tile.step_tile_eq_ok_iff]

/-! ## Exits of mazes -/

namespace Maze

theorem exit?_eq_some_iff {maze : Maze} {cell next : Cell} {direction : Direction} :
    maze.exit? cell direction = some next ↔
      cell.step? direction = some next ∧ maze.isOpen next = true := by
  unfold exit?
  cases cell.step? direction with
  | none => simp
  | some other =>
      dsimp only
      split
      · next hopen =>
        constructor
        · intro h
          cases h
          exact ⟨rfl, hopen⟩
        · exact fun h => h.1
      · next hwall =>
        constructor
        · intro h
          cases h
        · rintro ⟨h, hopen⟩
          cases h
          exact absurd hopen hwall

/-- The exits of a cell are the open cells one step away. -/
theorem mem_exits_iff {maze : Maze} {cell next : Cell} :
    next ∈ maze.exits cell ↔
      (∃ direction, cell.step? direction = some next) ∧ maze.isOpen next = true := by
  unfold exits
  rw [List.mem_filterMap]
  constructor
  · rintro ⟨direction, -, h⟩
    obtain ⟨hstep, hopen⟩ := exit?_eq_some_iff.mp h
    exact ⟨⟨direction, hstep⟩, hopen⟩
  · rintro ⟨⟨direction, hstep⟩, hopen⟩
    exact ⟨direction, direction.mem_all, exit?_eq_some_iff.mpr ⟨hstep, hopen⟩⟩

/-- No two directions lead to the same exit. -/
theorem nodup_exits (maze : Maze) (cell : Cell) : (maze.exits cell).Nodup := by
  refine List.Nodup.filterMap ?_ (by decide : Direction.all.Nodup)
  intro direction other next hnext hother
  obtain ⟨hstep, -⟩ := exit?_eq_some_iff.mp hnext
  obtain ⟨hother, -⟩ := exit?_eq_some_iff.mp hother
  exact Cell.step?_injective hstep hother

theorem isOpen_of_mem_exits {maze : Maze} {cell next : Cell} (h : next ∈ maze.exits cell) :
    maze.isOpen next = true :=
  (mem_exits_iff.mp h).2

/-- An exit is adjacent to its cell. -/
theorem isAdjacent_of_mem_exits {maze : Maze} {cell next : Cell} (h : next ∈ maze.exits cell) :
    cell.tile.isAdjacent next.tile = .ok true :=
  Cell.isAdjacent_tile_iff.mpr (mem_exits_iff.mp h).1

/-- Cells are connected when a chain of exits leads from one to the other. -/
theorem connected_iff {maze : Maze} {a b : Cell} :
    maze.Connected a b ↔
      Relation.ReflTransGen (fun cell next => next ∈ maze.exits cell) a b := by
  constructor
  · rintro ⟨length, hwalk⟩
    induction hwalk with
    | stay cell => exact .refl
    | step _ hexit ih => exact ih.tail hexit
  · intro h
    induction h with
    | refl => exact ⟨0, .stay a⟩
    | tail _ hexit ih =>
        obtain ⟨length, hwalk⟩ := ih
        exact ⟨length + 1, hwalk.step hexit⟩

theorem mem_openCells_iff {maze : Maze} {cell : Cell} :
    cell ∈ maze.openCells ↔ maze.isOpen cell = true := by
  unfold openCells
  rw [List.mem_filter]
  exact ⟨fun h => h.2, fun h => ⟨cell.mem_all, h⟩⟩

end Maze

theorem Grid.readOr_tile {α : Type} (grid : Grid α) (cell : Cell) (other : α) :
    grid.readOr cell.tile other = grid.get cell := by
  rw [readOr, read?, Tile.cell?_tile, Option.map_some, Option.getD_some]

/-! ## Neighbours in snapshots -/

namespace Snapshot

variable {board : Snapshot}

/-- One tile can be entered from another in one step. -/
def IsNeighbor (board : Snapshot) (tile next : Tile) : Prop :=
  board.isWalkable next = true ∧ ∃ direction, tile.step direction = .ok next

/-- A tile can be entered when it is the tile of an open cell. -/
theorem isWalkable_iff {tile : Tile} :
    board.isWalkable tile = true ↔ ∃ cell, tile = cell.tile ∧ board.walls.isOpen cell = true := by
  unfold isWalkable isWall Maze.isOpen
  rw [Bool.and_eq_true, Tile.onBoard_iff]
  constructor
  · rintro ⟨⟨cell, rfl⟩, hopen⟩
    rw [Grid.readOr_tile] at hopen
    exact ⟨cell, rfl, hopen⟩
  · rintro ⟨cell, rfl, hopen⟩
    rw [Grid.readOr_tile]
    exact ⟨⟨cell, rfl⟩, hopen⟩

theorem isWalkable_congr {a b : Snapshot} (h : a.walls = b.walls) (tile : Tile) :
    a.isWalkable tile = b.isWalkable tile := by
  unfold isWalkable isWall
  rw [h]

@[simp] theorem isWalkable_tile (cell : Cell) :
    board.isWalkable cell.tile = board.walls.isOpen cell := by
  rw [Bool.eq_iff_iff, isWalkable_iff]
  constructor
  · rintro ⟨other, htile, hopen⟩
    rw [Tile.tile_injective htile]
    exact hopen
  · exact fun hopen => ⟨cell, rfl, hopen⟩

theorem isNeighbor_tile_iff {cell : Cell} {next : Tile} :
    board.IsNeighbor cell.tile next ↔ ∃ exit ∈ board.walls.exits cell, next = exit.tile := by
  constructor
  · rintro ⟨hwalkable, direction, hstep⟩
    obtain ⟨exit, rfl, hopen⟩ := isWalkable_iff.mp hwalkable
    exact ⟨exit, Maze.mem_exits_iff.mpr
      ⟨⟨direction, Tile.step_tile_eq_ok_iff.mp hstep⟩, hopen⟩, rfl⟩
  · rintro ⟨exit, hexit, rfl⟩
    obtain ⟨⟨direction, hstep⟩, hopen⟩ := Maze.mem_exits_iff.mp hexit
    exact ⟨by rw [isWalkable_tile, hopen], direction, Tile.step_tile_eq_ok_iff.mpr hstep⟩

/-- Some sequence of steps over tiles that can be entered leads from the first tile to the
second. -/
def Connected (board : Snapshot) : Tile → Tile → Prop :=
  Relation.ReflTransGen board.IsNeighbor

theorem connected_tile_iff {a b : Cell} :
    board.Connected a.tile b.tile ↔ board.walls.Connected a b := by
  rw [Maze.connected_iff]
  constructor
  · intro h
    have hcell : ∀ tile, board.Connected a.tile tile → ∃ cell, tile = cell.tile ∧
        Relation.ReflTransGen (fun cell next => next ∈ board.walls.exits cell) a cell := by
      intro tile htile
      induction htile with
      | refl => exact ⟨a, rfl, .refl⟩
      | tail _ hstep ih =>
          obtain ⟨cell, rfl, hcell⟩ := ih
          obtain ⟨exit, hexit, rfl⟩ := isNeighbor_tile_iff.mp hstep
          exact ⟨exit, rfl, hcell.tail hexit⟩
    obtain ⟨cell, htile, hcell⟩ := hcell b.tile h
    rw [Tile.tile_injective htile]
    exact hcell
  · intro h
    induction h with
    | refl => exact .refl
    | tail _ hexit ih => exact ih.tail (isNeighbor_tile_iff.mpr ⟨_, hexit, rfl⟩)

theorem neighbor?_eq_some_iff {tile next : Tile} {direction other : Direction} :
    board.neighbor? tile direction = .ok (some (other, next)) ↔
      direction = other ∧ tile.step direction = .ok next ∧ board.isWalkable next = true := by
  unfold neighbor?
  rw [Checked.bind_eq_ok_iff]
  constructor
  · rintro ⟨middle, hstep, h⟩
    split at h
    · next hwalkable =>
      cases h
      exact ⟨rfl, hstep, hwalkable⟩
    · cases h
  · rintro ⟨rfl, hstep, hwalkable⟩
    exact ⟨next, hstep, by rw [if_pos hwalkable]; rfl⟩

/-- The neighbours of a tile, when there is no fault, are what can be entered from it. -/
theorem isNeighbor_iff_of_neighbors {tile next : Tile} {ways : List (Direction × Tile)}
    (h : board.neighbors tile = .ok ways) :
    board.IsNeighbor tile next ↔ ∃ way ∈ ways, way.2 = next := by
  constructor
  · rintro ⟨hwalkable, direction, hstep⟩
    exact ⟨(direction, next), (Checked.mem_filterMapM_iff h _).mpr
      ⟨direction, direction.mem_all, neighbor?_eq_some_iff.mpr ⟨rfl, hstep, hwalkable⟩⟩, rfl⟩
  · rintro ⟨⟨direction, next⟩, hway, rfl⟩
    obtain ⟨other, -, hneighbor⟩ := (Checked.mem_filterMapM_iff h _).mp hway
    obtain ⟨-, hstep, hwalkable⟩ := neighbor?_eq_some_iff.mp hneighbor
    exact ⟨hwalkable, other, hstep⟩

theorem neighbor?_tile (cell : Cell) (direction : Direction) :
    board.neighbor? cell.tile direction =
      .ok ((board.walls.exit? cell direction).map (fun exit => (direction, exit.tile))) := by
  obtain ⟨next, hnext, hcell⟩ := Tile.step_tile cell direction
  unfold neighbor? Maze.exit?
  rw [hnext, Checked.ok_bind, ← hcell]
  cases hplace : next.cell? with
  | none =>
      have hwall : board.isWalkable next = false := by
        rw [Bool.eq_false_iff]
        intro hwalkable
        obtain ⟨place, rfl, -⟩ := isWalkable_iff.mp hwalkable
        rw [Tile.cell?_tile] at hplace
        cases hplace
      simp [hwall]
      rfl
  | some place =>
      obtain rfl := Tile.tile_of_cell? hplace
      by_cases hopen : board.walls.isOpen place = true <;> simp [hopen] <;> rfl

/-- The neighbours of a cell can always be listed, and they are its exits. -/
theorem neighbors_tile (board : Snapshot) (cell : Cell) :
    ∃ ways, board.neighbors cell.tile = .ok ways ∧
      ways.map Prod.snd = (board.walls.exits cell).map Cell.tile := by
  refine ⟨_, Checked.filterMapM_eq_ok (neighbor?_tile cell) Direction.all, ?_⟩
  simp [Maze.exits, List.map_filterMap, Function.comp_def]

theorem length_neighbors_le {tile : Tile} {ways : List (Direction × Tile)}
    (h : board.neighbors tile = .ok ways) : ways.length ≤ 4 :=
  Checked.length_filterMapM_le h

end Snapshot
end MazeAgent
