import MazeAgent.Proofs.Board.Adjacency

/-!
# Access to grids

Tiles have signed coordinates, and a grid has a cell only for some of them. A tile off the board
has no cell, however its coordinates are signed, and two tiles on the board have two cells. So an
access reaches its own tile or none: after any number of updates every tile holds what was last
written to it.

**Results.**
* `Grid.countP_all_eq_ncard`, `Grid.count_eq_ncard`: counting cells by their tiles.
* `Tile.board`, `Grid.toList_eq_map_board`: the tiles of the board, and what an iteration yields.
* `Grid.Update`, `Grid.get_update`: what one update does to a cell.
* `Grid.get_after`: what a cell holds after any number of updates.
* `Grid.after_filled`: how a filled grid reads after any number of updates.
-/

namespace MazeAgent

/-! ## Access by tiles -/

namespace Grid

variable {α : Type} {tile : Tile}

theorem cell?_of_offBoard (h : tile.onBoard = false) : tile.cell? = none := by
  cases hcell : tile.cell? with
  | none => rfl
  | some cell =>
      rw [Tile.onBoard_iff.mpr ⟨cell, Tile.cell?_eq_some.mp hcell⟩] at h
      cases h

theorem readOr_of_offBoard (grid : Grid α) (h : tile.onBoard = false) (other : α) :
    grid.readOr tile other = other := by
  rw [readOr, read?, cell?_of_offBoard h, Option.map_none, Option.getD_none]

theorem write_of_offBoard (grid : Grid α) (h : tile.onBoard = false) (value : α) :
    grid.write tile value = grid := by
  rw [write, cell?_of_offBoard h]

theorem fetch_of_offBoard (grid : Grid α) (h : tile.onBoard = false) :
    grid.fetch tile = .error (.offBoard tile.row tile.col) := by
  rw [fetch, cell?_of_offBoard h]

theorem store_of_offBoard (grid : Grid α) (h : tile.onBoard = false) (value : α) :
    grid.store tile value = .error (.offBoard tile.row tile.col) := by
  rw [store, cell?_of_offBoard h]

theorem read?_tile (grid : Grid α) (cell : Cell) : grid.read? cell.tile = some (grid.get cell) := by
  rw [read?, Tile.cell?_tile, Option.map_some]

theorem fetch_tile (grid : Grid α) (cell : Cell) : grid.fetch cell.tile = .ok (grid.get cell) := by
  rw [fetch, Tile.cell?_tile]

/-- On the board both kinds of writing do the same. -/
theorem store_tile (grid : Grid α) (cell : Cell) (value : α) :
    grid.store cell.tile value = .ok (grid.write cell.tile value) := by
  rw [store, write, Tile.cell?_tile]

theorem readOr_write_of_ne (grid : Grid α) {place : Tile} (h : place ≠ tile) (value other : α) :
    (grid.write place value).readOr tile other = grid.readOr tile other := by
  rw [readOr, readOr, read?_write, if_neg (fun hboth => h hboth.1)]

theorem readOr_write_self (grid : Grid α) (h : tile.onBoard = true) (value other : α) :
    (grid.write tile value).readOr tile other = value := by
  rw [readOr, read?_write, if_pos ⟨rfl, h⟩, Option.getD_some]

/-- What is read off the board changes nothing when that is what is written. -/
theorem readOr_write_default (grid : Grid α) (tile : Tile) (value : α) :
    (grid.write tile value).readOr tile value = value := by
  cases h : tile.onBoard with
  | false => exact readOr_of_offBoard _ h value
  | true => exact grid.readOr_write_self h value value

theorem readOr_eq_true_iff {grid : Grid Bool} :
    grid.readOr tile false = true ↔ ∃ cell, tile = cell.tile ∧ grid.get cell = true := by
  cases h : tile.onBoard with
  | false =>
      rw [readOr_of_offBoard _ h]
      refine iff_of_false Bool.false_ne_true ?_
      rintro ⟨cell, rfl, -⟩
      rw [Tile.onBoard_iff.mpr ⟨cell, rfl⟩] at h
      cases h
  | true =>
      obtain ⟨cell, rfl⟩ := Tile.onBoard_iff.mp h
      rw [readOr_tile]
      simp [Tile.tile_injective.eq_iff]

theorem nodup_all : Cell.all.Nodup := by
  refine List.Nodup.map ?_ (List.nodup_finRange 868)
  intro i j h
  cases h
  rfl

/-- Cells are counted by their tiles. -/
theorem countP_all_eq_ncard (counts : Cell → Bool) :
    Cell.all.countP counts = {tile | ∃ cell, tile = Cell.tile cell ∧ counts cell = true}.ncard := by
  have hnodup : ((Cell.all.filter counts).map Cell.tile).Nodup :=
    (nodup_all.filter counts).map Tile.tile_injective
  rw [Tile.ncard_eq_length hnodup ?_, List.length_map, List.countP_eq_length_filter]
  intro tile
  simp only [List.mem_map, List.mem_filter, Cell.mem_all, true_and]
  exact exists_congr (fun cell => by rw [and_comm, eq_comm (a := tile)])

/-- The count of a grid is the number of tiles that it marks. -/
theorem count_eq_ncard (grid : Grid Bool) :
    grid.count = {tile | grid.readOr tile false = true}.ncard := by
  simp only [readOr_eq_true_iff]
  exact countP_all_eq_ncard grid.get

theorem count_le (grid : Grid Bool) : grid.count ≤ 868 := by
  have hle := Cell.all.countP_le_length (p := grid.get)
  rw [Cell.all, List.length_map, List.length_finRange] at hle
  exact hle

end Grid

namespace Snapshot

theorem hasPellet_tile (board : Snapshot) (cell : Cell) :
    board.hasPellet cell.tile = board.pellets.get cell :=
  board.pellets.readOr_tile cell false

theorem hasSuperPellet_tile (board : Snapshot) (cell : Cell) :
    board.hasSuperPellet cell.tile = board.superPellets.get cell :=
  board.superPellets.readOr_tile cell false

end Snapshot

/-! ## The tiles of the board -/

/-- A table that is numbered through row by row. -/
theorem map_range_mul {α : Type} (entry : Nat → Nat → α) (rows cols : Nat) :
    (List.range (rows * cols)).map (fun i => entry (i / cols) (i % cols)) =
      (List.range rows).flatMap (fun row => (List.range cols).map (entry row)) := by
  induction rows with
  | zero => simp
  | succ rows ih =>
      rw [Nat.succ_mul, List.range_add, List.map_append, ih, List.range_succ, List.flatMap_append,
        List.flatMap_singleton, List.map_map]
      congr 1
      apply List.map_congr_left
      intro col hcol
      have hlt := List.mem_range.mp hcol
      rw [Function.comp_apply, Nat.mul_comm, Nat.mul_add_div (by omega), Nat.div_eq_of_lt hlt,
        Nat.mul_add_mod, Nat.mod_eq_of_lt hlt, Nat.add_zero]

namespace Tile

/-- The tiles on the board, row by row and each row from left to right. -/
def board : List Tile :=
  (List.range boardRows).flatMap (fun row =>
    (List.range boardCols).map (fun col => ⟨Int32.ofNat row, Int32.ofNat col⟩))

theorem map_tile_all : Cell.all.map Cell.tile = board := by
  have hrange : List.range (boardRows * boardCols) = (List.finRange 868).map Fin.val :=
    (List.map_coe_finRange_eq_range (n := 868)).symm
  rw [board, ← map_range_mul (fun row col => (⟨Int32.ofNat row, Int32.ofNat col⟩ : Tile)), hrange,
    Cell.all, List.map_map, List.map_map]
  rfl

theorem mem_board_iff {tile : Tile} : tile ∈ board ↔ tile.onBoard = true := by
  rw [← map_tile_all, List.mem_map, onBoard_iff]
  exact exists_congr (fun cell => by rw [and_iff_right cell.mem_all, eq_comm])

theorem nodup_board : board.Nodup := by
  rw [← map_tile_all]
  exact Grid.nodup_all.map tile_injective

end Tile

/-! ## Updates -/

namespace Grid

variable {α : Type}

/-- The value of a tile is replaced: off the board this is ignored, or it faults. -/
inductive Update (α : Type) where
  | write (tile : Tile) (value : α)
  | store (tile : Tile) (value : α)

namespace Update

def tile : Update α → Tile
  | write tile _ => tile
  | store tile _ => tile

def value : Update α → α
  | write _ value => value
  | store _ value => value

/-- What an update writes to a tile. -/
def at? (update : Update α) (place : Tile) : Option α :=
  if update.tile = place then some update.value else none

end Update

/-- The grid after an update. One that faults leaves the grid as it was. -/
def update (grid : Grid α) : Update α → Grid α
  | .write tile value => grid.write tile value
  | .store tile value =>
      match grid.store tile value with
      | .ok later => later
      | .error _ => grid

def after (grid : Grid α) (updates : List (Update α)) : Grid α := updates.foldl update grid

/-- The value that was last written to a tile, and another one if nothing was. -/
def lastWritten (updates : List (Update α)) (tile : Tile) (other : α) : α :=
  (updates.filterMap (fun update => update.at? tile)).getLast?.getD other

theorem update_eq_write (grid : Grid α) (change : Update α) :
    grid.update change = grid.write change.tile change.value := by
  cases change with
  | write tile value => rfl
  | store tile value =>
      simp only [update, Update.tile, Update.value]
      cases h : tile.onBoard with
      | false => rw [store_of_offBoard _ h, write_of_offBoard _ h]
      | true =>
          obtain ⟨cell, rfl⟩ := Tile.onBoard_iff.mp h
          rw [store_tile]

/-- An update reaches the cell of its own tile only. -/
theorem get_update (grid : Grid α) (change : Update α) (cell : Cell) :
    (grid.update change).get cell = (change.at? cell.tile).getD (grid.get cell) := by
  rw [update_eq_write, get_write, Update.at?]
  split <;> rfl

theorem lastWritten_cons (change : Update α) (rest : List (Update α)) (tile : Tile) (other : α) :
    lastWritten (change :: rest) tile other =
      lastWritten rest tile ((change.at? tile).getD other) := by
  unfold lastWritten
  rw [List.filterMap_cons]
  cases change.at? tile with
  | none => rfl
  | some value => rw [List.getLast?_cons, Option.getD_some, Option.getD_some]

/-- A cell holds what was last written to its tile. -/
theorem get_after (grid : Grid α) (updates : List (Update α)) (cell : Cell) :
    (grid.after updates).get cell = lastWritten updates cell.tile (grid.get cell) := by
  induction updates generalizing grid with
  | nil => rfl
  | cons change rest ih => rw [after, List.foldl_cons, ← after, ih, get_update, lastWritten_cons]

/-- An iteration yields the tiles of the board in reading order, each with its value. -/
theorem toList_eq_map_board (grid : Grid α) (values : Tile → α)
    (h : ∀ cell : Cell, grid.get cell = values cell.tile) :
    grid.toList.map (fun (cell, value) => (cell.tile, value)) =
      Tile.board.map (fun tile => (tile, values tile)) := by
  rw [toList, List.map_map, ← Tile.map_tile_all, List.map_map]
  apply List.map_congr_left
  intro cell _
  rw [Function.comp_apply, Function.comp_apply, h]

/-- A grid that is filled with a value and updated any number of times: a tile on the board reads as
what was last written to it, or else as the value that the grid was filled with, and no access to a
tile off the board has a value or changes anything. An iteration yields each tile of the board once,
in reading order, and flags are counted by the tiles that hold `true`. -/
theorem after_filled (fill : α) (updates : List (Update α)) :
    (∀ tile, ((filled fill).after updates).read? tile =
      if tile.onBoard then some (lastWritten updates tile fill) else none) ∧
    (∀ tile, ((filled fill).after updates).fetch tile =
      if tile.onBoard then .ok (lastWritten updates tile fill)
      else .error (.offBoard tile.row tile.col)) ∧
    (∀ tile value, tile.onBoard = false →
      ((filled fill).after updates).write tile value = (filled fill).after updates ∧
      ((filled fill).after updates).store tile value = .error (.offBoard tile.row tile.col) ∧
      ((filled fill).after updates).update (.store tile value) = (filled fill).after updates) ∧
    ((filled fill).after updates).toList.map (fun (cell, value) => (cell.tile, value)) =
      Tile.board.map (fun tile => (tile, lastWritten updates tile fill)) ∧
    (Tile.board.Nodup ∧ ∀ tile, tile ∈ Tile.board ↔ tile.onBoard = true) ∧
    ∀ (flag : Bool) (flags : List (Update Bool)), ((filled flag).after flags).count =
      {tile | tile.onBoard = true ∧ lastWritten flags tile flag = true}.ncard := by
  have hget {β : Type} (first : β) (changes : List (Update β)) (cell : Cell) :
      ((filled first).after changes).get cell = lastWritten changes cell.tile first := by
    rw [get_after, get_filled]
  refine ⟨?_, ?_, ?_, ?_, ⟨Tile.nodup_board, fun _ => Tile.mem_board_iff⟩, ?_⟩
  · intro tile
    split
    · next h =>
      obtain ⟨cell, rfl⟩ := Tile.onBoard_iff.mp h
      rw [read?_tile, hget]
    · next h => rw [read?, cell?_of_offBoard (by simpa using h), Option.map_none]
  · intro tile
    split
    · next h =>
      obtain ⟨cell, rfl⟩ := Tile.onBoard_iff.mp h
      rw [fetch_tile, hget]
    · next h => exact fetch_of_offBoard _ (by simpa using h)
  · intro tile value h
    refine ⟨write_of_offBoard _ h value, store_of_offBoard _ h value, ?_⟩
    rw [update_eq_write]
    exact write_of_offBoard _ h value
  · exact toList_eq_map_board _ (fun tile => lastWritten updates tile fill) (hget fill updates)
  · intro flag flags
    rw [count_eq_ncard]
    congr 1
    apply Set.ext
    intro tile
    rw [Set.mem_ofPred_eq, Set.mem_ofPred_eq, readOr_eq_true_iff, Tile.onBoard_iff]
    constructor
    · rintro ⟨cell, rfl, h⟩
      exact ⟨⟨cell, rfl⟩, by rw [← hget, h]⟩
    · rintro ⟨⟨cell, rfl⟩, h⟩
      exact ⟨cell, rfl, by rw [hget, h]⟩

/-- A tile is written twice. Then comes a tile off the board that has the same place in a count
through the rows, and one below the last row. -/
def overwrites : List (Update Nat) :=
  [.write ⟨2, 3⟩ 5, .store ⟨2, 3⟩ 7, .write ⟨1, 31⟩ 8, .store ⟨31, 0⟩ 9]

theorem after_filled_overwrites :
    (⟨31, 0⟩ : Tile).onBoard = false ∧
      ((filled 0).after overwrites).read? ⟨2, 3⟩ = some 7 ∧
      ((filled 0).after overwrites).read? ⟨3, 3⟩ = some 0 ∧
      ((filled 0).after overwrites).store ⟨31, 0⟩ 9 = .error (.offBoard 31 0) := by
  have hoff : (⟨31, 0⟩ : Tile).onBoard = false := by decide
  obtain ⟨hread, -, hstore, -⟩ := after_filled 0 overwrites
  exact ⟨hoff, hread ⟨2, 3⟩, hread ⟨3, 3⟩, (hstore _ 9 hoff).2.1⟩

end Grid
end MazeAgent
