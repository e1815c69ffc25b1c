import MazeAgent.Board.Tile

/-!
# Cells of the board

A cell is a tile that is known to lie on the board. Cells are numbered in reading order, and
stepping from a cell gives a cell or leaves the board.

**Results.**
* `Cell.all`: every cell once, in reading order.
* `Cell.tile` and `Tile.cell?`: the two views of a position; `Tile.cell?_tile` and
  `Tile.tile_of_cell?` show that they agree.
* `Cell.step?`: the neighbour of a cell.
-/

namespace MazeAgent

/-- A position on the board, by its number in reading order. -/
structure Cell where
  index : Fin 868
  deriving DecidableEq, Repr, Inhabited, Hashable

namespace Cell

def row (cell : Cell) : Nat := cell.index.val / 28

def col (cell : Cell) : Nat := cell.index.val % 28

/-- The cell in a row and a column. -/
def ofRowCol (row col : Nat) (hrow : row < 31) (hcol : col < 28) : Cell :=
  ⟨⟨row * 28 + col, by omega⟩⟩

def all : List Cell := (List.finRange 868).map Cell.mk

def tile (cell : Cell) : Tile :=
  ⟨Int32.ofNat cell.row, Int32.ofNat cell.col⟩

theorem row_lt (cell : Cell) : cell.row < 31 := by
  have := cell.index.isLt
  unfold row
  omega

theorem col_lt (cell : Cell) : cell.col < 28 := by
  unfold col
  omega

theorem ext_row_col {a b : Cell} (hrow : a.row = b.row) (hcol : a.col = b.col) : a = b := by
  cases a with
  | mk i =>
    cases b with
    | mk j =>
      have : i = j := by
        apply Fin.ext
        simp only [row, col] at hrow hcol
        omega
      rw [this]

@[simp] theorem row_ofRowCol (r c : Nat) (hr : r < 31) (hc : c < 28) :
    (ofRowCol r c hr hc).row = r := by
  simp only [ofRowCol, row]
  omega

@[simp] theorem col_ofRowCol (r c : Nat) (hr : r < 31) (hc : c < 28) :
    (ofRowCol r c hr hc).col = c := by
  simp only [ofRowCol, col]
  omega

theorem sub_lt (cell : Cell) (count : Nat) : cell.index.val - count < 868 :=
  Nat.lt_of_le_of_lt (Nat.sub_le _ _) cell.index.isLt

theorem add_one_lt (cell : Cell) (h : ¬cell.index.val % 28 = 27) : cell.index.val + 1 < 868 := by
  have := cell.index.isLt
  omega

/-- The neighbour of a cell in a direction, when it is on the board. -/
def step? (cell : Cell) : Direction → Option Cell
  | .up =>
      if 28 ≤ cell.index.val then
        some ⟨⟨cell.index.val - 28, cell.sub_lt 28⟩⟩
      else
        none
  | .down =>
      if h : cell.index.val + 28 < 868 then
        some ⟨⟨cell.index.val + 28, h⟩⟩
      else
        none
  | .left =>
      if cell.index.val % 28 = 0 then
        none
      else
        some ⟨⟨cell.index.val - 1, cell.sub_lt 1⟩⟩
  | .right =>
      if h : cell.index.val % 28 = 27 then
        none
      else
        some ⟨⟨cell.index.val + 1, cell.add_one_lt h⟩⟩

theorem mem_all (cell : Cell) : cell ∈ all := by
  unfold all
  rw [List.mem_map]
  exact ⟨cell.index, List.mem_finRange _, rfl⟩

end Cell

namespace Tile

/-- The cell of a tile that lies on the board. -/
def cell? (tile : Tile) : Option Cell :=
  if h : 0 ≤ tile.row.toInt ∧ tile.row.toInt < 31 ∧
      0 ≤ tile.col.toInt ∧ tile.col.toInt < 28 then
    some (Cell.ofRowCol tile.row.toInt.toNat tile.col.toInt.toNat (by omega) (by omega))
  else
    none

end Tile

theorem Cell.row_tile (cell : Cell) : cell.tile.row.toInt = cell.row := by
  have := cell.row_lt
  simp only [Cell.tile]
  rw [Int32.toInt_ofNat']
  simp [Int.bmod]
  omega

theorem Cell.col_tile (cell : Cell) : cell.tile.col.toInt = cell.col := by
  have := cell.col_lt
  simp only [Cell.tile]
  rw [Int32.toInt_ofNat']
  simp [Int.bmod]
  omega

namespace Tile

@[simp] theorem cell?_tile (cell : Cell) : cell.tile.cell? = some cell := by
  have hrow := cell.row_lt
  have hcol := cell.col_lt
  unfold cell?
  have h : 0 ≤ cell.tile.row.toInt ∧ cell.tile.row.toInt < 31 ∧
      0 ≤ cell.tile.col.toInt ∧ cell.tile.col.toInt < 28 := by
    rw [Cell.row_tile, Cell.col_tile]
    omega
  rw [dif_pos h]
  congr 1
  apply Cell.ext_row_col
  · rw [Cell.row_ofRowCol, Cell.row_tile]
    exact Int.toNat_natCast _
  · rw [Cell.col_ofRowCol, Cell.col_tile]
    exact Int.toNat_natCast _

theorem tile_of_cell? {tile : Tile} {cell : Cell} (h : tile.cell? = some cell) :
    cell.tile = tile := by
  unfold cell? at h
  split at h
  · next hb =>
    cases h
    have hr : (Cell.ofRowCol tile.row.toInt.toNat tile.col.toInt.toNat
        (by omega) (by omega)).tile.row.toInt = tile.row.toInt := by
      rw [Cell.row_tile, Cell.row_ofRowCol]
      omega
    have hc : (Cell.ofRowCol tile.row.toInt.toNat tile.col.toInt.toNat
        (by omega) (by omega)).tile.col.toInt = tile.col.toInt := by
      rw [Cell.col_tile, Cell.col_ofRowCol]
      omega
    cases tile
    simp only [Cell.tile] at hr hc ⊢
    congr 1
    · exact Int32.toInt_inj.mp hr
    · exact Int32.toInt_inj.mp hc
  · cases h

theorem cell?_eq_some {tile : Tile} {cell : Cell} : tile.cell? = some cell ↔ tile = cell.tile :=
  ⟨fun h => (tile_of_cell? h).symm, fun h => h ▸ cell?_tile cell⟩

theorem onBoard_iff {tile : Tile} : tile.onBoard = true ↔ ∃ cell : Cell, tile = cell.tile := by
  have hb : tile.onBoard = true ↔
      0 ≤ tile.row.toInt ∧ tile.row.toInt < 31 ∧ 0 ≤ tile.col.toInt ∧ tile.col.toInt < 28 := by
    unfold onBoard
    simp only [Bool.and_eq_true, decide_eq_true_eq, Int32.le_iff_toInt_le, Int32.lt_iff_toInt_lt]
    have h0 : (0 : Int32).toInt = 0 := by decide
    have h31 : (31 : Int32).toInt = 31 := by decide
    have h28 : (28 : Int32).toInt = 28 := by decide
    rw [h0, h31, h28]
    omega
  constructor
  · intro h
    have hs : ∃ cell, tile.cell? = some cell := by
      unfold cell?
      rw [dif_pos (hb.mp h)]
      exact ⟨_, rfl⟩
    obtain ⟨cell, hcell⟩ := hs
    exact ⟨cell, (tile_of_cell? hcell).symm⟩
  · rintro ⟨cell, rfl⟩
    rw [hb, Cell.row_tile, Cell.col_tile]
    have := cell.row_lt
    have := cell.col_lt
    omega

end Tile
end MazeAgent
