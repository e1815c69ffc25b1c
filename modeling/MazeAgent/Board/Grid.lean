import MazeAgent.Board.Cell

/-!
# Grids

A grid holds one value for each cell of the board. Reading and writing through a cell always
succeeds; through a tile the position is checked first.

**Results.**
* `Grid.get_set`: a write changes the value at its own cell and no other.
* `Grid.ext_get`: a grid is determined by its values.
* `Grid.read?`, `Grid.write`, `Grid.fetch`, `Grid.store`: access through tiles.
* `Grid.get_foldl_write`: several writes of one value.
-/

namespace MazeAgent

/-- One value for each cell, stored in reading order. -/
structure Grid (α : Type) where
  cells : Vector α 868
  deriving DecidableEq

namespace Grid

variable {α β : Type}

/-- The grid with the same value everywhere. -/
def filled (value : α) : Grid α := ⟨Vector.replicate 868 value⟩

/-- The grid of the values of a function. -/
def ofFn (f : Cell → α) : Grid α := ⟨Vector.ofFn (fun i => f ⟨i⟩)⟩

@[inline] def get (grid : Grid α) (cell : Cell) : α := grid.cells[cell.index]

/-- The grid with another value at a cell. -/
@[inline] def set (grid : Grid α) (cell : Cell) (value : α) : Grid α :=
  ⟨grid.cells.set cell.index value⟩

@[simp] theorem get_filled (value : α) (cell : Cell) : (filled value).get cell = value := by
  simp [filled, get]

@[simp] theorem get_ofFn (f : Cell → α) (cell : Cell) : (ofFn f).get cell = f cell := by
  simp [ofFn, get]

theorem get_set (grid : Grid α) (cell other : Cell) (value : α) :
    (grid.set cell value).get other = if cell = other then value else grid.get other := by
  simp only [set, get]
  by_cases h : cell = other
  · subst h
    simp
  · rw [if_neg h]
    have hi : cell.index.val ≠ other.index.val := by
      intro hv
      exact h (by cases cell; cases other; simpa [Fin.ext_iff] using hv)
    simp [hi]

@[simp] theorem get_set_self (grid : Grid α) (cell : Cell) (value : α) :
    (grid.set cell value).get cell = value := by
  rw [get_set, if_pos rfl]

theorem get_set_of_ne (grid : Grid α) {cell other : Cell} (h : cell ≠ other) (value : α) :
    (grid.set cell value).get other = grid.get other := by
  rw [get_set, if_neg h]

theorem ext_get {a b : Grid α} (h : ∀ cell, a.get cell = b.get cell) : a = b := by
  cases a with
  | mk u =>
    cases b with
    | mk v =>
      congr 1
      apply Vector.ext
      intro i hi
      exact h ⟨⟨i, hi⟩⟩

/-! ## Access through tiles -/

/-- The value at a tile that lies on the board. -/
def read? (grid : Grid α) (tile : Tile) : Option α :=
  tile.cell?.map grid.get

/-- The value at a tile, or a given one off the board. -/
def readOr (grid : Grid α) (tile : Tile) (other : α) : α :=
  (grid.read? tile).getD other

/-- The grid with another value at a tile; off the board nothing changes. -/
def write (grid : Grid α) (tile : Tile) (value : α) : Grid α :=
  match tile.cell? with
  | some cell => grid.set cell value
  | none => grid

/-- The value at a tile, which has to lie on the board. -/
def fetch (grid : Grid α) (tile : Tile) : Checked α :=
  match tile.cell? with
  | some cell => .ok (grid.get cell)
  | none => .error (.offBoard tile.row tile.col)

/-- The grid with another value at a tile, which has to lie on the board. -/
def store (grid : Grid α) (tile : Tile) (value : α) : Checked (Grid α) :=
  match tile.cell? with
  | some cell => .ok (grid.set cell value)
  | none => .error (.offBoard tile.row tile.col)

/-- The cells with their values, in reading order. -/
def toList (grid : Grid α) : List (Cell × α) :=
  Cell.all.map (fun cell => (cell, grid.get cell))

def count (grid : Grid Bool) : Nat :=
  Cell.all.countP grid.get

/-- The cells that hold `true`, in reading order. -/
def marked (grid : Grid Bool) : List Cell :=
  Cell.all.filter grid.get

theorem read?_write (grid : Grid α) (tile other : Tile) (value : α) :
    (grid.write tile value).read? other =
      if tile = other ∧ tile.onBoard = true then some value else grid.read? other := by
  unfold write read?
  cases ht : tile.cell? with
  | none =>
    have : ¬ (tile = other ∧ tile.onBoard = true) := by
      rintro ⟨-, hb⟩
      obtain ⟨cell, rfl⟩ := Tile.onBoard_iff.mp hb
      simp at ht
    rw [if_neg this]
  | some cell =>
    have htile := Tile.tile_of_cell? ht
    cases ho : other.cell? with
    | none =>
      have : ¬ (tile = other ∧ tile.onBoard = true) := by
        rintro ⟨rfl, -⟩
        rw [ho] at ht
        cases ht
      rw [if_neg this]
      rfl
    | some place =>
      have hother := Tile.tile_of_cell? ho
      simp only [Option.map_some, get_set]
      by_cases h : cell = place
      · have : tile = other ∧ tile.onBoard = true :=
          ⟨by rw [← htile, ← hother, h], Tile.onBoard_iff.mpr ⟨cell, htile.symm⟩⟩
        rw [if_pos h, if_pos this]
      · have : ¬ (tile = other ∧ tile.onBoard = true) := by
          rintro ⟨rfl, -⟩
          rw [ht] at ho
          exact h (Option.some.inj ho)
        rw [if_neg h, if_neg this]

theorem get_write (grid : Grid α) (tile : Tile) (value : α) (cell : Cell) :
    (grid.write tile value).get cell = if tile = cell.tile then value else grid.get cell := by
  have h := read?_write grid tile cell.tile value
  simp only [read?, Tile.cell?_tile, Option.map_some] at h
  by_cases htile : tile = cell.tile
  · subst htile
    simpa [Tile.onBoard_iff.mpr ⟨cell, rfl⟩] using h
  · simpa [htile] using h

theorem get_foldl_write (grid : Grid α) (tiles : List Tile) (value : α) (cell : Cell) :
    (tiles.foldl (fun grid tile => grid.write tile value) grid).get cell =
      if cell.tile ∈ tiles then value else grid.get cell := by
  induction tiles generalizing grid with
  | nil => simp
  | cons first rest ih =>
    rw [List.foldl_cons, ih, get_write]
    by_cases hrest : cell.tile ∈ rest <;> simp [hrest, eq_comm]

end Grid
end MazeAgent
