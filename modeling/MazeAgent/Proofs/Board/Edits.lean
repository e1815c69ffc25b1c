import MazeAgent.Proofs.Board.Acceptance
import MazeAgent.Proofs.Board.Access

/-!
# Edits of layouts

A layout keeps its walls, its pellets and its super pellets in three grids. What keeps them in
step is that pellets are placed on floor only, and that a wall clears its tile. So however a layout
is edited, its walls carry nothing, and its two counts are the numbers of tiles with a pellet and
with a super pellet.

**Results.**
* `Layout.Edit`, `Layout.isWall_edit_iff`, `Layout.hasPellet_edit_iff`,
  `Layout.hasSuperPellet_edit_iff`: all that one edit does.
* `Layout.Obtained`: the layouts that can be made, by any number of edits.
* `Layout.Obtained.itemsOnFloor`: the walls of such a layout carry nothing.
* `Layout.Obtained.edits_sound`: what edits keep, and the count that a snapshot starts with.
-/

namespace MazeAgent

/-! ## One edit -/

namespace Layout

def isWall (layout : Layout) (tile : Tile) : Bool := layout.walls.readOr tile true

def hasPellet (layout : Layout) (tile : Tile) : Bool := layout.pellets.readOr tile false

def hasSuperPellet (layout : Layout) (tile : Tile) : Bool :=
  layout.superPellets.readOr tile false

/-- A change to one tile. -/
inductive Edit where
  | pellet (tile : Tile)
  | superPellet (tile : Tile)
  | wall (tile : Tile)
  deriving DecidableEq

def Edit.tile : Edit → Tile
  | pellet tile => tile
  | superPellet tile => tile
  | wall tile => tile

/-- The layout after an edit. -/
def edit (layout : Layout) : Edit → Layout
  | .pellet tile => layout.withPellet tile
  | .superPellet tile => layout.withSuperPellet tile
  | .wall tile => layout.withWall tile

variable {layout : Layout} {change : Edit} {place tile : Tile}

theorem isWall_of_offBoard (h : tile.onBoard = false) : layout.isWall tile = true :=
  Grid.readOr_of_offBoard _ h true

/-- A grid of items after an item was placed on a tile, unless the tile is wall. -/
def placeItem (layout : Layout) (items : Grid Bool) (tile : Tile) : Grid Bool :=
  if layout.isWall tile then items else items.write tile true

theorem withPellet_eq :
    layout.withPellet tile = { layout with pellets := layout.placeItem layout.pellets tile } := by
  unfold withPellet placeItem isWall
  split <;> rfl

theorem withSuperPellet_eq : layout.withSuperPellet tile =
    { layout with superPellets := layout.placeItem layout.superPellets tile } := by
  unfold withSuperPellet placeItem isWall
  split <;> rfl

theorem placeItem_iff {items : Grid Bool} :
    (layout.placeItem items place).readOr tile false = true ↔
      items.readOr tile false = true ∨ place = tile ∧ layout.isWall tile = false := by
  unfold placeItem
  by_cases hplace : place = tile
  · subst hplace
    cases hwall : layout.isWall place with
    | true => simp
    | false =>
        -- Only floor can take an item, and floor lies on the board.
        have honBoard : place.onBoard = true := by
          by_contra hoff
          rw [isWall_of_offBoard (by simpa using hoff)] at hwall
          cases hwall
        simp [Grid.readOr_write_self _ honBoard]
  · split <;> simp [hplace, Grid.readOr_write_of_ne]

theorem clearItem_iff {items : Grid Bool} :
    (items.write place false).readOr tile false = true ↔
      items.readOr tile false = true ∧ place ≠ tile := by
  by_cases hplace : place = tile
  · subst hplace
    simp [Grid.readOr_write_default]
  · simp [hplace, Grid.readOr_write_of_ne]

/-! ### What an edit does to a tile -/

theorem isWall_edit_iff :
    (layout.edit change).isWall tile = true ↔ layout.isWall tile = true ∨ change = .wall tile := by
  cases change with
  | pellet place => simp [isWall, edit, withPellet_eq]
  | superPellet place => simp [isWall, edit, withSuperPellet_eq]
  | wall place =>
      by_cases hplace : place = tile
      · subst hplace
        simp [isWall, edit, withWall, Grid.readOr_write_default]
      · simp [isWall, edit, withWall, hplace, Grid.readOr_write_of_ne]

theorem hasPellet_edit_iff :
    (layout.edit change).hasPellet tile = true ↔
      layout.hasPellet tile = true ∧ change ≠ .wall tile ∨
        change = .pellet tile ∧ layout.isWall tile = false := by
  cases change with
  | pellet place => simp [hasPellet, edit, withPellet_eq, placeItem_iff]
  | superPellet place => simp [hasPellet, edit, withSuperPellet_eq]
  | wall place => simp [hasPellet, edit, withWall, clearItem_iff]

theorem hasSuperPellet_edit_iff :
    (layout.edit change).hasSuperPellet tile = true ↔
      layout.hasSuperPellet tile = true ∧ change ≠ .wall tile ∨
        change = .superPellet tile ∧ layout.isWall tile = false := by
  cases change with
  | pellet place => simp [hasSuperPellet, edit, withPellet_eq]
  | superPellet place => simp [hasSuperPellet, edit, withSuperPellet_eq, placeItem_iff]
  | wall place => simp [hasSuperPellet, edit, withWall, clearItem_iff]

/-- An edit leaves the two markers where they are. -/
theorem markers_edit : (layout.edit change).agent = layout.agent ∧
    (layout.edit change).fruit = layout.fruit := by
  cases change with
  | pellet place => simp [edit, withPellet_eq]
  | superPellet place => simp [edit, withSuperPellet_eq]
  | wall place => exact ⟨rfl, rfl⟩

/-- Two layouts have the same on a tile. -/
def SameAt (layout other : Layout) (tile : Tile) : Prop :=
  other.isWall tile = layout.isWall tile ∧ other.hasPellet tile = layout.hasPellet tile ∧
    other.hasSuperPellet tile = layout.hasSuperPellet tile

/-- An edit changes one tile only. -/
theorem sameAt_edit (h : tile ≠ change.tile) : layout.SameAt (layout.edit change) tile := by
  have hpellet : change ≠ .pellet tile := by rintro rfl; exact h rfl
  have hsuper : change ≠ .superPellet tile := by rintro rfl; exact h rfl
  have hwall : change ≠ .wall tile := by rintro rfl; exact h rfl
  refine ⟨?_, ?_, ?_⟩
  · rw [Bool.eq_iff_iff, isWall_edit_iff]
    simp [hwall]
  · rw [Bool.eq_iff_iff, hasPellet_edit_iff]
    simp [hwall, hpellet]
  · rw [Bool.eq_iff_iff, hasSuperPellet_edit_iff]
    simp [hwall, hsuper]

/-- Off the board everything is wall, so nothing can be placed there, and nothing is cleared. -/
theorem edit_of_offBoard (h : change.tile.onBoard = false) : layout.edit change = layout := by
  have hwall : layout.isWall change.tile = true := isWall_of_offBoard h
  cases change with
  | pellet place => exact if_pos hwall
  | superPellet place => exact if_pos hwall
  | wall place =>
      have hwrite (grid : Grid Bool) (value : Bool) : grid.write place value = grid :=
        grid.write_of_offBoard h value
      rw [edit, withWall, hwrite, hwrite, hwrite]

/-! ## Any number of edits -/

/-- No wall carries a pellet or a super pellet. -/
def ItemsOnFloor (layout : Layout) : Prop :=
  ∀ tile, layout.isWall tile = true →
    layout.hasPellet tile = false ∧ layout.hasSuperPellet tile = false

theorem ItemsOnFloor.edit (h : layout.ItemsOnFloor) (change : Edit) :
    (layout.edit change).ItemsOnFloor := by
  intro tile hwall
  rw [← Bool.not_eq_true, ← Bool.not_eq_true, hasPellet_edit_iff, hasSuperPellet_edit_iff]
  -- A tile that was wall holds nothing and is given nothing; a tile that becomes wall is cleared.
  rcases isWall_edit_iff.mp hwall with hbefore | rfl
  · obtain ⟨hpellet, hsuper⟩ := h tile hbefore
    simp [hpellet, hsuper, hbefore]
  · simp

/-- Layouts that are made, from nothing, from a rectangle or from a text, by any number of edits. -/
inductive Obtained : Layout → Prop where
  | solid : Obtained solid
  | openRect {corner : Tile} {rows cols : UInt32} {layout : Layout}
      (h : openRect corner rows cols = .ok layout) : Obtained layout
  | parse {text : String} {layout : Layout} (h : parse text = .ok layout) : Obtained layout
  | edit {layout : Layout} (change : Edit) (h : Obtained layout) : Obtained (layout.edit change)

/-- A layout without items. -/
theorem itemsOnFloor_of_filled (hpellets : layout.pellets = Grid.filled false)
    (hsupers : layout.superPellets = Grid.filled false) : layout.ItemsOnFloor := by
  have hread (tile : Tile) : (Grid.filled false).readOr tile false = false := by
    rw [← Bool.not_eq_true, Grid.readOr_eq_true_iff]
    simp
  intro tile _
  rw [hasPellet, hasSuperPellet, hpellets, hsupers]
  exact ⟨hread tile, hread tile⟩

theorem pellets_openRect {corner : Tile} {rows cols : UInt32}
    (h : openRect corner rows cols = .ok layout) :
    layout.pellets = Grid.filled false ∧ layout.superPellets = Grid.filled false := by
  unfold openRect at h
  dsimp only at h
  split at h
  · cases h
    exact ⟨rfl, rfl⟩
  · split at h
    · cases h
    · obtain rfl := Except.ok.inj h
      exact ⟨rfl, rfl⟩

/-- The glyph of an item makes floor. -/
theorem Depicts.itemsOnFloor {glyph : Cell → Option Char} (h : Depicts glyph layout) :
    layout.ItemsOnFloor := by
  intro tile hwall
  rw [← Bool.not_eq_true, ← Bool.not_eq_true, hasPellet, hasSuperPellet, Grid.readOr_eq_true_iff,
    Grid.readOr_eq_true_iff]
  have hfloor : ∀ cell char, tile = cell.tile → char ≠ '#' → glyph cell ≠ some char := by
    rintro cell char rfl hchar hglyph
    have hopen := (h.floor_iff cell).mpr ⟨char, hglyph, hchar⟩
    rw [isWall, Grid.readOr_tile, hopen] at hwall
    cases hwall
  constructor
  · rintro ⟨cell, htile, hpellet⟩
    exact hfloor cell '.' htile (by decide) ((h.pellet_iff cell).mp hpellet)
  · rintro ⟨cell, htile, hsuper⟩
    exact hfloor cell 'o' htile (by decide) ((h.superPellet_iff cell).mp hsuper)

theorem Obtained.itemsOnFloor (h : Obtained layout) : layout.ItemsOnFloor := by
  induction h with
  | solid => exact itemsOnFloor_of_filled rfl rfl
  | openRect h =>
      obtain ⟨hpellets, hsupers⟩ := pellets_openRect h
      exact itemsOnFloor_of_filled hpellets hsupers
  | parse h => exact (isRead_of_parse h).2.depicts.itemsOnFloor
  | edit change _ ih => exact ih.edit change

/-! ## The count of pellets -/

theorem pelletCount_eq_ncard (layout : Layout) :
    layout.pelletCount = {tile | layout.hasPellet tile = true}.ncard +
      {tile | layout.hasSuperPellet tile = true}.ncard := by
  rw [pelletCount, Grid.count_eq_ncard, Grid.count_eq_ncard]
  rfl

theorem pelletCount_le (layout : Layout) : layout.pelletCount ≤ 1736 :=
  Nat.add_le_add layout.pellets.count_le layout.superPellets.count_le

/-- Without a count of its own a snapshot starts with that of its layout. -/
theorem pelletsRemaining_of_build {changes : List Setup.Change} {board : Snapshot}
    (hchanges : ∀ count, Setup.Change.pelletsRemaining count ∉ changes)
    (h : (Setup.assemble layout changes).build = .ok board) :
    board.pelletsRemaining.toNat = layout.pelletCount := by
  have hnone : Setup.lastSet Setup.Change.pelletsRemaining? changes none = none := by
    have hsets : changes.filterMap Setup.Change.pelletsRemaining? = [] := by
      rw [List.filterMap_eq_nil_iff]
      intro call hcall
      cases call with
      | pelletsRemaining count => exact absurd hcall (hchanges count)
      | _ => rfl
    rw [Setup.lastSet, hsets]
    rfl
  rw [Setup.assemble_eq, Setup.build_eq_ok_iff] at h
  obtain ⟨agent, -, -, -, rfl⟩ := h
  have hlt : layout.pelletCount < UInt32.size := layout.pelletCount_le.trans_lt (by decide)
  rw [Setup.snapshot, hnone]
  exact UInt32.toNat_ofNat_of_lt' hlt

/-- On a layout that was made by edits no wall carries an item. A further edit changes nothing but
its tile, and nothing at all off the board. The count is the number of tiles with a pellet and of
those with a super pellet, and a snapshot starts with it. -/
theorem Obtained.edits_sound (h : Obtained layout) :
    (∀ tile, layout.isWall tile = true →
      layout.hasPellet tile = false ∧ layout.hasSuperPellet tile = false) ∧
    (∀ change : Edit,
      (∀ tile, tile ≠ change.tile → layout.SameAt (layout.edit change) tile) ∧
        (layout.edit change).agent = layout.agent ∧ (layout.edit change).fruit = layout.fruit ∧
        (change.tile.onBoard = false → layout.edit change = layout)) ∧
    layout.pelletCount = {tile | layout.hasPellet tile = true}.ncard +
      {tile | layout.hasSuperPellet tile = true}.ncard ∧
    ∀ changes board, (∀ count, Setup.Change.pelletsRemaining count ∉ changes) →
      (Setup.assemble layout changes).build = .ok board →
        board.pelletsRemaining.toNat = layout.pelletCount :=
  ⟨h.itemsOnFloor,
    fun _ => ⟨fun _ => sameAt_edit, markers_edit.1, markers_edit.2, edit_of_offBoard⟩,
    layout.pelletCount_eq_ncard, fun _ _ => pelletsRemaining_of_build⟩

/-- Three tiles of floor, with a pellet on the first one. The super pellet on the second one is
walled up. -/
def corridor : Layout :=
  let floor := (openRect ⟨1, 1⟩ 1 3).toOption.getD solid
  ((floor.withPellet ⟨1, 1⟩).withSuperPellet ⟨1, 2⟩).withWall ⟨1, 2⟩

/-- The walled up tile of the corridor carries nothing. -/
theorem edits_sound_corridor :
    corridor.hasPellet ⟨1, 1⟩ = true ∧ corridor.hasSuperPellet ⟨1, 2⟩ = false ∧
      ∃ board, (Setup.assemble corridor [.agent ⟨1, 3⟩]).build = .ok board ∧
        board.pelletsRemaining.toNat = corridor.pelletCount := by
  have hfloor : openRect ⟨1, 1⟩ 1 3 = .ok ((openRect ⟨1, 1⟩ 1 3).toOption.getD solid) := rfl
  have hobtained : Obtained corridor :=
    .edit (.wall ⟨1, 2⟩) (.edit (.superPellet ⟨1, 2⟩) (.edit (.pellet ⟨1, 1⟩) (.openRect hfloor)))
  obtain ⟨board, hbuild⟩ :
      ∃ board, (Setup.assemble corridor [.agent ⟨1, 3⟩]).build = .ok board := ⟨_, rfl⟩
  obtain ⟨hwalls, -, -, hcount⟩ := hobtained.edits_sound
  exact ⟨by decide +kernel, (hwalls ⟨1, 2⟩ (by decide +kernel)).2, board, hbuild,
    hcount [.agent ⟨1, 3⟩] board (by simp) hbuild⟩

end Layout
end MazeAgent
