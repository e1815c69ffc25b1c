import MazeAgent.Field.Score
import MazeAgent.Proofs.Board.Access
import MazeAgent.Proofs.Number.Sign

/-!
# The density of pellets

Around a tile pellets are counted in a square, and their number is divided by the number of tiles
of the square, those off the board included. The half width of the square comes without a sign and
is read with one, so that a very large half width turns into a small negative one. Then there is no
row between the bounds of the square. Between the two lie the half widths for which the square of
the side is no longer a coordinate.

**Results.**
* `Coordinate.toInt_toInt32_eq_ite`: what a half width is read as.
* `FieldConfig.itemsWithin_eq_foldl`, `FieldConfig.clusterDensity_eq_densityByRows`: the square is
  counted as by two loops, over its rows and over the tiles of each row.
* `Snapshot.itemTiles`, `FieldConfig.mem_itemTiles_iff`, `FieldConfig.itemsWithin_eq_ncard`: the
  tiles that are counted.
* `FieldConfig.clusterDensity_eq_bind`: the density but for the square of the side.
* `FieldConfig.clusterDensity_eq_ite`: the density for each half width.
-/

namespace MazeAgent

namespace Coordinate

/-- From half of the range on, numbers without a sign are read as negative ones. -/
theorem toInt_toInt32_eq_ite (n : UInt32) :
    n.toInt32.toInt =
      if n.toNat < 2147483648 then (n.toNat : Int) else (n.toNat : Int) - 4294967296 := by
  change n.toBitVec.toInt = if n.toBitVec.toNat < 2147483648 then (n.toBitVec.toNat : Int)
    else (n.toBitVec.toNat : Int) - 4294967296
  rw [BitVec.toInt_eq_toNat_cond]
  split <;> split <;> omega

theorem toInt_toInt32 {n : UInt32} (h : n.toNat < 2147483648) : n.toInt32.toInt = n.toNat := by
  rw [toInt_toInt32_eq_ite, if_pos h]

/-- The coordinates from a first one to a last one, both included. -/
def upTo (first last : Int32) : List Int32 :=
  (List.range (last.toInt + 1 - first.toInt).toNat).map
    (fun offset : Nat => Int32.ofInt (first.toInt + offset))

section Range

variable {first last n : Int32}

theorem toInt_upTo {offset : Nat} (h : offset < (last.toInt + 1 - first.toInt).toNat) :
    (Int32.ofInt (first.toInt + offset)).toInt = first.toInt + offset := by
  have hlow := first.le_toInt
  have hhigh := last.toInt_lt
  exact Int32.toInt_ofInt_of_le (by omega) (by omega)

theorem mem_upTo_iff : n ∈ upTo first last ↔ first.toInt ≤ n.toInt ∧ n.toInt ≤ last.toInt := by
  simp only [upTo, List.mem_map, List.mem_range]
  constructor
  · rintro ⟨offset, hoffset, rfl⟩
    rw [toInt_upTo hoffset]
    omega
  · rintro ⟨hfirst, hlast⟩
    refine ⟨(n.toInt - first.toInt).toNat, by omega, ?_⟩
    have hvalue : first.toInt + ((n.toInt - first.toInt).toNat : Int) = n.toInt := by omega
    rw [hvalue, Int32.ofInt_toInt]

theorem nodup_upTo (first last : Int32) : (upTo first last).Nodup := by
  apply List.nodup_range.map_on
  intro a ha b hb heq
  have hvalues := congrArg Int32.toInt heq
  rw [toInt_upTo (List.mem_range.mp ha), toInt_upTo (List.mem_range.mp hb)] at hvalues
  omega

end Range

end Coordinate

/-! ## Row by row -/

namespace FieldConfig

/-- Only a cell of the board holds an item. -/
theorem hasItem_iff {board : Snapshot} {tile : Tile} :
    (board.hasPellet tile || board.hasSuperPellet tile) = true ↔
      ∃ cell, tile = Cell.tile cell ∧ hasItem board cell = true := by
  unfold Snapshot.hasPellet Snapshot.hasSuperPellet
  simp only [hasItem, Bool.or_eq_true, Grid.readOr_eq_true_iff, ← exists_or, ← and_or_left]

section Rows

variable (board : Snapshot)

/-- The number of items after one more tile is looked at. -/
def countItem (items : Nat) (tile : Tile) : Nat :=
  if board.hasPellet tile || board.hasSuperPellet tile then items + 1 else items

/-- The number of items after one more row of the square around a tile is looked at. -/
def countRow (tile : Tile) (radius : Int32) (items : Nat) (row : Int32) : Checked Nat := do
  let left ← Coordinate.sub tile.col radius
  let right ← Coordinate.add tile.col radius
  return (Coordinate.upTo left right).foldl (fun items col => countItem board items ⟨row, col⟩)
    items

/-- The density around a tile, with the square gone through row by row. -/
def densityByRows (config : FieldConfig) (tile : Tile) : Checked Single := do
  let radius := config.clusterRadius.toInt32
  let side ← Coordinate.add (← Coordinate.mul 2 radius) 1
  let top ← Coordinate.sub tile.row radius
  let bottom ← Coordinate.add tile.row radius
  let items ← (Coordinate.upTo top bottom).foldlM (countRow board tile radius) 0
  let area ← Coordinate.mul side side
  return Single.ofNat items / Single.ofInt area.toInt

theorem foldl_countItem (tiles : List Tile) (items : Nat) :
    tiles.foldl (countItem board) items =
      items + tiles.countP (fun tile => board.hasPellet tile || board.hasSuperPellet tile) := by
  induction tiles generalizing items with
  | nil => rfl
  | cons tile rest ih =>
      rw [List.foldl_cons, ih, List.countP_cons, countItem]
      split <;> omega

/-- The tiles of the window are counted once each, and those off the board hold nothing. -/
theorem itemsWithin_eq_foldl (top bottom left right : Int32) :
    itemsWithin board top bottom left right =
      (Coordinate.upTo top bottom).foldl (fun items row =>
        (Coordinate.upTo left right).foldl (fun items col => countItem board items ⟨row, col⟩)
          items) 0 := by
  have hloops : (Coordinate.upTo top bottom).foldl (fun items row =>
        (Coordinate.upTo left right).foldl (fun items col => countItem board items ⟨row, col⟩)
          items) 0 =
      (((Coordinate.upTo top bottom).product (Coordinate.upTo left right)).map
        (fun place => (⟨place.1, place.2⟩ : Tile))).foldl (countItem board) 0 := by
    rw [List.foldl_map, List.product, List.foldl_flatMap]
    simp only [List.foldl_map]
  have hnodup : (((Coordinate.upTo top bottom).product (Coordinate.upTo left right)).map
      (fun place => (⟨place.1, place.2⟩ : Tile))).Nodup := by
    refine List.Nodup.map ?_
      ((Coordinate.nodup_upTo top bottom).product (Coordinate.nodup_upTo left right))
    rintro ⟨row, col⟩ ⟨row', col'⟩ heq
    cases heq
    rfl
  unfold itemsWithin
  rw [hloops, foldl_countItem, Nat.zero_add, Grid.countP_all_eq_ncard, List.countP_eq_length_filter]
  apply Tile.ncard_eq_length (hnodup.filter _)
  intro tile
  simp only [List.mem_filter, List.mem_map, Prod.exists, List.pair_mem_product,
    Coordinate.mem_upTo_iff, Bool.and_eq_true, decide_eq_true_eq]
  constructor
  · rintro ⟨⟨row, col, hbounds, rfl⟩, hitem⟩
    obtain ⟨cell, hcell, hitem⟩ := hasItem_iff.mp hitem
    have hrow : row.toInt = cell.row := by rw [← cell.row_tile, ← hcell]
    have hcol : col.toInt = cell.col := by rw [← cell.col_tile, ← hcell]
    rw [hrow, hcol] at hbounds
    exact ⟨cell, hcell, ⟨⟨hbounds.1, hbounds.2.1⟩, hbounds.2.2⟩, hitem⟩
  · rintro ⟨cell, rfl, ⟨⟨hrow, hleft⟩, hright⟩, hitem⟩
    refine ⟨⟨cell.tile.row, cell.tile.col, ?_, rfl⟩, hasItem_iff.mpr ⟨cell, rfl, hitem⟩⟩
    rw [cell.row_tile, cell.col_tile]
    exact ⟨hrow, hleft, hright⟩

/-- The bounds of the columns are worked out in every row, and not at all when there is none. -/
theorem foldlM_countRow (tile : Tile) (radius top bottom : Int32) :
    (Coordinate.upTo top bottom).foldlM (countRow board tile radius) 0 =
      if top ≤ bottom then do
        let left ← Coordinate.sub tile.col radius
        let right ← Coordinate.add tile.col radius
        pure (itemsWithin board top bottom left right)
      else
        pure 0 := by
  split
  · next hle =>
    have hfirst : top ∈ Coordinate.upTo top bottom :=
      Coordinate.mem_upTo_iff.mpr ⟨le_rfl, Int32.le_iff_toInt_le.mp hle⟩
    obtain ⟨row, rest, hrows⟩ := List.exists_cons_of_ne_nil (List.ne_nil_of_mem hfirst)
    unfold countRow
    cases hleft : Coordinate.sub tile.col radius with
    | error fault => rw [hrows]; rfl
    | ok left =>
        cases hright : Coordinate.add tile.col radius with
        | error fault => rw [hrows]; rfl
        | ok right =>
            simp only [Checked.ok_bind, itemsWithin_eq_foldl]
            exact List.foldlM_pure
  · next hgt =>
    have hnone : Coordinate.upTo top bottom = [] := by
      rw [List.eq_nil_iff_forall_not_mem]
      intro row hrow
      have hbounds := Coordinate.mem_upTo_iff.mp hrow
      exact hgt (Int32.le_iff_toInt_le.mpr (hbounds.1.trans hbounds.2))
    rw [hnone]
    rfl

/-- The density is the one that is found row by row. -/
theorem clusterDensity_eq_densityByRows (config : FieldConfig) (tile : Tile) :
    config.clusterDensity board tile = densityByRows board config tile := by
  unfold clusterDensity densityByRows
  simp only [foldlM_countRow]
  refine bind_congr (fun double => bind_congr (fun side => bind_congr (fun top =>
    bind_congr (fun bottom => ?_))))
  split
  · simp only [bind_assoc]
  · rfl

end Rows

end FieldConfig

/-! ## The tiles of a square -/

/-- The tiles of the board with a pellet of either kind that are at most so many rows and so many
columns away from a tile. -/
def Snapshot.itemTiles (board : Snapshot) (tile : Tile) (radius : Int) : Set Tile :=
  {place | place.onBoard = true ∧ (place.row.toInt - tile.row.toInt).natAbs ≤ radius ∧
    (place.col.toInt - tile.col.toInt).natAbs ≤ radius ∧
    (board.hasPellet place = true ∨ board.hasSuperPellet place = true)}

namespace FieldConfig

variable {config : FieldConfig} {board : Snapshot} {tile place : Tile} {radius : Int}

theorem mem_itemTiles_iff :
    place ∈ board.itemTiles tile radius ↔ ∃ cell, place = Cell.tile cell ∧
      ((cell.row : Int) - tile.row.toInt).natAbs ≤ radius ∧
      ((cell.col : Int) - tile.col.toInt).natAbs ≤ radius ∧ hasItem board cell = true := by
  simp only [Snapshot.itemTiles, Set.mem_ofPred_eq, ← Bool.or_eq_true, hasItem_iff]
  constructor
  · rintro ⟨-, hrow, hcol, cell, rfl, hitem⟩
    rw [cell.row_tile] at hrow
    rw [cell.col_tile] at hcol
    exact ⟨cell, rfl, hrow, hcol, hitem⟩
  · rintro ⟨cell, rfl, hrow, hcol, hitem⟩
    rw [cell.row_tile, cell.col_tile]
    exact ⟨Tile.onBoard_iff.mpr ⟨cell, rfl⟩, hrow, hcol, cell, rfl, hitem⟩

theorem itemTiles_of_neg (board : Snapshot) (tile : Tile) (h : radius < 0) :
    board.itemTiles tile radius = ∅ := by
  apply Set.eq_empty_of_forall_notMem
  rintro place ⟨-, hrow, -⟩
  omega

/-- A tile with pellets of both kinds is counted once. -/
theorem itemsWithin_eq_ncard {top bottom left right : Int32}
    (htop : top.toInt = tile.row.toInt - radius) (hbottom : bottom.toInt = tile.row.toInt + radius)
    (hleft : left.toInt = tile.col.toInt - radius)
    (hright : right.toInt = tile.col.toInt + radius) :
    itemsWithin board top bottom left right = (board.itemTiles tile radius).ncard := by
  unfold itemsWithin
  rw [Grid.countP_all_eq_ncard]
  congr 1
  apply Set.ext
  intro place
  rw [mem_itemTiles_iff]
  refine exists_congr (fun cell => and_congr_right (fun _ => ?_))
  simp only [Bool.and_eq_true, decide_eq_true_eq, ← and_assoc]
  exact and_congr_left (fun _ => by omega)

/-! ## The density -/

/-- As long as the side of the square is a coordinate, only its square may not be one. -/
theorem clusterDensity_eq_bind (htile : tile.onBoard = true)
    (hradius : config.clusterRadius.toInt32.toInt = radius) (hlow : -1073741824 ≤ radius)
    (hhigh : radius < 1073741824) :
    config.clusterDensity board tile = (do
      let area ← Coordinate.ofInt .multiplicationOverflow ((2 * radius + 1) * (2 * radius + 1))
      return Single.ofNat (board.itemTiles tile radius).ncard / Single.ofInt area.toInt) := by
  have hbounds := Tile.bounds htile
  have htwo : (2 : Int32).toInt = 2 := rfl
  have hone : (1 : Int32).toInt = 1 := rfl
  obtain ⟨double, hdouble, hvalue⟩ := Coordinate.ofInt_returns .multiplicationOverflow
    (n := 2 * radius) (by omega) (by omega)
  obtain ⟨side, hside, hvalueSide⟩ := Coordinate.ofInt_returns .additionOverflow
    (n := 2 * radius + 1) (by omega) (by omega)
  obtain ⟨top, htop, hvalueTop⟩ := Coordinate.ofInt_returns .subtractionOverflow
    (n := tile.row.toInt - radius) (by omega) (by omega)
  obtain ⟨bottom, hbottom, hvalueBottom⟩ := Coordinate.ofInt_returns .additionOverflow
    (n := tile.row.toInt + radius) (by omega) (by omega)
  obtain ⟨left, hleft, hvalueLeft⟩ := Coordinate.ofInt_returns .subtractionOverflow
    (n := tile.col.toInt - radius) (by omega) (by omega)
  obtain ⟨right, hright, hvalueRight⟩ := Coordinate.ofInt_returns .additionOverflow
    (n := tile.col.toInt + radius) (by omega) (by omega)
  have hitems : (if top ≤ bottom then itemsWithin board top bottom left right else 0) =
      (board.itemTiles tile radius).ncard := by
    split
    · exact itemsWithin_eq_ncard hvalueTop hvalueBottom hvalueLeft hvalueRight
    · next hnone =>
      rw [Int32.le_iff_toInt_le] at hnone
      rw [itemTiles_of_neg board tile (by omega), Set.ncard_empty]
  unfold clusterDensity Coordinate.add Coordinate.sub Coordinate.mul
  dsimp only
  rw [hradius, htwo, hdouble, Checked.ok_bind, hvalue, hone, hside, Checked.ok_bind, htop,
    Checked.ok_bind, hbottom, Checked.ok_bind, hvalueSide, hleft, hright, ← hitems]
  split <;> rfl

/-- A side that is no coordinate, or whose square is none, is a fault. -/
theorem clusterDensity_eq_error (htile : tile.onBoard = true)
    (h : config.clusterRadius.toInt32.toInt < -23170 ∨
      23169 < config.clusterRadius.toInt32.toInt) :
    config.clusterDensity board tile = .error .multiplicationOverflow := by
  obtain ⟨radius, hradius⟩ : ∃ radius, config.clusterRadius.toInt32.toInt = radius := ⟨_, rfl⟩
  rw [hradius] at h
  by_cases hside : -1073741824 ≤ radius ∧ radius < 1073741824
  · have harea : 2147483648 ≤ (2 * radius + 1) * (2 * radius + 1) := by
      rcases h with hneg | hpos
      · nlinarith only [hneg]
      · nlinarith only [hpos]
    rw [clusterDensity_eq_bind htile hradius hside.1 hside.2,
      Coordinate.ofInt_of_not_mem _ (Or.inr harea), Checked.error_bind]
  · have htwo : (2 : Int32).toInt = 2 := rfl
    unfold clusterDensity Coordinate.mul
    dsimp only
    rw [hradius, htwo, Coordinate.ofInt_of_not_mem _ (by omega), Checked.error_bind]

/-- A square that is in range is counted exactly, and so is the number of its tiles. -/
theorem clusterDensity_eq_ok (htile : tile.onBoard = true)
    (hradius : config.clusterRadius.toInt32.toInt = radius) (hlow : -23170 ≤ radius)
    (hhigh : radius ≤ 23169) :
    config.clusterDensity board tile =
      .ok (Single.ofNat (board.itemTiles tile radius).ncard /
        Single.ofNat ((2 * radius + 1).natAbs ^ 2)) := by
  have hsquare :
      (2 * radius + 1) * (2 * radius + 1) = (((2 * radius + 1).natAbs ^ 2 : Nat) : Int) := by
    rw [Nat.cast_pow, Int.natCast_natAbs, sq_abs, sq]
  have hle : (2 * radius + 1).natAbs ^ 2 ≤ 46339 ^ 2 := Nat.pow_le_pow_left (by omega) 2
  obtain ⟨area, harea, hvalue⟩ := Coordinate.ofInt_returns .multiplicationOverflow
    (n := (2 * radius + 1) * (2 * radius + 1)) (by omega) (by omega)
  rw [clusterDensity_eq_bind htile hradius (by omega) (by omega), harea, Checked.ok_bind, hvalue,
    hsquare, Single.ofInt, if_neg (by omega), Int.natAbs_natCast]
  rfl

theorem clusterDensity_of_le (hradius : config.clusterRadius.toNat ≤ 23169)
    (htile : tile.onBoard = true) :
    config.clusterDensity board tile =
      .ok (Single.ofNat (board.itemTiles tile config.clusterRadius.toNat).ncard /
        Single.ofNat ((2 * config.clusterRadius.toNat + 1) ^ 2)) := by
  have hside : (2 * (config.clusterRadius.toNat : Int) + 1).natAbs =
      2 * config.clusterRadius.toNat + 1 := by omega
  rw [clusterDensity_eq_ok htile (Coordinate.toInt_toInt32 (by omega)) (by omega) (by omega), hside]

/-- A half width that is read as a negative number leaves nothing to count. -/
theorem clusterDensity_of_ge (hradius : 2 ^ 32 - 23170 ≤ config.clusterRadius.toNat)
    (htile : tile.onBoard = true) : config.clusterDensity board tile = .ok 0 := by
  have hlt := config.clusterRadius.toNat_lt
  have hvalue := Coordinate.toInt_toInt32_eq_ite config.clusterRadius
  rw [if_neg (by omega)] at hvalue
  obtain ⟨radius, hread⟩ : ∃ radius, config.clusterRadius.toInt32.toInt = radius := ⟨_, rfl⟩
  have hpos : 0 < (2 * radius + 1).natAbs ^ 2 := Nat.pow_pos (by omega)
  have hle : (2 * radius + 1).natAbs ^ 2 ≤ 46339 ^ 2 := Nat.pow_le_pow_left (by omega) 2
  obtain ⟨units, hcounts⟩ := Single.exists_counts_ofNat hpos (by omega)
  rw [clusterDensity_eq_ok htile hread (by omega) (by omega),
    itemTiles_of_neg board tile (by omega), Set.ncard_empty]
  exact congrArg Except.ok hcounts.zero_div

/-- At a tile on the board, half widths up to 23169 give the share of the tiles that hold a pellet
of either kind. The half widths above fault, except for the last ones, which give zero whatever the
board holds. -/
theorem clusterDensity_eq_ite (config : FieldConfig) (board : Snapshot)
    (htile : tile.onBoard = true) :
    config.clusterDensity board tile =
      if config.clusterRadius.toNat ≤ 23169 then
        .ok (Single.ofNat (board.itemTiles tile config.clusterRadius.toNat).ncard /
          Single.ofNat ((2 * config.clusterRadius.toNat + 1) ^ 2))
      else if config.clusterRadius.toNat < 2 ^ 32 - 23170 then
        .error .multiplicationOverflow
      else
        .ok 0 := by
  have hlt := config.clusterRadius.toNat_lt
  split
  · next hle => exact clusterDensity_of_le hle htile
  · next hgt =>
    split
    · next hwide =>
      apply clusterDensity_eq_error htile
      rw [Coordinate.toInt_toInt32_eq_ite]
      split <;> omega
    · next hwide => exact clusterDensity_of_ge (by omega) htile

/-- A corridor with a pellet, a super pellet and the agent. -/
def shelf : Snapshot where
  sequence := 0
  walls := [⟨1, 1⟩, ⟨1, 2⟩, ⟨1, 3⟩].foldl (fun walls tile => walls.write tile false)
    (Grid.filled true)
  pellets := (Grid.filled false).write ⟨1, 1⟩ true
  superPellets := (Grid.filled false).write ⟨1, 2⟩ true
  fruit := none
  ghosts := []
  agent := ⟨1, 3⟩
  heading := none
  lives := 3
  mode := .chase
  pelletsRemaining := 2

theorem ncard_itemTiles_shelf : (shelf.itemTiles ⟨1, 1⟩ 2).ncard = 2 := by
  have hitems : itemsWithin shelf (-1) 3 (-1) 3 = (shelf.itemTiles ⟨1, 1⟩ 2).ncard :=
    itemsWithin_eq_ncard rfl rfl rfl rfl
  rw [← hitems]
  decide +kernel

/-- Both tiles are counted among the 25 of the square. From the half width 23170 on there is a
fault, and the largest half width of all finds nothing. -/
theorem clusterDensity_eq_ite_shelf :
    (⟨1, 1⟩ : Tile).onBoard = true ∧
      ({} : FieldConfig).clusterDensity shelf ⟨1, 1⟩ = .ok (Single.ofNat 2 / Single.ofNat 25) ∧
      FieldConfig.clusterDensity { clusterRadius := 23170 } shelf ⟨1, 1⟩ =
        .error .multiplicationOverflow ∧
      FieldConfig.clusterDensity { clusterRadius := 4294967295 } shelf ⟨1, 1⟩ = .ok 0 := by
  have htile : (⟨1, 1⟩ : Tile).onBoard = true := by decide
  have hdensity := clusterDensity_eq_ite {} shelf htile
  rw [if_pos (by decide)] at hdensity
  refine ⟨htile, ?_, ?_, ?_⟩
  · rw [hdensity]
    change Except.ok (Single.ofNat (shelf.itemTiles ⟨1, 1⟩ 2).ncard / _) = _
    rw [ncard_itemTiles_shelf]
    rfl
  · exact clusterDensity_eq_ite { clusterRadius := 23170 } shelf htile
  · exact clusterDensity_eq_ite { clusterRadius := 4294967295 } shelf htile

/-- Twice this half width is not a coordinate. -/
def broad : FieldConfig := { clusterRadius := 1073741824 }

/-- The share of a square that is this large is not found. -/
theorem not_clusterDensity_broad :
    (⟨1, 1⟩ : Tile).onBoard = true ∧ broad.clusterRadius.toNat = 2 ^ 30 ∧
      ¬ (broad.clusterDensity shelf ⟨1, 1⟩).Returns (fun density =>
        density = Single.ofNat (shelf.itemTiles ⟨1, 1⟩ (2 ^ 30)).ncard /
          Single.ofNat ((2 * 2 ^ 30 + 1) ^ 2)) := by
  have htile : (⟨1, 1⟩ : Tile).onBoard = true := by decide
  refine ⟨htile, rfl, ?_⟩
  rw [clusterDensity_eq_error htile (by decide)]
  exact fun hreturns => Checked.not_succeeds_error _ hreturns.succeeds

end FieldConfig
end MazeAgent
