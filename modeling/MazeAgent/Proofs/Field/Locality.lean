import MazeAgent.Proofs.Field.Parts

/-!
# What a score depends on

A field is computed from a whole snapshot, and all scores share the super pellets that pull. Still
the score of a tile depends on few things: on what is the same for all tiles, on the pellets in the
square around the tile, and on whether the tile is ahead of the agent.

Two snapshots are compared by running both computations side by side (`Checked.Agrees`). The parts
of a score that read nothing but what the snapshots share are equal. The reward of a pellet is equal
at the tile in question; elsewhere it may differ, but it never faults.

**Results.**
* `Snapshot.Matches`: snapshots that share all that is the same for all tiles.
* `FieldConfig.Counts`: the cells whose pellets count for a tile.
* `FieldConfig.clusterDensity_congr`: the window is a part of the square, also at the edges.
* `FieldConfig.score_agrees`: the scores of two snapshots, cell by cell.
* `FieldConfig.field_local`: the same score on both snapshots.
-/

namespace MazeAgent

namespace Snapshot

/-- Two snapshots agree on all that every score may depend on. -/
structure Matches (a b : Snapshot) : Prop where
  walls : a.walls = b.walls
  ghosts : a.ghosts = b.ghosts
  mode : a.mode = b.mode
  fruit : a.fruit = b.fruit
  superPellets : a.superPellets = b.superPellets
  pelletsRemaining : a.pelletsRemaining = b.pelletsRemaining

/-- A tile is the one directly ahead of the agent. -/
def IsAhead (board : Snapshot) (tile : Tile) : Prop :=
  ∃ direction, board.heading = some direction ∧ board.agent.step direction = .ok tile

theorem tileAhead_eq_some_iff {board : Snapshot} {ahead : Option Tile} {tile : Tile}
    (h : board.tileAhead = .ok ahead) :
    ahead = some tile ↔ board.IsAhead tile ∧ board.isWalkable tile = true := by
  unfold tileAhead at h
  unfold IsAhead
  cases hheading : board.heading with
  | none =>
      rw [hheading] at h
      cases h
      simp
  | some direction =>
      rw [hheading] at h
      obtain ⟨next, hnext, h⟩ := Checked.bind_eq_ok_iff.mp h
      cases h
      simp only [Option.some.injEq, exists_eq_left', hnext, Except.ok.injEq]
      split <;> grind

end Snapshot

namespace FieldConfig

variable {config : FieldConfig} {a b : Snapshot} {distances : Distances} {cell : Cell}

/-! ## What all tiles share -/

section Shared

variable (h : a.Matches b) (config : FieldConfig) (distances : Distances) (tile : Tile)
include h

theorem repulsion_congr :
    config.repulsion a distances tile = config.repulsion b distances tile := by
  have hghost : config.ghostRepulsion a distances tile =
      config.ghostRepulsion b distances tile := by
    funext ghost
    unfold ghostRepulsion
    rw [h.mode, h.pelletsRemaining]
  unfold repulsion
  rw [hghost, h.ghosts]

theorem isThreatened_congr :
    config.isThreatened a distances tile = config.isThreatened b distances tile := by
  unfold isThreatened Snapshot.threats
  rw [h.ghosts]

theorem superPelletReward_congr :
    config.superPelletReward a distances tile = config.superPelletReward b distances tile := by
  unfold superPelletReward Snapshot.hasSuperPellet
  rw [h.superPellets, isThreatened_congr h]

theorem fruitReward_congr :
    config.fruitReward a distances tile = config.fruitReward b distances tile := by
  unfold fruitReward
  rw [h.fruit]

theorem firstThreatened_congr (count : Nat) (cells : List Cell) :
    config.firstThreatened a distances count cells =
      config.firstThreatened b distances count cells := by
  induction cells generalizing count with
  | nil => cases count <;> rfl
  | cons cell rest ih =>
      cases count with
      | zero => rfl
      | succ count =>
          unfold firstThreatened
          rw [isThreatened_congr h, ih, ih]

theorem lures_congr : config.lures a distances = config.lures b distances := by
  unfold lures
  rw [h.superPellets, firstThreatened_congr h]

end Shared

/-! ## Pellets around a tile -/

/-- The cells whose pellets count for the score of a tile: the square around the tile, or only the
tile itself when density has no weight. -/
def Counts (config : FieldConfig) (tile : Tile) (cell : Cell) : Prop :=
  if config.clusterWeight.numEq 0 then
    cell.tile = tile
  else
    ((cell.row : Int) - tile.row.toInt).natAbs ≤ config.clusterRadius.toNat ∧
      ((cell.col : Int) - tile.col.toInt).natAbs ≤ config.clusterRadius.toNat

theorem counts_self (config : FieldConfig) (cell : Cell) : config.Counts cell.tile cell := by
  unfold Counts
  split
  · rfl
  · rw [cell.row_tile, cell.col_tile]
    simp

/-- The window in which pellets are counted is a part of the square around the tile. -/
theorem clusterDensity_congr {tile : Tile} (hradius : config.clusterRadius.toNat ≤ 23169)
    (htile : tile.onBoard = true)
    (hitems : ∀ cell : Cell,
      ((cell.row : Int) - tile.row.toInt).natAbs ≤ config.clusterRadius.toNat →
      ((cell.col : Int) - tile.col.toInt).natAbs ≤ config.clusterRadius.toNat →
        hasItem a cell = hasItem b cell) :
    config.clusterDensity a tile = config.clusterDensity b tile := by
  have hsame : a.itemTiles tile config.clusterRadius.toNat =
      b.itemTiles tile config.clusterRadius.toNat := by
    apply Set.ext
    intro place
    rw [mem_itemTiles_iff, mem_itemTiles_iff]
    refine exists_congr (fun cell => and_congr_right (fun _ => ?_))
    refine and_congr_right (fun hrow => and_congr_right (fun hcol => ?_))
    rw [hitems cell (by omega) (by omega)]
  rw [clusterDensity_of_le hradius htile, clusterDensity_of_le hradius htile, hsame]

/-- The reward of a pellet depends on the pellets that count for its tile. -/
theorem pelletReward_congr (h : a.Matches b) (hradius : config.clusterRadius.toNat ≤ 23169)
    (hpellets : ∀ other, config.Counts cell.tile other →
      a.pellets.get other = b.pellets.get other) :
    config.pelletReward a cell.tile = config.pelletReward b cell.tile := by
  unfold pelletReward
  rw [Snapshot.hasPellet_tile, Snapshot.hasPellet_tile, hpellets cell (config.counts_self cell),
    h.pelletsRemaining]
  dsimp only
  split
  · rfl
  · split
    · rfl
    · next hweight =>
      have hdensity : config.clusterDensity a cell.tile = config.clusterDensity b cell.tile := by
        apply clusterDensity_congr hradius cell.onBoard_tile
        intro other hrow hcol
        have hcounts : config.Counts cell.tile other := by
          unfold Counts
          rw [if_neg hweight]
          exact ⟨hrow, hcol⟩
        unfold hasItem
        rw [hpellets other hcounts, h.superPellets]
      rw [hdensity]

/-! ## Two fields side by side -/

section Agreement

variable {tile : Tile} (h : a.Matches b) (hradius : config.clusterRadius.toNat ≤ 23169)
  (hpellets : ∀ other, config.Counts tile other → a.pellets.get other = b.pellets.get other)
include h hradius hpellets

/-- What a cell is worth by itself is the same at the tile, and elsewhere faults on both snapshots
or on none. -/
theorem base_agrees (cell : Cell) :
    Checked.Agrees (fun x y => cell.tile = tile → x = y)
      (config.base a distances cell.tile) (config.base b distances cell.tile) := by
  have hpellet : Checked.Agrees (fun x y => cell.tile = tile → x = y)
      (config.pelletReward a cell.tile) (config.pelletReward b cell.tile) := by
    by_cases htile : cell.tile = tile
    · subst htile
      exact .of_eq (pelletReward_congr h hradius hpellets) (fun _ _ => rfl)
    · exact .of_succeeds (pelletReward_succeeds hradius cell.onBoard_tile)
        (pelletReward_succeeds hradius cell.onBoard_tile) (fun _ _ heq => absurd heq htile)
  unfold base
  rw [repulsion_congr h, superPelletReward_congr h, fruitReward_congr h]
  apply (Checked.Agrees.of_eq rfl Eq.refl).bind
  rintro ghosts _ rfl
  apply hpellet.bind
  intro x y hxy
  apply (Checked.Agrees.of_eq rfl Eq.refl).bind
  rintro superPellet _ rfl
  apply (Checked.Agrees.of_eq rfl Eq.refl).bind
  rintro fruit _ rfl
  refine .ok (fun htile => ?_)
  rw [hxy htile]

theorem score_agrees {ahead ahead' : Option Tile}
    (hahead : ahead = some tile ↔ ahead' = some tile) (lures : List Cell) (cell : Cell) :
    Checked.Agrees (fun x y => cell.tile = tile → x = y)
      (config.score a distances lures ahead cell) (config.score b distances lures ahead' cell) := by
  rw [score_eq, score_eq]
  apply (base_agrees h hradius hpellets cell).bind
  intro x y hxy
  refine .ok (fun htile => ?_)
  rw [hxy htile, h.superPellets, htile]
  unfold withMomentum
  simp only [hahead]

theorem field_agrees {ahead ahead' : Option Tile} (ha : a.tileAhead = .ok ahead)
    (hb : b.tileAhead = .ok ahead') (hahead : ahead = some tile ↔ ahead' = some tile) :
    Checked.Agrees (fun x y => x.score? tile = y.score? tile)
      (config.field a distances) (config.field b distances) := by
  unfold field
  rw [lures_congr h, ha, hb, h.walls]
  apply (Checked.Agrees.of_eq rfl Eq.refl).bind
  rintro lures _ rfl
  rw [Checked.ok_bind, Checked.ok_bind]
  have hscores : Checked.Agrees
      (fun x y : Grid Single => ∀ cell : Cell, cell.tile = tile → x.get cell = y.get cell)
      (b.walls.openCells.foldlM (fun (scores : Grid Single) cell => do
        return scores.set cell (← config.score a distances lures ahead cell)) (Grid.filled 0))
      (b.walls.openCells.foldlM (fun (scores : Grid Single) cell => do
        return scores.set cell (← config.score b distances lures ahead' cell))
        (Grid.filled 0)) := by
    apply Checked.agrees_foldlM (fun _ _ => rfl)
    intro x y cell hxy
    apply (score_agrees h hradius hpellets hahead lures cell).bind
    intro score score' hscore
    refine .ok (fun other hother => ?_)
    rw [Grid.get_set, Grid.get_set]
    split
    · next heq => exact hscore (heq ▸ hother)
    · exact hxy other hother
  apply hscores.bind
  intro x y hxy
  apply Checked.Agrees.ok
  unfold Field.score? Field.isOpen
  dsimp only
  split
  · next cell hcell => rw [hxy cell (Tile.tile_of_cell? hcell)]
  · rfl

end Agreement

/-- Two snapshots that agree on walls, ghosts, mode, fruit, super pellets and the number of pellets
left, and on the pellets in the square around a tile, give the tile the same score or none, if it
is ahead of the agent on both or on neither. The fields are there when everything lies on the
board; otherwise both fault or none does, unless one of the agents cannot look ahead. -/
theorem field_local {tile : Tile} (hradius : config.clusterRadius.toNat ≤ 23169)
    (hmatches : a.Matches b)
    (hpellets : ∀ cell, config.Counts tile cell → a.pellets.get cell = b.pellets.get cell)
    (hahead : a.IsAhead tile ↔ b.IsAhead tile) :
    (∀ x y, config.field a distances = .ok x → config.field b distances = .ok y →
      x.score? tile = y.score? tile) ∧
    (a.OnBoard → b.OnBoard →
      (config.field a distances).Succeeds ∧ (config.field b distances).Succeeds) ∧
    (a.tileAhead.Succeeds → b.tileAhead.Succeeds →
      ((config.field a distances).Succeeds ↔ (config.field b distances).Succeeds)) := by
  have hagrees {ahead ahead' : Option Tile} (ha : a.tileAhead = .ok ahead)
      (hb : b.tileAhead = .ok ahead') :
      Checked.Agrees (fun x y => x.score? tile = y.score? tile)
        (config.field a distances) (config.field b distances) := by
    apply field_agrees hmatches hradius hpellets ha hb
    rw [Snapshot.tileAhead_eq_some_iff ha, Snapshot.tileAhead_eq_some_iff hb, hahead,
      Snapshot.isWalkable_congr hmatches.walls]
  refine ⟨?_, ?_, ?_⟩
  · intro x y hx hy
    obtain ⟨-, -, ahead, -, ha, -⟩ := exists_scores hx
    obtain ⟨-, -, ahead', -, hb, -⟩ := exists_scores hy
    have hxy := hagrees ha hb
    rw [hx, hy] at hxy
    cases hxy with
    | ok hscore => exact hscore
  · intro ha hb
    exact ⟨field_succeeds hradius ha, field_succeeds hradius hb⟩
  · rintro ⟨ahead, ha, -⟩ ⟨ahead', hb, -⟩
    exact (hagrees ha hb).succeeds_iff

/-- A pellet on the ring with a ghost on it, and the corner ahead of the agent. -/
def homeward : Snapshot := { Snapshot.detour with
  pellets := (Grid.filled false).write ⟨1, 2⟩ true
  superPellets := (Grid.filled false).write ⟨3, 1⟩ true
  ghosts := [⟨.red, ⟨3, 3⟩, false, false, none⟩]
  agent := ⟨2, 1⟩
  heading := some .up
  pelletsRemaining := 2 }

/-- The corner is ahead of an agent that comes from elsewhere, and there is a pellet more behind
the ring. -/
def sideward : Snapshot := { homeward with
  sequence := 7
  pellets := homeward.pellets.write ⟨2, 4⟩ true
  agent := ⟨1, 2⟩
  heading := some .left
  lives := 1 }

theorem field_local_corner :
    ({} : FieldConfig).clusterRadius.toNat ≤ 23169 ∧ homeward.Matches sideward ∧
      (∀ cell, ({} : FieldConfig).Counts ⟨1, 1⟩ cell →
        homeward.pellets.get cell = sideward.pellets.get cell) ∧
      (homeward.IsAhead ⟨1, 1⟩ ↔ sideward.IsAhead ⟨1, 1⟩) ∧
      homeward.pellets ≠ sideward.pellets ∧
      ∃ x y, ({} : FieldConfig).field homeward (.ofMetric .euclidean) = .ok x ∧
        ({} : FieldConfig).field sideward (.ofMetric .euclidean) = .ok y ∧
        x.score? ⟨1, 1⟩ = y.score? ⟨1, 1⟩ := by
  have hradius : ({} : FieldConfig).clusterRadius.toNat ≤ 23169 := by decide
  have hmatches : homeward.Matches sideward := ⟨rfl, rfl, rfl, rfl, rfl, rfl⟩
  have hpellets : ∀ cell, ({} : FieldConfig).Counts ⟨1, 1⟩ cell →
      homeward.pellets.get cell = sideward.pellets.get cell := by
    intro cell hcounts
    have hcolumn : ((cell.col : Int) - (1 : Int32).toInt).natAbs ≤ (2 : UInt32).toNat := by
      unfold Counts at hcounts
      rw [if_neg (by decide +kernel)] at hcounts
      exact hcounts.2
    change _ = (homeward.pellets.write ⟨2, 4⟩ true).get cell
    rw [Grid.get_write, if_neg]
    intro htile
    have hcell : (4 : Int32).toInt = cell.col := by rw [← cell.col_tile, ← htile]
    have hone : (1 : Int32).toInt = 1 := rfl
    have hfour : (4 : Int32).toInt = 4 := rfl
    have htwo : (2 : UInt32).toNat = 2 := rfl
    omega
  have hahead : homeward.IsAhead ⟨1, 1⟩ ↔ sideward.IsAhead ⟨1, 1⟩ :=
    iff_of_true ⟨.up, rfl, by decide⟩ ⟨.left, rfl, by decide⟩
  have hdiffer : homeward.pellets ≠ sideward.pellets := by
    intro heq
    have hbehind : homeward.pellets.get ⟨60⟩ = sideward.pellets.get ⟨60⟩ := by rw [heq]
    revert hbehind
    decide +kernel
  have hleft : homeward.OnBoard := ⟨by decide, by decide, fun _ hfruit => nomatch hfruit⟩
  have hright : sideward.OnBoard := ⟨by decide, by decide, fun _ hfruit => nomatch hfruit⟩
  obtain ⟨hsame, hfields, -⟩ :=
    @field_local {} homeward sideward (.ofMetric .euclidean) ⟨1, 1⟩ hradius hmatches hpellets hahead
  obtain ⟨⟨x, hx, -⟩, y, hy, -⟩ := hfields hleft hright
  exact ⟨hradius, hmatches, hpellets, hahead, hdiffer, x, y, hx, hy, hsame x y hx hy⟩

end FieldConfig
end MazeAgent
