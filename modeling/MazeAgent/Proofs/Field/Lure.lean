import MazeAgent.Proofs.Field.Parts

/-!
# The pull of super pellets

A super pellet with a threat near it pulls at the tiles around it that have no super pellet
themselves. The pull is collected once for all tiles, and only the first eight threatened super
pellets in reading order are collected: the others do not pull, however near they are.

**Results.**
* `FieldConfig.threatened`: the super pellets with a threat near them.
* `FieldConfig.lures_eq_take`: which super pellets pull.
* `FieldConfig.field_pulled`: what every computed field subtracts.
* `FieldConfig.not_pulled_by_all`: a ninth threatened super pellet is left out.
-/

namespace MazeAgent

namespace Distances

/-- The distance of two tiles is less than a radius. -/
def IsCloser (distances : Distances) (radius : Single) (a b : Tile) : Prop :=
  ∃ distance, distances.between a b = .ok distance ∧ distance < radius

variable {distances : Distances} {radius : Single} {a b : Tile}

theorem isCloser_iff :
    distances.IsCloser radius a b ↔
      (do return decide ((← distances.between a b) < radius) : Checked Bool) = .ok true := by
  unfold IsCloser
  rw [Checked.bind_eq_ok_iff]
  constructor
  · rintro ⟨distance, hdistance, hlt⟩
    exact ⟨distance, hdistance, congrArg Except.ok (decide_eq_true hlt)⟩
  · rintro ⟨distance, hdistance, hlt⟩
    exact ⟨distance, hdistance, of_decide_eq_true (Except.ok.inj hlt)⟩

instance (distances : Distances) (radius : Single) (a b : Tile) :
    Decidable (distances.IsCloser radius a b) :=
  decidable_of_iff _ isCloser_iff.symm

end Distances

namespace FieldConfig

variable {config : FieldConfig} {board : Snapshot} {distances : Distances} {cell : Cell}

/-! ## Threatened super pellets -/

/-- A threat stands near a tile. -/
def IsUnderThreat (config : FieldConfig) (board : Snapshot) (distances : Distances)
    (tile : Tile) : Prop :=
  ∃ threat ∈ board.threats, distances.IsCloser config.superPelletThreatRadius tile threat.tile

instance (config : FieldConfig) (board : Snapshot) (distances : Distances) (tile : Tile) :
    Decidable (config.IsUnderThreat board distances tile) :=
  inferInstanceAs (Decidable (∃ threat ∈ board.threats, _))

/-- The super pellets with a threat near them, in reading order. -/
def threatened (config : FieldConfig) (board : Snapshot) (distances : Distances) : List Cell :=
  board.superPellets.marked.filter (fun cell => config.IsUnderThreat board distances cell.tile)

theorem isThreatened_eq_ok {tile : Tile} {found : Bool}
    (h : config.isThreatened board distances tile = .ok found) :
    found = decide (config.IsUnderThreat board distances tile) := by
  have hfound := Checked.anyM_eq_ok h
  simp only [← Distances.isCloser_iff] at hfound
  cases found with
  | true => exact (decide_eq_true (hfound.mp rfl)).symm
  | false => exact (decide_eq_false (fun hthreat => nomatch hfound.mpr hthreat)).symm

/-- The scan stops as soon as it has found enough. -/
theorem firstThreatened_eq_ok {count : Nat} {cells found : List Cell}
    (h : config.firstThreatened board distances count cells = .ok found) :
    found = (cells.filter
      (fun cell => config.IsUnderThreat board distances cell.tile)).take count := by
  induction cells generalizing count found with
  | nil => cases count <;> cases h <;> rfl
  | cons cell rest ih =>
      cases count with
      | zero =>
          cases h
          rfl
      | succ count =>
          unfold firstThreatened at h
          split at h
          · cases h
          · next hcell =>
            obtain ⟨others, hothers, hfound⟩ := Checked.bind_eq_ok_iff.mp h
            cases hfound
            have hnear := (isThreatened_eq_ok hcell).symm
            rw [List.filter_cons_of_pos (by simpa using hnear), List.take_succ_cons, ← ih hothers]
          · next hcell =>
            have hsafe := (isThreatened_eq_ok hcell).symm
            rw [List.filter_cons_of_neg (by simpa using hsafe)]
            exact ih h

/-- The super pellets that pull are the first threatened ones. -/
theorem lures_eq_take {lures : List Cell} (hlure : config.superPelletLure.numEq 0 = false)
    (h : config.lures board distances = .ok lures) :
    lures = (config.threatened board distances).take lureLimit := by
  unfold FieldConfig.lures at h
  rw [if_neg (by simp [hlure])] at h
  exact firstThreatened_eq_ok h

/-! ## What a field subtracts -/

/-- The score of an open cell without a super pellet in a field that is computed. -/
theorem exists_base_of_field {field : Field} (hlure : config.superPelletLure.numEq 0 = false)
    (hopen : board.walls.isOpen cell = true) (hplain : board.superPellets.get cell = false)
    (hfield : config.field board distances = .ok field) :
    ∃ base ahead, config.base board distances cell.tile = .ok base ∧
      board.tileAhead = .ok ahead ∧
      field.score? cell.tile = some (config.withMomentum ahead cell.tile (base -
        config.pull distances ((config.threatened board distances).take lureLimit) cell)) := by
  obtain ⟨hwalls, lures, ahead, hlures, hahead, hscores⟩ := exists_scores hfield
  have htake := lures_eq_take hlure hlures
  have hscore := hscores cell hopen
  rw [score_eq, hplain, Checked.bind_eq_ok_iff] at hscore
  obtain ⟨base, hbase, hscore⟩ := hscore
  refine ⟨base, ahead, hbase, hahead, ?_⟩
  rw [score?_tile hwalls hopen, ← htake]
  exact congrArg some (Except.ok.inj hscore).symm

/-- Every computed field subtracts the pull of the first eight threatened super pellets from the
score of an open cell without a super pellet. That is the pull of all of them as long as there
are at most eight. -/
theorem field_pulled (hlure : config.superPelletLure.numEq 0 = false)
    (hopen : board.walls.isOpen cell = true) (hplain : board.superPellets.get cell = false) :
    (board.Standing → ∃ lures, config.lures board distances = .ok lures ∧
      config.lurePull distances lures cell.tile =
        .ok (config.pull distances ((config.threatened board distances).take 8) cell)) ∧
    (∀ field, config.field board distances = .ok field →
      ∃ base ahead, config.base board distances cell.tile = .ok base ∧
        board.tileAhead = .ok ahead ∧
        field.score? cell.tile = some (config.withMomentum ahead cell.tile (base -
          config.pull distances ((config.threatened board distances).take 8) cell))) ∧
    ((config.threatened board distances).length ≤ 8 →
      (config.threatened board distances).take 8 = config.threatened board distances) := by
  refine ⟨?_, ?_, List.take_of_length_le⟩
  · intro hboard
    have hfound : (config.lures board distances).Succeeds := lures_succeeds hboard
    obtain ⟨lures, hlures, -⟩ := hfound
    have htake := lures_eq_take hlure hlures
    refine ⟨lures, hlures, ?_⟩
    rw [lurePull_tile, htake, lureLimit]
  · intro field hfield
    exact exists_base_of_field hlure hopen hplain hfield

/-- A super pellet on each of nine tiles around a ghost, and the agent beside the last of them. -/
def bastion : Snapshot where
  sequence := 0
  walls := [⟨1, 1⟩, ⟨1, 2⟩, ⟨1, 3⟩, ⟨2, 1⟩, ⟨2, 2⟩, ⟨2, 3⟩, ⟨3, 1⟩, ⟨3, 2⟩, ⟨3, 3⟩, ⟨3, 4⟩].foldl
    (fun walls tile => walls.write tile false) (Grid.filled true)
  pellets := Grid.filled false
  superPellets := [⟨1, 1⟩, ⟨1, 2⟩, ⟨1, 3⟩, ⟨2, 1⟩, ⟨2, 2⟩, ⟨2, 3⟩, ⟨3, 1⟩, ⟨3, 2⟩, ⟨3, 3⟩].foldl
    (fun items tile => items.write tile true) (Grid.filled false)
  fruit := none
  ghosts := [⟨.red, ⟨2, 2⟩, false, false, none⟩]
  agent := ⟨3, 4⟩
  heading := none
  lives := 3
  mode := .chase
  pelletsRemaining := 9

theorem marked_bastion : bastion.superPellets.marked =
    [⟨29⟩, ⟨30⟩, ⟨31⟩, ⟨57⟩, ⟨58⟩, ⟨59⟩, ⟨85⟩, ⟨86⟩, ⟨87⟩] := by
  have hitem (cell : Cell) : bastion.superPellets.get cell = decide (cell.tile ∈
      [⟨1, 1⟩, ⟨1, 2⟩, ⟨1, 3⟩, ⟨2, 1⟩, ⟨2, 2⟩, ⟨2, 3⟩, ⟨3, 1⟩, ⟨3, 2⟩, ⟨3, 3⟩]) := by
    unfold bastion
    dsimp only
    rw [Grid.get_foldl_write, Grid.get_filled]
    split <;> simp [*]
  rw [Grid.marked, funext hitem]
  decide +kernel

/-- The ghost threatens all nine. -/
theorem threatened_bastion :
    threatened {} bastion (.ofMetric .manhattan) =
      [⟨29⟩, ⟨30⟩, ⟨31⟩, ⟨57⟩, ⟨58⟩, ⟨59⟩, ⟨85⟩, ⟨86⟩, ⟨87⟩] := by
  rw [threatened, marked_bastion]
  decide +kernel

theorem base_bastion :
    base {} bastion (.ofMetric .manhattan) ⟨3, 4⟩ = .ok ⟨0x42a6aaab⟩ := by
  decide +kernel

theorem place_bastion : ({} : FieldConfig).superPelletLure.numEq 0 = false ∧
    bastion.walls.isOpen ⟨88⟩ = true ∧ bastion.superPellets.get ⟨88⟩ = false := by
  decide +kernel

theorem bastion_onBoard : bastion.OnBoard :=
  ⟨by decide, by decide, fun _ hfruit => nomatch hfruit⟩

theorem exists_field_bastion :
    ∃ field, ({} : FieldConfig).field bastion (.ofMetric .manhattan) = .ok field := by
  have hfield : (({} : FieldConfig).field bastion (.ofMetric .manhattan)).Succeeds :=
    field_succeeds (by decide) bastion_onBoard
  obtain ⟨field, hfield, -⟩ := hfield
  exact ⟨field, hfield⟩

/-- Beside the agent all nine super pellets are near, and eight of them pull. -/
theorem field_pulled_bastion :
    ({} : FieldConfig).superPelletLure.numEq 0 = false ∧ bastion.walls.isOpen ⟨88⟩ = true ∧
      bastion.superPellets.get ⟨88⟩ = false ∧ bastion.Standing ∧
      (threatened {} bastion (.ofMetric .manhattan)).length = 9 ∧
      ∃ field, ({} : FieldConfig).field bastion (.ofMetric .manhattan) = .ok field ∧
        field.score? ⟨3, 4⟩ = some (⟨0x42a6aaab⟩ - 405) := by
  obtain ⟨hlure, hopen, hplain⟩ := place_bastion
  have hlength : (threatened {} bastion (.ofMetric .manhattan)).length = 9 := by
    rw [threatened_bastion]
    rfl
  have hpull : pull {} (.ofMetric .manhattan)
      [⟨29⟩, ⟨30⟩, ⟨31⟩, ⟨57⟩, ⟨58⟩, ⟨59⟩, ⟨85⟩, ⟨86⟩] ⟨88⟩ = 405 := by decide +kernel
  obtain ⟨field, hfield⟩ := exists_field_bastion
  obtain ⟨base, ahead, hbase, hahead, hscore⟩ :=
    (field_pulled hlure hopen hplain).2.1 field hfield
  obtain rfl := Except.ok.inj (base_bastion.symm.trans hbase)
  cases hahead
  rw [threatened_bastion] at hscore
  refine ⟨hlure, hopen, hplain, bastion_onBoard.standing, hlength, field, hfield, ?_⟩
  rw [← hpull]
  exact hscore

/-- Not every threatened super pellet that is near pulls. -/
theorem not_pulled_by_all :
    ¬ ∀ (config : FieldConfig) (board : Snapshot) (distances : Distances) (field : Field)
      (cell : Cell), config.superPelletLure.numEq 0 = false → board.OnBoard →
      board.walls.isOpen cell = true → board.superPellets.get cell = false →
      config.field board distances = .ok field →
      ∃ base ahead, config.base board distances cell.tile = .ok base ∧
        board.tileAhead = .ok ahead ∧
        field.score? cell.tile = some (config.withMomentum ahead cell.tile (base -
          config.pull distances (config.threatened board distances) cell)) := by
  intro hclaim
  obtain ⟨hlure, hopen, hplain⟩ := place_bastion
  obtain ⟨field, hfield⟩ := exists_field_bastion
  obtain ⟨base, ahead, hbase, hahead, hscore⟩ := exists_base_of_field hlure hopen hplain hfield
  obtain ⟨base', ahead', hbase', hahead', hclaimed⟩ := hclaim {} bastion (.ofMetric .manhattan)
    field ⟨88⟩ hlure bastion_onBoard hopen hplain hfield
  obtain rfl := Except.ok.inj (base_bastion.symm.trans hbase)
  obtain rfl := Except.ok.inj (hbase.symm.trans hbase')
  cases hahead
  cases hahead'
  -- The ninth super pellet is the one next to the agent.
  have hdiffer : (⟨0x42a6aaab⟩ - pull {} (.ofMetric .manhattan)
      [⟨29⟩, ⟨30⟩, ⟨31⟩, ⟨57⟩, ⟨58⟩, ⟨59⟩, ⟨85⟩, ⟨86⟩] ⟨88⟩ : Single) ≠
      ⟨0x42a6aaab⟩ - pull {} (.ofMetric .manhattan)
        [⟨29⟩, ⟨30⟩, ⟨31⟩, ⟨57⟩, ⟨58⟩, ⟨59⟩, ⟨85⟩, ⟨86⟩, ⟨87⟩] ⟨88⟩ := by
    decide +kernel
  rw [hscore, threatened_bastion] at hclaimed
  exact hdiffer (Option.some.inj hclaimed)

end FieldConfig
end MazeAgent
