import MazeAgent.Proofs.Board.Assembly
import MazeAgent.Proofs.Board.Heading
import MazeAgent.Proofs.Checked
import MazeAgent.Proofs.Field.Density
import MazeAgent.Proofs.Planner.Action

/-!
# Ticks without faults

Sums and differences of coordinates stay in range as long as everything lies on the board, and
so do the squares in which pellets are counted while the square of their side is a coordinate.
So a tick can fault only when something is off the board.

**Results.**
* `Distances.between_tile`: the distance of two cells is never out of range.
* `Planner.tickAt_onBoard`: a tick on a snapshot with everything on the board does not fault.
-/

namespace MazeAgent

/-! ## Tiles on the board -/

section Tiles

variable {a b : Tile}

/-- Differences of coordinates on the board are coordinates. -/
theorem Tile.sub_succeeds (ha : a.onBoard = true) (hb : b.onBoard = true) :
    (Coordinate.sub a.row b.row).Succeeds ∧ (Coordinate.sub a.col b.col).Succeeds := by
  have hbounds := bounds ha
  have hbounds' := bounds hb
  exact ⟨(Coordinate.ofInt_returns _ (by omega) (by omega)).succeeds,
    (Coordinate.ofInt_returns _ (by omega) (by omega)).succeeds⟩

theorem Tile.manhattan_succeeds (ha : a.onBoard = true) (hb : b.onBoard = true) :
    (a.manhattan b).Succeeds := by
  have hbounds := bounds ha
  have hbounds' := bounds hb
  have hsize : UInt32.size = 4294967296 := rfl
  unfold manhattan
  dsimp only
  rw [if_pos (by omega)]
  exact Checked.succeeds_ok _

theorem Tile.isAdjacent_succeeds (ha : a.onBoard = true) (hb : b.onBoard = true) :
    (a.isAdjacent b).Succeeds :=
  (manhattan_succeeds ha hb).bind_ok

theorem Tile.directionTo_succeeds (ha : a.onBoard = true) (hb : b.onBoard = true) :
    (a.directionTo b).Succeeds := by
  obtain ⟨hrow, hcol⟩ := sub_succeeds hb ha
  have hoffset : (a.offsetTo b).Succeeds := by
    apply hrow.bind
    intro row _
    exact hcol.bind_ok
  exact hoffset.bind_ok

theorem Distances.between_succeeds (distances : Distances) (ha : a.onBoard = true)
    (hb : b.onBoard = true) : (distances.between a b).Succeeds := by
  unfold between
  split
  · exact Checked.succeeds_ok _
  · unfold Metric.between
    split
    · obtain ⟨hrow, hcol⟩ := Tile.sub_succeeds ha hb
      apply hrow.bind
      intro rows _
      exact hcol.bind_ok
    · exact (Tile.manhattan_succeeds ha hb).bind_ok

theorem Tile.step_succeeds (ha : a.onBoard = true) (direction : Direction) :
    (a.step direction).Succeeds := by
  obtain ⟨cell, rfl⟩ := onBoard_iff.mp ha
  obtain ⟨next, hstep, -⟩ := step_tile cell direction
  exact ⟨next, hstep, trivial⟩

theorem Snapshot.neighbors_succeeds (board : Snapshot) (ha : a.onBoard = true) :
    (board.neighbors a).Succeeds :=
  neighbors_succeeds_iff.mpr (Tile.step_succeeds ha)

theorem Cell.onBoard_tile (cell : Cell) : cell.tile.onBoard = true :=
  Tile.onBoard_iff.mpr ⟨cell, rfl⟩

theorem Snapshot.onBoard_of_isWalkable {board : Snapshot} (h : board.isWalkable a = true) :
    a.onBoard = true := by
  obtain ⟨cell, rfl, -⟩ := isWalkable_iff.mp h
  exact cell.onBoard_tile

end Tiles

theorem Single.ofUInt32_toUInt32 : ∀ n : Fin 59, ofUInt32 n.val.toUInt32 = ofNat n.val := by
  decide +kernel

/-- The distance of two cells is never out of range. -/
theorem Distances.between_tile (distances : Distances) (a b : Cell) :
    distances.between a.tile b.tile = .ok (distances.ofCells a b) := by
  have ha := Tile.bounds (Cell.onBoard_tile a)
  have hb := Tile.bounds (Cell.onBoard_tile b)
  unfold between ofCells
  cases distances.known? a.tile b.tile with
  | some distance => rfl
  | none =>
      unfold Metric.between Metric.ofCells Metric.span
      cases distances.metric with
      | euclidean =>
          obtain ⟨rows, hrows, hrow⟩ := Coordinate.ofInt_returns .subtractionOverflow
            (n := a.tile.row.toInt - b.tile.row.toInt) (by omega) (by omega)
          obtain ⟨cols, hcols, hcol⟩ := Coordinate.ofInt_returns .subtractionOverflow
            (n := a.tile.col.toInt - b.tile.col.toInt) (by omega) (by omega)
          dsimp only
          unfold Coordinate.sub
          rw [hrows, Checked.ok_bind, hcols, Checked.ok_bind, hrow, hcol, a.row_tile, b.row_tile,
            a.col_tile, b.col_tile]
          rfl
      | manhattan =>
          have hsize : UInt32.size = 4294967296 := rfl
          dsimp only
          unfold Tile.manhattan
          dsimp only
          rw [if_pos (by omega), Checked.ok_bind]
          rw [a.row_tile, b.row_tile, a.col_tile, b.col_tile] at *
          exact congrArg Except.ok (Single.ofUInt32_toUInt32 ⟨_, by omega⟩)

/-! ## Forecasts -/

namespace Forecast

/-- All ghosts were last seen on the board. -/
def OnBoard (forecast : Forecast) : Prop :=
  ∀ color tile, forecast.tiles.get color = some tile → tile.onBoard = true

theorem start_onBoard : start.OnBoard := by
  intro color tile htile
  unfold start at htile
  rw [PerColor.get_fill] at htile
  cases htile

variable {board : Snapshot} {forecast : Forecast}

theorem motionTo_succeeds {earlier : Option Tile} {tile : Tile}
    (hearlier : ∀ other, earlier = some other → other.onBoard = true)
    (htile : tile.onBoard = true) : (motionTo earlier tile).Succeeds := by
  unfold motionTo
  split
  · exact Checked.succeeds_ok _
  · next other =>
    split
    · exact Checked.succeeds_ok _
    · apply (Tile.directionTo_succeeds (hearlier other rfl) htile).bind
      intro direction _
      cases direction <;> exact Checked.succeeds_ok _

theorem read_returns (hghosts : ∀ ghost ∈ board.ghosts, ghost.tile.onBoard = true)
    (hforecast : forecast.OnBoard) :
    (forecast.read board).Returns (fun result => result.1.OnBoard) := by
  have hnote : (board.ghosts.foldlM (note forecast.tiles)
      (PerColor.fill none, PerColor.fill none)).Returns
        (fun noted => ∀ color tile, noted.2.get color = some tile → tile.onBoard = true) := by
    apply Checked.returns_foldlM
    · intro color tile htile
      rw [PerColor.get_fill] at htile
      cases htile
    · intro noted ghost hghost hnoted
      have honBoard := hghosts ghost hghost
      apply (motionTo_succeeds (hforecast ghost.color) honBoard).bind
      intro motion _
      apply Checked.returns_ok
      intro color tile htile
      rw [PerColor.get_set] at htile
      split at htile
      · cases htile
        exact honBoard
      · exact hnoted color tile htile
  exact hnote.bind (fun _ hnoted => Checked.returns_ok hnoted)

theorem revised_succeeds {config : PredictionConfig} {tile : Option Tile}
    {motion : Option Motion} {earlier : Option Odds}
    (htile : ∀ other, tile = some other → other.onBoard = true) :
    (revised config board tile motion earlier).Succeeds := by
  unfold revised
  split
  · next tile direction =>
    have hodds : (config.odds board tile (some direction)).Succeeds :=
      (board.neighbors_succeeds (htile tile rfl)).bind_ok
    exact hodds.bind_ok
  · next tile =>
    have hodds : (config.odds board tile none).Succeeds :=
      (board.neighbors_succeeds (htile tile rfl)).bind_ok
    exact hodds.bind_ok
  · exact Checked.succeeds_ok _
  · exact Checked.succeeds_ok _

theorem observe_returns (config : PredictionConfig)
    (hghosts : ∀ ghost ∈ board.ghosts, ghost.tile.onBoard = true) (hforecast : forecast.OnBoard) :
    (observe config forecast board).Returns (fun result => result.1.OnBoard) := by
  unfold observe
  apply (read_returns hghosts hforecast).bind
  rintro ⟨seen, motions⟩ hseen
  have hrevise : (revise config board motions seen).Returns OnBoard := by
    apply Checked.returns_foldlM hseen
    intro known color _ hknown
    exact (revised_succeeds (hknown color)).bind (fun _ _ => Checked.returns_ok hknown)
  exact hrevise.bind (fun _ hrevised => Checked.returns_ok hrevised)

end Forecast

/-! ## Fields -/

namespace FieldConfig

variable {config : FieldConfig} {board : Snapshot} {distances : Distances} {tile : Tile}

theorem repulsion_succeeds (hboard : board.OnBoard) (htile : tile.onBoard = true) :
    (config.repulsion board distances tile).Succeeds := by
  have hvalues : (board.ghosts.mapM (config.ghostRepulsion board distances tile)).Succeeds := by
    apply Checked.succeeds_mapM
    intro ghost hghost
    apply (distances.between_succeeds htile (hboard.ghosts ghost hghost)).bind
    intro distance _
    split <;> exact Checked.succeeds_ok _
  exact hvalues.bind_ok

/-- The square in which pellets are counted is in range while the square of its side is. -/
theorem clusterDensity_succeeds (hradius : config.clusterRadius.toNat ≤ 23169)
    (htile : tile.onBoard = true) : (config.clusterDensity board tile).Succeeds := by
  rw [clusterDensity_of_le hradius htile]
  exact Checked.succeeds_ok _

theorem pelletReward_succeeds (hradius : config.clusterRadius.toNat ≤ 23169)
    (htile : tile.onBoard = true) : (config.pelletReward board tile).Succeeds := by
  unfold pelletReward
  split
  · exact Checked.succeeds_ok _
  · dsimp only
    split
    · exact Checked.succeeds_ok _
    · exact (clusterDensity_succeeds hradius htile).bind_ok

theorem isThreatened_succeeds (hboard : board.Standing) (htile : tile.onBoard = true) :
    (config.isThreatened board distances tile).Succeeds := by
  apply Checked.succeeds_anyM
  intro ghost hghost
  exact (distances.between_succeeds htile (hboard.threats ghost hghost)).bind_ok

theorem superPelletReward_succeeds (hboard : board.OnBoard) (htile : tile.onBoard = true) :
    (config.superPelletReward board distances tile).Succeeds := by
  unfold superPelletReward
  split
  · exact Checked.succeeds_ok _
  · exact (isThreatened_succeeds hboard.standing htile).bind_ok

theorem firstThreatened_succeeds (hboard : board.Standing) (count : Nat) (cells : List Cell) :
    (config.firstThreatened board distances count cells).Succeeds := by
  induction cells generalizing count with
  | nil => cases count <;> exact Checked.succeeds_ok _
  | cons cell rest ih =>
      cases count with
      | zero => exact Checked.succeeds_ok _
      | succ count =>
          have hcell : (config.isThreatened board distances cell.tile).Succeeds :=
            isThreatened_succeeds hboard cell.onBoard_tile
          obtain ⟨threatened, hthreatened, -⟩ := hcell
          unfold firstThreatened
          rw [hthreatened]
          cases threatened with
          | true => exact (ih count).bind_ok
          | false => exact ih (count + 1)

theorem lures_succeeds (hboard : board.Standing) : (config.lures board distances).Succeeds := by
  unfold lures
  split
  · exact Checked.succeeds_ok _
  · exact firstThreatened_succeeds hboard _ _

theorem lurePull_succeeds (lures : List Cell) (htile : tile.onBoard = true) :
    (config.lurePull distances lures tile).Succeeds := by
  have hall : (lures.mapM (fun cell => distances.between tile cell.tile)).Succeeds := by
    apply Checked.succeeds_mapM
    intro cell _
    exact distances.between_succeeds htile cell.onBoard_tile
  exact hall.bind_ok

theorem fruitReward_succeeds (hboard : board.OnBoard) (htile : tile.onBoard = true) :
    (config.fruitReward board distances tile).Succeeds := by
  unfold fruitReward
  split
  · exact Checked.succeeds_ok _
  · next fruit hfruit =>
    apply (distances.between_succeeds htile (hboard.fruit fruit hfruit)).bind
    intro distance _
    split
    · exact Checked.succeeds_ok _
    · split <;> exact Checked.succeeds_ok _

theorem score_succeeds (hradius : config.clusterRadius.toNat ≤ 23169) (hboard : board.OnBoard)
    (lures : List Cell) (ahead : Option Tile) (cell : Cell) :
    (config.score board distances lures ahead cell).Succeeds := by
  have htile := cell.onBoard_tile
  unfold score
  apply (repulsion_succeeds hboard htile).bind
  intro ghosts _
  apply (pelletReward_succeeds hradius htile).bind
  intro pellet _
  apply (superPelletReward_succeeds hboard htile).bind
  intro superPellet _
  apply (fruitReward_succeeds hboard htile).bind
  intro fruit _
  dsimp only
  split
  · exact Checked.succeeds_ok _
  · exact (lurePull_succeeds lures htile).bind_ok

theorem tileAhead_succeeds (hboard : board.OnBoard) : board.tileAhead.Succeeds := by
  unfold Snapshot.tileAhead
  split
  · exact Checked.succeeds_ok _
  · exact (Tile.step_succeeds hboard.agent _).bind_ok

theorem field_succeeds (hradius : config.clusterRadius.toNat ≤ 23169) (hboard : board.OnBoard) :
    (config.field board distances).Succeeds := by
  unfold field
  apply (lures_succeeds hboard.standing).bind
  intro lures _
  apply (tileAhead_succeeds hboard).bind
  intro ahead _
  have hscores : (board.walls.openCells.foldlM
      (fun (scores : Grid Single) cell => do
        return scores.set cell (← config.score board distances lures ahead cell))
      (Grid.filled 0)).Succeeds := by
    apply Checked.returns_foldlM trivial
    intro scores cell _ _
    exact (score_succeeds hradius hboard lures ahead cell).bind_ok
  exact hscores.bind_ok

end FieldConfig

/-! ## Goals -/

namespace GoalConfig

variable {config : GoalConfig} {board : Snapshot} {field : Field} {forecast : Forecast}
  {distances : Distances}

theorem cheapest_succeeds (hboard : board.Standing) (admits : Single → Bool) :
    (config.cheapest board field forecast distances admits).Succeeds := by
  apply Checked.returns_foldlM trivial
  rintro best ⟨cell, score⟩ _ _
  unfold weigh
  dsimp only
  split
  · exact Checked.succeeds_ok _
  · exact (distances.between_succeeds hboard.agent cell.onBoard_tile).bind_ok

theorem candidate_succeeds (hboard : board.Standing) :
    (config.candidate board field forecast distances).Succeeds := by
  unfold candidate
  apply (cheapest_succeeds hboard _).bind
  intro near _
  split
  · exact (cheapest_succeeds hboard _).bind_ok
  · exact Checked.succeeds_ok _

theorem mem_of_nearest {threats : List (Ghost × Single)} {threat : Ghost × Single}
    (h : nearest threats = some threat) : threat ∈ threats := by
  cases threats with
  | nil => cases h
  | cons first rest =>
      cases h
      apply List.foldlRecOn rest _ List.mem_cons_self
      intro best hbest next hnext
      unfold nearer
      split
      · exact List.mem_cons_of_mem _ hnext
      · exact hbest

theorem nearThreat_returns (hboard : board.Standing) (radius : Single) :
    (nearThreat board distances radius).Returns
      (fun threat => ∀ ghost, threat = some ghost → ghost.tile.onBoard = true) := by
  have hthreats : (threatDistances board distances).Returns
      (fun threats => ∀ threat ∈ threats, threat.1.tile.onBoard = true) := by
    apply Checked.returns_mapM
    intro ghost hghost
    have honBoard := hboard.threats ghost hghost
    exact (distances.between_succeeds hboard.agent honBoard).bind
      (fun _ _ => Checked.returns_ok honBoard)
  apply hthreats.bind
  intro threats honBoard
  apply Checked.returns_ok
  intro ghost hghost
  obtain ⟨threat, hnearest, rfl⟩ := Option.map_eq_some_iff.mp hghost
  exact honBoard threat (List.mem_of_mem_filter (mem_of_nearest hnearest))

theorem farthest_succeeds (hboard : board.Standing) : (farthest board distances).Succeeds := by
  apply Checked.returns_foldlM trivial
  intro best cell _ _
  have hall : (board.threats.mapM
      (fun ghost => distances.between cell.tile ghost.tile)).Succeeds := by
    apply Checked.succeeds_mapM
    intro ghost hghost
    exact distances.between_succeeds cell.onBoard_tile (hboard.threats ghost hghost)
  have hclearance : (clearance board distances cell).Succeeds :=
    hall.bind_ok
  exact hclearance.bind_ok

theorem flight_succeeds (hboard : board.Standing) {tile : Tile} (htile : tile.onBoard = true) :
    (config.flight board distances tile).Succeeds := by
  unfold flight
  split
  · exact Checked.succeeds_ok _
  · apply (nearThreat_returns hboard config.evadeRadius).bind
    rintro (_ | threat) honBoard
    · exact Checked.succeeds_ok _
    · apply (distances.between_succeeds htile (honBoard threat rfl)).bind
      intro distance _
      split
      · exact Checked.succeeds_ok _
      · exact (farthest_succeeds hboard).bind_ok

theorem select_succeeds (hboard : board.Standing) (source : RandomSource) :
    (config.select board field forecast distances source).Succeeds := by
  unfold select
  split
  · exact Checked.succeeds_ok _
  · apply (candidate_succeeds hboard).bind
    rintro (_ | ⟨cell, cost⟩) _
    · apply (board.neighbors_succeeds hboard.agent).bind
      intro ways _
      dsimp only
      split <;> exact Checked.succeeds_ok _
    · apply (flight_succeeds hboard cell.onBoard_tile).bind
      intro goal _
      cases goal <;> exact Checked.succeeds_ok _

end GoalConfig

/-! ## Ticks -/

namespace Planner

variable {σ : Type} {presenter : Presenter σ} {board : Snapshot} {planner : Planner}
  {audience : σ}

/-- The target and the ghosts that were seen lie on the board. -/
structure OnBoard (planner : Planner) : Prop where
  forecast : planner.forecast.OnBoard
  target : ∀ target, planner.target = some target → target.onBoard = true

theorem Acts.onBoard {later : Planner} {decision : Decision}
    (h : Acts board planner decision later) (hplanner : planner.OnBoard) : later.OnBoard := by
  refine ⟨h.forecast_eq ▸ hplanner.forecast, ?_⟩
  intro target htarget
  cases h with
  | step _ _ hnext =>
      cases htarget
      exact hnext.elim (hplanner.target target) Snapshot.onBoard_of_isWalkable
  | wander hnext =>
      cases htarget
      exact Snapshot.onBoard_of_isWalkable hnext.1
  | stay => cases htarget

/-- An outcome that is no fault. -/
def Proceeds (outcome : Outcome) : Prop := ∀ fault, outcome ≠ .stopped fault

theorem approach_proceeds {next : Tile} {state : DecisionState} (hboard : board.OnBoard)
    (hnext : next.onBoard = true) : Proceeds (planner.approach board next state).1 := by
  obtain ⟨direction, hdirection, -⟩ := Tile.directionTo_succeeds hboard.agent hnext
  intro fault hstopped
  unfold approach at hstopped
  rw [hdirection] at hstopped
  cases direction <;> cases hstopped

theorem drawNeighbor_succeeds (planner : Planner) (hboard : board.OnBoard) :
    (planner.drawNeighbor board).Succeeds :=
  (board.neighbors_succeeds hboard.agent).bind_ok

theorem walk_proceeds (hboard : board.OnBoard) : Proceeds (planner.walk board).1 := by
  obtain ⟨⟨found, drawn⟩, hdraw, -⟩ := planner.drawNeighbor_succeeds hboard
  intro fault hstopped
  unfold walk at hstopped
  rw [hdraw] at hstopped
  cases found <;> cases hstopped

theorem follow_proceeds {goal : Tile} {route : List Tile} (hboard : board.OnBoard)
    (hroute : route = [] ∨ board.IsRoute board.agent goal route) :
    Proceeds (planner.follow board route).1 := by
  obtain ⟨ways, hways, -⟩ := board.neighbors_succeeds hboard.agent
  obtain ⟨decision, hdecided⟩ := exists_decided_of_follow planner hways hroute
  intro fault hstopped
  rw [hdecided] at hstopped
  cases hstopped

theorem pursue_proceeds {field : Field} (hboard : board.OnBoard) :
    Proceeds (planner.pursue presenter board field audience).outcome := by
  have hselect : (planner.config.goal.select board field planner.forecast planner.distances
      planner.source).Succeeds := GoalConfig.select_succeeds hboard.standing planner.source
  obtain ⟨⟨goal, source⟩, hselect, -⟩ := hselect
  unfold pursue
  rw [hselect]
  cases goal with
  | ok goal => exact follow_proceeds hboard (board.route_isRoute field _ _ board.agent goal.tile)
  | error error =>
      intro fault hstopped
      cases error <;> cases hstopped

theorem replan_proceeds (hradius : planner.config.field.clusterRadius.toNat ≤ 23169)
    (hboard : board.OnBoard) : Proceeds (planner.replan presenter board audience).outcome := by
  have hfield : (planner.config.field.field board planner.distances).Succeeds :=
    FieldConfig.field_succeeds hradius hboard
  obtain ⟨field, hfield, -⟩ := hfield
  unfold replan
  rw [hfield]
  exact pursue_proceeds hboard

theorem travel_proceeds (hradius : planner.config.field.clusterRadius.toNat ≤ 23169)
    (hboard : board.OnBoard) (hplanner : planner.OnBoard) :
    Proceeds (planner.travel presenter board audience).outcome := by
  unfold travel
  split
  · exact replan_proceeds hradius hboard
  · next target htarget =>
    have htile := hplanner.target target htarget
    obtain ⟨adjacent, hadjacent, -⟩ := Tile.isAdjacent_succeeds hboard.agent htile
    rw [hadjacent]
    cases adjacent with
    | false => exact replan_proceeds hradius hboard
    | true => exact approach_proceeds hboard htile

theorem decide_proceeds {now : Nat} (hradius : planner.config.field.clusterRadius.toNat ≤ 23169)
    (hboard : board.OnBoard) (hplanner : planner.OnBoard) :
    Proceeds (planner.decide presenter board now audience).outcome := by
  unfold decide
  dsimp only
  split
  · exact walk_proceeds hboard
  · exact travel_proceeds hradius hboard ⟨hplanner.forecast, hplanner.target⟩

/-- A tick on a snapshot with everything on the board does not fault, and what the planner
remembers stays on the board. -/
theorem tickAt_onBoard (presenter : Presenter σ) (now : Nat) (audience : σ)
    (hradius : planner.config.field.clusterRadius.toNat ≤ 23169)
    (hboard : board.OnBoard) (hplanner : planner.OnBoard) :
    Proceeds (planner.tickAt presenter board now audience).outcome ∧
      (planner.tickAt presenter board now audience).planner.OnBoard ∧
      (planner.tickAt presenter board now audience).planner.config = planner.config := by
  obtain ⟨⟨forecast, motions⟩, hlook, hforecast⟩ :=
    Forecast.observe_returns planner.config.prediction hboard.ghosts hplanner.forecast
  by_cases hghosts : board.ghosts = []
  · rw [tickAt_of_nil hlook hghosts]
    refine ⟨?_, ⟨hforecast, ?_⟩, by simp⟩
    · intro fault hstopped
      cases hstopped
    · simpa using hplanner.target
  · have hready : OnBoard { planner.sight board.agent now with forecast := forecast } :=
      ⟨hforecast, by simpa using hplanner.target⟩
    have hproceeds : Proceeds (decide presenter board now
        { planner.sight board.agent now with forecast := forecast } audience).outcome :=
      decide_proceeds (by simpa using hradius) hboard hready
    rw [tickAt_of_ne_nil hlook hghosts]
    rcases decide_ends hghosts with ⟨fault, hstopped⟩ | ⟨decision, -, -, hacts⟩
    · exact absurd hstopped (hproceeds fault)
    · refine ⟨hproceeds, hacts.onBoard ⟨hready.forecast, hready.target⟩, ?_⟩
      rw [hacts.config_eq]
      simp

end Planner
end MazeAgent
