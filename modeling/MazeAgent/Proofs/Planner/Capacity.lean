import MazeAgent.Proofs.Planner.Run
import MazeAgent.Proofs.Route.Capacity

/-!
# What a tick has room for

A run on snapshots that have been built, with a fruit that lies on the board if there is one, goes
on for ever: every tick decides when there are ghosts and is skipped when there are none, whatever
the planner has kept from other boards. Nothing that a tick collects or counts outgrows the room
there is for it.

**Results.**
* `Forecast.Capped`: the odds of a ghost have at most four entries.
* `Planner.Run.tick_contained`: every tick of such a run stays within its bounds.
-/

namespace MazeAgent

/-! ## Odds -/

namespace Forecast

/-- The odds of every ghost have at most four entries. -/
def Capped (forecast : Forecast) : Prop :=
  ∀ color odds, forecast.odds.get color = some odds → odds.entries.length ≤ 4

theorem start_capped : start.Capped := by
  intro color odds hodds
  unfold start at hodds
  rw [PerColor.get_fill] at hodds
  cases hodds

theorem length_odds_le {config : PredictionConfig} {board : Snapshot} {tile : Tile}
    {heading : Option Direction} {odds : Odds} (h : config.odds board tile heading = .ok odds) :
    odds.entries.length ≤ 4 := by
  obtain ⟨ways, hways, hodds⟩ := Checked.bind_eq_ok_iff.mp h
  have hlength := Snapshot.length_neighbors_le hways
  cases hodds
  unfold PredictionConfig.oddsOfWays
  split
  · simp [Odds.deadEnd]
  · unfold PredictionConfig.normalized PredictionConfig.weights
    cases heading <;> dsimp only <;> split <;> simpa using hlength

theorem length_revised_le {config : PredictionConfig} {board : Snapshot} {tile : Option Tile}
    {motion : Option Motion} {earlier revised : Option Odds}
    (hearlier : ∀ odds, earlier = some odds → odds.entries.length ≤ 4)
    (h : Forecast.revised config board tile motion earlier = .ok revised) (odds : Odds)
    (hodds : revised = some odds) : odds.entries.length ≤ 4 := by
  unfold Forecast.revised at h
  split at h
  · obtain ⟨other, hother, hrevised⟩ := Checked.bind_eq_ok_iff.mp h
    cases hrevised
    cases hodds
    exact length_odds_le hother
  · obtain ⟨other, hother, hrevised⟩ := Checked.bind_eq_ok_iff.mp h
    cases hrevised
    cases hodds
    exact length_odds_le hother
  · cases h
    exact hearlier odds hodds
  · cases h
    cases hodds

/-- Looking at a snapshot keeps the odds capped. -/
theorem Capped.observe {config : PredictionConfig} {board : Snapshot} {forecast later : Forecast}
    {motions : Motions} (h : forecast.Capped)
    (hlook : Forecast.observe config forecast board = .ok (later, motions)) : later.Capped := by
  obtain ⟨⟨seen, noted⟩, hread, hlook⟩ := Checked.bind_eq_ok_iff.mp hlook
  obtain ⟨revised, hrevise, hlater⟩ := Checked.bind_eq_ok_iff.mp hlook
  cases hlater
  have hseen : seen.Capped := by
    obtain ⟨⟨_, tiles⟩, -, hread⟩ := Checked.bind_eq_ok_iff.mp hread
    cases hread
    exact h
  -- The odds are revised one colour after the other.
  refine Checked.keeps_foldlM ?_ hrevise hseen
  intro known color after hknown hcolor
  obtain ⟨odds, hodds, hafter⟩ := Checked.bind_eq_ok_iff.mp hcolor
  cases hafter
  intro other found hfound
  rw [PerColor.get_set] at hfound
  split at hfound
  · exact length_revised_le (hknown color) hodds found hfound
  · exact hknown other found hfound

end Forecast

/-! ## Pellets -/

namespace FieldConfig

variable {config : FieldConfig} {board : Snapshot} {distances : Distances}

theorem length_firstThreatened_le {count : Nat} {cells lures : List Cell}
    (h : config.firstThreatened board distances count cells = .ok lures) :
    lures.length ≤ count := by
  induction cells generalizing count lures with
  | nil => cases count <;> cases h <;> exact Nat.zero_le _
  | cons cell rest ih =>
      cases count with
      | zero =>
          cases h
          exact Nat.le_refl 0
      | succ count =>
          unfold firstThreatened at h
          split at h
          · cases h
          · obtain ⟨others, hothers, hlures⟩ := Checked.bind_eq_ok_iff.mp h
            cases hlures
            exact Nat.succ_le_succ (ih hothers)
          · exact ih h

theorem lures_returns (config : FieldConfig) (distances : Distances) (hboard : board.OnBoard) :
    (config.lures board distances).Returns (fun lures => lures.length ≤ lureLimit) := by
  have hlures : (config.lures board distances).Succeeds := lures_succeeds hboard.standing
  obtain ⟨lures, hlures, -⟩ := hlures
  refine ⟨lures, hlures, ?_⟩
  unfold FieldConfig.lures at hlures
  split at hlures
  · cases hlures
    exact Nat.zero_le _
  · exact length_firstThreatened_le hlures

/-- A window does not hold more pellets than the board has cells. -/
theorem itemsWithin_le (board : Snapshot) (top bottom left right : Int32) :
    itemsWithin board top bottom left right ≤ 868 := by
  have hall : Cell.all.length = 868 := by simp [Cell.all]
  exact hall ▸ List.countP_le_length

end FieldConfig

/-! ## Runs -/

namespace Planner
namespace Run

variable {σ : Type} {run : Run σ} {k : Nat}

/-- A tick that does not fault keeps the forecast that it makes. -/
theorem forecast_succ (hfaultless : run.IsFaultless (k + 1)) :
    ∃ motions, Forecast.observe (run.planner k).config.prediction (run.planner k).forecast
      (run.boards k) = .ok ((run.planner (k + 1)).forecast, motions) := by
  obtain ⟨forecast, motions, hlook⟩ := exists_look hfaultless
  refine ⟨motions, ?_⟩
  rw [hlook, planner_succ]
  by_cases hghosts : (run.boards k).ghosts = []
  · rw [tick_skips hlook hghosts]
    rfl
  · have htick := tick_decides hlook hghosts
    rcases decide_ends hghosts with ⟨fault, hstopped⟩ | ⟨decision, -, -, hacts⟩
    · rw [← htick] at hstopped
      exact absurd hstopped (hfaultless k (Nat.lt_succ_self k) fault)
    · rw [← htick] at hacts
      rw [hacts.forecast_eq]

theorem forecast_capped (hfaultless : run.IsFaultless k) : (run.planner k).forecast.Capped := by
  induction k with
  | zero => exact Forecast.start_capped
  | succ k ih =>
      obtain ⟨motions, hlook⟩ := forecast_succ hfaultless
      exact (ih hfaultless.of_succ).observe hlook

/-- A tick decides or is skipped, and what it collects and counts stays within its bounds. -/
structure Contained (run : Run σ) (k : Nat) : Prop where
  skips : (run.boards k).ghosts = [] → (run.tick k).outcome = .skipped
  decides : (run.boards k).ghosts ≠ [] → ∃ decision, (run.tick k).outcome = .decided decision
  ghosts_le : (run.boards k).ghosts.length ≤ maxGhosts
  /-- Around a cell there is nothing that is off the board and open. -/
  neighbors : ∀ cell, ∃ ways, (run.boards k).neighbors cell.tile = .ok ways ∧
    ways.map Prod.snd = ((run.boards k).walls.exits cell).map Cell.tile ∧ ways.length ≤ 4
  distance : ∀ a b, run.distances.between a.tile b.tile = .ok (run.distances.ofCells a b)
  odds_le : ∀ color odds, (run.tick k).planner.forecast.odds.get color = some odds →
    odds.entries.length ≤ 4
  lures_le : ∃ lures, run.config.field.lures (run.boards k) run.distances = .ok lures ∧
    lures.length ≤ FieldConfig.lureLimit
  items_le : ∀ top bottom left right,
    FieldConfig.itemsWithin (run.boards k) top bottom left right ≤ 868
  /-- However far a search for any goal in any field goes on, its counts stay small. -/
  search : ∀ (field : Field) source goal count search,
    (run.boards k).walls.isOpen source = true →
      Search.after (run.boards k).walls (field.estimate run.distances goal) goal count
        (Search.start (field.estimate run.distances goal) source) = some search →
          Search.Contained count search

/-- Every tick on snapshots that have been built stays within its bounds, also when walls, agent
and ghosts change in any way from tick to tick. -/
theorem tick_contained (hradius : run.config.field.clusterRadius.toNat ≤ 23169)
    (hbuilt : ∀ k, ∃ setup : Setup, setup.build = .ok (run.boards k))
    (hfruit : ∀ k fruit, (run.boards k).fruit = some fruit → fruit.tile.onBoard = true) (k : Nat) :
    run.Contained k := by
  have hstanding (i : Nat) : (run.boards i).Standing ∧ (run.boards i).ghosts.length ≤ maxGhosts :=
    Setup.exists_build_iff.mp (hbuilt i)
  have honBoard (i : Nat) : (run.boards i).OnBoard :=
    ⟨(hstanding i).1.agent, (hstanding i).1.ghosts, hfruit i⟩
  have hfaultless := isFaultless_of_onBoard hradius honBoard (k + 1)
  refine ⟨?_, ?_, (hstanding k).2, ?_, run.distances.between_tile,
    forecast_capped hfaultless, FieldConfig.lures_returns _ _ (honBoard k),
    FieldConfig.itemsWithin_le _, ?_⟩
  · intro hghosts
    exact (tick_of_nil hfaultless hghosts).1
  · intro hghosts
    obtain ⟨-, decision, hdecided, -⟩ := tick_acts hfaultless hghosts
    exact ⟨decision, hdecided⟩
  · intro cell
    obtain ⟨ways, hways, hexits⟩ := (run.boards k).neighbors_tile cell
    exact ⟨ways, hways, hexits, Snapshot.length_neighbors_le hways⟩
  · intro field source goal count search hsource hafter
    exact Search.contained_of_after hsource hafter

/-- The walls come and go, the agent and the ghosts are moved across the board, and every third
snapshot has no ghosts. -/
def upheaval : Run Unit where
  config := Config.standard
  distances := Distances.ofMetric .manhattan
  source := RandomSource.cyclic #[0]
  audience := ()
  presenters _ := Presenter.silent
  boards k :=
    match k % 3 with
    | 0 => { Snapshot.detour with ghosts := [⟨.red, ⟨3, 3⟩, false, false, none⟩] }
    | 1 =>
        { Snapshot.detour with
          walls := Grid.filled false
          pellets := Grid.filled true
          fruit := some ⟨⟨0, 27⟩, 5, 10⟩
          agent := ⟨30, 27⟩
          ghosts := [⟨.red, ⟨0, 0⟩, false, false, none⟩, ⟨.pink, ⟨30, 0⟩, true, false, none⟩,
            ⟨.cyan, ⟨0, 27⟩, false, true, none⟩, ⟨.orange, ⟨30, 26⟩, false, false, none⟩] }
    | _ => Snapshot.detour
  times k := k * 1000000001

theorem tick_contained_upheaval :
    upheaval.config.field.clusterRadius.toNat ≤ 23169 ∧
      (∀ k, ∃ setup : Setup, setup.build = .ok (upheaval.boards k)) ∧
      (∀ k fruit, (upheaval.boards k).fruit = some fruit → fruit.tile.onBoard = true) ∧
      upheaval.Contained 4 := by
  have hboards (k : Nat) : (upheaval.boards k).OnBoard ∧
      (upheaval.boards k).ghosts.length ≤ maxGhosts := by
    unfold upheaval
    dsimp only
    split
    · exact ⟨⟨by decide, by decide, by simp [Snapshot.detour]⟩, by decide⟩
    · exact ⟨⟨by decide, by decide, by simp; decide⟩, by decide⟩
    · exact ⟨⟨by decide, by decide, by simp [Snapshot.detour]⟩, by decide⟩
  have hradius : upheaval.config.field.clusterRadius.toNat ≤ 23169 := by decide
  have hbuilt : ∀ k, ∃ setup : Setup, setup.build = .ok (upheaval.boards k) :=
    fun k => Setup.exists_build_iff.mpr ⟨(hboards k).1.standing, (hboards k).2⟩
  have hfruit : ∀ k fruit, (upheaval.boards k).fruit = some fruit → fruit.tile.onBoard = true :=
    fun k => (hboards k).1.fruit
  exact ⟨hradius, hbuilt, hfruit, tick_contained hradius hbuilt hfruit 4⟩

end Run
end Planner
end MazeAgent
