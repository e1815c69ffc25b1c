import MazeAgent.Proofs.Field.Parts

/-!
# Runs of the planner

A passage is a planner that meets one snapshot after the other, at any times, and a run is a
passage of a fresh planner. The target is kept while the agent is moved about, so a step to it is
right only because the target could be entered when it was chosen, and the walls have not changed
since.

**Results.**
* `Planner.Passage`, `Planner.Run`: a planner, or a fresh planner, and all that it meets.
* `Planner.Aims`: the target, if there is one, can be entered.
* `Decision.Fits`: the command, the target and the state fit the neighbours of the agent.
* `Planner.Run.isFaultless_of_onBoard`: nothing faults while everything lies on the board.
* `Planner.Run.tick_fits`: every tick with ghosts ends with a decision that fits, and every tick
  without ghosts is skipped.
-/

namespace MazeAgent

/-- Command, target and state fit what lies around the agent. -/
structure Decision.Fits (decision : Decision) (board : Snapshot) : Prop where
  none_iff : decision.command = .none ↔ ∀ next, ¬ board.IsNeighbor board.agent next
  target_of_none : decision.command = .none → decision.target = board.agent
  target_of_direction : ∀ direction, decision.command.direction? = some direction →
    board.agent.step direction = .ok decision.target ∧
      board.isWalkable decision.target = true
  of_randomWalk : decision.command = .randomWalk →
    decision.state = .stuck ∧ board.IsNeighbor board.agent decision.target

namespace Planner

/-! ## Targets that can be entered -/

section Target

variable {board : Snapshot} {planner later : Planner} {decision : Decision}

/-- The target, if there is one, can be entered. -/
def Aims (board : Snapshot) (planner : Planner) : Prop :=
  ∀ target, planner.target = some target → board.isWalkable target = true

theorem Aims.congr {other : Snapshot} (h : planner.Aims board)
    (hwalls : board.walls = other.walls) : planner.Aims other := by
  intro target htarget
  rw [← Snapshot.isWalkable_congr hwalls]
  exact h target htarget

theorem Acts.aims (h : Acts board planner decision later) (haims : planner.Aims board) :
    later.Aims board := by
  intro target htarget
  cases h with
  | step _ _ hnext =>
      cases htarget
      exact hnext.elim (haims target) id
  | wander hnext =>
      cases htarget
      exact hnext.1
  | stay => cases htarget

/-- An action is right when the target can be entered. -/
theorem Acts.fits (h : Acts board planner decision later) (haims : planner.Aims board) :
    decision.Fits board := by
  cases h with
  | @step source direction next state hstate hstep hnext =>
      have hwalkable : board.isWalkable next = true := hnext.elim (haims next) id
      refine ⟨?_, ?_, ?_, ?_⟩
      · refine iff_of_false (MoveCommand.ofDirection_ne_none direction) ?_
        intro halone
        exact halone next ⟨hwalkable, direction, hstep⟩
      · intro hnone
        exact absurd hnone (MoveCommand.ofDirection_ne_none direction)
      · intro other hother
        rw [MoveCommand.direction?_ofDirection, Option.some.injEq] at hother
        subst hother
        exact ⟨hstep, hwalkable⟩
      · intro hwalk
        cases direction <;> cases hwalk
  | @wander source next hnext =>
      refine ⟨?_, ?_, ?_, ?_⟩
      · refine iff_of_false (fun h => nomatch h) ?_
        intro halone
        exact halone next hnext
      · intro hnone
        cases hnone
      · intro other hother
        cases hother
      · intro _
        exact ⟨rfl, hnext⟩
  | stay halone =>
      refine ⟨iff_of_true rfl halone, fun _ => rfl, ?_, ?_⟩
      · intro other hother
        cases hother
      · intro hwalk
        cases hwalk

end Target

/-! ## Passages and runs -/

/-- A planner, and the presenter, the snapshot and the time in nanoseconds of every tick. -/
structure Passage (σ : Type) where
  first : Planner
  audience : σ
  presenters : Nat → Presenter σ
  boards : Nat → Snapshot
  times : Nat → Nat

namespace Passage

variable {σ : Type}

/-- The planner and the audience before a tick. -/
def before (passage : Passage σ) : Nat → Planner × σ
  | 0 => (passage.first, passage.audience)
  | k + 1 =>
      let tick := (before passage k).1.tickAt (passage.presenters k) (passage.boards k)
        (passage.times k) (before passage k).2
      (tick.planner, tick.audience)

/-- The planner before a tick. -/
def planner (passage : Passage σ) (k : Nat) : Planner := (passage.before k).1

/-- A tick of a passage. -/
def tick (passage : Passage σ) (k : Nat) : Tick σ :=
  (passage.planner k).tickAt (passage.presenters k) (passage.boards k) (passage.times k)
    (passage.before k).2

theorem before_succ (passage : Passage σ) (k : Nat) :
    passage.before (k + 1) = ((passage.tick k).planner, (passage.tick k).audience) := rfl

theorem planner_succ (passage : Passage σ) (k : Nat) :
    passage.planner (k + 1) = (passage.tick k).planner := rfl

end Passage

/-- A fresh planner, and the presenter, the snapshot and the time in nanoseconds of every tick. -/
structure Run (σ : Type) where
  config : Config
  distances : Distances
  source : RandomSource
  audience : σ
  presenters : Nat → Presenter σ
  boards : Nat → Snapshot
  times : Nat → Nat

namespace Run

variable {σ : Type} {run : Run σ} {k : Nat}

/-- The passage of the fresh planner. -/
def passage (run : Run σ) : Passage σ where
  first := start run.config run.distances run.source
  audience := run.audience
  presenters := run.presenters
  boards := run.boards
  times := run.times

/-- The planner before a tick. -/
def planner (run : Run σ) (k : Nat) : Planner := run.passage.planner k

/-- A tick of a run. -/
def tick (run : Run σ) (k : Nat) : Tick σ := run.passage.tick k

theorem planner_succ (run : Run σ) (k : Nat) : run.planner (k + 1) = (run.tick k).planner := rfl

/-- The first ticks end without a fault. -/
def IsFaultless (run : Run σ) (k : Nat) : Prop :=
  ∀ i < k, ∀ fault, (run.tick i).outcome ≠ .stopped fault

theorem IsFaultless.of_succ (h : run.IsFaultless (k + 1)) : run.IsFaultless k :=
  fun i hi => h i (Nat.lt_succ_of_lt hi)

/-- A run on snapshots with everything on the board does not fault. -/
theorem isFaultless_of_onBoard (hradius : run.config.field.clusterRadius.toNat ≤ 23169)
    (hboards : ∀ k, (run.boards k).OnBoard) (k : Nat) : run.IsFaultless k := by
  have hplanner : ∀ k, (run.planner k).OnBoard ∧ (run.planner k).config = run.config := by
    intro k
    induction k with
    | zero => exact ⟨⟨Forecast.start_onBoard, fun _ htarget => nomatch htarget⟩, rfl⟩
    | succ k ih =>
        obtain ⟨honBoard, hconfig⟩ := ih
        obtain ⟨-, hlater, hkept⟩ := tickAt_onBoard (run.presenters k) (run.times k)
          (run.passage.before k).2 (hconfig ▸ hradius) (hboards k) honBoard
        exact ⟨hlater, hkept.trans hconfig⟩
  intro i _
  obtain ⟨honBoard, hconfig⟩ := hplanner i
  exact (tickAt_onBoard _ _ _ (hconfig ▸ hradius) (hboards i) honBoard).1

/-- The planner in a tick, once it has looked around and the clock is set. -/
def ready (run : Run σ) (k : Nat) (forecast : Forecast) (since : Nat) : Planner :=
  { (run.planner k).sight (run.boards k).agent (run.times k) with
    forecast := forecast
    motionlessSince := some since }

/-- Since when the agent has been motionless when a tick begins. -/
def since (run : Run σ) (k : Nat) : Nat :=
  (((run.planner k).sight (run.boards k).agent (run.times k)).motionlessSince).getD (run.times k)

/-- Whether there is a stall in a tick. -/
def IsStalled (run : Run σ) (k : Nat) : Prop :=
  ((run.planner k).sight (run.boards k).agent (run.times k)).isStalled (run.since k)
    (run.times k) = true

instance (run : Run σ) (k : Nat) : Decidable (run.IsStalled k) :=
  inferInstanceAs (Decidable (_ = true))

theorem exists_look (hfaultless : run.IsFaultless (k + 1)) :
    ∃ forecast motions, Forecast.observe (run.planner k).config.prediction
      (run.planner k).forecast (run.boards k) = .ok (forecast, motions) := by
  cases hlook : Forecast.observe (run.planner k).config.prediction
      (run.planner k).forecast (run.boards k) with
  | error fault =>
      have hstopped : (run.tick k).outcome = .stopped fault :=
        congrArg Tick.outcome (tickAt_of_error hlook)
      exact absurd hstopped (hfaultless k (Nat.lt_succ_self k) fault)
  | ok look => exact ⟨look.1, look.2, rfl⟩

theorem tick_skips {forecast : Forecast} {motions : Motions}
    (hlook : Forecast.observe (run.planner k).config.prediction (run.planner k).forecast
      (run.boards k) = .ok (forecast, motions)) (hghosts : (run.boards k).ghosts = []) :
    run.tick k = ⟨.skipped, run.ready k forecast (run.times k), (run.passage.before k).2⟩ :=
  tickAt_of_nil hlook hghosts

theorem tick_decides {forecast : Forecast} {motions : Motions}
    (hlook : Forecast.observe (run.planner k).config.prediction (run.planner k).forecast
      (run.boards k) = .ok (forecast, motions)) (hghosts : (run.boards k).ghosts ≠ []) :
    run.tick k = decide (run.presenters k) (run.boards k) (run.times k)
      { (run.planner k).sight (run.boards k).agent (run.times k) with forecast := forecast }
      (run.passage.before k).2 :=
  tickAt_of_ne_nil hlook hghosts

theorem tick_of_nil (hfaultless : run.IsFaultless (k + 1)) (hghosts : (run.boards k).ghosts = []) :
    (run.tick k).outcome = .skipped ∧
      ∃ forecast, (run.tick k).planner = run.ready k forecast (run.times k) := by
  obtain ⟨forecast, motions, hlook⟩ := exists_look hfaultless
  rw [tick_skips hlook hghosts]
  exact ⟨rfl, forecast, rfl⟩

theorem tick_acts (hfaultless : run.IsFaultless (k + 1)) (hghosts : (run.boards k).ghosts ≠ []) :
    ∃ forecast decision, (run.tick k).outcome = .decided decision ∧
      (decision.state = .stuck ↔ run.IsStalled k) ∧
      Acts (run.boards k)
        (run.ready k forecast (if run.IsStalled k then run.times k else run.since k)) decision
        (run.tick k).planner := by
  obtain ⟨forecast, motions, hlook⟩ := exists_look hfaultless
  have htick := tick_decides hlook hghosts
  rcases decide_ends hghosts with ⟨fault, hstopped⟩ | ⟨decision, hdecided, hstate, hacts⟩
  · rw [← htick] at hstopped
    exact absurd hstopped (hfaultless k (Nat.lt_succ_self k) fault)
  · rw [← htick] at hdecided hacts
    exact ⟨forecast, decision, hdecided, hstate, hacts⟩

/-! ## A first tick on the ring -/

/-- The ring with a pellet on its spur and a ghost two steps from the agent. -/
def errand : Snapshot := { Snapshot.detour with
  pellets := (Grid.filled false).write ⟨2, 4⟩ true
  ghosts := [⟨.red, ⟨3, 1⟩, false, false, none⟩]
  pelletsRemaining := 1 }

/-- The ghost repels and the pellet attracts. -/
def errandScores : List (Cell × Single) :=
  [(⟨1, 1⟩, 125), (⟨1, 2⟩, ⟨0x42a6aaab⟩), (⟨1, 3⟩, 0), (⟨2, 1⟩, 250), (⟨2, 3⟩, ⟨0x42a6aaab⟩),
    (⟨2, 4⟩, -2550), (⟨3, 1⟩, 1000), (⟨3, 2⟩, 250), (⟨3, 3⟩, 125)].filterMap
      (fun entry : Tile × Single => entry.1.cell?.map (fun cell => (cell, entry.2)))

def errandField : Field where
  walls := errand.walls
  scores := errandScores.foldl (fun grid entry => grid.set entry.1 entry.2) (Grid.filled 0)

/-- A planner that has seen the ghost for the first time. -/
def scout : Planner where
  config := Config.standard
  distances := .ofMetric .manhattan
  forecast := ⟨(PerColor.fill none).set .red (some ⟨3, 1⟩), PerColor.fill none⟩
  source := .cyclic #[0]
  target := none
  lastCommand := .none
  lastAgent := some ⟨1, 1⟩
  motionlessSince := some 0

/-- The planner on its way to the pellet. -/
def courier : Planner := scout.commanded .right ⟨1, 2⟩

theorem openCells_errand : errand.walls.openCells = errandScores.map Prod.fst :=
  Snapshot.openCells_detour.trans (by decide +kernel)

theorem field_errand : scout.config.field.field errand scout.distances = .ok errandField := by
  have hlures : scout.config.field.lures errand scout.distances = .ok [] := by
    have hmarked : errand.superPellets.marked = [] :=
      List.filter_eq_nil_iff.mpr (fun cell _ => by simp [errand, Snapshot.detour])
    unfold FieldConfig.lures
    rw [hmarked]
    rfl
  exact FieldConfig.field_eq_ok hlures rfl openCells_errand (by decide +kernel)

/-- The pellet is worth the way. -/
theorem select_errand :
    scout.config.goal.select errand errandField scout.forecast scout.distances scout.source =
      .ok (.ok (.seek ⟨2, 4⟩ (-2546)), scout.source) := by
  have hscores : errandField.toList = errandScores := by
    have hcells : errandField.walls.openCells = _ := openCells_errand
    rw [Field.toList, hcells]
    decide +kernel
  unfold GoalConfig.select GoalConfig.candidate GoalConfig.cheapest
  rw [hscores]
  rfl

/-- The way leads around the ring on the side without the ghost. -/
theorem routeTo_errand : scout.routeTo errand errandField (.seek ⟨2, 4⟩ (-2546)) =
    [⟨1, 2⟩, ⟨1, 3⟩, ⟨2, 3⟩, ⟨2, 4⟩] := by
  have hlimit : errand.walls.searchLimit scout.config.search = 36 := by
    have hnone : errand.walls.searchLimit scout.config.search = errand.walls.openCells.length * 4 :=
      errand.walls.searchLimit_of_none rfl
    rw [hnone, openCells_errand]
    rfl
  unfold routeTo Snapshot.route Maze.route
  rw [hlimit]
  decide +kernel

/-- The first tick makes a new plan. -/
theorem tickAt_errand :
    (start Config.standard (.ofMetric .manhattan) (.cyclic #[0])).tickAt Presenter.silent errand 0
      () = ⟨.decided ⟨0, .right, ⟨1, 2⟩, .replanning⟩, courier, ()⟩ := by
  have hlook : Forecast.observe Config.standard.prediction .start errand =
      .ok (scout.forecast, (PerColor.fill none).set .red (some .stationary)) := rfl
  have hstep : errand.agent.step .right = .ok ⟨1, 2⟩ := rfl
  have hdecide : scout.decide Presenter.silent errand 0 () = _ :=
    decide_of_route rfl hstep rfl field_errand select_errand routeTo_errand
  exact (tickAt_of_ne_nil hlook (List.cons_ne_nil _ _)).trans hdecide

/-! ## The target in a run -/

theorem ready_aims {board : Snapshot} {forecast : Forecast} {since : Nat}
    (h : (run.planner k).Aims board) : (run.ready k forecast since).Aims board := by
  intro target htarget
  exact h target (by simpa [ready] using htarget)

/-- The target can be entered as long as the walls do not change. -/
theorem aims {board : Snapshot} (hwalls : ∀ i < k, (run.boards i).walls = board.walls)
    (hfaultless : run.IsFaultless k) : (run.planner k).Aims board := by
  induction k with
  | zero =>
      intro target htarget
      cases htarget
  | succ k ih =>
      have hbefore : (run.planner k).Aims board :=
        ih (fun i hi => hwalls i (Nat.lt_succ_of_lt hi)) hfaultless.of_succ
      have hlast := hwalls k (Nat.lt_succ_self k)
      rw [planner_succ]
      by_cases hghosts : (run.boards k).ghosts = []
      · obtain ⟨-, forecast, hplanner⟩ := tick_of_nil hfaultless hghosts
        rw [hplanner]
        exact ready_aims hbefore
      · -- The target was chosen on the snapshot of that tick, which has the same walls.
        obtain ⟨forecast, decision, -, -, hacts⟩ := tick_acts hfaultless hghosts
        exact (hacts.aims ((ready_aims hbefore).congr hlast.symm)).congr hlast

/-- With ghosts a tick ends with a decision that fits the snapshot, and the planner keeps its
target; without ghosts the tick is skipped. -/
theorem tick_fits (hwalls : ∀ i ≤ k, (run.boards i).walls = (run.boards k).walls)
    (hfaultless : run.IsFaultless (k + 1)) :
    ((run.boards k).ghosts ≠ [] →
      ∃ decision, (run.tick k).outcome = .decided decision ∧
        decision.Fits (run.boards k) ∧
        (run.planner (k + 1)).target =
          if decision.command = .none then none else some decision.target) ∧
    ((run.boards k).ghosts = [] →
      (run.tick k).outcome = .skipped ∧
        (run.planner (k + 1)).target = (run.planner k).target ∧
        (run.planner (k + 1)).lastCommand = (run.planner k).lastCommand) := by
  constructor
  · intro hghosts
    have hbefore : (run.planner k).Aims (run.boards k) :=
      aims (fun i hi => hwalls i (Nat.le_of_lt hi)) hfaultless.of_succ
    obtain ⟨forecast, decision, hdecided, -, hacts⟩ := tick_acts hfaultless hghosts
    exact ⟨decision, hdecided, hacts.fits (ready_aims hbefore), hacts.target_eq⟩
  · intro hghosts
    obtain ⟨hskipped, forecast, hplanner⟩ := tick_of_nil hfaultless hghosts
    refine ⟨hskipped, ?_, ?_⟩
    · rw [planner_succ, hplanner]
      simp [ready]
    · rw [planner_succ, hplanner]
      simp [ready]

/-- The agent sets out for the pellet, and then the ghost is gone. -/
def patrol : Run Unit where
  config := Config.standard
  distances := .ofMetric .manhattan
  source := .cyclic #[0]
  audience := ()
  presenters _ := Presenter.silent
  boards
    | 0 => errand
    | _ + 1 => { errand with ghosts := [] }
  times k := k * 1000000

theorem patrol_walls (i : Nat) : (patrol.boards i).walls = errand.walls := by
  cases i <;> rfl

theorem patrol_isFaultless (k : Nat) : patrol.IsFaultless k := by
  have hagent : (⟨1, 1⟩ : Tile).onBoard = true := by decide
  have hghost : (⟨3, 1⟩ : Tile).onBoard = true := by decide
  apply isFaultless_of_onBoard (by decide)
  intro i
  cases i with
  | zero =>
      refine ⟨hagent, ?_, (fun _ hfruit => nomatch hfruit)⟩
      intro ghost hmem
      obtain rfl := List.mem_singleton.mp hmem
      exact hghost
  | succ i => exact ⟨hagent, (fun _ hmem => nomatch hmem), (fun _ hfruit => nomatch hfruit)⟩

/-- The decision to set out fits the ring, and the target is kept while there is no ghost. -/
theorem tick_fits_patrol :
    (∀ i ≤ 1, (patrol.boards i).walls = (patrol.boards 1).walls) ∧ patrol.IsFaultless 2 ∧
      (patrol.boards 0).ghosts ≠ [] ∧
      (patrol.tick 0).outcome = .decided ⟨0, .right, ⟨1, 2⟩, .replanning⟩ ∧
      Decision.Fits ⟨0, .right, ⟨1, 2⟩, .replanning⟩ (patrol.boards 0) ∧
      (patrol.planner 1).target = some ⟨1, 2⟩ ∧
      (patrol.boards 1).ghosts = [] ∧ (patrol.tick 1).outcome = .skipped ∧
      (patrol.planner 2).target = some ⟨1, 2⟩ ∧ (patrol.planner 2).lastCommand = .right := by
  have hsame : ∀ k, ∀ i ≤ k, (patrol.boards i).walls = (patrol.boards k).walls :=
    fun k i _ => (patrol_walls i).trans (patrol_walls k).symm
  have hfirst : patrol.tick 0 = _ := tickAt_errand
  have htick : (patrol.tick 0).outcome = .decided ⟨0, .right, ⟨1, 2⟩, .replanning⟩ := by
    rw [hfirst]
  have hcommand : (patrol.planner 1).lastCommand = .right := by
    rw [planner_succ, hfirst]
    rfl
  have hghosts : (patrol.boards 0).ghosts ≠ [] := List.cons_ne_nil _ _
  obtain ⟨decision, hdecided, hfits, htarget⟩ :=
    (tick_fits (hsame 0) (patrol_isFaultless 1)).1 hghosts
  obtain rfl := Outcome.decided.inj (htick.symm.trans hdecided)
  rw [if_neg (by decide)] at htarget
  obtain ⟨hskipped, hkept, hlast⟩ := (tick_fits (hsame 1) (patrol_isFaultless 2)).2 rfl
  rw [htarget] at hkept
  rw [hcommand] at hlast
  exact ⟨hsame 1, patrol_isFaultless 2, hghosts, htick, hfits, htarget, rfl, hskipped, hkept, hlast⟩

end Run
end Planner
end MazeAgent
