import MazeAgent.Planner.Basic
import MazeAgent.Proofs.Route.Path

/-!
# What one tick does

A tick on a snapshot with ghosts has many ways to end: a stall, the next step to a target, a
trapped agent, the first step of a route, a random neighbour in place of a route, or nothing at
all. Apart from faults they come down to three actions, and none of them fails.

**Results.**
* `Planner.Acts`: a step, a random step, or no step.
* `Planner.decide_ends`: the decision on a snapshot with ghosts is one of them, and its state
  tells whether there was a stall.
* `Planner.decide_of_target`, `Planner.decide_of_route`: a target that is one step away, and a new
  plan with a route.
* `Planner.tickAt_of_nil`, `Planner.tickAt_of_ne_nil`: a whole tick without and with ghosts.
-/

namespace MazeAgent

/-! ## Random neighbours -/

section RandomNeighbor

variable {board : Snapshot} {tile : Tile} {ways : List (Direction × Tile)}
  {source : RandomSource}

theorem Snapshot.isNeighbor_of_choose {way : Direction × Tile}
    (hways : board.neighbors tile = .ok ways) (hway : (source.choose ways).1 = some way) :
    board.IsNeighbor tile way.2 :=
  (isNeighbor_iff_of_neighbors hways).mpr ⟨way, RandomSource.mem_of_choose hway, rfl⟩

theorem Snapshot.not_isNeighbor_of_choose (hways : board.neighbors tile = .ok ways)
    (hway : (source.choose ways).1 = none) (next : Tile) : ¬ board.IsNeighbor tile next := by
  intro hnext
  obtain ⟨way, hmem, -⟩ := (isNeighbor_iff_of_neighbors hways).mp hnext
  have hsome := source.choose_isSome (List.ne_nil_of_mem hmem)
  rw [hway] at hsome
  cases hsome

end RandomNeighbor

/-! ## Goals -/

namespace GoalConfig

variable {config : GoalConfig} {board : Snapshot} {field : Field} {forecast : Forecast}
  {distances : Distances} {source later : RandomSource} {result : Except GoalError Goal}

/-- Flight leads to a tile away from a threat. -/
theorem eq_evade_of_flight {tile : Tile} {goal : Goal}
    (h : config.flight board distances tile = .ok (some goal)) :
    ∃ refuge threat, goal = .evade refuge threat := by
  unfold flight at h
  split at h
  · cases h
  · obtain ⟨threat, -, h⟩ := Checked.bind_eq_ok_iff.mp h
    cases threat with
    | none => cases h
    | some threat =>
        obtain ⟨distance, -, h⟩ := Checked.bind_eq_ok_iff.mp h
        split at h
        · cases h
        · obtain ⟨best, -, h⟩ := Checked.bind_eq_ok_iff.mp h
          obtain ⟨refuge, -, rfl⟩ := Option.map_eq_some_iff.mp (Except.ok.inj h)
          exact ⟨refuge.1.tile, threat.color, rfl⟩

/-- An exploration leads to a neighbour, and fails only where there is none. -/
theorem explore_eq_ok (h : explore board source = .ok (result, later)) :
    (∃ next, board.IsNeighbor board.agent next ∧ result = .ok (.explore next)) ∨
      (∀ next, ¬ board.IsNeighbor board.agent next) ∧ result = .error (.trapped board.agent) := by
  obtain ⟨ways, hways, h⟩ := Checked.bind_eq_ok_iff.mp h
  cases hway : (source.choose ways).1 with
  | some way =>
      simp only [hway] at h
      cases h
      exact Or.inl ⟨way.2, Snapshot.isNeighbor_of_choose hways hway, rfl⟩
  | none =>
      simp only [hway] at h
      cases h
      exact Or.inr ⟨Snapshot.not_isNeighbor_of_choose hways hway, rfl⟩

/-- The goal on a snapshot with ghosts: a flight from what the candidate is, the candidate itself,
or an exploration where there is no candidate. -/
theorem select_eq_ok (hghosts : board.ghosts ≠ [])
    (h : config.select board field forecast distances source = .ok (result, later)) :
    ∃ best, config.candidate board field forecast distances = .ok best ∧
      match best with
      | none => explore board source = .ok (result, later)
      | some (cell, cost) =>
          (∃ refuge threat, result = .ok (.evade refuge threat)) ∨
            result = .ok (.seek cell.tile cost) := by
  unfold select at h
  rw [if_neg (by simpa using hghosts)] at h
  obtain ⟨best, hbest, h⟩ := Checked.bind_eq_ok_iff.mp h
  refine ⟨best, hbest, ?_⟩
  cases best with
  | none => exact h
  | some best =>
      obtain ⟨flight, hflight, h⟩ := Checked.bind_eq_ok_iff.mp h
      cases flight with
      | none =>
          cases h
          exact Or.inr rfl
      | some goal =>
          cases h
          obtain ⟨refuge, threat, rfl⟩ := eq_evade_of_flight hflight
          exact Or.inl ⟨refuge, threat, rfl⟩

/-- When there are ghosts, there is a goal unless the agent has no neighbour. -/
theorem select_error {error : GoalError} (hghosts : board.ghosts ≠ [])
    (h : config.select board field forecast distances source = .ok (.error error, later)) :
    error = .trapped board.agent ∧ ∀ next, ¬ board.IsNeighbor board.agent next := by
  obtain ⟨best, -, hresult⟩ := select_eq_ok hghosts h
  cases best with
  | some best =>
      -- A tile of least cost makes a goal, in flight or not.
      rcases hresult with ⟨refuge, threat, hgoal⟩ | hgoal <;> cases hgoal
  | none =>
      rcases explore_eq_ok hresult with ⟨next, -, hgoal⟩ | ⟨halone, herror⟩
      · cases hgoal
      · cases herror
        exact ⟨rfl, halone⟩

end GoalConfig

theorem MoveCommand.ofDirection_ne_none (direction : Direction) :
    MoveCommand.ofDirection direction ≠ .none := by
  cases direction <;> decide

namespace Planner

variable {σ : Type} {board : Snapshot} {planner later : Planner} {decision : Decision}

/-! ## Actions -/

/-- How a planner acts on a snapshot: a step to its target or to a neighbour, a random step, or
no step where there is no neighbour. -/
inductive Acts (board : Snapshot) (planner : Planner) : Decision → Planner → Prop
  | step {source : RandomSource} {direction : Direction} {next : Tile} {state : DecisionState}
      (hstate : state ≠ .stuck)
      (hstep : board.agent.step direction = .ok next)
      (hnext : planner.target = some next ∨ board.isWalkable next = true) :
      Acts board planner ⟨board.sequence, .ofDirection direction, next, state⟩
        { planner with
          source := source
          target := some next
          lastCommand := .ofDirection direction }
  | wander {source : RandomSource} {next : Tile}
      (hnext : board.IsNeighbor board.agent next) :
      Acts board planner ⟨board.sequence, .randomWalk, next, .stuck⟩
        { planner with source := source, target := some next, lastCommand := .randomWalk }
  | stay {source : RandomSource} {state : DecisionState}
      (halone : ∀ next, ¬ board.IsNeighbor board.agent next) :
      Acts board planner ⟨board.sequence, .none, board.agent, state⟩
        { planner with source := source, target := none, lastCommand := .none }

theorem Acts.of_source {source : RandomSource}
    (h : Acts board { planner with source := source } decision later) :
    Acts board planner decision later := by
  cases h with
  | step hstate hstep hnext => exact .step hstate hstep hnext
  | wander hnext => exact .wander hnext
  | stay halone => exact .stay halone

theorem Acts.config_eq (h : Acts board planner decision later) : later.config = planner.config := by
  cases h <;> rfl

theorem Acts.forecast_eq (h : Acts board planner decision later) :
    later.forecast = planner.forecast := by
  cases h <;> rfl

theorem Acts.lastAgent_eq (h : Acts board planner decision later) :
    later.lastAgent = planner.lastAgent := by
  cases h <;> rfl

theorem Acts.motionlessSince_eq (h : Acts board planner decision later) :
    later.motionlessSince = planner.motionlessSince := by
  cases h <;> rfl

theorem Acts.lastCommand_eq (h : Acts board planner decision later) :
    later.lastCommand = decision.command := by
  cases h <;> rfl

/-- The target is where the command leads. -/
theorem Acts.target_eq (h : Acts board planner decision later) :
    later.target = if decision.command = .none then none else some decision.target := by
  cases h with
  | step => rw [if_neg (MoveCommand.ofDirection_ne_none _)]
  | wander => rfl
  | stay => rfl

/-- An agent that is stuck is not sent in a direction. -/
theorem Acts.isMove_eq_false (h : Acts board planner decision later)
    (hstuck : decision.state = .stuck) : decision.command.isMove = false := by
  cases h with
  | step hstate => exact absurd hstuck hstate
  | wander => rfl
  | stay => rfl

/-- An agent that is not stuck and has a neighbour is sent in a direction. -/
theorem Acts.isMove (h : Acts board planner decision later) (hcalm : decision.state ≠ .stuck)
    {next : Tile} (hnext : board.IsNeighbor board.agent next) :
    decision.command.isMove = true := by
  cases h with
  | step => exact MoveCommand.isMove_ofDirection _
  | wander => exact absurd rfl hcalm
  | stay halone => exact absurd hnext (halone next)

/-- Unless there is a fault the planner acts, and the state tells whether the agent is stuck. -/
def Ends (board : Snapshot) (planner : Planner) (stuck : Prop) (outcome : Outcome)
    (later : Planner) : Prop :=
  (∃ fault, outcome = .stopped fault) ∨
    ∃ decision, outcome = .decided decision ∧ (decision.state = .stuck ↔ stuck) ∧
      Acts board planner decision later

theorem Ends.of_source {source : RandomSource} {stuck : Prop} {outcome : Outcome}
    (h : Ends board { planner with source := source } stuck outcome later) :
    Ends board planner stuck outcome later := by
  rcases h with hfault | ⟨decision, hdecided, hstate, hacts⟩
  · exact Or.inl hfault
  · exact Or.inr ⟨decision, hdecided, hstate, hacts.of_source⟩

theorem Ends.congr {stuck stuck' : Prop} {outcome : Outcome}
    (h : Ends board planner stuck outcome later) (hstuck : stuck ↔ stuck') :
    Ends board planner stuck' outcome later := by
  rw [← propext hstuck]
  exact h

/-! ## The ways to act -/

theorem hold_ends {state : DecisionState} {stuck : Prop} (hstate : state = .stuck ↔ stuck)
    (halone : ∀ next, ¬ board.IsNeighbor board.agent next) :
    Ends board planner stuck (planner.hold board board.agent state).1
      (planner.hold board board.agent state).2 :=
  Or.inr ⟨_, rfl, hstate, .stay halone⟩

/-- A step to a tile that is one step away is decided on. -/
theorem approach_eq_emit {direction : Direction} {next : Tile}
    (hstep : board.agent.step direction = .ok next) (state : DecisionState) :
    planner.approach board next state =
      planner.emit board (.ofDirection direction) next state := by
  unfold approach
  rw [Tile.directionTo_eq_ok_iff.mpr hstep]

theorem approach_ends {state : DecisionState} {next : Tile} (hstate : state ≠ .stuck)
    (hstep : ∃ direction, board.agent.step direction = .ok next)
    (hnext : planner.target = some next ∨ board.isWalkable next = true) :
    Ends board planner False (planner.approach board next state).1
      (planner.approach board next state).2 := by
  obtain ⟨direction, hstep⟩ := hstep
  right
  rw [approach_eq_emit hstep]
  refine ⟨_, rfl, iff_of_false hstate id, ?_⟩
  unfold emit commanded
  rw [if_neg (MoveCommand.ofDirection_ne_none _)]
  exact .step hstate hstep hnext

theorem approach_neighbor_ends {state : DecisionState} {next : Tile} (hstate : state ≠ .stuck)
    (hnext : board.IsNeighbor board.agent next) :
    Ends board planner False (planner.approach board next state).1
      (planner.approach board next state).2 :=
  approach_ends hstate hnext.2 (Or.inr hnext.1)

/-- A draw changes the source only, and gives a neighbour if there is one. -/
theorem drawNeighbor_eq_ok {found : Option Tile}
    (h : planner.drawNeighbor board = .ok (found, later)) :
    (∃ source, later = { planner with source := source }) ∧
      (∀ next, found = some next → board.IsNeighbor board.agent next) ∧
      (found = none → ∀ next, ¬ board.IsNeighbor board.agent next) := by
  unfold drawNeighbor at h
  obtain ⟨ways, hways, h⟩ := Checked.bind_eq_ok_iff.mp h
  cases h
  refine ⟨⟨_, rfl⟩, ?_, ?_⟩
  · intro next hnext
    obtain ⟨way, hway, rfl⟩ := Option.map_eq_some_iff.mp hnext
    exact Snapshot.isNeighbor_of_choose hways hway
  · intro hnone
    exact Snapshot.not_isNeighbor_of_choose hways (Option.map_eq_none_iff.mp hnone)

/-- An agent that is stuck takes a random step, or none. -/
theorem walk_ends (planner : Planner) (board : Snapshot) :
    Ends board planner True (planner.walk board).1 (planner.walk board).2 := by
  unfold walk
  split
  · next fault hdraw => exact Or.inl ⟨fault, rfl⟩
  · next tile drawn hdraw =>
    obtain ⟨⟨source, rfl⟩, hneighbor, -⟩ := drawNeighbor_eq_ok hdraw
    exact Or.inr ⟨_, rfl, iff_of_true rfl trivial, .wander (hneighbor tile rfl)⟩
  · next drawn hdraw =>
    obtain ⟨⟨source, rfl⟩, -, halone⟩ := drawNeighbor_eq_ok hdraw
    exact (hold_ends (iff_of_true rfl trivial) (halone rfl)).of_source

/-- Following a route is a step to its first tile, or to a random neighbour. -/
theorem follow_ends {source goal : Tile} {route : List Tile} (hsource : source = board.agent)
    (hroute : route = [] ∨ board.IsRoute source goal route) :
    Ends board planner False (planner.follow board route).1 (planner.follow board route).2 := by
  subst hsource
  unfold follow
  split
  · next next rest =>
    have hpath := hroute.resolve_left (List.cons_ne_nil next rest)
    exact approach_neighbor_ends (by decide) hpath.isNeighbor_head
  · split
    · next fault hdraw => exact Or.inl ⟨fault, rfl⟩
    · next next drawn hdraw =>
      obtain ⟨⟨source, rfl⟩, hneighbor, -⟩ := drawNeighbor_eq_ok hdraw
      exact (approach_neighbor_ends (by decide) (hneighbor next rfl)).of_source
    · next drawn hdraw =>
      obtain ⟨⟨source, rfl⟩, -, halone⟩ := drawNeighbor_eq_ok hdraw
      exact (hold_ends (by simp) (halone rfl)).of_source

/-- Where the neighbours of the agent are known, a route or a neighbour in place of it is followed
without a fault. -/
theorem exists_decided_of_follow (planner : Planner) {goal : Tile} {route : List Tile}
    {ways : List (Direction × Tile)} (hways : board.neighbors board.agent = .ok ways)
    (hroute : route = [] ∨ board.IsRoute board.agent goal route) :
    ∃ decision, (planner.follow board route).1 = .decided decision := by
  unfold follow
  split
  · next next rest =>
    have hpath := hroute.resolve_left (List.cons_ne_nil next rest)
    obtain ⟨direction, hstep⟩ := hpath.isNeighbor_head.2
    rw [approach_eq_emit hstep]
    exact ⟨_, rfl⟩
  · have hdraw : ∃ found later, planner.drawNeighbor board = .ok (found, later) := by
      unfold drawNeighbor
      rw [hways]
      exact ⟨_, _, rfl⟩
    obtain ⟨found, later, hdraw⟩ := hdraw
    obtain ⟨-, hneighbor, -⟩ := drawNeighbor_eq_ok hdraw
    rw [hdraw]
    cases found with
    | none => exact ⟨_, rfl⟩
    | some next =>
        obtain ⟨direction, hstep⟩ := (hneighbor next rfl).2
        dsimp only
        rw [approach_eq_emit hstep]
        exact ⟨_, rfl⟩

/-! ## The decision on a snapshot with ghosts -/

section Ghosts

variable {presenter : Presenter σ} {audience : σ}

theorem pursue_ends {field : Field} (hghosts : board.ghosts ≠ []) :
    Ends board planner False (planner.pursue presenter board field audience).outcome
      (planner.pursue presenter board field audience).planner := by
  unfold pursue
  split
  · next fault hselect => exact Or.inl ⟨fault, rfl⟩
  · next source hselect =>
    obtain ⟨htrapped, -⟩ := GoalConfig.select_error hghosts hselect
    cases htrapped
  · next tile source hselect =>
    obtain ⟨htrapped, halone⟩ := GoalConfig.select_error hghosts hselect
    cases htrapped
    exact (hold_ends (by simp) halone).of_source
  · next goal source hselect =>
    exact (follow_ends rfl (board.route_isRoute field _ _ board.agent goal.tile)).of_source

theorem replan_ends (hghosts : board.ghosts ≠ []) :
    Ends board planner False (planner.replan presenter board audience).outcome
      (planner.replan presenter board audience).planner := by
  unfold replan
  split
  · next fault hfield => exact Or.inl ⟨fault, rfl⟩
  · exact pursue_ends hghosts

theorem travel_ends (hghosts : board.ghosts ≠ []) :
    Ends board planner False (planner.travel presenter board audience).outcome
      (planner.travel presenter board audience).planner := by
  unfold travel
  split
  · exact replan_ends hghosts
  · next target htarget =>
    split
    · next fault hadjacent => exact Or.inl ⟨fault, rfl⟩
    · exact replan_ends hghosts
    · next hadjacent =>
      exact approach_ends (by decide) (Tile.isAdjacent_iff.mp hadjacent) (Or.inl htarget)

/-- Since when the agent has been motionless after a decision: a stall starts the clock anew. -/
def motionlessAfter (planner : Planner) (now : Nat) : Nat :=
  let since := planner.motionlessSince.getD now
  if planner.isStalled since now then now else since

/-- The planner acts, and the state tells whether there was a stall. -/
theorem decide_ends {now : Nat} (hghosts : board.ghosts ≠ []) :
    Ends board { planner with motionlessSince := some (planner.motionlessAfter now) }
      (planner.isStalled (planner.motionlessSince.getD now) now = true)
      (planner.decide presenter board now audience).outcome
      (planner.decide presenter board now audience).planner := by
  unfold decide motionlessAfter
  dsimp only
  split
  · next hstalled =>
    rw [hstalled]
    exact (walk_ends _ board).congr (by simp)
  · next hstalled =>
    exact (travel_ends hghosts).congr (by simp [hstalled])

section Calm

variable {now : Nat} {direction : Direction} {next : Tile}
  (hcalm : planner.isStalled (planner.motionlessSince.getD now) now = false)
  (hstep : board.agent.step direction = .ok next)

include hcalm

theorem decide_of_calm :
    planner.decide presenter board now audience =
      travel presenter board
        { planner with motionlessSince := some (planner.motionlessSince.getD now) } audience := by
  unfold decide
  exact if_neg (Bool.eq_false_iff.mp hcalm)

include hstep

/-- An agent that is not stuck goes on to a target that is one step away. -/
theorem decide_of_target (htarget : planner.target = some next) :
    planner.decide presenter board now audience =
      ⟨.decided ⟨board.sequence, .ofDirection direction, next, .traveling⟩,
        commanded { planner with motionlessSince := some (planner.motionlessSince.getD now) }
          (.ofDirection direction) next, audience⟩ := by
  rw [decide_of_calm hcalm]
  unfold travel
  dsimp only
  rw [htarget]
  dsimp only
  rw [Tile.isAdjacent_iff.mpr ⟨direction, hstep⟩, approach_eq_emit hstep]
  rfl

/-- An agent that is not stuck and has no target takes the first step of the route to its goal. -/
theorem decide_of_route {field : Field} {goal : Goal} {later : RandomSource} {rest : List Tile}
    (htarget : planner.target = none)
    (hfield : planner.config.field.field board planner.distances = .ok field)
    (hselect : planner.config.goal.select board field planner.forecast planner.distances
      planner.source = .ok (.ok goal, later))
    (hroute : planner.routeTo board field goal = next :: rest) :
    planner.decide presenter board now audience =
      ⟨.decided ⟨board.sequence, .ofDirection direction, next, .replanning⟩,
        commanded { planner with
          source := later
          motionlessSince := some (planner.motionlessSince.getD now) }
          (.ofDirection direction) next,
        (presenter.showRoute (next :: rest) (presenter.showField field audience).2).2⟩ := by
  rw [decide_of_calm hcalm]
  unfold travel
  dsimp only
  rw [htarget]
  unfold replan
  dsimp only
  rw [hfield]
  unfold pursue
  dsimp only
  rw [hselect]
  dsimp only
  unfold routeTo at hroute ⊢
  rw [hroute]
  unfold follow
  dsimp only
  rw [approach_eq_emit hstep]
  rfl

end Calm

end Ghosts

/-! ## Whole ticks -/

@[simp] theorem sight_config (planner : Planner) (agent : Tile) (now : Nat) :
    (planner.sight agent now).config = planner.config := by
  unfold sight
  split <;> rfl

@[simp] theorem sight_distances (planner : Planner) (agent : Tile) (now : Nat) :
    (planner.sight agent now).distances = planner.distances := by
  unfold sight
  split <;> rfl

@[simp] theorem sight_forecast (planner : Planner) (agent : Tile) (now : Nat) :
    (planner.sight agent now).forecast = planner.forecast := by
  unfold sight
  split <;> rfl

@[simp] theorem sight_source (planner : Planner) (agent : Tile) (now : Nat) :
    (planner.sight agent now).source = planner.source := by
  unfold sight
  split <;> rfl

@[simp] theorem sight_target (planner : Planner) (agent : Tile) (now : Nat) :
    (planner.sight agent now).target = planner.target := by
  unfold sight
  split <;> rfl

@[simp] theorem sight_lastAgent (planner : Planner) (agent : Tile) (now : Nat) :
    (planner.sight agent now).lastAgent = some agent := by
  unfold sight
  split
  · next h => exact h.1
  · rfl

@[simp] theorem sight_lastCommand (planner : Planner) (agent : Tile) (now : Nat) :
    (planner.sight agent now).lastCommand = planner.lastCommand := by
  unfold sight
  split <;> rfl

section Look

variable {presenter : Presenter σ} {now : Nat} {audience : σ}

theorem tickAt_of_error {fault : Fault}
    (hlook : Forecast.observe planner.config.prediction planner.forecast board = .error fault) :
    planner.tickAt presenter board now audience =
      ⟨.stopped fault, planner.sight board.agent now, audience⟩ := by
  unfold tickAt
  dsimp only
  rw [sight_config, sight_forecast, hlook]

/-- Without ghosts there is nothing to decide; only the clock starts anew. -/
theorem tickAt_of_nil {forecast : Forecast} {motions : Motions}
    (hlook : Forecast.observe planner.config.prediction planner.forecast board =
      .ok (forecast, motions)) (hghosts : board.ghosts = []) :
    planner.tickAt presenter board now audience =
      ⟨.skipped,
        { planner.sight board.agent now with
          forecast := forecast
          motionlessSince := some now }, audience⟩ := by
  unfold tickAt
  dsimp only
  rw [sight_config, sight_forecast, hlook]
  exact if_pos (List.isEmpty_iff.mpr hghosts)

/-- With ghosts the planner decides as soon as it has looked around. -/
theorem tickAt_of_ne_nil {forecast : Forecast} {motions : Motions}
    (hlook : Forecast.observe planner.config.prediction planner.forecast board =
      .ok (forecast, motions)) (hghosts : board.ghosts ≠ []) :
    planner.tickAt presenter board now audience =
      decide presenter board now
        { planner.sight board.agent now with forecast := forecast } audience := by
  unfold tickAt
  dsimp only
  rw [sight_config, sight_forecast, hlook]
  exact if_neg (fun hempty => hghosts (List.isEmpty_iff.mp hempty))

end Look

end Planner
end MazeAgent
