import MazeAgent.Proofs.Planner.Run

/-!
# What a presenter is shown

What the planner shows to its presenter follows from what it does: nothing unless it makes a new
plan, and else the field, and the route as soon as there is a goal. The answers of the presenter
are thrown away, so the planner does the same in front of any other audience.

**Results.**
* `Presenter.attend`: the audience after one thing after the other has been shown.
* `Outlook`: what a new plan is made from.
* `Outlook.Shows`: what is shown in a tick, by the way it ends.
* `Planner.tickAt_reveals`: one tick in front of any audience.
* `Planner.Passage.tick_shownTo`: all ticks of a passage in front of any audiences.
-/

namespace MazeAgent

/-! ## Audiences -/

namespace Presenter

variable {σ : Type}

/-- The audience after one thing has been shown. -/
def receive (presenter : Presenter σ) (audience : σ) : Shown → σ
  | .field field => (presenter.showField field audience).2
  | .route tiles => (presenter.showRoute tiles audience).2

/-- The audience after one thing after the other has been shown. -/
def attend (presenter : Presenter σ) (audience : σ) (calls : List Shown) : σ :=
  calls.foldl presenter.receive audience

/-- A recorder writes down what it is shown and nothing else. -/
theorem attend_recorder (answer : Except PresenterError Unit) (seen calls : List Shown) :
    (recorder answer).attend seen calls = seen ++ calls := by
  induction calls generalizing seen with
  | nil => exact (List.append_nil seen).symm
  | cons call rest ih =>
      have hcall : (recorder answer).receive seen call = seen ++ [call] := by
        cases call <;> rfl
      unfold attend at ih ⊢
      rw [List.foldl_cons, hcall, ih, List.append_assoc, List.singleton_append]

end Presenter

/-! ## New plans -/

/-- What a new plan is made from. -/
structure Outlook where
  config : Config
  distances : Distances
  forecast : Forecast
  source : RandomSource

/-- What a new plan of a planner is made from. -/
def Planner.outlook (planner : Planner) : Outlook :=
  ⟨planner.config, planner.distances, planner.forecast, planner.source⟩

namespace Outlook

section Plans

variable (outlook : Outlook) (board : Snapshot)

/-- The field of a snapshot, and the goal in it or the reason why there is none. -/
structure Selects (field : Field) (result : Except GoalError Goal) : Prop where
  field_eq : outlook.config.field.field board outlook.distances = .ok field
  select_eq : ∃ later, outlook.config.goal.select board field outlook.forecast outlook.distances
    outlook.source = .ok (result, later)

/-- The field of a snapshot, the goal in it, and the route to the goal. -/
structure Plans (field : Field) (goal : Goal) (route : List Tile) : Prop
    extends outlook.Selects board field (.ok goal) where
  route_eq : route =
    board.route field outlook.distances outlook.config.search board.agent goal.tile

/-- What is shown in a tick, by the way it ends. -/
inductive Shows : Outcome → List Shown → Prop
  | skipped : Shows .skipped []
  /-- The agent travels on or is stuck. -/
  | kept {decision : Decision} (hstate : decision.state ≠ .replanning) :
      Shows (.decided decision) []
  /-- There is no goal, because there is nowhere to go. -/
  | trapped {decision : Decision} {field : Field} (hstate : decision.state = .replanning)
      (hcommand : decision.command = .none)
      (hselects : outlook.Selects board field (.error (.trapped board.agent))) :
      Shows (.decided decision) [.field field]
  | planned {decision : Decision} {field : Field} {goal : Goal} {route : List Tile}
      (hstate : decision.state = .replanning) (hplans : outlook.Plans board field goal route)
      (hhead : ∀ next, route.head? = some next → decision.target = next) :
      Shows (.decided decision) [.field field, .route route]
  | stopped {fault : Fault} : Shows (.stopped fault) []
  /-- The fault came up on the way to a goal. -/
  | stoppedSelecting {fault : Fault} {field : Field}
      (hfield : outlook.config.field.field board outlook.distances = .ok field) :
      Shows (.stopped fault) [.field field]
  /-- The fault came up on the way to a neighbour in place of a route. -/
  | stoppedFollowing {fault : Fault} {field : Field} {goal : Goal} {route : List Tile}
      (hplans : outlook.Plans board field goal route) :
      Shows (.stopped fault) [.field field, .route route]

end Plans

/-- In front of any audience a tick ends in the same way and shows the same. -/
def Reveals (outlook : Outlook) (board : Snapshot)
    (tick : (σ : Type) → Presenter σ → σ → Tick σ) : Prop :=
  ∃ outcome later calls, outlook.Shows board outcome calls ∧
    ∀ σ presenter audience,
      tick σ presenter audience = ⟨outcome, later, presenter.attend audience calls⟩

theorem Reveals.of_nothing {outlook : Outlook} {board : Snapshot} {outcome : Outcome}
    {later : Planner} (h : outlook.Shows board outcome []) :
    outlook.Reveals board (fun _ _ audience => ⟨outcome, later, audience⟩) :=
  ⟨outcome, later, [], h, fun _ _ _ => rfl⟩

end Outlook

namespace Planner

/-! ## What the planner shows -/

section Tick

variable {board : Snapshot} {planner : Planner} {field : Field}

/-- A step that is decided on leads to its tile. -/
theorem target_of_approach {next : Tile} {state : DecisionState} {decision : Decision}
    (h : (planner.approach board next state).1 = .decided decision) :
    decision.target = next ∧ decision.state = state := by
  unfold approach at h
  split at h <;> cases h
  exact ⟨rfl, rfl⟩

/-- What is decided on a route is a new plan, and leads to the first tile of the route. -/
theorem target_of_follow {route : List Tile} {decision : Decision}
    (h : (planner.follow board route).1 = .decided decision) :
    decision.state = .replanning ∧ ∀ next, route.head? = some next → decision.target = next := by
  unfold follow at h
  split at h
  · next next rest =>
    obtain ⟨htarget, hstate⟩ := target_of_approach h
    refine ⟨hstate, ?_⟩
    intro other hother
    cases hother
    exact htarget
  · refine ⟨?_, fun _ hnext => nomatch hnext⟩
    split at h
    · cases h
    · exact (target_of_approach h).2
    · cases h
      rfl

theorem follow_shows {goal : Goal} {route : List Tile} {outlook : Outlook}
    (hplans : outlook.Plans board field goal route) :
    outlook.Shows board (planner.follow board route).1 [.field field, .route route] := by
  have hroute : route = [] ∨ board.IsRoute board.agent goal.tile route := by
    rw [hplans.route_eq]
    exact board.route_isRoute field _ _ board.agent goal.tile
  rcases follow_ends rfl hroute with ⟨fault, hstopped⟩ | ⟨decision, hdecided, -, -⟩
  · rw [hstopped]
    exact .stoppedFollowing hplans
  · obtain ⟨hstate, hhead⟩ := target_of_follow hdecided
    rw [hdecided]
    exact .planned hstate hplans hhead

/-- A planner that has computed the field shows it, and the route if there is a goal. -/
theorem pursue_reveals (hghosts : board.ghosts ≠ [])
    (hfield : planner.config.field.field board planner.distances = .ok field) :
    planner.outlook.Reveals board (fun _ presenter audience =>
      planner.pursue presenter board field (presenter.showField field audience).2) := by
  unfold pursue
  cases hselect : planner.config.goal.select board field planner.forecast planner.distances
      planner.source with
  | error fault =>
      dsimp only
      exact ⟨_, _, [.field field], .stoppedSelecting hfield, fun _ _ _ => rfl⟩
  | ok selected =>
      obtain ⟨result, source⟩ := selected
      cases result with
      | error error =>
          obtain ⟨rfl, -⟩ := GoalConfig.select_error hghosts hselect
          have hselects : planner.outlook.Selects board field (.error (.trapped board.agent)) :=
            ⟨hfield, source, hselect⟩
          dsimp only
          refine ⟨_, _, [.field field], ?_, fun _ _ _ => rfl⟩
          exact .trapped rfl rfl hselects
      | ok goal =>
          have hplans : planner.outlook.Plans board field goal
              (planner.routeTo board field goal) := ⟨⟨hfield, source, hselect⟩, rfl⟩
          dsimp only
          refine ⟨_, _, [.field field, .route (planner.routeTo board field goal)], ?_,
            fun _ _ _ => rfl⟩
          exact follow_shows hplans

theorem replan_reveals (hghosts : board.ghosts ≠ []) :
    planner.outlook.Reveals board
      (fun _ presenter audience => planner.replan presenter board audience) := by
  unfold replan
  cases hfield : planner.config.field.field board planner.distances with
  | error fault => exact .of_nothing .stopped
  | ok field => exact pursue_reveals hghosts hfield

/-- A step to a target that is one step away shows nothing. -/
theorem approach_shows {outlook : Outlook} {target : Tile} (htarget : planner.target = some target)
    (hadjacent : board.agent.isAdjacent target = .ok true) :
    outlook.Shows board (planner.approach board target .traveling).1 [] := by
  have hends : Ends board planner False (planner.approach board target .traveling).1
      (planner.approach board target .traveling).2 :=
    approach_ends (by decide) (Tile.isAdjacent_iff.mp hadjacent) (Or.inl htarget)
  rcases hends with ⟨fault, hstopped⟩ | ⟨decision, hdecided, -, -⟩
  · rw [hstopped]
    exact .stopped
  · rw [hdecided]
    apply Outlook.Shows.kept
    rw [(target_of_approach hdecided).2]
    decide

theorem travel_reveals (planner : Planner) (hghosts : board.ghosts ≠ []) :
    planner.outlook.Reveals board
      (fun _ presenter audience => planner.travel presenter board audience) := by
  unfold travel
  cases htarget : planner.target with
  | none => exact replan_reveals hghosts
  | some target =>
      dsimp only
      cases hadjacent : board.agent.isAdjacent target with
      | error fault => exact .of_nothing .stopped
      | ok adjacent =>
          cases adjacent with
          | false => exact replan_reveals hghosts
          | true => exact .of_nothing (approach_shows htarget hadjacent)

/-- A random step shows nothing. -/
theorem walk_shows {outlook : Outlook} : outlook.Shows board (planner.walk board).1 [] := by
  rcases walk_ends planner board with ⟨fault, hstopped⟩ | ⟨decision, hdecided, hstuck, -⟩
  · rw [hstopped]
    exact .stopped
  · rw [hdecided]
    apply Outlook.Shows.kept
    rw [hstuck.mpr trivial]
    decide

theorem decide_reveals {now : Nat} (hghosts : board.ghosts ≠ []) :
    planner.outlook.Reveals board
      (fun _ presenter audience => planner.decide presenter board now audience) := by
  unfold decide
  dsimp only
  split
  · exact .of_nothing walk_shows
  · exact travel_reveals
      { planner with motionlessSince := some (planner.motionlessSince.getD now) } hghosts

/-! ## Whole ticks -/

/-- The planner once it has looked around. -/
def look (planner : Planner) (board : Snapshot) : Planner :=
  match Forecast.observe planner.config.prediction planner.forecast board with
  | .error _ => planner
  | .ok (forecast, _) => { planner with forecast := forecast }

/-- The outlook of a tick with ghosts. -/
theorem outlook_look {forecast : Forecast} {motions : Motions} (now : Nat)
    (hlook : Forecast.observe planner.config.prediction planner.forecast board =
      .ok (forecast, motions)) :
    (planner.look board).outlook =
      outlook { planner.sight board.agent now with forecast := forecast } := by
  unfold look outlook
  rw [hlook]
  simp

/-- In front of any audience a tick ends in the same way and shows the same. -/
theorem tickAt_reveals (planner : Planner) (board : Snapshot) (now : Nat) :
    (planner.look board).outlook.Reveals board
      (fun _ presenter audience => planner.tickAt presenter board now audience) := by
  cases hlook : Forecast.observe planner.config.prediction planner.forecast board with
  | error fault =>
      simp only [tickAt_of_error hlook]
      exact .of_nothing .stopped
  | ok look =>
      obtain ⟨forecast, motions⟩ := look
      by_cases hghosts : board.ghosts = []
      · simp only [tickAt_of_nil hlook hghosts]
        exact .of_nothing .skipped
      · simp only [tickAt_of_ne_nil hlook hghosts]
        rw [outlook_look now hlook]
        exact decide_reveals hghosts

end Tick

/-! ## Passages -/

namespace Passage

variable {σ τ : Type}

/-- What a new plan is made from in a tick. -/
def outlook (passage : Passage σ) (k : Nat) : Outlook :=
  ((passage.planner k).look (passage.boards k)).outlook

/-- The same passage in front of another audience. -/
def shownTo (passage : Passage σ) (presenters : Nat → Presenter τ) (audience : τ) : Passage τ :=
  { passage with audience := audience, presenters := presenters }

/-- From the same planner a tick ends in the same way in front of any audience. -/
theorem exists_tick_shownTo (passage : Passage σ) (k : Nat) :
    ∃ outcome later calls, (passage.outlook k).Shows (passage.boards k) outcome calls ∧
      ∀ (τ : Type) (presenters : Nat → Presenter τ) (audience : τ),
        let other := passage.shownTo presenters audience
        other.planner k = passage.planner k →
          other.tick k = ⟨outcome, later, (presenters k).attend (other.before k).2 calls⟩ := by
  obtain ⟨outcome, later, calls, hshows, hreveals⟩ :=
    tickAt_reveals (passage.planner k) (passage.boards k) (passage.times k)
  refine ⟨outcome, later, calls, hshows, ?_⟩
  intro τ presenters audience other hplanner
  unfold tick
  rw [hplanner]
  exact hreveals τ (presenters k) (other.before k).2

theorem planner_shownTo (passage : Passage σ) (presenters : Nat → Presenter τ) (audience : τ)
    (k : Nat) : (passage.shownTo presenters audience).planner k = passage.planner k := by
  induction k with
  | zero => rfl
  | succ k ih =>
      obtain ⟨outcome, later, calls, -, htick⟩ := passage.exists_tick_shownTo k
      have hown : passage.tick k = _ := htick σ passage.presenters passage.audience rfl
      -- The passage itself is the one that is shown to its own audience.
      rw [planner_succ, planner_succ, htick τ presenters audience ih, hown]

/-- In front of any audience a passage does the same, and shows in every tick what fits the way it
ends. -/
theorem tick_shownTo (passage : Passage σ) (k : Nat) :
    ∃ calls, (passage.outlook k).Shows (passage.boards k) (passage.tick k).outcome calls ∧
      ∀ (τ : Type) (presenters : Nat → Presenter τ) (audience : τ),
        let other := passage.shownTo presenters audience
        other.planner k = passage.planner k ∧
          (other.tick k).outcome = (passage.tick k).outcome ∧
          (other.tick k).planner = (passage.tick k).planner ∧
          (other.tick k).audience = (presenters k).attend (other.before k).2 calls := by
  obtain ⟨outcome, later, calls, hshows, htick⟩ := passage.exists_tick_shownTo k
  have hown : passage.tick k = _ := htick σ passage.presenters passage.audience rfl
  refine ⟨calls, ?_, ?_⟩
  · rw [hown]
    exact hshows
  · intro τ presenters audience other
    have hplanner : other.planner k = passage.planner k :=
      passage.planner_shownTo presenters audience k
    rw [htick τ presenters audience hplanner, hown]
    exact ⟨hplanner, rfl, rfl, rfl⟩

end Passage
end Planner
end MazeAgent
