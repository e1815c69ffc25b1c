import MazeAgent.Proofs.Planner.Passage

/-!
# What chance decides

The planner draws a random neighbour for an agent that is stuck, for a goal where nothing else can
be one, and in place of a route that could not be found. A tick that does none of this hands its
random source on untouched, and would have done the same with any other source. So two planners
that differ in their sources go on alike until one of them draws.

**Results.**
* `Planner.withSource`: a planner with another source.
* `Outlook.Draws`: the decisions in which chance has a say.
* `Outlook.not_draws_of_traveling`, `Outlook.not_draws_of_plans`: two kinds of decisions in which it
  has none.
* `Planner.tickAt_withSource`, `Planner.source_of_tickAt`: a tick without such a decision.
* `Planner.Passage.planner_withSource`: a passage without such decisions.
-/

namespace MazeAgent

/-! ## Goals -/

namespace GoalConfig

variable {config : GoalConfig} {board : Snapshot} {field : Field} {forecast : Forecast}
  {distances : Distances} {source : RandomSource}

/-- An exploration that fails draws nothing. -/
theorem explore_withSource
    (h : ∀ tile later, explore board source ≠ .ok (.ok (.explore tile), later))
    (other : RandomSource) :
    explore board other = (explore board source).map (fun found => (found.1, other)) := by
  unfold explore at h ⊢
  cases hways : board.neighbors board.agent with
  | error fault => rfl
  | ok ways =>
      rw [hways] at h
      cases ways with
      | nil => rfl
      | cons first rest => exact absurd rfl (h _ _)

/-- A goal that is no exploration is the same for all sources. -/
theorem select_withSource
    (h : ∀ tile later, config.select board field forecast distances source ≠
      .ok (.ok (.explore tile), later)) (other : RandomSource) :
    config.select board field forecast distances other =
      (config.select board field forecast distances source).map
        (fun found => (found.1, other)) := by
  unfold select at h ⊢
  split
  · rfl
  · next hghosts =>
    rw [if_neg hghosts] at h
    cases hbest : config.candidate board field forecast distances with
    | error fault => rfl
    | ok best =>
        rw [hbest] at h
        -- Only where there is no candidate the source is looked at.
        cases best with
        | none => exact explore_withSource h other
        | some best =>
            simp only [Checked.ok_bind]
            cases config.flight board distances best.1.tile with
            | error fault => rfl
            | ok flight => cases flight <;> rfl

/-- Only where the neighbours of the agent are known one of them is explored. -/
theorem exists_neighbors_of_explore {tile : Tile} {later : RandomSource}
    (hghosts : board.ghosts ≠ [])
    (h : config.select board field forecast distances source =
      .ok (.ok (.explore tile), later)) :
    ∃ ways, board.neighbors board.agent = .ok ways := by
  obtain ⟨best, -, hresult⟩ := select_eq_ok hghosts h
  cases best with
  | none =>
      obtain ⟨ways, hways, -⟩ := Checked.bind_eq_ok_iff.mp hresult
      exact ⟨ways, hways⟩
  | some best => rcases hresult with ⟨refuge, threat, hgoal⟩ | hgoal <;> cases hgoal

end GoalConfig

namespace Outlook

section Draws

variable (outlook : Outlook) (board : Snapshot)

/-- The decisions in which chance has a say. -/
inductive Draws : Outcome → Prop
  | stuck {decision : Decision} {next : Tile} (hstate : decision.state = .stuck)
      (hnext : board.IsNeighbor board.agent next) : Draws (.decided decision)
  | explores {decision : Decision} {field : Field} {tile : Tile}
      (hstate : decision.state = .replanning)
      (hselects : outlook.Selects board field (.ok (.explore tile))) : Draws (.decided decision)
  /-- There is a goal but no route to it. -/
  | lost {decision : Decision} {field : Field} {goal : Goal}
      (hstate : decision.state = .replanning) (hplans : outlook.Plans board field goal []) :
      Draws (.decided decision)

end Draws

variable {outlook : Outlook} {board : Snapshot}

theorem not_draws_of_traveling {decision : Decision} (hstate : decision.state = .traveling) :
    ¬ outlook.Draws board (.decided decision) := by
  intro hdraws
  cases hdraws with
  | stuck hother => simp [hstate] at hother
  | explores hother => simp [hstate] at hother
  | lost hother => simp [hstate] at hother

theorem Selects.unique {field other : Field} {result otherResult : Except GoalError Goal}
    (h : outlook.Selects board field result)
    (hother : outlook.Selects board other otherResult) : field = other ∧ result = otherResult := by
  obtain rfl := Except.ok.inj (h.field_eq.symm.trans hother.field_eq)
  obtain ⟨later, hselect⟩ := h.select_eq
  obtain ⟨otherLater, hotherSelect⟩ := hother.select_eq
  have hresult := Except.ok.inj (hselect.symm.trans hotherSelect)
  exact ⟨rfl, congrArg Prod.fst hresult⟩

/-- A route to a goal that is no exploration leaves nothing to chance. -/
theorem not_draws_of_plans {decision : Decision} {field : Field} {goal : Goal} {next : Tile}
    {rest : List Tile} (hstate : decision.state = .replanning)
    (hplans : outlook.Plans board field goal (next :: rest))
    (hgoal : ∀ tile, goal ≠ .explore tile) : ¬ outlook.Draws board (.decided decision) := by
  intro hdraws
  cases hdraws with
  | stuck hother => simp [hstate] at hother
  | explores _ hselects =>
      obtain ⟨-, hresult⟩ := hplans.toSelects.unique hselects
      exact hgoal _ (Except.ok.inj hresult)
  | lost _ hlost =>
      obtain ⟨rfl, hresult⟩ := hplans.toSelects.unique hlost.toSelects
      obtain rfl := Except.ok.inj hresult
      exact absurd (hplans.route_eq.trans hlost.route_eq.symm) (List.cons_ne_nil _ _)

end Outlook

/-! ## Other sources -/

/-- A planner with another source. -/
def Planner.withSource (planner : Planner) (source : RandomSource) : Planner :=
  { planner with source := source }

/-- A tick with another source in the planner that it leaves behind. -/
def Tick.withSource {σ : Type} (tick : Tick σ) (source : RandomSource) : Tick σ :=
  { tick with planner := tick.planner.withSource source }

namespace Planner

section Tick

variable {σ : Type} {presenter : Presenter σ} {board : Snapshot} {planner : Planner}
  {audience : σ} {field : Field}

theorem sight_withSource (planner : Planner) (source : RandomSource) (agent : Tile) (now : Nat) :
    (planner.withSource source).sight agent now = (planner.sight agent now).withSource source := by
  unfold sight
  rw [apply_ite (withSource · source)]
  rfl

/-! ## The ways to act -/

theorem approach_withSource (planner : Planner) (source : RandomSource) (next : Tile)
    (state : DecisionState) :
    (planner.withSource source).approach board next state =
      ((planner.approach board next state).1,
        (planner.approach board next state).2.withSource source) := by
  unfold approach
  split <;> rfl

/-- An agent that is stuck and has no neighbour draws nothing. -/
theorem walk_withSource (planner : Planner) (source : RandomSource) {outlook : Outlook}
    (h : ¬ outlook.Draws board (planner.walk board).1) :
    (planner.withSource source).walk board =
      ((planner.walk board).1, (planner.walk board).2.withSource source) := by
  unfold walk drawNeighbor at h ⊢
  cases hways : board.neighbors board.agent with
  | error fault => rfl
  | ok ways =>
      rw [hways] at h
      cases ways with
      | nil => rfl
      | cons first rest =>
          have hnext : board.IsNeighbor board.agent first.2 :=
            (Snapshot.isNeighbor_iff_of_neighbors hways).mpr ⟨first, List.mem_cons_self, rfl⟩
          exact absurd (.stuck rfl hnext) h

theorem follow_withSource (planner : Planner) (source : RandomSource) {route : List Tile}
    (h : route = [] → ∃ fault, board.neighbors board.agent = .error fault) :
    (planner.withSource source).follow board route =
      ((planner.follow board route).1, (planner.follow board route).2.withSource source) := by
  cases route with
  | cons next rest => exact planner.approach_withSource source next .replanning
  | nil =>
      obtain ⟨fault, hways⟩ := h rfl
      unfold follow drawNeighbor
      rw [hways]
      rfl

/-! ## New plans -/

theorem pursue_of_goal {goal : Goal} {later : RandomSource}
    (hselect : planner.config.goal.select board field planner.forecast planner.distances
      planner.source = .ok (.ok goal, later)) :
    planner.pursue presenter board field audience =
      ⟨((planner.withSource later).follow board (planner.routeTo board field goal)).1,
        ((planner.withSource later).follow board (planner.routeTo board field goal)).2,
        (presenter.showRoute (planner.routeTo board field goal) audience).2⟩ := by
  unfold pursue
  rw [hselect]
  rfl

/-- A goal leads to a new plan as soon as the neighbours of the agent are known. -/
theorem exists_decided_of_pursue {goal : Goal} {later : RandomSource}
    {ways : List (Direction × Tile)}
    (hselect : planner.config.goal.select board field planner.forecast planner.distances
      planner.source = .ok (.ok goal, later)) (hways : board.neighbors board.agent = .ok ways) :
    ∃ decision, (planner.pursue presenter board field audience).outcome = .decided decision ∧
      decision.state = .replanning := by
  obtain ⟨decision, hdecided⟩ := exists_decided_of_follow (planner.withSource later) hways
    (board.route_isRoute field planner.distances planner.config.search board.agent goal.tile)
  rw [pursue_of_goal hselect]
  exact ⟨decision, hdecided, (target_of_follow hdecided).1⟩

section Calm

variable (hghosts : board.ghosts ≠ [])
  (hfield : planner.config.field.field board planner.distances = .ok field)
  (h : ¬ planner.outlook.Draws board (planner.pursue presenter board field audience).outcome)

include hfield h

/-- Unless chance has a say, a goal without a route ends in a fault. -/
theorem neighbors_of_route_eq_nil {goal : Goal} {later : RandomSource}
    (hselect : planner.config.goal.select board field planner.forecast planner.distances
      planner.source = .ok (.ok goal, later)) (hroute : planner.routeTo board field goal = []) :
    ∃ fault, board.neighbors board.agent = .error fault := by
  cases hways : board.neighbors board.agent with
  | error fault => exact ⟨fault, rfl⟩
  | ok ways =>
      obtain ⟨decision, hdecided, hstate⟩ := exists_decided_of_pursue hselect hways
      rw [hdecided] at h
      exact absurd (.lost hstate ⟨⟨hfield, later, hselect⟩, hroute.symm⟩) h

include hghosts

/-- Unless chance has a say, the goal is no exploration. -/
theorem select_ne_explore (tile : Tile) (later : RandomSource) :
    planner.config.goal.select board field planner.forecast planner.distances planner.source ≠
      .ok (.ok (.explore tile), later) := by
  intro hselect
  obtain ⟨ways, hways⟩ := GoalConfig.exists_neighbors_of_explore hghosts hselect
  obtain ⟨decision, hdecided, hstate⟩ := exists_decided_of_pursue hselect hways
  rw [hdecided] at h
  exact h (.explores hstate ⟨hfield, later, hselect⟩)

theorem pursue_withSource (source : RandomSource) :
    (planner.withSource source).pursue presenter board field audience =
      (planner.pursue presenter board field audience).withSource source := by
  have hother : (planner.withSource source).config.goal.select board field
      (planner.withSource source).forecast (planner.withSource source).distances
      (planner.withSource source).source =
        (planner.config.goal.select board field planner.forecast planner.distances
          planner.source).map (fun found => (found.1, source)) :=
    GoalConfig.select_withSource (select_ne_explore hghosts hfield h) source
  cases hselect : planner.config.goal.select board field planner.forecast planner.distances
      planner.source with
  | error fault =>
      unfold pursue
      rw [hother, hselect]
      rfl
  | ok selected =>
      obtain ⟨result, later⟩ := selected
      rw [hselect] at hother
      cases result with
      | error error =>
          unfold pursue
          rw [hother, hselect]
          cases error <;> rfl
      | ok goal =>
          have hfollow : ((planner.withSource source).withSource source).follow board
              ((planner.withSource source).routeTo board field goal) = _ :=
            follow_withSource (planner.withSource later) source
              (neighbors_of_route_eq_nil hfield h hselect)
          rw [pursue_of_goal hother, pursue_of_goal hselect, hfollow]
          rfl

end Calm

/-! ## Whole ticks -/

theorem replan_withSource (hghosts : board.ghosts ≠ [])
    (h : ¬ planner.outlook.Draws board (planner.replan presenter board audience).outcome)
    (source : RandomSource) :
    (planner.withSource source).replan presenter board audience =
      (planner.replan presenter board audience).withSource source := by
  have hother : (planner.withSource source).config.field.field board
      (planner.withSource source).distances =
        planner.config.field.field board planner.distances := rfl
  unfold replan at h ⊢
  rw [hother]
  cases hfield : planner.config.field.field board planner.distances with
  | error fault => rfl
  | ok field =>
      rw [hfield] at h
      exact pursue_withSource hghosts hfield h source

theorem travel_withSource (planner : Planner) (hghosts : board.ghosts ≠ [])
    (h : ¬ planner.outlook.Draws board (planner.travel presenter board audience).outcome)
    (source : RandomSource) :
    (planner.withSource source).travel presenter board audience =
      (planner.travel presenter board audience).withSource source := by
  have hother : (planner.withSource source).target = planner.target := rfl
  unfold travel at h ⊢
  rw [hother]
  cases htarget : planner.target with
  | none =>
      rw [htarget] at h
      exact replan_withSource hghosts h source
  | some target =>
      rw [htarget] at h
      dsimp only at h ⊢
      cases hadjacent : board.agent.isAdjacent target with
      | error fault => rfl
      | ok adjacent =>
          rw [hadjacent] at h
          cases adjacent with
          | false => exact replan_withSource hghosts h source
          | true =>
              dsimp only
              rw [approach_withSource]
              rfl

theorem decide_withSource {now : Nat} (hghosts : board.ghosts ≠ [])
    (h : ¬ planner.outlook.Draws board (planner.decide presenter board now audience).outcome)
    (source : RandomSource) :
    (planner.withSource source).decide presenter board now audience =
      (planner.decide presenter board now audience).withSource source := by
  have hother : (planner.withSource source).isStalled
      ((planner.withSource source).motionlessSince.getD now) now =
        planner.isStalled (planner.motionlessSince.getD now) now := rfl
  unfold decide at h ⊢
  dsimp only at h ⊢
  rw [hother]
  split
  · next hstalled =>
    rw [if_pos hstalled] at h
    have hwalk : walk { planner.withSource source with motionlessSince := some now } board = _ :=
      walk_withSource { planner with motionlessSince := some now } source h
    rw [hwalk]
    rfl
  · next hstalled =>
    rw [if_neg hstalled] at h
    exact travel_withSource
      { planner with motionlessSince := some (planner.motionlessSince.getD now) } hghosts h source

/-- A tick in which chance has no say would be the same with any other source. -/
theorem tickAt_withSource {now : Nat}
    (h : ¬ (planner.look board).outlook.Draws board
      (planner.tickAt presenter board now audience).outcome) (source : RandomSource) :
    (planner.withSource source).tickAt presenter board now audience =
      (planner.tickAt presenter board now audience).withSource source := by
  have hsight := planner.sight_withSource source board.agent now
  cases hlook : Forecast.observe planner.config.prediction planner.forecast board with
  | error fault =>
      have hother : (planner.withSource source).tickAt presenter board now audience = _ :=
        tickAt_of_error hlook
      rw [tickAt_of_error hlook, hother, hsight]
      rfl
  | ok look =>
      obtain ⟨forecast, motions⟩ := look
      by_cases hghosts : board.ghosts = []
      · rw [tickAt_of_nil hlook hghosts]
        have hother : (planner.withSource source).tickAt presenter board now audience = _ :=
          tickAt_of_nil hlook hghosts
        rw [hother, hsight]
        rfl
      · rw [tickAt_of_ne_nil hlook hghosts, outlook_look now hlook] at h
        have hother : (planner.withSource source).tickAt presenter board now audience = _ :=
          tickAt_of_ne_nil hlook hghosts
        rw [tickAt_of_ne_nil hlook hghosts, hother, hsight]
        exact decide_withSource hghosts h source

/-- A tick in which chance has no say leaves the source alone. -/
theorem source_of_tickAt {now : Nat}
    (h : ¬ (planner.look board).outlook.Draws board
      (planner.tickAt presenter board now audience).outcome) :
    (planner.tickAt presenter board now audience).planner.source = planner.source := by
  -- A planner with its own source in place is itself, and hands on the source put in place.
  have hself : planner.tickAt presenter board now audience =
      (planner.tickAt presenter board now audience).withSource planner.source :=
    tickAt_withSource h planner.source
  rw [hself]
  rfl

end Tick

/-! ## Passages -/

namespace Passage

variable {σ : Type} {passage : Passage σ} {k : Nat}

/-- The same passage from another source on. -/
def withSource (passage : Passage σ) (source : RandomSource) : Passage σ :=
  { passage with first := passage.first.withSource source }

/-- Whether chance has a say in a tick. -/
def Draws (passage : Passage σ) (k : Nat) : Prop :=
  (passage.outlook k).Draws (passage.boards k) (passage.tick k).outcome

theorem tick_withSource {source : RandomSource}
    (hbefore : (passage.withSource source).before k =
      ((passage.planner k).withSource source, (passage.before k).2)) (h : ¬ passage.Draws k) :
    (passage.withSource source).tick k = (passage.tick k).withSource source := by
  unfold tick planner
  rw [hbefore]
  exact tickAt_withSource h source

theorem before_withSource (h : ∀ i < k, ¬ passage.Draws i) (source : RandomSource) :
    (passage.withSource source).before k =
      ((passage.planner k).withSource source, (passage.before k).2) := by
  induction k with
  | zero => rfl
  | succ k ih =>
      have hbefore := ih (fun i hi => h i (Nat.lt_succ_of_lt hi))
      rw [before_succ, tick_withSource hbefore (h k (Nat.lt_succ_self k))]
      rfl

/-- Two passages from different sources on are alike as long as chance has no say, and a tick in
which it has none leaves the source alone. -/
theorem planner_withSource (passage : Passage σ) (source : RandomSource) (k : Nat) :
    ((∀ i < k, ¬ passage.Draws i) →
      (passage.withSource source).planner k = (passage.planner k).withSource source ∧
        ∀ i < k, ((passage.withSource source).tick i).outcome = (passage.tick i).outcome) ∧
    (¬ passage.Draws k → (passage.planner (k + 1)).source = (passage.planner k).source) := by
  refine ⟨?_, source_of_tickAt⟩
  intro h
  refine ⟨congrArg Prod.fst (before_withSource h source), ?_⟩
  intro i hi
  have hbefore : (passage.withSource source).before i = _ :=
    before_withSource (fun j hj => h j (hj.trans hi)) source
  rw [tick_withSource hbefore (h i hi)]
  rfl

/-- A fresh planner sets out for the pellet, and the agent does not get to the next tile, in ticks
a millisecond apart. -/
def stroll : Passage Unit where
  first := start Config.standard (.ofMetric .manhattan) (.cyclic #[0])
  audience := ()
  presenters _ := Presenter.silent
  boards _ := Run.errand
  times k := k * 1000000

/-- In the first tick a goal is chosen and a route to it is found. -/
theorem stroll_plans :
    (stroll.outlook 0).Plans Run.errand Run.errandField (.seek ⟨2, 4⟩ (-2546))
      [⟨1, 2⟩, ⟨1, 3⟩, ⟨2, 3⟩, ⟨2, 4⟩] := by
  have houtlook : stroll.outlook 0 = Run.scout.outlook := rfl
  rw [houtlook]
  exact ⟨⟨Run.field_errand, _, Run.select_errand⟩, Run.routeTo_errand.symm⟩

/-- The planner goes on to its target until its patience is at an end. -/
theorem tickAt_courier {now : Nat} (hnow : now ≤ 2000000000) :
    Run.courier.tickAt Presenter.silent Run.errand now () =
      ⟨.decided ⟨0, .right, ⟨1, 2⟩, .traveling⟩, Run.courier, ()⟩ := by
  have hlook : Forecast.observe Run.courier.config.prediction Run.courier.forecast Run.errand =
      .ok (Run.scout.forecast, (PerColor.fill none).set .red (some .stationary)) := rfl
  have hstep : Run.errand.agent.step .right = .ok ⟨1, 2⟩ := rfl
  have hcalm : Run.courier.isStalled 0 now = false := by
    have hpatience : Run.courier.patience = 2000000000 := rfl
    unfold isStalled
    rw [hpatience, Nat.sub_zero, decide_eq_false (Nat.not_lt.mpr hnow), Bool.and_false]
  have hdecide : Run.courier.decide Presenter.silent Run.errand now () = _ :=
    decide_of_target hcalm hstep rfl
  exact (tickAt_of_ne_nil hlook (List.cons_ne_nil _ _)).trans hdecide

theorem tick_stroll_zero : stroll.tick 0 =
    ⟨.decided ⟨0, .right, ⟨1, 2⟩, .replanning⟩, Run.courier, ()⟩ :=
  Run.tickAt_errand

theorem tick_stroll_succ {k : Nat} (hk : k < 2000) : stroll.tick (k + 1) =
    ⟨.decided ⟨0, .right, ⟨1, 2⟩, .traveling⟩, Run.courier, ()⟩ := by
  have hbefore : stroll.before (k + 1) = (Run.courier, ()) := by
    cases k with
    | zero => rw [before_succ, tick_stroll_zero]
    | succ k => rw [before_succ, tick_stroll_succ (Nat.lt_of_succ_lt hk)]
  have htime : stroll.times (k + 1) ≤ 2000000000 := Nat.mul_le_mul_right 1000000 hk
  unfold tick planner
  rw [hbefore]
  exact tickAt_courier htime

theorem stroll_not_draws {k : Nat} (hk : k ≤ 2000) : ¬ stroll.Draws k := by
  unfold Draws
  cases k with
  | zero =>
      rw [tick_stroll_zero]
      exact Outlook.not_draws_of_plans rfl stroll_plans (fun _ h => nomatch h)
  | succ k =>
      rw [tick_stroll_succ hk]
      exact Outlook.not_draws_of_traveling rfl

/-- From another source on the same goal is chosen and the same steps are taken. -/
theorem planner_withSource_stroll :
    (stroll.outlook 0).Plans Run.errand Run.errandField (.seek ⟨2, 4⟩ (-2546))
        [⟨1, 2⟩, ⟨1, 3⟩, ⟨2, 3⟩, ⟨2, 4⟩] ∧
      (∀ i < 2000, ¬ stroll.Draws i) ∧ ¬ stroll.Draws 2000 ∧
      (stroll.withSource (.cyclic #[7])).planner 2000 =
        (stroll.planner 2000).withSource (.cyclic #[7]) ∧
      ((stroll.withSource (.cyclic #[7])).tick 0).outcome =
        .decided ⟨0, .right, ⟨1, 2⟩, .replanning⟩ ∧
      ((stroll.withSource (.cyclic #[7])).tick 1999).outcome =
        .decided ⟨0, .right, ⟨1, 2⟩, .traveling⟩ ∧
      (stroll.planner 1).source = (stroll.planner 0).source ∧
      (stroll.planner 2001).source = (stroll.planner 2000).source := by
  have hbefore : ∀ i < 2000, ¬ stroll.Draws i := fun i hi => stroll_not_draws hi.le
  have hcalm : ¬ stroll.Draws 2000 := stroll_not_draws le_rfl
  obtain ⟨halike, hsource⟩ := stroll.planner_withSource (.cyclic #[7]) 2000
  obtain ⟨hplanner, houtcome⟩ := halike hbefore
  refine ⟨stroll_plans, hbefore, hcalm, hplanner, ?_, ?_, ?_, hsource hcalm⟩
  · rw [houtcome 0 (by decide), tick_stroll_zero]
  · rw [houtcome 1999 (by decide), tick_stroll_succ (by decide)]
  · exact (stroll.planner_withSource (.cyclic #[7]) 0).2 (hbefore 0 (by decide))

end Passage
end Planner
end MazeAgent
