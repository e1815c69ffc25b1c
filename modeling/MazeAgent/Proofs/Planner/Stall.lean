import MazeAgent.Proofs.Planner.Run

/-!
# Stalls

The clock of the stall is spread over the last agent, the last command and the time since when
the agent has been motionless, and what a tick does to them depends on how it ends. Told from the
history alone, the clock starts anew at the resets, and there is a stall when the last reset is
longer ago than the planner is patient.

**Results.**
* `Planner.Run.IsReset`: the clock starts anew in a tick.
* `Planner.Run.exists_since`: the planner counts from the last reset.
* `Planner.Run.isStuck_iff`: an agent is stuck exactly when the last reset is too long ago.
-/

namespace MazeAgent
namespace Planner
namespace Run

variable {σ : Type} {run : Run σ} {i j k : Nat}

/-! ## The history -/

/-- The last command decided on before a tick. -/
def lastCommand (run : Run σ) : Nat → MoveCommand
  | 0 => .none
  | k + 1 =>
      match (run.tick k).outcome with
      | .decided decision => decision.command
      | _ => lastCommand run k

/-- The clock starts anew in a tick: it is the first one, or the agent is elsewhere than before,
or it was not told to move, or there are no ghosts. -/
def IsReset (run : Run σ) (k : Nat) : Prop :=
  k = 0 ∨ (run.boards k).agent ≠ (run.boards (k - 1)).agent ∨
    (run.lastCommand k).isMove = false ∨ (run.boards k).ghosts = []

/-- The last reset up to a tick. -/
structure IsLastReset (run : Run σ) (j k : Nat) : Prop where
  le : j ≤ k
  isReset : run.IsReset j
  not_isReset : ∀ i, j < i → i ≤ k → ¬ run.IsReset i

/-- A tick finds that the agent is stuck. -/
def IsStuck (run : Run σ) (k : Nat) : Prop :=
  ∃ decision, (run.tick k).outcome = .decided decision ∧ decision.state = .stuck

theorem IsReset.isLastReset (h : run.IsReset k) : run.IsLastReset k k where
  le := Nat.le_refl k
  isReset := h
  not_isReset _ hlt hle := absurd hle (Nat.not_le_of_lt hlt)

theorem IsLastReset.succ (h : run.IsLastReset j k) (hk : ¬ run.IsReset (k + 1)) :
    run.IsLastReset j (k + 1) where
  le := Nat.le_succ_of_le h.le
  isReset := h.isReset
  not_isReset := by
    intro i hlt hle
    rcases Nat.le_succ_iff.mp hle with hle | rfl
    · exact h.not_isReset i hlt hle
    · exact hk

theorem IsLastReset.unique (hi : run.IsLastReset i k) (hj : run.IsLastReset j k) : i = j := by
  rcases Nat.lt_trichotomy i j with hlt | heq | hlt
  · exact absurd hj.isReset (hi.not_isReset j hlt hj.le)
  · exact heq
  · exact absurd hi.isReset (hj.not_isReset i hlt hi.le)

/-! ## What the planner remembers of the history -/

/-- Every tick keeps the configuration and notes where the agent is. -/
theorem tick_keeps (hfaultless : run.IsFaultless (k + 1)) :
    (run.planner (k + 1)).config = (run.planner k).config ∧
      (run.planner (k + 1)).lastAgent = some (run.boards k).agent := by
  rw [planner_succ]
  by_cases hghosts : (run.boards k).ghosts = []
  · obtain ⟨-, forecast, hplanner⟩ := tick_of_nil hfaultless hghosts
    rw [hplanner]
    exact ⟨sight_config _ _ _, sight_lastAgent _ _ _⟩
  · obtain ⟨forecast, decision, -, -, hacts⟩ := tick_acts hfaultless hghosts
    rw [hacts.config_eq, hacts.lastAgent_eq]
    exact ⟨sight_config _ _ _, sight_lastAgent _ _ _⟩

theorem config_eq (hfaultless : run.IsFaultless k) : (run.planner k).config = run.config := by
  induction k with
  | zero => rfl
  | succ k ih => rw [(tick_keeps hfaultless).1, ih hfaultless.of_succ]

theorem lastCommand_eq (hfaultless : run.IsFaultless k) :
    (run.planner k).lastCommand = run.lastCommand k := by
  induction k with
  | zero => rfl
  | succ k ih =>
      rw [planner_succ]
      by_cases hghosts : (run.boards k).ghosts = []
      · obtain ⟨hskipped, forecast, hplanner⟩ := tick_of_nil hfaultless hghosts
        rw [hplanner, lastCommand, hskipped, ← ih hfaultless.of_succ]
        exact sight_lastCommand _ _ _
      · obtain ⟨forecast, decision, hdecided, -, hacts⟩ := tick_acts hfaultless hghosts
        rw [hacts.lastCommand_eq, lastCommand, hdecided]

/-- A planner that has told the agent to move counts from the last reset. A stall cannot have
come in between, since it does not end with such a command. -/
theorem motionlessSince_eq (hfaultless : run.IsFaultless (k + 1))
    (hmove : (run.lastCommand (k + 1)).isMove = true) (hlast : run.IsLastReset j k)
    (hsince : (run.boards k).ghosts ≠ [] → run.since k = run.times j) :
    (run.planner (k + 1)).motionlessSince = some (run.times j) := by
  rw [← lastCommand_eq hfaultless, planner_succ] at hmove
  rw [planner_succ]
  by_cases hghosts : (run.boards k).ghosts = []
  · have hreset : run.IsReset k := Or.inr (Or.inr (Or.inr hghosts))
    obtain rfl := hlast.unique hreset.isLastReset
    obtain ⟨-, forecast, hplanner⟩ := tick_of_nil hfaultless hghosts
    rw [hplanner]
    rfl
  · obtain ⟨forecast, decision, -, hstate, hacts⟩ := tick_acts hfaultless hghosts
    have hcalm : ¬ run.IsStalled k := by
      intro hstalled
      rw [hacts.lastCommand_eq, hacts.isMove_eq_false (hstate.mpr hstalled)] at hmove
      cases hmove
    rw [hacts.motionlessSince_eq, if_neg hcalm, ← hsince hghosts]
    rfl

theorem since_of_reset
    (h : ¬ ((run.planner k).lastAgent = some (run.boards k).agent ∧
      (run.planner k).lastCommand.isMove = true)) : run.since k = run.times k := by
  unfold since sight
  rw [if_neg h]
  rfl

theorem since_of_not_reset
    (h : (run.planner k).lastAgent = some (run.boards k).agent ∧
      (run.planner k).lastCommand.isMove = true) :
    run.since k = ((run.planner k).motionlessSince).getD (run.times k) := by
  unfold since sight
  rw [if_pos h]

/-- In a tick with ghosts the planner counts from the last reset. -/
theorem exists_since (hfaultless : run.IsFaultless k) :
    ∃ j, run.IsLastReset j k ∧ ((run.boards k).ghosts ≠ [] → run.since k = run.times j) := by
  induction k with
  | zero =>
      refine ⟨0, IsReset.isLastReset (Or.inl rfl), fun _ => since_of_reset ?_⟩
      rintro ⟨hagent, -⟩
      cases hagent
  | succ k ih =>
      obtain ⟨-, hagent⟩ := tick_keeps hfaultless
      have hcommand := lastCommand_eq hfaultless
      by_cases hreset : run.IsReset (k + 1)
      · refine ⟨k + 1, hreset.isLastReset, fun hghosts => since_of_reset ?_⟩
        rw [hagent, hcommand, Option.some.injEq]
        rintro ⟨hsame, hmove⟩
        rcases hreset with hzero | hmoved | hidle | hempty
        · cases hzero
        · exact hmoved hsame.symm
        · rw [hidle] at hmove
          cases hmove
        · exact hghosts hempty
      · -- Nothing has happened to the clock since the tick before.
        obtain ⟨j, hlast, hsince⟩ := ih hfaultless.of_succ
        refine ⟨j, hlast.succ hreset, fun _ => ?_⟩
        have hsame : (run.boards (k + 1)).agent = (run.boards k).agent := by
          by_contra hmoved
          exact hreset (Or.inr (Or.inl hmoved))
        have hmove : (run.lastCommand (k + 1)).isMove = true := by
          by_contra hidle
          exact hreset (Or.inr (Or.inr (Or.inl (Bool.not_eq_true _ ▸ hidle))))
        rw [since_of_not_reset, motionlessSince_eq hfaultless hmove hlast hsince, Option.getD_some]
        rw [hagent, hcommand, hsame]
        exact ⟨rfl, hmove⟩

/-! ## Stalls -/

/-- There is a stall when the last reset is longer ago than the planner is patient. -/
theorem isStalled_iff (hfaultless : run.IsFaultless k) (hghosts : (run.boards k).ghosts ≠ [])
    (hlast : run.IsLastReset j k) :
    run.IsStalled k ↔
      run.config.planner.stuckThreshold.toNat * 1000000 < run.times k - run.times j := by
  have hsince : run.since k = run.times j := by
    obtain ⟨i, hi, hsince⟩ := exists_since hfaultless
    rw [hsince hghosts, hi.unique hlast]
  -- An agent that was not told to move has been reset in this very tick, at no distance.
  have hmove : run.config.planner.stuckThreshold.toNat * 1000000 <
      run.times k - run.times j → (run.lastCommand k).isMove = true := by
    intro hlate
    by_contra hidle
    have hreset : run.IsReset k := Or.inr (Or.inr (Or.inl (Bool.not_eq_true _ ▸ hidle)))
    obtain rfl := hlast.unique hreset.isLastReset
    omega
  unfold IsStalled isStalled patience
  rw [Bool.and_eq_true, decide_eq_true_iff, sight_lastCommand, sight_config,
    lastCommand_eq hfaultless, config_eq hfaultless, hsince]
  exact ⟨fun h => h.2, fun h => ⟨hmove h, h⟩⟩

/-- In a tick with ghosts the agent is stuck exactly when more time than the planner allows has
passed since the last reset. -/
theorem isStuck_iff (hfaultless : run.IsFaultless (k + 1)) (hghosts : (run.boards k).ghosts ≠ []) :
    (∃ j, run.IsLastReset j k) ∧
    ∀ j, run.IsLastReset j k →
      (run.IsStuck k ↔
        run.config.planner.stuckThreshold.toNat * 1000000 < run.times k - run.times j) := by
  constructor
  · obtain ⟨j, hlast, -⟩ := exists_since hfaultless.of_succ
    exact ⟨j, hlast⟩
  · intro j hlast
    obtain ⟨forecast, decision, hdecided, hstate, -⟩ := tick_acts hfaultless hghosts
    rw [← isStalled_iff hfaultless.of_succ hghosts hlast, ← hstate]
    constructor
    · rintro ⟨other, hother, hstuck⟩
      rw [hdecided] at hother
      cases hother
      exact hstuck
    · intro hstuck
      exact ⟨decision, hdecided, hstuck⟩

/-- A ghost watches an agent that does not move, in ticks a little more than a second apart. -/
def vigil : Run Unit where
  config := Config.standard
  distances := Distances.ofMetric .euclidean
  source := RandomSource.cyclic #[0]
  audience := ()
  presenters _ := Presenter.silent
  boards _ := { Snapshot.detour with ghosts := [⟨.red, ⟨3, 3⟩, false, false, none⟩] }
  times k := k * 1000000001

theorem vigil_isFaultless (k : Nat) : vigil.IsFaultless k := by
  have hagent : (⟨1, 1⟩ : Tile).onBoard = true := by decide
  have hghost : (⟨3, 3⟩ : Tile).onBoard = true := by decide
  apply isFaultless_of_onBoard (by decide)
  intro i
  refine ⟨hagent, ?_, ?_⟩
  · intro ghost hmem
    obtain rfl := List.mem_singleton.mp hmem
    exact hghost
  · intro fruit hfruit
    cases hfruit

/-- An agent that does not move although it could is soon told to, again and again. -/
theorem vigil_not_isReset (hcalm : ¬ vigil.IsStalled k) : ¬ vigil.IsReset (k + 1) := by
  have hwalkable : Snapshot.detour.isWalkable ⟨1, 2⟩ = true := by decide +kernel
  have hstep : (⟨1, 1⟩ : Tile).step .right = .ok ⟨1, 2⟩ := by decide
  have hnext : (vigil.boards k).IsNeighbor (vigil.boards k).agent ⟨1, 2⟩ :=
    ⟨hwalkable, .right, hstep⟩
  obtain ⟨forecast, decision, hdecided, hstate, hacts⟩ :=
    tick_acts (vigil_isFaultless (k + 1)) (List.cons_ne_nil _ _)
  have hmove : (vigil.lastCommand (k + 1)).isMove = true := by
    rw [lastCommand, hdecided]
    exact hacts.isMove (fun hstuck => hcalm (hstate.mp hstuck)) hnext
  rintro (hzero | hmoved | hidle | hempty)
  · cases hzero
  · exact hmoved rfl
  · rw [hmove] at hidle
    cases hidle
  · cases hempty

/-- Nothing is wrong after one second, but after two the agent is stuck. -/
theorem isStuck_iff_vigil :
    vigil.IsFaultless 3 ∧ (vigil.boards 2).ghosts ≠ [] ∧ vigil.IsLastReset 0 2 ∧
      vigil.IsStuck 2 := by
  have hghosts : ∀ k, (vigil.boards k).ghosts ≠ [] := fun _ => List.cons_ne_nil _ _
  have hcalm : ∀ k, k ≤ 1 → vigil.IsLastReset 0 k → ¬ vigil.IsStalled k := by
    intro k hk hlast
    rw [isStalled_iff (vigil_isFaultless k) (hghosts k) hlast]
    change ¬ 2000 * 1000000 < k * 1000000001 - 0 * 1000000001
    omega
  have hfirst : vigil.IsLastReset 0 0 := IsReset.isLastReset (Or.inl rfl)
  have hsecond := hfirst.succ (vigil_not_isReset (hcalm 0 (by decide) hfirst))
  have hthird := hsecond.succ (vigil_not_isReset (hcalm 1 (by decide) hsecond))
  refine ⟨vigil_isFaultless 3, hghosts 2, hthird, ?_⟩
  rw [(isStuck_iff (vigil_isFaultless 3) (hghosts 2)).2 0 hthird]
  decide

end Run
end Planner
end MazeAgent
