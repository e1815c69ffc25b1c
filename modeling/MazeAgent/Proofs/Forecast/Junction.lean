import MazeAgent.Forecast.Odds
import MazeAgent.Proofs.Board.Adjacency
import MazeAgent.Proofs.Number.Sign
import MazeAgent.Proofs.Route.Path

/-!
# Odds at a junction

The odds at a dead end are told from all others by a weight of minus one in the first entry. No
other entry may hold this weight. Weights that are not less than zero are kept so by all that is
done with them: they are divided by a sum that is positive, which it need not be when there is a
not-a-number among them or when it overflows, or they are replaced by equal shares.

**Results.**
* `PredictionConfig.turnWeights`: all weights that a configuration gives to turns.
* `PredictionConfig.not_lt_zero_normalized`: what is normalized is not less than zero.
* `Odds.isDegenerate_eq_false`: odds without a negative weight are not those of a dead end.
* `Snapshot.ncard_isNeighbor`: the number of tiles that can be entered from a cell.
* `PredictionConfig.odds_degenerate_iff`: the odds of a ghost on any cell.
-/

namespace MazeAgent

/-! ## Weights -/

namespace PredictionConfig

variable {config : PredictionConfig}

/-- The weights of the turns at all junctions. -/
def turnWeights (config : PredictionConfig) : List Single :=
  [config.tunnelForward, config.tunnelBackward, config.cornerLateral, config.cornerBackward,
    config.teeForward, config.teeLateral, config.teeBackward, config.forkLateral,
    config.forkBackward, config.crossForward, config.crossLateral, config.crossBackward]

theorem weight_mem_turnWeights (config : PredictionConfig) (ways : Nat) (mayGoOn : Bool)
    (turn : Turn) : config.weight ways mayGoOn turn ∈ config.turnWeights := by
  unfold weight
  split <;> simp [turnWeights]

theorem map_fst_weights (config : PredictionConfig) (heading : Option Direction)
    (ways : List (Direction × Tile)) :
    (config.weights heading ways).map Prod.fst = ways.map Prod.snd := by
  cases heading with
  | none => simp [weights, Function.comp_def]
  | some heading => simp [weights, Function.comp_def]

theorem map_fst_normalized (weights : List (Tile × Single)) :
    (normalized weights).map Prod.fst = weights.map Prod.fst := by
  unfold normalized
  dsimp only
  split <;> simp [Function.comp_def]

theorem not_lt_zero_weights (hweights : ∀ weight ∈ config.turnWeights, ¬ weight < 0)
    (heading : Option Direction) (ways : List (Direction × Tile)) :
    ∀ entry ∈ config.weights heading ways, ¬ entry.2 < 0 := by
  intro entry hentry
  cases heading with
  | none =>
      obtain ⟨way, -, rfl⟩ := List.mem_map.mp hentry
      exact Single.not_ofNat_lt_zero (by norm_num)
  | some heading =>
      obtain ⟨way, -, rfl⟩ := List.mem_map.mp hentry
      exact hweights _ (config.weight_mem_turnWeights _ _ _)

/-- A share of a positive sum, and an equal share, is not less than zero. -/
theorem not_lt_zero_normalized {weights : List (Tile × Single)}
    (hweights : ∀ entry ∈ weights, ¬ entry.2 < 0) (hlength : weights.length < 2 ^ 24) :
    ∀ entry ∈ normalized weights, ¬ entry.2 < 0 := by
  intro entry hentry
  unfold normalized at hentry
  dsimp only at hentry
  split at hentry
  · next htotal =>
    -- The total may be infinite, but it is a number and has no sign.
    obtain ⟨weighed, hmem, rfl⟩ := List.mem_map.mp hentry
    exact Single.not_div_lt_zero (hweights weighed hmem) htotal
  · obtain ⟨weighed, hmem, rfl⟩ := List.mem_map.mp hentry
    have hpos := List.length_pos_of_mem hmem
    exact Single.not_div_lt_zero (Single.not_ofNat_lt_zero (by norm_num))
      (Single.zero_lt_ofNat hpos hlength)

end PredictionConfig

/-! ## Degenerate odds -/

namespace Odds

variable {odds : Odds} {tile : Tile}

theorem deadEndWeight_eq : deadEndWeight = ⟨0xbf800000⟩ := by decide +kernel

theorem isDegenerate_deadEnd (tile : Tile) : (deadEnd tile).isDegenerate = true := by
  have hself : deadEndWeight.numEq deadEndWeight = true := by
    rw [deadEndWeight_eq]
    decide
  exact hself

theorem lt_zero_of_numEq {weight : Single} (h : weight.numEq deadEndWeight = true) :
    weight < 0 := by
  have hsign : deadEndWeight.signedMagnitude < 0 := by
    rw [deadEndWeight_eq]
    decide
  simp only [Single.numEq, Bool.and_eq_true, Bool.not_eq_true', beq_iff_eq] at h
  obtain ⟨⟨hnumber, -⟩, hmagnitude⟩ := h
  rw [Single.lt_iff, Single.isNaN_zero, Single.signedMagnitude_zero, hmagnitude]
  exact ⟨hnumber, rfl, hsign⟩

/-- Only a number that is less than zero is taken for the weight of a dead end. -/
theorem isDegenerate_eq_false (h : ∀ entry ∈ odds.entries, ¬ entry.2 < 0) :
    odds.isDegenerate = false := by
  obtain ⟨entries⟩ := odds
  cases entries with
  | nil => rfl
  | cons first rest =>
      have hfirst := h first (List.mem_cons_self ..)
      rw [← Bool.not_eq_true]
      exact fun hequal => hfirst (lt_zero_of_numEq hequal)

/-- A tile without an entry has no probability, and no tile has one at a dead end. -/
theorem isZero_probabilityOf (h : odds.isDegenerate = true ∨ tile ∉ odds.entries.map Prod.fst) :
    (odds.probabilityOf tile).isZero = true := by
  unfold probabilityOf
  split
  · exact Single.isZero_zero
  · next hdegenerate =>
    have hempty : odds.entries.filter (fun entry => entry.1 = tile) = [] := by
      rw [List.filter_eq_nil_iff]
      intro entry hentry hequal
      rw [decide_eq_true_eq] at hequal
      exact h.resolve_left hdegenerate (List.mem_map.mpr ⟨entry, hentry, hequal⟩)
    -- The empty sum is negative zero.
    rw [hempty]
    decide

end Odds

/-! ## Ways to go -/

namespace Snapshot

variable {board : Snapshot}

theorem nodup_exitTiles (board : Snapshot) (cell : Cell) :
    ((board.walls.exits cell).map Cell.tile).Nodup :=
  (board.walls.nodup_exits cell).map Tile.tile_injective

theorem mem_exitTiles_iff {cell : Cell} {tile : Tile} :
    tile ∈ (board.walls.exits cell).map Cell.tile ↔ board.IsNeighbor cell.tile tile := by
  rw [isNeighbor_tile_iff, List.mem_map]
  exact exists_congr (fun exit => by rw [eq_comm])

theorem ncard_isNeighbor (board : Snapshot) (cell : Cell) :
    {tile | board.IsNeighbor cell.tile tile}.ncard = (board.walls.exits cell).length := by
  rw [Tile.ncard_eq_length (board.nodup_exitTiles cell) (fun _ => mem_exitTiles_iff),
    List.length_map]

end Snapshot

/-! ## Odds of a ghost -/

namespace PredictionConfig

/-- The odds of a ghost on a cell. -/
theorem odds_degenerate_iff {config : PredictionConfig}
    (hweights : ∀ weight ∈ config.turnWeights, ¬ weight < 0) (board : Snapshot) (cell : Cell)
    (heading : Option Direction) :
    ∃ odds, config.odds board cell.tile heading = .ok odds ∧
      (odds.isDegenerate = true ↔ {tile | board.IsNeighbor cell.tile tile}.ncard < 2) ∧
      (odds.isDegenerate = true → odds.entries = [(cell.tile, -1)]) ∧
      (odds.isDegenerate = false →
        odds.entries.map Prod.fst =
            ([.up, .down, .left, .right].filterMap (board.walls.exit? cell)).map Cell.tile ∧
          (odds.entries.map Prod.fst).Nodup ∧
          ∀ tile, tile ∈ odds.entries.map Prod.fst ↔ board.IsNeighbor cell.tile tile) ∧
      ∀ tile, ¬ board.IsNeighbor cell.tile tile → (odds.probabilityOf tile).isZero = true := by
  obtain ⟨ways, hways, hexits⟩ := board.neighbors_tile cell
  have hlength : ways.length = {tile | board.IsNeighbor cell.tile tile}.ncard := by
    rw [board.ncard_isNeighbor, ← List.length_map (f := Prod.snd), hexits, List.length_map]
  have hodds : config.odds board cell.tile heading =
      .ok (config.oddsOfWays cell.tile heading ways) := by
    unfold odds
    rw [hways, Checked.ok_bind]
    rfl
  refine ⟨_, hodds, ?_⟩
  unfold oddsOfWays
  rw [hlength]
  split
  · next hfew =>
    have hdegenerate := Odds.isDegenerate_deadEnd cell.tile
    refine ⟨iff_of_true hdegenerate hfew, fun _ => rfl, ?_,
      fun tile _ => Odds.isZero_probabilityOf (Or.inl hdegenerate)⟩
    rw [hdegenerate]
    exact fun hfalse => absurd hfalse (by decide)
  · next hmany =>
    have hentries : (normalized (config.weights heading ways)).map Prod.fst =
        (board.walls.exits cell).map Cell.tile := by
      rw [map_fst_normalized, map_fst_weights, hexits]
    have hfew : (config.weights heading ways).length < 2 ^ 24 := by
      rw [← List.length_map (f := Prod.fst), map_fst_weights, List.length_map]
      exact (Snapshot.length_neighbors_le hways).trans_lt (by norm_num)
    have hproper : Odds.isDegenerate ⟨normalized (config.weights heading ways)⟩ = false :=
      Odds.isDegenerate_eq_false
        (not_lt_zero_normalized (not_lt_zero_weights hweights heading ways) hfew)
    rw [hproper]
    refine ⟨iff_of_false Bool.false_ne_true hmany, fun htrue => absurd htrue (by decide),
      fun _ => ?_, fun tile htile => Odds.isZero_probabilityOf (Or.inr ?_)⟩
    · dsimp only
      rw [hentries]
      exact ⟨rfl, board.nodup_exitTiles cell, fun _ => Snapshot.mem_exitTiles_iff⟩
    · rw [hentries, Snapshot.mem_exitTiles_iff]
      exact htile

/-- Weights of which some are not numbers or have no bound. -/
def wild : PredictionConfig := { teeForward := .nan, teeLateral := .infinity }

/-- The three ways of a tee share the odds, whatever their weights add up to. -/
theorem odds_degenerate_iff_tee :
    ∃ odds, wild.odds Snapshot.detour ⟨2, 3⟩ (some .down) = .ok odds ∧
      odds.isDegenerate = false ∧ odds.entries.map Prod.fst = [⟨1, 3⟩, ⟨3, 3⟩, ⟨2, 4⟩] ∧
      (odds.probabilityOf ⟨2, 2⟩).isZero = true := by
  have hweights : ∀ weight ∈ wild.turnWeights, ¬ weight < 0 := by decide +kernel
  obtain ⟨odds, hodds, hdegenerate, -, hentries, hzero⟩ :=
    odds_degenerate_iff hweights Snapshot.detour ⟨59⟩ (some .down)
  have hways : (Snapshot.detour.walls.exits ⟨59⟩).length = 3 := by decide +kernel
  have hproper : odds.isDegenerate = false := by
    rw [← Bool.not_eq_true, hdegenerate, Snapshot.ncard_isNeighbor, hways]
    decide
  have hwall : Snapshot.detour.isWalkable ⟨2, 2⟩ = false := by decide +kernel
  refine ⟨odds, hodds, hproper, (hentries hproper).1.trans (by decide +kernel), hzero _ ?_⟩
  rintro ⟨hwalkable, -⟩
  rw [hwall] at hwalkable
  cases hwalkable

end PredictionConfig
end MazeAgent
