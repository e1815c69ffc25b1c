import MazeAgent.Config.Overlay
import MazeAgent.Report.Board

/-!
# Reports on configurations

**Results.**
* `Report.config`: the report on a configuration, field by field.
-/

namespace MazeAgent
namespace Report

def schedule {α : Type} (value : α → Document) (entries : List (Breakpoint α)) : Document :=
  .list (entries.map (fun entry => .list [count entry.below.toNat, value entry.value]))

def decay (decay : GhostDecay) : Document :=
  .table [("kind", .text decay.label),
    match decay with
    | .inverseLinear scale => ("scale", single scale)
    | .exponential rate => ("rate", single rate)]

def fieldConfig (config : FieldConfig) : Document :=
  let modes := config.modeMultipliers
  .table [
    ("pellet_boost", single config.pelletBoost),
    ("pellet_multipliers", schedule single config.pelletMultipliers),
    ("cluster_radius", count config.clusterRadius.toNat),
    ("cluster_weight", single config.clusterWeight),
    ("super_pellet_boost", single config.superPelletBoost),
    ("suppressed_super_pellet_boost", single config.suppressedSuperPelletBoost),
    ("super_pellet_threat_radius", single config.superPelletThreatRadius),
    ("super_pellet_lure", single config.superPelletLure),
    ("super_pellet_lure_radius", single config.superPelletLureRadius),
    ("fruit_boost", single config.fruitBoost),
    ("fruit_threshold", single config.fruitThreshold),
    ("ghost_boost", single config.ghostBoost),
    ("ghost_threshold", single config.ghostThreshold),
    ("endgame_pellets", count config.endgamePellets.toNat),
    ("ghost_decay", decay config.ghostDecay),
    ("color_weights", .list (config.colorWeights.toList.map single)),
    ("mode_multipliers", .list [single modes.scatter, single modes.chase, single modes.paused]),
    ("frightened_weight", single config.frightenedWeight),
    ("spawning_divisor", single config.spawningDivisor),
    ("momentum_bonus", single config.momentumBonus)]

def goalConfig (config : GoalConfig) : Document :=
  .table [
    ("base_radius", count config.baseRadius.toNat),
    ("radius_schedule", schedule (fun radius => count radius.toNat) config.radiusSchedule),
    ("widen_when_idle", .boolean config.widenWhenIdle),
    ("prediction_weight", single config.predictionWeight),
    ("evade_radius", single config.evadeRadius),
    ("distance_metric", .text config.distanceMetric.label)]

/-- The move weights, in the order in which they are declared. -/
def predictionConfig (config : PredictionConfig) : Document :=
  .list (List.map single [
    config.tunnelForward, config.tunnelBackward, config.cornerLateral, config.cornerBackward,
    config.teeForward, config.teeLateral, config.teeBackward, config.forkLateral,
    config.forkBackward, config.crossForward, config.crossLateral, config.crossBackward])

def config (config : Config) : Document :=
  let number (n : UInt64) : Document := count n.toNat
  .table [
    ("field", fieldConfig config.field),
    ("goal", goalConfig config.goal),
    ("prediction", predictionConfig config.prediction),
    ("search", .table [("max_expansions", optional number config.search.maxExpansions)]),
    ("planner", .table [
      ("stuck_threshold_ms", number config.planner.stuckThreshold),
      ("rng_seed", optional number config.planner.seed)])]

end Report
end MazeAgent
