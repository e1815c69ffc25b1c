import MazeAgent.Config.Overlay
import MazeAgent.Number.Shortest

/-!
# Writing a configuration as a document

The document of a configuration names every field, in a fixed order; fields without a value are
left out.

**Results.**
* `Config.encode`: the fields of the document of a configuration.
-/

namespace MazeAgent

def Single.encode (x : Single) : Document := .real (Shortest.ofSingle x)

/-- The document of a schedule, whose values have the given name. -/
def Breakpoint.encodeAll {α : Type} (name : String) (value : α → Document)
    (schedule : List (Breakpoint α)) : Document :=
  .list (schedule.map (fun entry =>
    .table [("below", .integer entry.below.toNat), (name, value entry.value)]))

def GhostDecay.encode (decay : GhostDecay) : Document :=
  .table [("kind", .text decay.label),
    match decay with
    | inverseLinear scale => ("scale", scale.encode)
    | exponential rate => ("rate", rate.encode)]

def PerColor.encode (weights : PerColor Single) : Document :=
  .table (GhostColor.all.map (fun color => (color.label, (weights.get color).encode)))

def ModeMultipliers.encode (multipliers : ModeMultipliers) : Document :=
  .table [
    ("scatter", multipliers.scatter.encode),
    ("chase", multipliers.chase.encode),
    ("paused", multipliers.paused.encode)]

def FieldConfig.encode (config : FieldConfig) : Document :=
  .table [
    ("pellet_boost", config.pelletBoost.encode),
    ("pellet_multipliers", Breakpoint.encodeAll "factor" Single.encode config.pelletMultipliers),
    ("cluster_radius", .integer config.clusterRadius.toNat),
    ("cluster_weight", config.clusterWeight.encode),
    ("super_pellet_boost", config.superPelletBoost.encode),
    ("suppressed_super_pellet_boost", config.suppressedSuperPelletBoost.encode),
    ("super_pellet_threat_radius", config.superPelletThreatRadius.encode),
    ("super_pellet_lure", config.superPelletLure.encode),
    ("super_pellet_lure_radius", config.superPelletLureRadius.encode),
    ("fruit_boost", config.fruitBoost.encode),
    ("fruit_threshold", config.fruitThreshold.encode),
    ("ghost_boost", config.ghostBoost.encode),
    ("ghost_threshold", config.ghostThreshold.encode),
    ("endgame_pellets", .integer config.endgamePellets.toNat),
    ("ghost_decay", config.ghostDecay.encode),
    ("color_weights", config.colorWeights.encode),
    ("mode_multipliers", config.modeMultipliers.encode),
    ("frightened_weight", config.frightenedWeight.encode),
    ("spawning_divisor", config.spawningDivisor.encode),
    ("momentum_bonus", config.momentumBonus.encode)]

def GoalConfig.encode (config : GoalConfig) : Document :=
  .table [
    ("base_radius", .integer config.baseRadius.toNat),
    ("radius_schedule",
      Breakpoint.encodeAll "radius" (fun radius => .integer radius.toNat) config.radiusSchedule),
    ("widen_when_idle", .boolean config.widenWhenIdle),
    ("prediction_weight", config.predictionWeight.encode),
    ("evade_radius", config.evadeRadius.encode),
    ("distance_metric", .text config.distanceMetric.label)]

def PredictionConfig.encode (config : PredictionConfig) : Document :=
  .table [
    ("tunnel_forward", config.tunnelForward.encode),
    ("tunnel_backward", config.tunnelBackward.encode),
    ("corner_lateral", config.cornerLateral.encode),
    ("corner_backward", config.cornerBackward.encode),
    ("tee_forward", config.teeForward.encode),
    ("tee_lateral", config.teeLateral.encode),
    ("tee_backward", config.teeBackward.encode),
    ("fork_lateral", config.forkLateral.encode),
    ("fork_backward", config.forkBackward.encode),
    ("cross_forward", config.crossForward.encode),
    ("cross_lateral", config.crossLateral.encode),
    ("cross_backward", config.crossBackward.encode)]

/-- The field of an optional number, if there is one. -/
def optionalField (name : String) : Option UInt64 → List (String × Document)
  | some value => [(name, .integer value.toNat)]
  | none => []

def Config.encode (config : Config) : List (String × Document) :=
  [ ("field", config.field.encode),
    ("goal", config.goal.encode),
    ("prediction", config.prediction.encode),
    ("search", .table (optionalField "max_expansions" config.search.maxExpansions)),
    ("planner", .table (("stuck_threshold_ms", .integer config.planner.stuckThreshold.toNat) ::
      optionalField "rng_seed" config.planner.seed))]

end MazeAgent
