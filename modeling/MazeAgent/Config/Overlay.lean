import MazeAgent.Config.Basic
import MazeAgent.Document.Value

/-!
# Reading a configuration from a document

A document names some fields of a configuration; the fields it does not name keep their
defaults, at every level. Entries of schedules and the decay of ghosts have no defaults and
have to be whole.

**Results.**
* `Slot`: one named field of a record with defaults.
* `overlay`: a record with the fields that a document names replaced.
* `Config.decode`: the configuration of a document.
-/

namespace MazeAgent

/-- A named field of a record with defaults: how a document replaces it. -/
structure Slot (σ : Type) where
  name : String
  replace : Document → σ → Option σ

namespace Slot

/-- The field that a decoder reads and a setter writes. -/
def of {σ α : Type} (name : String) (decode : Document → Option α) (write : α → σ → σ) :
    Slot σ where
  name := name
  replace document record := (decode document).map (fun value => write value record)

/-- The field that holds a record with defaults of its own. -/
def nested {σ τ : Type} (name : String) (inner : Document → τ → Option τ) (get : σ → τ)
    (write : τ → σ → σ) : Slot σ where
  name := name
  replace document record := (inner document (get record)).map (fun value => write value record)

/-- The record with the fields replaced for which there is a document. -/
def fill {σ : Type} : List (Slot σ) → List (Option Document) → σ → Option σ
  | slot :: slots, some document :: documents, record =>
      match slot.replace document record with
      | some next => fill slots documents next
      | none => none
  | _ :: slots, none :: documents, record => fill slots documents record
  | _, _, record => some record

end Slot

/-- The record with the fields replaced that a document names. -/
def overlay {σ : Type} (style : DocumentStyle) (slots : List (Slot σ)) (document : Document)
    (record : σ) : Option σ :=
  match document.record? style true (slots.map Slot.name) with
  | some documents => Slot.fill slots documents record
  | none => none

namespace Breakpoint

/-- The schedule entry of a document, whose value has the given name. -/
def decode {α : Type} (style : DocumentStyle) (name : String) (value? : Document → Option α)
    (document : Document) : Option (Breakpoint α) :=
  match document.record? style false ["below", name] with
  | some [some below, some value] => do return ⟨← below.uint32?, ← value? value⟩
  | _ => none

end Breakpoint

namespace GhostDecay

def label : GhostDecay → String
  | inverseLinear _ => "inverse_linear"
  | exponential _ => "exponential"

/-- The decay of a kind with a parameter looked up by its name. -/
def ofKind? (kind : String) (parameter : String → Option Document) : Option GhostDecay :=
  if kind = "inverse_linear" then
    (parameter "scale").bind (fun document => document.single?.map inverseLinear)
  else if kind = "exponential" then
    (parameter "rate").bind (fun document => document.single?.map exponential)
  else
    none

/-- The decay of a document: a table that names its kind, or a list that starts with it. -/
def decode : Document → Option GhostDecay
  | .table fields =>
      match Document.field? fields "kind" with
      | some (.text kind) => ofKind? kind (Document.field? fields)
      | _ => none
  | .list [.text kind, document] => ofKind? kind (fun _ => some document)
  | _ => none

end GhostDecay

/-! ## The fields with defaults -/

def colorWeightSlots : List (Slot (PerColor Single)) :=
  GhostColor.all.map (fun color =>
    Slot.of color.label Document.single? (fun value weights => weights.set color value))

def modeMultiplierSlots : List (Slot ModeMultipliers) := [
  .of "scatter" Document.single? (fun x r => { r with scatter := x }),
  .of "chase" Document.single? (fun x r => { r with chase := x }),
  .of "paused" Document.single? (fun x r => { r with paused := x })]

def fieldSlots (style : DocumentStyle) : List (Slot FieldConfig) := [
  .of "pellet_boost" Document.single? (fun x r => { r with pelletBoost := x }),
  .of "pellet_multipliers"
    (Document.list? (Breakpoint.decode style "factor" Document.single?))
    (fun x r => { r with pelletMultipliers := x }),
  .of "cluster_radius" Document.uint32? (fun x r => { r with clusterRadius := x }),
  .of "cluster_weight" Document.single? (fun x r => { r with clusterWeight := x }),
  .of "super_pellet_boost" Document.single? (fun x r => { r with superPelletBoost := x }),
  .of "suppressed_super_pellet_boost" Document.single?
    (fun x r => { r with suppressedSuperPelletBoost := x }),
  .of "super_pellet_threat_radius" Document.single?
    (fun x r => { r with superPelletThreatRadius := x }),
  .of "super_pellet_lure" Document.single? (fun x r => { r with superPelletLure := x }),
  .of "super_pellet_lure_radius" Document.single?
    (fun x r => { r with superPelletLureRadius := x }),
  .of "fruit_boost" Document.single? (fun x r => { r with fruitBoost := x }),
  .of "fruit_threshold" Document.single? (fun x r => { r with fruitThreshold := x }),
  .of "ghost_boost" Document.single? (fun x r => { r with ghostBoost := x }),
  .of "ghost_threshold" Document.single? (fun x r => { r with ghostThreshold := x }),
  .of "endgame_pellets" Document.uint32? (fun x r => { r with endgamePellets := x }),
  .of "ghost_decay" GhostDecay.decode (fun x r => { r with ghostDecay := x }),
  .nested "color_weights" (overlay style colorWeightSlots) FieldConfig.colorWeights
    (fun x r => { r with colorWeights := x }),
  .nested "mode_multipliers" (overlay style modeMultiplierSlots) FieldConfig.modeMultipliers
    (fun x r => { r with modeMultipliers := x }),
  .of "frightened_weight" Document.single? (fun x r => { r with frightenedWeight := x }),
  .of "spawning_divisor" Document.single? (fun x r => { r with spawningDivisor := x }),
  .of "momentum_bonus" Document.single? (fun x r => { r with momentumBonus := x })]

def goalSlots (style : DocumentStyle) : List (Slot GoalConfig) := [
  .of "base_radius" Document.uint32? (fun x r => { r with baseRadius := x }),
  .of "radius_schedule" (Document.list? (Breakpoint.decode style "radius" Document.uint32?))
    (fun x r => { r with radiusSchedule := x }),
  .of "widen_when_idle" Document.boolean? (fun x r => { r with widenWhenIdle := x }),
  .of "prediction_weight" Document.single? (fun x r => { r with predictionWeight := x }),
  .of "evade_radius" Document.single? (fun x r => { r with evadeRadius := x }),
  .of "distance_metric" (Document.word? style Metric.all Metric.label)
    (fun x r => { r with distanceMetric := x })]

def predictionSlots : List (Slot PredictionConfig) := [
  .of "tunnel_forward" Document.single? (fun x r => { r with tunnelForward := x }),
  .of "tunnel_backward" Document.single? (fun x r => { r with tunnelBackward := x }),
  .of "corner_lateral" Document.single? (fun x r => { r with cornerLateral := x }),
  .of "corner_backward" Document.single? (fun x r => { r with cornerBackward := x }),
  .of "tee_forward" Document.single? (fun x r => { r with teeForward := x }),
  .of "tee_lateral" Document.single? (fun x r => { r with teeLateral := x }),
  .of "tee_backward" Document.single? (fun x r => { r with teeBackward := x }),
  .of "fork_lateral" Document.single? (fun x r => { r with forkLateral := x }),
  .of "fork_backward" Document.single? (fun x r => { r with forkBackward := x }),
  .of "cross_forward" Document.single? (fun x r => { r with crossForward := x }),
  .of "cross_lateral" Document.single? (fun x r => { r with crossLateral := x }),
  .of "cross_backward" Document.single? (fun x r => { r with crossBackward := x })]

def searchSlots : List (Slot SearchConfig) := [
  .of "max_expansions" (Document.optional? Document.uint64?)
    (fun x r => { r with maxExpansions := x })]

def plannerSlots : List (Slot PlannerConfig) := [
  .of "stuck_threshold_ms" Document.uint64? (fun x r => { r with stuckThreshold := x }),
  .of "rng_seed" (Document.optional? Document.uint64?) (fun x r => { r with seed := x })]

def configSlots (style : DocumentStyle) : List (Slot Config) := [
  .nested "field" (overlay style (fieldSlots style)) Config.field
    (fun x r => { r with field := x }),
  .nested "goal" (overlay style (goalSlots style)) Config.goal (fun x r => { r with goal := x }),
  .nested "prediction" (overlay style predictionSlots) Config.prediction
    (fun x r => { r with prediction := x }),
  .nested "search" (overlay style searchSlots) Config.search (fun x r => { r with search := x }),
  .nested "planner" (overlay style plannerSlots) Config.planner
    (fun x r => { r with planner := x })]

/-- The configuration of a document: the defaults with the named fields replaced. -/
def Config.decode (style : DocumentStyle) (document : Document) : Option Config :=
  overlay style (configSlots style) document Config.standard

end MazeAgent
