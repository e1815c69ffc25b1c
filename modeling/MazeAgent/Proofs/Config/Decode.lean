import MazeAgent.Proofs.Config.Setting

/-!
# What a document says of a configuration

The members of each record of a configuration, with the names they have in documents. They describe
how a document is read, from the records inside to the configuration as a whole, so a configuration
that is decoded has the settings that the document names and the defaults for all others.

**Results.**
* `Breakpoint.isIn_of_decode`: an entry of a schedule has no defaults.
* `Breakpoint.covers_decode`, `GhostDecay.covers_decode`: what is looked at in entries and decays.
* `fieldMembers`, `goalMembers`, ..., `configMembers`: the records; `lawful_configMembers` and the
  like: their members are apart from one another and make up the record.
* `Config.shape`, `Config.settings`: the names that are known at each level, and all settings.
* `Config.decode_follows`: what a decoded configuration is, and which documents say the same.
-/

namespace MazeAgent

/-! ## Entries of schedules and the decay of ghosts -/

namespace Breakpoint

/-- An entry has a bound and a value. -/
def shape (name : String) : Shape := .flat ["below", name]

theorem covers_decode {α : Type} (style : DocumentStyle) {name : String} (hname : "below" ≠ name)
    (value? : Document → Option α) : (shape name).Covers (decode style name value?) := by
  intro document other h
  have hrecord := Shape.covers_record? (by simpa using hname) style false document other h
  rw [decode, decode, hrecord]

/-- An entry is what a document has under both of its names. -/
def IsIn {α : Type} (name : String) (value? : Document → Option α) (document : Document)
    (entry : Breakpoint α) : Prop :=
  (document.part? ["below", name] "below").bind Document.uint32? = some entry.below ∧
    (document.part? ["below", name] name).bind value? = some entry.value

/-- An entry is decoded from a document that has it, with nothing left out. -/
theorem isIn_of_decode {α : Type} {style : DocumentStyle} {name : String} (hname : "below" ≠ name)
    {value? : Document → Option α} {document : Document} {entry : Breakpoint α}
    (h : decode style name value? document = some entry) : IsIn name value? document entry := by
  rw [decode, Document.record?_eq (by simpa using hname)] at h
  cases hrecord : document.isRecord style false ["below", name].length with
  | false =>
      rw [hrecord] at h
      cases h
  | true =>
      rw [hrecord, if_pos rfl, List.map_cons, List.map_cons, List.map_nil] at h
      unfold IsIn
      cases hbelow : document.part? ["below", name] "below" with
      | none => simp [hbelow] at h
      | some below =>
          cases hfound : document.part? ["below", name] name with
          | none => simp [hbelow, hfound] at h
          | some found =>
              rw [hbelow, hfound] at h
              obtain ⟨bound, hbound, hrest⟩ := Option.bind_eq_some_iff.mp h
              obtain ⟨value, hvalue, hentry⟩ := Option.bind_eq_some_iff.mp hrest
              cases hentry
              exact ⟨hbound, hvalue⟩

end Breakpoint

namespace GhostDecay

/-- The names of the parameters for a kind of decay. -/
def parameters (kind : String) : List String :=
  if kind = "inverse_linear" then ["scale"] else if kind = "exponential" then ["rate"] else []

/-- A decay has a kind, and the parameters of this kind. -/
def shape : Shape := .tagged "kind" parameters

theorem ofKind?_congr {kind : String} {parameter other : String → Option Document}
    (h : ∀ name ∈ parameters kind, parameter name = other name) :
    ofKind? kind parameter = ofKind? kind other := by
  unfold ofKind? parameters at *
  split
  · next hkind =>
    rw [if_pos hkind] at h
    rw [h "scale" List.mem_cons_self]
  · next hkind =>
    rw [if_neg hkind] at h
    split
    · next hother =>
      rw [if_pos hother] at h
      rw [h "rate" List.mem_cons_self]
    · rfl

theorem covers_decode : shape.Covers decode := by
  intro document other h
  cases h with
  | taggedOrder hnodup hperm =>
      have hfield := funext (Document.field?_perm hnodup hperm)
      rw [decode, decode, hfield]
  | @taggedUnknown _ _ before after name extra htag hname =>
      rw [decode, decode, Document.field?_unknown htag]
      split
      · next kind hkind =>
        refine ofKind?_congr fun known hknown => Document.field?_unknown ?_
        rintro rfl
        exact hname kind hkind hknown
      · rfl

end GhostDecay

/-! ## The records -/

open Member (plain whole nested)

def colorWeightMembers : List (Member (PerColor Single)) :=
  GhostColor.all.map fun color =>
    plain color.label Document.single? (fun weights => weights.get color)
      (fun x weights => weights.set color x)

theorem lawful_colorWeightMembers : Lawful colorWeightMembers where
  nodup := by decide
  apart := by
    simp [colorWeightMembers, GhostColor.all, Member.Apart, plain, whole, PerColor.get_set]
  get_write := by simp [colorWeightMembers, plain, whole, PerColor.get_set]
  eq_of_get {a b} h := by
    cases a
    cases b
    simpa [colorWeightMembers, GhostColor.all, plain, whole, PerColor.get] using h

def modeMultiplierMembers : List (Member ModeMultipliers) := [
  plain "scatter" Document.single? ModeMultipliers.scatter (fun x r => { r with scatter := x }),
  plain "chase" Document.single? ModeMultipliers.chase (fun x r => { r with chase := x }),
  plain "paused" Document.single? ModeMultipliers.paused (fun x r => { r with paused := x })]

theorem lawful_modeMultiplierMembers : Lawful modeMultiplierMembers where
  nodup := by decide
  apart := by simp [modeMultiplierMembers, Member.Apart, plain, whole]
  get_write := by simp [modeMultiplierMembers, plain, whole]
  eq_of_get {a b} h := by
    cases a
    cases b
    simpa [modeMultiplierMembers, plain, whole] using h

def fieldMembers (style : DocumentStyle) : List (Member FieldConfig) := [
  plain "pellet_boost" Document.single? FieldConfig.pelletBoost
    (fun x r => { r with pelletBoost := x }),
  whole "pellet_multipliers"
    (Document.list? (Breakpoint.decode style "factor" Document.single?))
    (Breakpoint.covers_decode style (by decide) Document.single?).list
    FieldConfig.pelletMultipliers (fun x r => { r with pelletMultipliers := x }),
  plain "cluster_radius" Document.uint32? FieldConfig.clusterRadius
    (fun x r => { r with clusterRadius := x }),
  plain "cluster_weight" Document.single? FieldConfig.clusterWeight
    (fun x r => { r with clusterWeight := x }),
  plain "super_pellet_boost" Document.single? FieldConfig.superPelletBoost
    (fun x r => { r with superPelletBoost := x }),
  plain "suppressed_super_pellet_boost" Document.single? FieldConfig.suppressedSuperPelletBoost
    (fun x r => { r with suppressedSuperPelletBoost := x }),
  plain "super_pellet_threat_radius" Document.single? FieldConfig.superPelletThreatRadius
    (fun x r => { r with superPelletThreatRadius := x }),
  plain "super_pellet_lure" Document.single? FieldConfig.superPelletLure
    (fun x r => { r with superPelletLure := x }),
  plain "super_pellet_lure_radius" Document.single? FieldConfig.superPelletLureRadius
    (fun x r => { r with superPelletLureRadius := x }),
  plain "fruit_boost" Document.single? FieldConfig.fruitBoost
    (fun x r => { r with fruitBoost := x }),
  plain "fruit_threshold" Document.single? FieldConfig.fruitThreshold
    (fun x r => { r with fruitThreshold := x }),
  plain "ghost_boost" Document.single? FieldConfig.ghostBoost
    (fun x r => { r with ghostBoost := x }),
  plain "ghost_threshold" Document.single? FieldConfig.ghostThreshold
    (fun x r => { r with ghostThreshold := x }),
  plain "endgame_pellets" Document.uint32? FieldConfig.endgamePellets
    (fun x r => { r with endgamePellets := x }),
  whole "ghost_decay" GhostDecay.decode GhostDecay.covers_decode FieldConfig.ghostDecay
    (fun x r => { r with ghostDecay := x }),
  nested "color_weights" (lawful_colorWeightMembers.describes style) FieldConfig.colorWeights
    (fun x r => { r with colorWeights := x }),
  nested "mode_multipliers" (lawful_modeMultiplierMembers.describes style)
    FieldConfig.modeMultipliers (fun x r => { r with modeMultipliers := x }),
  plain "frightened_weight" Document.single? FieldConfig.frightenedWeight
    (fun x r => { r with frightenedWeight := x }),
  plain "spawning_divisor" Document.single? FieldConfig.spawningDivisor
    (fun x r => { r with spawningDivisor := x }),
  plain "momentum_bonus" Document.single? FieldConfig.momentumBonus
    (fun x r => { r with momentumBonus := x })]

theorem lawful_fieldMembers (style : DocumentStyle) : Lawful (fieldMembers style) where
  nodup := by simp [fieldMembers, plain, whole, nested]
  apart := by
    simp only [fieldMembers, Member.Apart, plain, whole, nested, List.pairwise_cons,
      List.forall_mem_cons, implies_true, and_self, List.not_mem_nil, List.Pairwise.nil,
      false_implies]
  get_write := by simp [fieldMembers, plain, whole, nested]
  eq_of_get {a b} h := by
    cases a
    cases b
    simpa [fieldMembers, plain, whole, nested] using h

def goalMembers (style : DocumentStyle) : List (Member GoalConfig) := [
  plain "base_radius" Document.uint32? GoalConfig.baseRadius
    (fun x r => { r with baseRadius := x }),
  whole "radius_schedule" (Document.list? (Breakpoint.decode style "radius" Document.uint32?))
    (Breakpoint.covers_decode style (by decide) Document.uint32?).list
    GoalConfig.radiusSchedule (fun x r => { r with radiusSchedule := x }),
  plain "widen_when_idle" Document.boolean? GoalConfig.widenWhenIdle
    (fun x r => { r with widenWhenIdle := x }),
  plain "prediction_weight" Document.single? GoalConfig.predictionWeight
    (fun x r => { r with predictionWeight := x }),
  plain "evade_radius" Document.single? GoalConfig.evadeRadius
    (fun x r => { r with evadeRadius := x }),
  plain "distance_metric" (Document.word? style Metric.all Metric.label) GoalConfig.distanceMetric
    (fun x r => { r with distanceMetric := x })]

theorem lawful_goalMembers (style : DocumentStyle) : Lawful (goalMembers style) where
  nodup := by simp [goalMembers, plain, whole]
  apart := by simp [goalMembers, Member.Apart, plain, whole]
  get_write := by simp [goalMembers, plain, whole]
  eq_of_get {a b} h := by
    cases a
    cases b
    simpa [goalMembers, plain, whole] using h

def predictionMembers : List (Member PredictionConfig) := [
  plain "tunnel_forward" Document.single? PredictionConfig.tunnelForward
    (fun x r => { r with tunnelForward := x }),
  plain "tunnel_backward" Document.single? PredictionConfig.tunnelBackward
    (fun x r => { r with tunnelBackward := x }),
  plain "corner_lateral" Document.single? PredictionConfig.cornerLateral
    (fun x r => { r with cornerLateral := x }),
  plain "corner_backward" Document.single? PredictionConfig.cornerBackward
    (fun x r => { r with cornerBackward := x }),
  plain "tee_forward" Document.single? PredictionConfig.teeForward
    (fun x r => { r with teeForward := x }),
  plain "tee_lateral" Document.single? PredictionConfig.teeLateral
    (fun x r => { r with teeLateral := x }),
  plain "tee_backward" Document.single? PredictionConfig.teeBackward
    (fun x r => { r with teeBackward := x }),
  plain "fork_lateral" Document.single? PredictionConfig.forkLateral
    (fun x r => { r with forkLateral := x }),
  plain "fork_backward" Document.single? PredictionConfig.forkBackward
    (fun x r => { r with forkBackward := x }),
  plain "cross_forward" Document.single? PredictionConfig.crossForward
    (fun x r => { r with crossForward := x }),
  plain "cross_lateral" Document.single? PredictionConfig.crossLateral
    (fun x r => { r with crossLateral := x }),
  plain "cross_backward" Document.single? PredictionConfig.crossBackward
    (fun x r => { r with crossBackward := x })]

theorem lawful_predictionMembers : Lawful predictionMembers where
  nodup := by decide
  apart := by
    simp only [predictionMembers, Member.Apart, plain, whole, List.pairwise_cons,
      List.forall_mem_cons, implies_true, and_self, List.not_mem_nil, List.Pairwise.nil,
      false_implies]
  get_write := by simp [predictionMembers, plain, whole]
  eq_of_get {a b} h := by
    cases a
    cases b
    simpa [predictionMembers, plain, whole] using h

def searchMembers : List (Member SearchConfig) := [
  plain "max_expansions" (Document.optional? Document.uint64?) SearchConfig.maxExpansions
    (fun x r => { r with maxExpansions := x })]

theorem lawful_searchMembers : Lawful searchMembers where
  nodup := List.nodup_singleton _
  apart := List.pairwise_singleton _ _
  get_write := by simp [searchMembers, plain, whole]
  eq_of_get {a b} h := by
    cases a
    cases b
    simpa [searchMembers, plain, whole] using h

def plannerMembers : List (Member PlannerConfig) := [
  plain "stuck_threshold_ms" Document.uint64? PlannerConfig.stuckThreshold
    (fun x r => { r with stuckThreshold := x }),
  plain "rng_seed" (Document.optional? Document.uint64?) PlannerConfig.seed
    (fun x r => { r with seed := x })]

theorem lawful_plannerMembers : Lawful plannerMembers where
  nodup := by decide
  apart := by simp [plannerMembers, Member.Apart, plain, whole]
  get_write := by simp [plannerMembers, plain, whole]
  eq_of_get {a b} h := by
    cases a
    cases b
    simpa [plannerMembers, plain, whole] using h

def configMembers (style : DocumentStyle) : List (Member Config) := [
  nested "field" ((lawful_fieldMembers style).describes style) Config.field
    (fun x r => { r with field := x }),
  nested "goal" ((lawful_goalMembers style).describes style) Config.goal
    (fun x r => { r with goal := x }),
  nested "prediction" (lawful_predictionMembers.describes style) Config.prediction
    (fun x r => { r with prediction := x }),
  nested "search" (lawful_searchMembers.describes style) Config.search
    (fun x r => { r with search := x }),
  nested "planner" (lawful_plannerMembers.describes style) Config.planner
    (fun x r => { r with planner := x })]

theorem lawful_configMembers (style : DocumentStyle) : Lawful (configMembers style) where
  nodup := by simp [configMembers, nested]
  apart := by simp [configMembers, Member.Apart, nested]
  get_write := by simp [configMembers, nested]
  eq_of_get {a b} h := by
    cases a
    cases b
    simpa [configMembers, nested] using h

/-! ## The configuration -/

namespace Config

/-- The names that are known at each level of a document for a configuration. -/
def shape (style : DocumentStyle) : Shape := .record (Member.known (configMembers style))

/-- All settings of a configuration. -/
def settings (style : DocumentStyle) : List (Setting Config) :=
  Member.allSettings (configMembers style)

example (style : DocumentStyle) : (settings style).map Setting.path = [
    ["field", "pellet_boost"], ["field", "pellet_multipliers"], ["field", "cluster_radius"],
    ["field", "cluster_weight"], ["field", "super_pellet_boost"],
    ["field", "suppressed_super_pellet_boost"], ["field", "super_pellet_threat_radius"],
    ["field", "super_pellet_lure"], ["field", "super_pellet_lure_radius"], ["field", "fruit_boost"],
    ["field", "fruit_threshold"], ["field", "ghost_boost"], ["field", "ghost_threshold"],
    ["field", "endgame_pellets"], ["field", "ghost_decay"], ["field", "color_weights", "red"],
    ["field", "color_weights", "pink"], ["field", "color_weights", "cyan"],
    ["field", "color_weights", "orange"], ["field", "mode_multipliers", "scatter"],
    ["field", "mode_multipliers", "chase"], ["field", "mode_multipliers", "paused"],
    ["field", "frightened_weight"], ["field", "spawning_divisor"], ["field", "momentum_bonus"],
    ["goal", "base_radius"], ["goal", "radius_schedule"], ["goal", "widen_when_idle"],
    ["goal", "prediction_weight"], ["goal", "evade_radius"], ["goal", "distance_metric"],
    ["prediction", "tunnel_forward"], ["prediction", "tunnel_backward"],
    ["prediction", "corner_lateral"], ["prediction", "corner_backward"],
    ["prediction", "tee_forward"], ["prediction", "tee_lateral"], ["prediction", "tee_backward"],
    ["prediction", "fork_lateral"], ["prediction", "fork_backward"],
    ["prediction", "cross_forward"], ["prediction", "cross_lateral"],
    ["prediction", "cross_backward"], ["search", "max_expansions"],
    ["planner", "stuck_threshold_ms"], ["planner", "rng_seed"]] :=
  rfl

theorem describes_overlay (style : DocumentStyle) :
    Describes (shape style) (settings style) (overlay style (configSlots style)) :=
  (lawful_configMembers style).describes style

/-- A list that a document has for a schedule is the schedule, entry by entry. -/
theorem exists_entries {α : Type} {style : DocumentStyle} {name : String} (hname : "below" ≠ name)
    {value? : Document → Option α} {path : List String} (get : Config → List (Breakpoint α))
    (hsetting : ⟨path, Document.list? (Breakpoint.decode style name value?), get⟩ ∈ settings style)
    {document : Document} {before after : Config}
    (h : ∀ setting ∈ settings style, setting.Follows (shape style) document before after)
    {found : Document} (hfound : (shape style).at? path document = some found) :
    ∃ items, found = .list items ∧
      List.Forall₂ (Breakpoint.IsIn name value?) items (get after) := by
  have hfollows := h _ hsetting
  unfold Setting.Follows at hfollows
  rw [hfound] at hfollows
  obtain ⟨items, rfl, hitems⟩ := Document.exists_items_of_list? hfollows
  exact ⟨items, rfl, hitems.imp fun _ _ => Breakpoint.isIn_of_decode hname⟩

/-- A decoded configuration has each setting as the document says, and as it is by default where the
document says nothing, which leaves no other configuration. Documents that differ in the order of
names, at any level, or in names that are not known give the same configuration, and a schedule is
replaced as a whole. -/
theorem decode_follows {document : Document} {config : Config}
    (h : decode .withNull document = some config) :
    (∀ setting ∈ settings .withNull,
      setting.Follows (shape .withNull) document standard config) ∧
    (∀ other : Config,
      (∀ setting ∈ settings .withNull,
        setting.Follows (shape .withNull) document standard other) → other = config) ∧
    (∀ other, (shape .withNull).Alike document other → decode .withNull other = some config) ∧
    (∀ found, (shape .withNull).at? ["field", "pellet_multipliers"] document = some found →
      ∃ items, found = .list items ∧
        List.Forall₂ (Breakpoint.IsIn "factor" Document.single?) items
          config.field.pelletMultipliers) ∧
    (∀ found, (shape .withNull).at? ["goal", "radius_schedule"] document = some found →
      ∃ items, found = .list items ∧
        List.Forall₂ (Breakpoint.IsIn "radius" Document.uint32?) items
          config.goal.radiusSchedule) := by
  have hdescribes := describes_overlay .withNull
  have hfollows := hdescribes.follows h
  refine ⟨hfollows, fun other hother => ?_, fun other halike => ?_, fun found hfound => ?_,
    fun found hfound => ?_⟩
  · exact hdescribes.eq_of_get fun setting hsetting =>
      (hfollows setting hsetting).get_eq (hother setting hsetting)
  · rw [← h]
    exact (congrFun (hdescribes.covers.eq_of_alike halike) standard).symm
  -- The schedules by their places in the list of settings.
  · exact exists_entries (by decide) (fun config => config.field.pelletMultipliers)
      (List.mem_of_getElem? (i := 1) rfl) hfollows hfound
  · exact exists_entries (by decide) (fun config => config.goal.radiusSchedule)
      (List.mem_of_getElem? (i := 26) rfl) hfollows hfound

/-- A document with a few settings, a name that is not known and an empty schedule. -/
def sparse : Document := .table [
  ("planner", .table [("note", .text "late"), ("rng_seed", .integer 7)]),
  ("goal", .table [("radius_schedule", .list []), ("base_radius", .integer 3)])]

/-- The same document in another order, without the name that is not known. -/
def tidy : Document := .table [
  ("goal", .table [("base_radius", .integer 3), ("radius_schedule", .list [])]),
  ("planner", .table [("rng_seed", .integer 7)])]

theorem alike_tidy : (shape .withNull).Alike sparse tidy := by
  let planner : Document := .table [("rng_seed", .integer 7)]
  let goal : Document := .table [("radius_schedule", .list []), ("base_radius", .integer 3)]
  let turned : Document := .table [("base_radius", .integer 3), ("radius_schedule", .list [])]
  let noted : Document := .table [("note", .text "late"), ("rng_seed", .integer 7)]
  have hnote : (Shape.record (Member.known plannerMembers)).Immaterial
      (.table ([] ++ ("note", .text "late") :: [("rng_seed", .integer 7)]))
      (.table ([] ++ [("rng_seed", .integer 7)])) :=
    .unknown (by decide)
  have hplanner : (shape .withNull).Immaterial
      (.table ([] ++ ("planner", noted) :: [("goal", goal)]))
      (.table ([] ++ ("planner", planner) :: [("goal", goal)])) :=
    .field (List.mem_of_getElem? (i := 4) rfl) hnote
  have hturned : (Shape.record (Member.known (goalMembers .withNull))).Immaterial goal turned :=
    .order (by decide) (.swap _ _ _)
  have hgoal : (shape .withNull).Immaterial
      (.table ([("planner", planner)] ++ ("goal", goal) :: []))
      (.table ([("planner", planner)] ++ ("goal", turned) :: [])) :=
    .field (List.mem_of_getElem? (i := 1) rfl) hturned
  have horder : (shape .withNull).Immaterial
      (.table [("planner", planner), ("goal", turned)]) tidy :=
    .order (by decide) (.swap _ _ _)
  exact .trans _ _ _ (.rel _ _ hplanner) (.trans _ _ _ (.rel _ _ hgoal) (.rel _ _ horder))

theorem decode_follows_sparse :
    ∃ config : Config,
      config =
        { goal := { baseRadius := 3, radiusSchedule := [] }, planner := { seed := some 7 } } ∧
      decode .withNull sparse = some config ∧
      (∀ setting ∈ settings .withNull,
        setting.Follows (shape .withNull) sparse standard config) ∧
      (shape .withNull).Alike sparse tidy ∧ decode .withNull tidy = some config := by
  obtain ⟨hfollows, -, halike, -⟩ := decode_follows (rfl : decode .withNull sparse = some _)
  exact ⟨_, rfl, rfl, hfollows, alike_tidy, halike tidy alike_tidy⟩

end Config
end MazeAgent
