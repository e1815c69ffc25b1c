import MazeAgent.Proofs.Planner.Fault

/-!
# Forecasts told from the history

A forecast keeps the last tile and the odds of each ghost in two separate passes, and what they
do to a ghost depends on whether it is gone, stays, took a step or was displaced. Told from the
boards alone, the odds of a ghost date from the last change of its tile, as long as it has been
there without a gap ever since; without such a change there are none.

**Results.**
* `Snapshot.whereabouts`: where the ghost of a color stands.
* `Forecast.after`: the forecast after the boards of the first ticks.
* `Forecast.Foretells`: the odds that belong to a history.
* `Forecast.after_foretells`: the odds of a forecast are the ones that belong to its history.
-/

namespace MazeAgent

/-- Where the ghost of a color stands; of two ghosts of one color the last one listed counts. -/
def Snapshot.whereabouts (board : Snapshot) (color : GhostColor) : Option Tile :=
  (board.ghosts.reverse.find? (fun ghost => ghost.color = color)).map Ghost.tile

/-- The heading of a ghost that came from one tile to another: the direction of the step between
them, and none when there is no such step. -/
def Tile.Heads (before tile : Tile) (heading : Option Direction) : Prop :=
  ∀ direction, heading = some direction ↔ before.step direction = .ok tile

theorem Tile.Heads.unique {before tile : Tile} {heading other : Option Direction}
    (h : before.Heads tile heading) (hother : before.Heads tile other) : heading = other := by
  apply Option.ext
  intro direction
  exact (h direction).trans (hother direction).symm

namespace Forecast

variable {config : PredictionConfig} {board : Snapshot} {color : GhostColor}
variable {forecast later : Forecast} {motions : Motions}

/-! ## One tick -/

theorem heads_of_motionTo {before tile : Tile} {motion : Motion} (hne : before ≠ tile)
    (h : motionTo (some before) tile = .ok motion) :
    (∃ direction, motion = .moved direction ∧ before.Heads tile (some direction)) ∨
      (motion = .displaced ∧ before.Heads tile none) := by
  simp only [motionTo, if_neg hne, Checked.bind_eq_ok_iff] at h
  obtain ⟨direction, hdirection, h⟩ := h
  have hstep : ∀ other, direction = .ok other ↔ before.step other = .ok tile := by
    intro other
    rw [← Tile.directionTo_eq_ok_iff, hdirection]
    exact ⟨congrArg Except.ok, Except.ok.inj⟩
  cases direction with
  | ok direction =>
      cases h
      refine Or.inl ⟨direction, rfl, ?_⟩
      intro other
      rw [← hstep other]
      exact ⟨fun h => congrArg Except.ok (Option.some.inj h),
        fun h => congrArg some (Except.ok.inj h)⟩
  | error offset =>
      cases h
      refine Or.inr ⟨rfl, ?_⟩
      intro other
      rw [← hstep other]
      constructor <;> intro h <;> cases h

/-- A forecast notes where the last ghost of a color is, and how it came there. -/
theorem foldlM_note (color : GhostColor) {ghosts : List Ghost} {earlier : PerColor (Option Tile)}
    {noted : Motions × PerColor (Option Tile)}
    (h : ghosts.foldlM (note earlier) (PerColor.fill none, PerColor.fill none) = .ok noted) :
    noted.2.get color =
        (ghosts.reverse.find? (fun ghost => ghost.color = color)).map Ghost.tile ∧
      ∀ tile, noted.2.get color = some tile →
        ∃ motion, noted.1.get color = some motion ∧
          motionTo (earlier.get color) tile = .ok motion := by
  induction ghosts using List.reverseRecOn generalizing noted with
  | nil =>
      cases h
      exact ⟨by simp, fun tile htile => by simp at htile⟩
  | append_singleton ghosts ghost ih =>
      rw [List.foldlM_append, Checked.bind_eq_ok_iff] at h
      obtain ⟨middle, hmiddle, h⟩ := h
      rw [List.foldlM_cons, Checked.bind_eq_ok_iff] at h
      obtain ⟨last, hlast, h⟩ := h
      cases h
      rw [note, Checked.bind_eq_ok_iff] at hlast
      obtain ⟨motion, hmotion, hlast⟩ := hlast
      cases hlast
      simp only [List.reverse_append, List.reverse_singleton, List.singleton_append,
        PerColor.get_set]
      by_cases hcolor : ghost.color = color
      · subst hcolor
        refine ⟨by simp, ?_⟩
        intro tile htile
        rw [if_pos rfl, Option.some.injEq] at htile
        subst htile
        exact ⟨motion, if_pos rfl, hmotion⟩
      · simp only [if_neg hcolor, List.find?_cons, decide_eq_false hcolor]
        exact ih hmiddle

theorem read_get (color : GhostColor)
    (h : forecast.read board = .ok (later, motions)) :
    later.odds = forecast.odds ∧ later.tiles.get color = board.whereabouts color ∧
      ∀ tile, board.whereabouts color = some tile →
        ∃ motion, motions.get color = some motion ∧
          motionTo (forecast.tiles.get color) tile = .ok motion := by
  rw [read, Checked.bind_eq_ok_iff] at h
  obtain ⟨noted, hnoted, h⟩ := h
  cases h
  obtain ⟨htile, hmotion⟩ := foldlM_note color hnoted
  exact ⟨rfl, htile, fun tile hwhere => hmotion tile (htile.trans hwhere)⟩

theorem foldlM_reviseColor {colors : List GhostColor} (hdistinct : colors.Nodup)
    (h : colors.foldlM (reviseColor config board motions) forecast = .ok later) :
    later.tiles = forecast.tiles ∧
      (∀ color ∉ colors, later.odds.get color = forecast.odds.get color) ∧
      ∀ color ∈ colors, revised config board (forecast.tiles.get color) (motions.get color)
        (forecast.odds.get color) = .ok (later.odds.get color) := by
  induction colors generalizing forecast with
  | nil =>
      cases h
      exact ⟨rfl, fun _ _ => rfl, fun _ hcolor => nomatch hcolor⟩
  | cons first rest ih =>
      obtain ⟨hfirst, hrest⟩ := List.nodup_cons.mp hdistinct
      rw [List.foldlM_cons, Checked.bind_eq_ok_iff] at h
      obtain ⟨middle, hmiddle, h⟩ := h
      rw [reviseColor, Checked.bind_eq_ok_iff] at hmiddle
      obtain ⟨odds, hodds, hmiddle⟩ := hmiddle
      cases hmiddle
      obtain ⟨htiles, hkept, hrevised⟩ := ih hrest h
      have hother : ∀ color, color ≠ first →
          (forecast.odds.set first odds).get color = forecast.odds.get color := by
        intro color hne
        rw [PerColor.get_set, if_neg hne.symm]
      refine ⟨htiles, ?_, ?_⟩
      · intro color hcolor
        rw [List.mem_cons, not_or] at hcolor
        rw [hkept color hcolor.2, hother color hcolor.1]
      · intro color hcolor
        rcases List.mem_cons.mp hcolor with rfl | hcolor
        · rw [hkept color hfirst, PerColor.get_set, if_pos rfl]
          exact hodds
        · have hne : color ≠ first := fun heq => hfirst (heq ▸ hcolor)
          rw [← hrevised color hcolor, hother color hne]

/-- What a tick does to what is known about the ghost of a color. -/
structure Tracks (config : PredictionConfig) (board : Snapshot) (color : GhostColor)
    (forecast later : Forecast) : Prop where
  tile_eq : later.tiles.get color = board.whereabouts color
  /-- A ghost that is gone loses its odds. -/
  gone : board.whereabouts color = none → later.odds.get color = none
  /-- A ghost that appears or stays keeps its odds. -/
  kept : ∀ tile, board.whereabouts color = some tile →
    (∀ before, forecast.tiles.get color = some before → before = tile) →
      later.odds.get color = forecast.odds.get color
  /-- A ghost whose tile has changed gets new ones. -/
  changed : ∀ before tile, forecast.tiles.get color = some before →
    board.whereabouts color = some tile → before ≠ tile →
      ∃ heading odds, before.Heads tile heading ∧ config.odds board tile heading = .ok odds ∧
        later.odds.get color = some odds

theorem revised_eq_some {tile : Tile} {heading : Option Direction} {motion : Motion}
    {earlier after : Option Odds}
    (hmotion : (∃ direction, motion = .moved direction ∧ heading = some direction) ∨
      (motion = .displaced ∧ heading = none))
    (h : revised config board (some tile) (some motion) earlier = .ok after) :
    ∃ odds, config.odds board tile heading = .ok odds ∧ after = some odds := by
  rcases hmotion with ⟨direction, rfl, rfl⟩ | ⟨rfl, rfl⟩ <;>
  · simp only [revised, Checked.bind_eq_ok_iff] at h
    obtain ⟨odds, hodds, h⟩ := h
    exact ⟨odds, hodds, (Except.ok.inj h).symm⟩

theorem observe_tracks (color : GhostColor)
    (h : observe config forecast board = .ok (later, motions)) :
    Tracks config board color forecast later := by
  rw [observe, Checked.bind_eq_ok_iff] at h
  obtain ⟨⟨seen, moved⟩, hread, h⟩ := h
  rw [Checked.bind_eq_ok_iff] at h
  obtain ⟨known, hrevise, h⟩ := h
  cases h
  obtain ⟨hsame, htile, hmotion⟩ := read_get color hread
  obtain ⟨htiles, -, hrevised⟩ := foldlM_reviseColor (by decide) hrevise
  have hrevised := hrevised color (by cases color <;> decide)
  rw [htile, hsame] at hrevised
  refine ⟨by rw [htiles, htile], ?_, ?_, ?_⟩
  · intro hwhere
    rw [hwhere] at hrevised
    exact (Except.ok.inj hrevised).symm
  · intro tile hwhere hstays
    obtain ⟨motion, hget, hmotion⟩ := hmotion tile hwhere
    have hstationary : motion = .stationary := by
      unfold motionTo at hmotion
      split at hmotion
      · exact (Except.ok.inj hmotion).symm
      · next before hbefore =>
        rw [if_pos (hstays before hbefore)] at hmotion
        exact (Except.ok.inj hmotion).symm
    rw [hwhere, hget, hstationary] at hrevised
    exact (Except.ok.inj hrevised).symm
  · intro before tile hbefore hwhere hne
    obtain ⟨motion, hget, hmotion⟩ := hmotion tile hwhere
    rw [hbefore] at hmotion
    rw [hwhere, hget] at hrevised
    rcases heads_of_motionTo hne hmotion with ⟨direction, hmoved, hheads⟩ | ⟨hdisplaced, hheads⟩
    · obtain ⟨odds, hodds, hafter⟩ := revised_eq_some (Or.inl ⟨direction, hmoved, rfl⟩) hrevised
      exact ⟨some direction, odds, hheads, hodds, hafter⟩
    · obtain ⟨odds, hodds, hafter⟩ := revised_eq_some (Or.inr ⟨hdisplaced, rfl⟩) hrevised
      exact ⟨none, odds, hheads, hodds, hafter⟩

/-! ## Histories -/

/-- The forecast after the boards of the first ticks. -/
def after (config : PredictionConfig) (boards : ℕ → Snapshot) : ℕ → Checked Forecast
  | 0 => .ok start
  | ticks + 1 => do
      let known ← after config boards ticks
      let (known, _) ← observe config known (boards ticks)
      return known

/-- The ghost of a color stands on a tile from one tick through another. -/
structure Stays (boards : ℕ → Snapshot) (color : GhostColor) (first last : ℕ) (tile : Tile) :
    Prop where
  le : first ≤ last
  eq : ∀ tick, first ≤ tick → tick ≤ last → (boards tick).whereabouts color = some tile

/-- The odds that belong to the history of a ghost up to a tick. -/
inductive Foretells (config : PredictionConfig) (boards : ℕ → Snapshot) (color : GhostColor)
    (last : ℕ) : Option Odds → Prop where
  /-- It is not there. -/
  | gone (hgone : (boards last).whereabouts color = none) :
      Foretells config boards color last none
  /-- It stands where it appeared. -/
  | settled (first : ℕ) (tile : Tile) (hstays : Stays boards color first last tile)
      (happeared : first = 0 ∨ (boards (first - 1)).whereabouts color = none) :
      Foretells config boards color last none
  /-- It stands on a tile that it entered from another one, in a tick with the odds for that. -/
  | entered (earlier : ℕ) (before tile : Tile) (heading : Option Direction) (odds : Odds)
      (hstays : Stays boards color (earlier + 1) last tile)
      (hbefore : (boards earlier).whereabouts color = some before) (hne : before ≠ tile)
      (hheads : before.Heads tile heading)
      (hodds : config.odds (boards (earlier + 1)) tile heading = .ok odds) :
      Foretells config boards color last (some odds)

variable {boards : ℕ → Snapshot} {first last : ℕ} {tile : Tile} {odds other : Option Odds}

theorem Stays.whereabouts_last (h : Stays boards color first last tile) :
    (boards last).whereabouts color = some tile :=
  h.eq last h.le (Nat.le_refl last)

theorem Stays.of_whereabouts (h : (boards last).whereabouts color = some tile) :
    Stays boards color last last tile where
  le := Nat.le_refl last
  eq tick hfirst hlast := by rw [Nat.le_antisymm hlast hfirst, h]

theorem Stays.succ (h : Stays boards color first last tile)
    (hnext : (boards (last + 1)).whereabouts color = some tile) :
    Stays boards color first (last + 1) tile where
  le := Nat.le_succ_of_le h.le
  eq := by
    intro tick hfirst hlast
    rcases Nat.le_succ_iff.mp hlast with hlast | rfl
    · exact h.eq tick hfirst hlast
    · exact hnext

/-- A ghost that is gone has no odds. -/
theorem Foretells.eq_none (h : Foretells config boards color last odds)
    (hgone : (boards last).whereabouts color = none) : odds = none := by
  cases h with
  | gone => rfl
  | settled => rfl
  | entered earlier before tile heading odds hstays =>
      rw [hstays.whereabouts_last] at hgone
      cases hgone

/-- While a ghost stays on its tile, the same odds belong to its history. -/
theorem Foretells.succ (h : Foretells config boards color last odds)
    (hlast : (boards last).whereabouts color = some tile)
    (hnext : (boards (last + 1)).whereabouts color = some tile) :
    Foretells config boards color (last + 1) odds := by
  cases h with
  | gone hgone =>
      rw [hlast] at hgone
      cases hgone
  | settled first there hstays happeared =>
      obtain rfl := Option.some.inj (hlast.symm.trans hstays.whereabouts_last)
      exact settled first tile (hstays.succ hnext) happeared
  | entered earlier before there heading odds hstays hbefore hne hheads hodds =>
      obtain rfl := Option.some.inj (hlast.symm.trans hstays.whereabouts_last)
      exact entered earlier before tile heading odds (hstays.succ hnext) hbefore hne hheads hodds

/-- A ghost that entered its tile after it appeared there did not appear there. -/
theorem Stays.not_entered {earlier : ℕ} {before there : Tile}
    (h : Stays boards color first last tile)
    (happeared : first = 0 ∨ (boards (first - 1)).whereabouts color = none)
    (hlater : Stays boards color (earlier + 1) last there)
    (hbefore : (boards earlier).whereabouts color = some before) (hne : before ≠ there) :
    False := by
  obtain rfl := Option.some.inj (h.whereabouts_last.symm.trans hlater.whereabouts_last)
  have hlast := hlater.le
  by_cases hfirst : first ≤ earlier
  · have hsame := h.eq earlier hfirst (by omega)
    exact hne (Option.some.inj (hbefore.symm.trans hsame))
  · rcases happeared with rfl | hgone
    · omega
    · have hle := h.le
      by_cases heq : first - 1 = earlier
      · rw [heq, hbefore] at hgone
        cases hgone
      · rw [hlater.eq (first - 1) (by omega) (by omega)] at hgone
        cases hgone

/-- A ghost entered its tile in one tick only. -/
theorem Stays.entered_le {earlier earlier' : ℕ} {before there : Tile}
    (h : Stays boards color (earlier + 1) last tile)
    (hlater : Stays boards color (earlier' + 1) last there)
    (hbefore : (boards earlier').whereabouts color = some before) (hne : before ≠ there) :
    earlier' ≤ earlier := by
  obtain rfl := Option.some.inj (h.whereabouts_last.symm.trans hlater.whereabouts_last)
  have hlast := hlater.le
  by_contra hlt
  have hsame := h.eq earlier' (by omega) (by omega)
  exact hne (Option.some.inj (hbefore.symm.trans hsame))

/-- The odds that belong to a history are determined by it. -/
theorem Foretells.unique (h : Foretells config boards color last odds)
    (hother : Foretells config boards color last other) : odds = other := by
  cases h with
  | gone hgone => exact (hother.eq_none hgone).symm
  | settled first tile hstays happeared =>
      cases hother with
      | gone => rfl
      | settled => rfl
      | entered earlier before there heading odds hlater hbefore hne =>
          exact (hstays.not_entered happeared hlater hbefore hne).elim
  | entered earlier before tile heading odds hstays hbefore hne hheads hodds =>
      cases hother with
      | gone hgone =>
          rw [hstays.whereabouts_last] at hgone
          cases hgone
      | settled first there hlater happeared =>
          exact (hlater.not_entered happeared hstays hbefore hne).elim
      | entered earlier' before' there heading' odds' hstays' hbefore' hne' hheads' hodds' =>
          obtain rfl := Nat.le_antisymm (hstays'.entered_le hstays hbefore hne)
            (hstays.entered_le hstays' hbefore' hne')
          obtain rfl := Option.some.inj
            (hstays.whereabouts_last.symm.trans hstays'.whereabouts_last)
          obtain rfl := Option.some.inj (hbefore.symm.trans hbefore')
          obtain rfl := hheads.unique hheads'
          rw [Except.ok.inj (hodds.symm.trans hodds')]

/-- A tick keeps the odds in step with the history. -/
theorem Tracks.foretells (h : Tracks config (boards (last + 1)) color forecast later)
    (htile : forecast.tiles.get color = (boards last).whereabouts color)
    (hodds : Foretells config boards color last (forecast.odds.get color)) :
    Foretells config boards color (last + 1) (later.odds.get color) := by
  cases hnext : (boards (last + 1)).whereabouts color with
  | none =>
      rw [h.gone hnext]
      exact .gone hnext
  | some tile =>
      cases hlast : (boards last).whereabouts color with
      | none =>
          rw [hlast] at htile
          rw [h.kept tile hnext (fun before hbefore => nomatch htile.symm.trans hbefore),
            hodds.eq_none hlast]
          exact .settled (last + 1) tile (.of_whereabouts hnext) (Or.inr hlast)
      | some before =>
          rw [hlast] at htile
          by_cases hne : before = tile
          · subst hne
            rw [h.kept before hnext (fun _ hbefore => Option.some.inj (hbefore.symm.trans htile))]
            exact hodds.succ hlast hnext
          · obtain ⟨heading, odds, hheads, hentered, hget⟩ := h.changed before tile htile hnext hne
            rw [hget]
            exact .entered last before tile heading odds (.of_whereabouts hnext) hlast hne hheads
              hentered

theorem after_succ_eq_ok_iff {ticks : ℕ} :
    after config boards (ticks + 1) = .ok later ↔
      ∃ forecast motions, after config boards ticks = .ok forecast ∧
        observe config forecast (boards ticks) = .ok (later, motions) := by
  rw [after, Checked.bind_eq_ok_iff]
  constructor
  · rintro ⟨forecast, hforecast, h⟩
    obtain ⟨⟨known, motions⟩, hobserve, h⟩ := Checked.bind_eq_ok_iff.mp h
    cases h
    exact ⟨forecast, motions, hforecast, hobserve⟩
  · rintro ⟨forecast, motions, hforecast, hobserve⟩
    refine ⟨forecast, hforecast, ?_⟩
    rw [hobserve]
    rfl

theorem after_keeps (h : after config boards (last + 1) = .ok forecast) (color : GhostColor) :
    forecast.tiles.get color = (boards last).whereabouts color ∧
      Foretells config boards color last (forecast.odds.get color) := by
  induction last generalizing forecast with
  | zero =>
      obtain ⟨earlier, motions, hstart, hobserve⟩ := after_succ_eq_ok_iff.mp h
      obtain rfl := Except.ok.inj hstart
      have htracks := observe_tracks color hobserve
      refine ⟨htracks.tile_eq, ?_⟩
      cases hwhere : (boards 0).whereabouts color with
      | none =>
          rw [htracks.gone hwhere]
          exact .gone hwhere
      | some tile =>
          have hnew : ∀ before, start.tiles.get color = some before → before = tile := by
            intro before hbefore
            rw [start, PerColor.get_fill] at hbefore
            cases hbefore
          rw [htracks.kept tile hwhere hnew, start, PerColor.get_fill]
          exact .settled 0 tile (.of_whereabouts hwhere) (Or.inl rfl)
  | succ last ih =>
      obtain ⟨earlier, motions, hearlier, hobserve⟩ := after_succ_eq_ok_iff.mp h
      obtain ⟨htile, hodds⟩ := ih hearlier
      have htracks := observe_tracks color hobserve
      exact ⟨htracks.tile_eq, htracks.foretells htile hodds⟩

theorem after_returns (config : PredictionConfig) {ticks : ℕ}
    (hghosts : ∀ tick < ticks, ∀ ghost ∈ (boards tick).ghosts, ghost.tile.onBoard = true) :
    (after config boards ticks).Returns OnBoard := by
  induction ticks with
  | zero => exact Checked.returns_ok start_onBoard
  | succ ticks ih =>
      apply (ih (fun tick hlt => hghosts tick (Nat.lt_succ_of_lt hlt))).bind
      intro forecast hforecast
      exact (observe_returns config (hghosts ticks (Nat.lt_succ_self ticks)) hforecast).bind
        (fun _ hlater => Checked.returns_ok hlater)

/-- The odds of a forecast are the ones that belong to the history of the ghost, and while the
ghosts stand on the board there is a forecast. -/
theorem after_foretells (config : PredictionConfig) (boards : ℕ → Snapshot) (last : ℕ) :
    (∀ forecast, after config boards (last + 1) = .ok forecast →
      ∀ color odds, forecast.odds.get color = odds ↔ Foretells config boards color last odds) ∧
    ((∀ tick ≤ last, ∀ ghost ∈ (boards tick).ghosts, ghost.tile.onBoard = true) →
      ∃ forecast, after config boards (last + 1) = .ok forecast) := by
  constructor
  · intro forecast h color odds
    have hforetells := (after_keeps h color).2
    constructor
    · rintro rfl
      exact hforetells
    · exact hforetells.unique
  · intro hghosts
    obtain ⟨forecast, h, -⟩ := after_returns config
      (fun tick hlt => hghosts tick (Nat.le_of_lt_succ hlt))
    exact ⟨forecast, h⟩

/-- A ghost takes a step to the right and then stands there. -/
def stroll (tick : ℕ) : Snapshot :=
  { Snapshot.detour with
    ghosts := [⟨.red, ⟨1, if tick = 0 then 1 else 2⟩, false, false, none⟩] }

theorem after_foretells_stroll :
    (∀ tick ≤ 2, ∀ ghost ∈ (stroll tick).ghosts, ghost.tile.onBoard = true) ∧
      ∃ forecast odds, after Config.standard.prediction stroll 3 = .ok forecast ∧
        Config.standard.prediction.odds (stroll 1) ⟨1, 2⟩ (some .right) = .ok odds ∧
        forecast.odds.get .red = some odds := by
  have hghosts : ∀ tick ≤ 2, ∀ ghost ∈ (stroll tick).ghosts, ghost.tile.onBoard = true := by
    intro tick _ ghost hghost
    obtain rfl := List.mem_singleton.mp hghost
    dsimp only
    split <;> decide
  have htile : (⟨1, 2⟩ : Tile).onBoard = true := by decide
  obtain ⟨ways, hways, -⟩ := (stroll 1).neighbors_succeeds htile
  have hodds : Config.standard.prediction.odds (stroll 1) ⟨1, 2⟩ (some .right) =
      .ok (Config.standard.prediction.oddsOfWays ⟨1, 2⟩ (some .right) ways) := by
    rw [PredictionConfig.odds, hways]
    rfl
  obtain ⟨forecast, h⟩ := (after_foretells Config.standard.prediction stroll 2).2 hghosts
  refine ⟨hghosts, forecast, _, h, hodds, ?_⟩
  rw [(after_foretells Config.standard.prediction stroll 2).1 forecast h]
  refine .entered 0 ⟨1, 1⟩ ⟨1, 2⟩ (some .right) _ ⟨by decide, ?_⟩ rfl (by decide) ?_ hodds
  · intro tick hfirst _
    have hne : tick ≠ 0 := by omega
    simp [Snapshot.whereabouts, stroll, hne]
  · intro direction
    cases direction <;> decide

end Forecast
end MazeAgent
