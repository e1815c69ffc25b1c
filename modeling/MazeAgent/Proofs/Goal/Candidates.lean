import MazeAgent.Proofs.Goal.Scan
import MazeAgent.Proofs.Planner.Fault

/-!
# The cheapest candidate

The goal is chosen from the open tiles within a radius, or from all open tiles when nothing within
the radius attracts and the search may widen. What the two scans find is the first tile of least
cost among them, and a goal that is not a flight from a threat is that tile.

**Results.**
* `GoalConfig.IsCandidate`: the tiles that the goal is chosen from.
* `GoalConfig.IsCheapest`: the first tile of least cost among some tiles.
* `GoalConfig.candidate_finds`: what the two scans find.
* `GoalConfig.select_sound`: what the choice of a goal returns.
-/

namespace MazeAgent
namespace GoalConfig

/-! ## Candidates -/

section Candidates

variable (config : GoalConfig) (board : Snapshot) (field : Field) (forecast : Forecast)
  (distances : Distances)

/-- A tile other than the one of the agent that can be entered. -/
def IsDestination (board : Snapshot) (tile : Tile) : Prop :=
  board.isWalkable tile = true ∧ tile ≠ board.agent

/-- A tile lies at an admitted distance from the agent. -/
def Admits (admits : Single → Bool) (tile : Tile) : Prop :=
  ∃ distance, distances.between board.agent tile = .ok distance ∧ admits distance = true

/-- A tile lies within the radius for the pellets that are left. -/
def IsNear (tile : Tile) : Prop :=
  ∃ distance, distances.between board.agent tile = .ok distance ∧
    distance ≤ Single.ofUInt32 (config.radiusFor board.pelletsRemaining)

/-- The cost of a tile: its score, its distance, and a penalty for the threats expected on it. -/
def HasCost (tile : Tile) (cost : Single) : Prop :=
  ∃ score distance, field.score? tile = some score ∧
    distances.between board.agent tile = .ok distance ∧
    cost = score + distance + config.predictionWeight * forecast.threatOccupancy board tile

/-- A tile is the first in reading order of those of least cost among some tiles. -/
structure IsCheapest (among : Tile → Prop) (tile : Tile) (cost : Single) : Prop where
  mem : among tile
  hasCost : config.HasCost board field forecast distances tile cost
  le : ∀ other otherCost, among other →
    config.HasCost board field forecast distances other otherCost → cost ≤ otherCost
  first : ∀ other otherCost, among other →
    config.HasCost board field forecast distances other otherCost → otherCost ≤ cost →
      (tile.compare other).isLE = true

/-- A search has ended with the cheapest of some tiles, or with nothing when there is none. -/
structure Finds (among : Tile → Prop) (best : Option (Cell × Single)) : Prop where
  not_mem : best = none → ∀ tile, ¬ among tile
  isCheapest : ∀ cell cost, best = some (cell, cost) →
    config.IsCheapest board field forecast distances among cell.tile cost

/-- The search widens when it may and the cheapest tile within the radius does not attract. -/
def Widens : Prop :=
  config.widenWhenIdle = true ∧ ∀ tile cost score,
    config.IsCheapest board field forecast distances
      (fun other => IsDestination board other ∧ config.IsNear board distances other) tile cost →
    field.score? tile = some score → ¬ score < 0

/-- The tiles that the goal is chosen from. -/
def IsCandidate (tile : Tile) : Prop :=
  IsDestination board tile ∧
    (config.IsNear board distances tile ∨ config.Widens board field forecast distances)

end Candidates

variable {config : GoalConfig} {board : Snapshot} {field : Field} {forecast : Forecast}
  {distances : Distances}

/-- There is only one cheapest tile. -/
theorem IsCheapest.unique {among : Tile → Prop} {a b : Tile} {cost other : Single}
    (ha : config.IsCheapest board field forecast distances among a cost)
    (hb : config.IsCheapest board field forecast distances among b other) : a = b := by
  apply Tile.eq_of_isLE_compare
  · exact ha.first b other hb.mem hb.hasCost (hb.le a cost ha.mem ha.hasCost)
  · exact hb.first a cost ha.mem ha.hasCost (ha.le b other hb.mem hb.hasCost)

theorem Finds.congr {among others : Tile → Prop} {best : Option (Cell × Single)}
    (h : config.Finds board field forecast distances among best)
    (hamong : ∀ tile, among tile ↔ others tile) :
    config.Finds board field forecast distances others best := by
  have hsame : among = others := funext (fun tile => propext (hamong tile))
  exact hsame ▸ h

/-! ## The scan of the field -/

/-- The cell of an entry of the field with its cost, unless the cell is passed over. -/
def offer (config : GoalConfig) (board : Snapshot) (forecast : Forecast) (distances : Distances)
    (admits : Single → Bool) (entry : Cell × Single) : Checked (Option (Cell × Single)) :=
  if entry.1.tile = board.agent then
    .ok none
  else do
    let distance ← distances.between board.agent entry.1.tile
    return if admits distance then
      some (entry.1, config.cost board forecast entry.1.tile entry.2 distance)
    else
      none

theorem offer_eq_some_iff {admits : Single → Bool} {entry offered : Cell × Single} :
    config.offer board forecast distances admits entry = .ok (some offered) ↔
      entry.1.tile ≠ board.agent ∧ ∃ distance,
        distances.between board.agent entry.1.tile = .ok distance ∧ admits distance = true ∧
          (entry.1, config.cost board forecast entry.1.tile entry.2 distance) = offered := by
  unfold offer
  split
  · next hagent => simp [hagent]
  · next hagent =>
    rw [Checked.bind_eq_ok_iff]
    refine ⟨?_, ?_⟩
    · rintro ⟨distance, hdistance, h⟩
      split at h
      · next hadmits =>
        cases h
        exact ⟨hagent, distance, hdistance, hadmits, rfl⟩
      · cases h
    · rintro ⟨-, distance, hdistance, hadmits, rfl⟩
      exact ⟨distance, hdistance, by rw [if_pos hadmits]; rfl⟩

theorem weigh_eq_offer (admits : Single → Bool) (best : Option (Cell × Single))
    (entry : Cell × Single) :
    config.weigh board forecast distances admits best entry =
      (config.offer board forecast distances admits entry) >>=
        fun offered => .ok (scan best offered.toList) := by
  obtain ⟨cell, score⟩ := entry
  unfold weigh offer
  dsimp only
  split
  · rfl
  · cases distances.between board.agent cell.tile with
    | error fault => rfl
    | ok distance =>
        simp only [Checked.ok_bind]
        split <;> rfl

/-- The scan of a field makes all offers and takes the cheapest. -/
theorem foldlM_weigh (admits : Single → Bool) (entries : List (Cell × Single))
    (best : Option (Cell × Single)) :
    entries.foldlM (config.weigh board forecast distances admits) best =
      (entries.filterMapM (config.offer board forecast distances admits)) >>=
        fun offers => .ok (scan best offers) := by
  induction entries generalizing best with
  | nil => rfl
  | cons entry rest ih =>
      rw [List.foldlM_cons, List.filterMapM_cons, weigh_eq_offer]
      cases config.offer board forecast distances admits entry with
      | error fault => rfl
      | ok offered =>
          simp only [Checked.ok_bind, ih]
          cases offered with
          | none => rfl
          | some offered =>
              cases rest.filterMapM (config.offer board forecast distances admits) <;> rfl

theorem cheapest_eq_ok {admits : Single → Bool} {best : Option (Cell × Single)}
    (h : config.cheapest board field forecast distances admits = .ok best) :
    ∃ offers, field.toList.filterMapM (config.offer board forecast distances admits) = .ok offers ∧
      scan none offers = best := by
  unfold cheapest at h
  rw [foldlM_weigh, Checked.bind_eq_ok_iff] at h
  obtain ⟨offers, hoffers, hbest⟩ := h
  exact ⟨offers, hoffers, Except.ok.inj hbest⟩

/-- After a scan the distances of all tiles that it has looked at are known. -/
theorem exists_distance_of_cheapest {admits : Single → Bool} {best : Option (Cell × Single)}
    (hfield : field.walls = board.walls)
    (h : config.cheapest board field forecast distances admits = .ok best) {tile : Tile}
    (htile : IsDestination board tile) :
    ∃ distance, distances.between board.agent tile = .ok distance := by
  obtain ⟨offers, hoffers, -⟩ := cheapest_eq_ok h
  obtain ⟨cell, score, rfl, hentry⟩ := Field.exists_mem_toList hfield htile.1
  obtain ⟨offered, hoffer⟩ := Checked.exists_of_filterMapM hoffers hentry
  unfold offer at hoffer
  rw [if_neg htile.2, Checked.bind_eq_ok_iff] at hoffer
  obtain ⟨distance, hdistance, -⟩ := hoffer
  exact ⟨distance, hdistance⟩

section Scanned

variable {admits : Single → Bool} {offers : List (Cell × Single)}

theorem mem_offers_iff (hfield : field.walls = board.walls)
    (hoffers : field.toList.filterMapM (config.offer board forecast distances admits) = .ok offers)
    {cell : Cell} {cost : Single} :
    (cell, cost) ∈ offers ↔
      (IsDestination board cell.tile ∧ Admits board distances admits cell.tile) ∧
        config.HasCost board field forecast distances cell.tile cost := by
  rw [Checked.mem_filterMapM_iff hoffers]
  constructor
  · rintro ⟨⟨other, score⟩, hentry, hoffer⟩
    obtain ⟨hagent, distance, hdistance, hadmits, hoffered⟩ := offer_eq_some_iff.mp hoffer
    cases hoffered
    have hscore := Field.mem_toList_iff.mp hentry
    exact ⟨⟨⟨Field.isWalkable_of_score? hfield hscore, hagent⟩, distance, hdistance, hadmits⟩,
      score, distance, hscore, hdistance, rfl⟩
  · rintro ⟨⟨⟨-, hagent⟩, distance, hdistance, hadmits⟩, score, other, hscore, hother, rfl⟩
    rw [hdistance] at hother
    cases hother
    exact ⟨(cell, score), Field.mem_toList_iff.mpr hscore,
      offer_eq_some_iff.mpr ⟨hagent, distance, hdistance, hadmits, rfl⟩⟩

theorem pairwise_offers
    (hoffers : field.toList.filterMapM (config.offer board forecast distances admits) =
      .ok offers) : offers.Pairwise (fun a b => a.1.index < b.1.index) := by
  apply Checked.pairwise_filterMapM field.pairwise_toList _ hoffers
  intro a b x y hlt hx hy
  obtain ⟨-, -, -, -, rfl⟩ := offer_eq_some_iff.mp hx
  obtain ⟨-, -, -, -, rfl⟩ := offer_eq_some_iff.mp hy
  exact hlt

end Scanned

/-! ## What the scan finds -/

section Found

variable {admits : Single → Bool} (hfield : field.walls = board.walls)

include hfield

/-- A scan finds nothing when no tile is at an admitted distance. -/
theorem not_admits_of_cheapest
    (h : config.cheapest board field forecast distances admits = .ok none) (tile : Tile) :
    ¬ (IsDestination board tile ∧ Admits board distances admits tile) := by
  rintro ⟨htile, hadmits⟩
  obtain ⟨offers, hoffers, hscan⟩ := cheapest_eq_ok h
  obtain rfl := scan_none_eq_none_iff.mp hscan
  obtain ⟨cell, score, rfl, hentry⟩ := Field.exists_mem_toList hfield htile.1
  have ⟨distance, hdistance, _⟩ := hadmits
  exact List.not_mem_nil ((mem_offers_iff hfield hoffers).mpr ⟨⟨htile, hadmits⟩, score, distance,
    Field.mem_toList_iff.mp hentry, hdistance, rfl⟩)

/-- What a scan finds is the cheapest tile at an admitted distance. -/
theorem isCheapest_of_cheapest {cell : Cell} {cost : Single}
    (hnumber : ∀ tile cost, IsDestination board tile →
      config.HasCost board field forecast distances tile cost → cost.isNaN = false)
    (h : config.cheapest board field forecast distances admits = .ok (some (cell, cost))) :
    config.IsCheapest board field forecast distances
      (fun tile => IsDestination board tile ∧ Admits board distances admits tile) cell.tile
      cost := by
  obtain ⟨offers, hoffers, hscan⟩ := cheapest_eq_ok h
  have hoffered : ∀ {cell cost}, (cell, cost) ∈ offers ↔ _ := mem_offers_iff hfield hoffers
  have horder := pairwise_offers hoffers
  have hnumbers : ∀ offer ∈ offers, offer.2.isNaN = false := by
    rintro ⟨other, otherCost⟩ hother
    obtain ⟨⟨hdestination, -⟩, hcost⟩ := hoffered.mp hother
    exact hnumber other.tile otherCost hdestination hcost
  have hleast := scan_none_isFirstLeast hnumbers hscan
  have hmem := hleast.mem
  have hplace : ∀ other otherCost,
      IsDestination board other ∧ Admits board distances admits other →
        config.HasCost board field forecast distances other otherCost →
          ∃ place : Cell, other = place.tile ∧ (place, otherCost) ∈ offers := by
    intro other otherCost hother hotherCost
    obtain ⟨place, rfl, -⟩ := Snapshot.isWalkable_iff.mp hother.1.1
    exact ⟨place, rfl, hoffered.mpr ⟨hother, hotherCost⟩⟩
  obtain ⟨hamong, hcost⟩ := hoffered.mp hmem
  refine ⟨hamong, hcost, ?_, ?_⟩
  · intro other otherCost hother hotherCost
    obtain ⟨place, rfl, hoffer⟩ := hplace other otherCost hother hotherCost
    have hle := hleast.le (hnumbers _ hmem) hoffer
    exact hle
  · intro other otherCost hother hotherCost hle
    obtain ⟨place, rfl, hoffer⟩ := hplace other otherCost hother hotherCost
    obtain ⟨before, after, rfl, hbefore, -⟩ := hleast
    -- What comes before in the scan costs more, and the scan goes in reading order.
    have hlater : (place, otherCost) ∉ before := fun hearlier =>
      Single.lt_irrefl cost (Single.lt_of_lt_of_le (hbefore _ hearlier) hle)
    have horder := Tile.isLE_compare_of_pairwise horder hoffer hlater
    exact horder

theorem isDestination_of_cheapest {cell : Cell} {cost : Single}
    (h : config.cheapest board field forecast distances admits = .ok (some (cell, cost))) :
    IsDestination board cell.tile := by
  obtain ⟨offers, hoffers, hscan⟩ := cheapest_eq_ok h
  exact ((mem_offers_iff hfield hoffers).mp (mem_of_scan_none hscan)).1.1

theorem cheapest_finds {best : Option (Cell × Single)}
    (hnumber : ∀ tile cost, IsDestination board tile →
      config.HasCost board field forecast distances tile cost → cost.isNaN = false)
    (h : config.cheapest board field forecast distances admits = .ok best) :
    config.Finds board field forecast distances
      (fun tile => IsDestination board tile ∧ Admits board distances admits tile) best := by
  refine ⟨?_, ?_⟩
  · rintro rfl
    exact not_admits_of_cheapest hfield h
  · rintro cell cost rfl
    exact isCheapest_of_cheapest hfield hnumber h

end Found

/-! ## The candidate -/

theorem admits_radius_iff {tile : Tile} :
    Admits board distances
        (fun distance => distance ≤ Single.ofUInt32 (config.radiusFor board.pelletsRemaining))
        tile ↔
      config.IsNear board distances tile := by
  simp [Admits, IsNear]

theorem isDestination_of_candidate {cell : Cell} {cost : Single}
    (hfield : field.walls = board.walls)
    (h : config.candidate board field forecast distances = .ok (some (cell, cost))) :
    IsDestination board cell.tile := by
  obtain ⟨near, hnear, h⟩ := Checked.bind_eq_ok_iff.mp h
  split at h
  · obtain ⟨all, hall, h⟩ := Checked.bind_eq_ok_iff.mp h
    have hfound := Except.ok.inj h
    rcases Option.or_eq_some_iff.mp hfound with rfl | ⟨-, rfl⟩
    · exact isDestination_of_cheapest hfield hall
    · exact isDestination_of_cheapest hfield hnear
  · obtain rfl := Except.ok.inj h
    exact isDestination_of_cheapest hfield hnear

/-- The search widens when the scan within the radius ends without an attractive tile. -/
theorem Finds.widens_iff {near : Option (Cell × Single)}
    (h : config.Finds board field forecast distances
      (fun tile => IsDestination board tile ∧ config.IsNear board distances tile) near) :
    config.Widens board field forecast distances ↔
      config.widenWhenIdle = true ∧ isAttractive field near = false := by
  unfold Widens
  apply and_congr_right
  intro _
  cases near with
  | none =>
      refine iff_of_true ?_ rfl
      intro tile cost score hcheapest
      exact absurd hcheapest.mem (h.not_mem rfl tile)
  | some found =>
      obtain ⟨cell, cost⟩ := found
      have hfound := h.isCheapest cell cost rfl
      obtain ⟨score, -, hscore, -, -⟩ := hfound.hasCost
      have hattractive : isAttractive field (some (cell, cost)) = decide (score < 0) := by
        unfold isAttractive
        dsimp only
        rw [Field.scoreOr_of_score? hscore]
      rw [hattractive, decide_eq_false_iff_not]
      constructor
      · intro hidle
        exact hidle cell.tile cost score hfound hscore
      · intro hidle tile otherCost otherScore hother hotherScore
        obtain rfl := hother.unique hfound
        rw [hscore] at hotherScore
        cases hotherScore
        exact hidle

section Candidate

variable {near best : Option (Cell × Single)} (hfield : field.walls = board.walls)
  (hnumber : ∀ tile cost, IsDestination board tile →
    config.HasCost board field forecast distances tile cost → cost.isNaN = false)

include hfield hnumber

/-- The scan within the radius finds the cheapest of the near tiles. -/
theorem near_finds (h : config.cheapest board field forecast distances
      (fun distance => distance ≤ Single.ofUInt32 (config.radiusFor board.pelletsRemaining)) =
        .ok near) :
    config.Finds board field forecast distances
      (fun tile => IsDestination board tile ∧ config.IsNear board distances tile) near :=
  (cheapest_finds hfield hnumber h).congr (fun _ => and_congr_right (fun _ => admits_radius_iff))

/-- A scan of the whole board finds the cheapest candidate when the search widens. -/
theorem wide_finds (hwide : config.Widens board field forecast distances)
    (h : config.cheapest board field forecast distances (fun _ => true) = .ok best) :
    config.Finds board field forecast distances
      (config.IsCandidate board field forecast distances) best := by
  refine (cheapest_finds hfield hnumber h).congr (fun tile => ?_)
  refine and_congr_right (fun htile => iff_of_true ?_ (Or.inr hwide))
  obtain ⟨distance, hdistance⟩ := exists_distance_of_cheapest hfield h htile
  exact ⟨distance, hdistance, rfl⟩

/-- The search for a candidate finds the cheapest one. -/
theorem candidate_finds (h : config.candidate board field forecast distances = .ok best) :
    config.Finds board field forecast distances
      (config.IsCandidate board field forecast distances) best := by
  unfold candidate at h
  obtain ⟨near, hnear, h⟩ := Checked.bind_eq_ok_iff.mp h
  have hclose := near_finds hfield hnumber hnear
  have hwidens := hclose.widens_iff
  split at h
  · next hwider =>
    have hwide : config.Widens board field forecast distances := hwidens.mpr (by simpa using hwider)
    obtain ⟨all, hall, h⟩ := Checked.bind_eq_ok_iff.mp h
    obtain rfl := Except.ok.inj h
    have hfound := wide_finds hfield hnumber hwide hall
    cases all with
    | some found => exact hfound
    | none =>
        -- What is near is a candidate, so there is nothing near either.
        cases near with
        | none => exact hfound
        | some found =>
            have hcell := (hclose.isCheapest found.1 found.2 rfl).mem
            exact absurd ⟨hcell.1, Or.inr hwide⟩ (hfound.not_mem rfl found.1.tile)
  · next hnarrow =>
    have hnarrow : ¬ config.Widens board field forecast distances := by
      rw [hwidens]
      simpa using hnarrow
    obtain rfl := Except.ok.inj h
    exact hclose.congr (fun _ => and_congr_right (fun _ => (or_iff_left hnarrow).symm))

end Candidate

/-! ## The goal -/

/-- What a goal, or the lack of one, says about a snapshot. -/
structure IsChoice (config : GoalConfig) (board : Snapshot) (field : Field) (forecast : Forecast)
    (distances : Distances) (result : Except GoalError Goal) : Prop where
  noGhosts_iff : result = .error .noGhosts ↔ board.ghosts = []
  explore : board.ghosts ≠ [] →
    (∀ tile, ¬ config.IsCandidate board field forecast distances tile) →
      (∃ next, board.IsNeighbor board.agent next ∧ result = .ok (.explore next)) ∨
        result = .error (.trapped board.agent)
  trapped_iff : board.ghosts ≠ [] →
    (∀ tile, ¬ config.IsCandidate board field forecast distances tile) →
      (result = .error (.trapped board.agent) ↔ ∀ next, ¬ board.IsNeighbor board.agent next)
  seek_or_evade : board.ghosts ≠ [] →
    (∃ tile, config.IsCandidate board field forecast distances tile) →
      (∃ tile cost, result = .ok (.seek tile cost)) ∨
        ∃ refuge threat, result = .ok (.evade refuge threat)
  seek : ∀ tile cost, result = .ok (.seek tile cost) →
    config.IsCheapest board field forecast distances
      (config.IsCandidate board field forecast distances) tile cost

/-- Without a candidate the goal is a random neighbour. -/
theorem isChoice_of_explore {source later : RandomSource} {result : Except GoalError Goal}
    (hghosts : board.ghosts ≠ [])
    (hnone : ∀ tile, ¬ config.IsCandidate board field forecast distances tile)
    (h : explore board source = .ok (result, later)) :
    config.IsChoice board field forecast distances result := by
  rcases explore_eq_ok h with ⟨next, hnext, rfl⟩ | ⟨halone, rfl⟩
  · refine ⟨by simp [hghosts], fun _ _ => Or.inl ⟨next, hnext, rfl⟩, ?_, ?_, by simp⟩
    · intro _ _
      exact iff_of_false (by simp) (fun halone => halone next hnext)
    · rintro - ⟨tile, htile⟩
      exact absurd htile (hnone tile)
  · refine ⟨by simp [hghosts], fun _ _ => Or.inr rfl,
      fun _ _ => iff_of_true rfl halone, ?_, by simp⟩
    rintro - ⟨tile, htile⟩
    exact absurd htile (hnone tile)

/-- With a candidate the goal is the cheapest one or a refuge. -/
theorem isChoice_of_isCheapest {tile : Tile} {cost : Single} {result : Except GoalError Goal}
    (hghosts : board.ghosts ≠ [])
    (h : config.IsCheapest board field forecast distances
      (config.IsCandidate board field forecast distances) tile cost)
    (hresult : (∃ refuge threat, result = .ok (.evade refuge threat)) ∨
      result = .ok (.seek tile cost)) :
    config.IsChoice board field forecast distances result := by
  have hsome : ¬ ∀ tile, ¬ config.IsCandidate board field forecast distances tile :=
    fun hnone => hnone tile h.mem
  rcases hresult with ⟨refuge, threat, rfl⟩ | rfl
  · refine ⟨by simp [hghosts], fun _ hnone => absurd hnone hsome,
      fun _ hnone => absurd hnone hsome, ?_, by simp⟩
    exact fun _ _ => Or.inr ⟨refuge, threat, rfl⟩
  · refine ⟨by simp [hghosts], fun _ hnone => absurd hnone hsome,
      fun _ hnone => absurd hnone hsome, fun _ _ => Or.inl ⟨tile, cost, rfl⟩, ?_⟩
    intro goal price hgoal
    cases hgoal
    exact h

/-- On a snapshot whose agent and ghosts stand on the board there is always a choice, and every
choice is a right one as long as each cost is a number. -/
theorem select_sound {source : RandomSource} (hfield : field.walls = board.walls)
    (hnumber : ∀ tile cost, IsDestination board tile →
      config.HasCost board field forecast distances tile cost → cost.isNaN = false) :
    (board.Standing → ∃ result later,
        config.select board field forecast distances source = .ok (result, later)) ∧
      ∀ result later, config.select board field forecast distances source = .ok (result, later) →
        config.IsChoice board field forecast distances result := by
  refine ⟨?_, ?_⟩
  · intro hboard
    obtain ⟨⟨result, later⟩, hselect, -⟩ := select_succeeds hboard source
    exact ⟨result, later, hselect⟩
  · intro result later h
    by_cases hghosts : board.ghosts = []
    · have hempty : config.select board field forecast distances source =
          .ok (.error .noGhosts, source) := if_pos (by simp [hghosts])
      rw [hempty] at h
      cases h
      constructor <;> simp [hghosts]
    · obtain ⟨best, hbest, hresult⟩ := select_eq_ok hghosts h
      have hfinds := candidate_finds hfield hnumber hbest
      cases best with
      | none => exact isChoice_of_explore hghosts (hfinds.not_mem rfl) hresult
      | some found =>
          obtain ⟨cell, cost⟩ := found
          exact isChoice_of_isCheapest hghosts (hfinds.isCheapest cell cost rfl) hresult

/-! ## A choice after a wider search -/

/-- Every cost is a number when those of a scan that admits all distances are. -/
theorem isNaN_of_offers {values : List Single} (hfield : field.walls = board.walls)
    (hvalues : (field.toList.filterMapM (config.offer board forecast distances
      (fun _ => true))).map (List.map Prod.snd) = .ok values)
    (hnumbers : ∀ value ∈ values, value.isNaN = false) (tile : Tile) (cost : Single)
    (htile : IsDestination board tile)
    (hcost : config.HasCost board field forecast distances tile cost) : cost.isNaN = false := by
  obtain ⟨offers, hoffers, rfl⟩ := Checked.exists_of_map_eq_ok hvalues
  obtain ⟨cell, rfl, -⟩ := Snapshot.isWalkable_iff.mp htile.1
  have ⟨_, distance, _, hdistance, _⟩ := hcost
  have hoffer := (mem_offers_iff hfield hoffers).mpr ⟨⟨htile, distance, hdistance, rfl⟩, hcost⟩
  exact hnumbers cost (List.mem_map_of_mem hoffer)

/-- The ring with a ghost behind the wall that has not left its pen yet. -/
def lookout : Snapshot := { Snapshot.detour with ghosts := [⟨.red, ⟨1, 3⟩, false, true, none⟩] }

/-- Three tiles attract equally when their distances are counted. -/
def lures : Field where
  walls := lookout.walls
  scores := [(⟨1, 3⟩, -8), (⟨2, 4⟩, -10), (⟨3, 3⟩, -10)].foldl
    (fun scores entry => scores.write entry.1 entry.2) (Grid.filled 0)

theorem toList_lures : lures.toList =
    [(⟨29⟩, 0), (⟨30⟩, 0), (⟨31⟩, -8), (⟨57⟩, 0), (⟨59⟩, 0), (⟨60⟩, -10), (⟨85⟩, 0), (⟨86⟩, 0),
      (⟨87⟩, -10)] := by
  have hcells : lures.walls.openCells = Snapshot.detour.walls.openCells := rfl
  rw [Field.toList, hcells, Snapshot.openCells_detour]
  decide +kernel

/-- The ghost is expected on the first of them. -/
def warning : Forecast where
  tiles := PerColor.fill none
  odds := (PerColor.fill none).set .red (some ⟨[(⟨1, 3⟩, 0.5)]⟩)

/-- Two tiles are within the radius, and neither of them attracts. -/
def nearsighted : GoalConfig where
  baseRadius := 1
  radiusSchedule := []
  widenWhenIdle := true

/-- The search widens, passes over the tile where the ghost is expected, and keeps the first of
the two others. -/
theorem select_sound_lookout :
    lures.walls = lookout.walls ∧
      (∀ tile cost, IsDestination lookout tile →
        nearsighted.HasCost lookout lures warning (.ofMetric .manhattan) tile cost →
          cost.isNaN = false) ∧
      lookout.Standing ∧
      (∃ later, nearsighted.select lookout lures warning (.ofMetric .manhattan) (.cyclic #[]) =
        .ok (.ok (.seek ⟨2, 4⟩ (-6)), later)) ∧
      nearsighted.IsChoice lookout lures warning (.ofMetric .manhattan)
        (.ok (.seek ⟨2, 4⟩ (-6))) := by
  have hvalues : (lures.toList.filterMapM (nearsighted.offer lookout warning
      (.ofMetric .manhattan) (fun _ => true))).map (List.map Prod.snd) =
        .ok [1, 94, 1, 3, -6, 2, 3, -6] := by
    rw [toList_lures]
    decide +kernel
  have hresult : (nearsighted.select lookout lures warning (.ofMetric .manhattan)
      (.cyclic #[])).map Prod.fst = .ok (.ok (.seek ⟨2, 4⟩ (-6))) := by
    unfold select candidate cheapest
    rw [toList_lures]
    decide +kernel
  have hfield : lures.walls = lookout.walls := rfl
  have hnumber := isNaN_of_offers hfield hvalues (by decide +kernel)
  obtain ⟨⟨_, later⟩, hselect, rfl⟩ := Checked.exists_of_map_eq_ok hresult
  have hchoice := (select_sound hfield hnumber).2 _ later hselect
  exact ⟨hfield, hnumber, ⟨by decide, by decide⟩, ⟨later, hselect⟩, hchoice⟩

end GoalConfig
end MazeAgent
