import MazeAgent.Proofs.Distance.Estimate
import MazeAgent.Proofs.Goal.Candidates

/-!
# Flight from threats

The agent flees when the nearest threat is close to it and to the tile that it would go to. It
flees to the tile whose nearest threat is farthest away. A threat that is not the nearest one makes
no difference to whether the agent flees, however close it is to both.

**Results.**
* `Snapshot.IsFirstThreat`, `GoalConfig.IsRefuge`: the threat to flee from and where to flee to.
* `Distances.Faithful.toThreats`: the metrics and the tables of mazes tell numbers on every board.
* `GoalConfig.nearThreat_isFirstThreat`, `GoalConfig.farthest_isRefuge`: what the two scans find.
* `GoalConfig.flight_ends`: all that the search for a flight can end with.
* `GoalConfig.select_evade_isFlight`: what a flight says about the snapshot.
* `GoalConfig.select_evade_iff`: the agent flees when its nearest threat is near the candidate.
-/

namespace MazeAgent

/-! ## Distances to threats -/

namespace Distances

/-- The distance of two tiles is at most a radius. -/
def IsWithin (distances : Distances) (radius : Single) (a b : Tile) : Prop :=
  ∃ distance, distances.between a b = .ok distance ∧ distance ≤ radius

/-- All distances to threats, from the agent and from the tiles of the board, are good. -/
def ToThreats (distances : Distances) (board : Snapshot) (good : Single → Prop) : Prop :=
  ∀ threat ∈ board.threats, ∀ tile distance, tile = board.agent ∨ tile.onBoard = true →
    distances.between tile threat.tile = .ok distance → good distance

variable {distances : Distances} {board : Snapshot} {maze : Maze}

theorem ToThreats.isNaN (h : distances.ToThreats board Single.IsProper) :
    distances.ToThreats board (fun distance => distance.isNaN = false) :=
  fun threat hthreat tile distance htile hdistance =>
    (h threat hthreat tile distance htile hdistance).1

theorem Faithful.toThreats (h : distances.Faithful maze) (hboard : board.Standing) :
    distances.ToThreats board Single.IsProper := by
  intro threat hthreat tile distance htile hdistance
  have htile : tile.onBoard = true := by
    rcases htile with rfl | htile
    · exact hboard.agent
    · exact htile
  obtain ⟨cell, rfl⟩ := Tile.onBoard_iff.mp htile
  obtain ⟨place, hplace⟩ := Tile.onBoard_iff.mp (hboard.threats threat hthreat)
  rw [hplace, between_tile] at hdistance
  cases hdistance
  exact h.isProper_ofCells cell place

end Distances

/-! ## The first of the nearest threats -/

/-- One distance comes before another in the total order on patterns. -/
def Single.Precedes (x y : Single) : Prop := x.totalCompare y = .lt

theorem Single.precedes_iff {x y : Single} : x.Precedes y ↔ x.place < y.place :=
  Int.compare_eq_lt

namespace Snapshot

variable {board : Snapshot} {distances : Distances} {less : Single → Single → Prop}
  {threat other : Ghost}

/-- A threat is the first one of the list among those nearest to the agent. Its distance is less
than those of the threats before it, and none of those after it is less. -/
def IsFirstThreat (board : Snapshot) (distances : Distances) (less : Single → Single → Prop)
    (threat : Ghost) : Prop :=
  ∃ before after distance, board.threats = before ++ threat :: after ∧
    distances.between board.agent threat.tile = .ok distance ∧
    (∀ other ∈ before, ∃ farther,
      distances.between board.agent other.tile = .ok farther ∧ less distance farther) ∧
    ∀ other ∈ after, ∃ farther,
      distances.between board.agent other.tile = .ok farther ∧ ¬ less farther distance

theorem IsFirstThreat.mem (h : board.IsFirstThreat distances less threat) :
    threat ∈ board.threats := by
  obtain ⟨before, after, distance, hthreats, -⟩ := h
  rw [hthreats]
  exact List.mem_append_right _ List.mem_cons_self

/-- There is only one first threat: of two, the one that stands later in the list would be nearer
and not nearer. -/
theorem IsFirstThreat.unique (ha : board.IsFirstThreat distances less threat)
    (hb : board.IsFirstThreat distances less other) : threat = other := by
  obtain ⟨before, after, distance, hthreats, hdistance, hbefore, hafter⟩ := ha
  obtain ⟨before', after', distance', hthreats', hdistance', hbefore', hafter'⟩ := hb
  have hcollide : ∀ {first second : Ghost} {near far : Single},
      distances.between board.agent first.tile = .ok far →
      distances.between board.agent second.tile = .ok near →
      (∃ farther, distances.between board.agent first.tile = .ok farther ∧ less near farther) →
      ¬ ∃ farther, distances.between board.agent second.tile = .ok farther ∧
        ¬ less farther far := by
    rintro first second near far hfirst hsecond ⟨_, hagain, hless⟩ ⟨_, hagain', hnot⟩
    rw [hfirst] at hagain
    rw [hsecond] at hagain'
    cases hagain
    cases hagain'
    exact hnot hless
  rw [hthreats] at hthreats'
  rcases List.append_eq_append_iff.mp hthreats' with ⟨gap, rfl, hgap⟩ | ⟨gap, rfl, hgap⟩
  · cases gap with
    | nil => exact (List.cons.inj hgap).1
    | cons first rest =>
        obtain ⟨rfl, rfl⟩ := List.cons.inj hgap
        exact absurd (hafter other (by simp))
          (hcollide hdistance hdistance' (hbefore' threat (by simp)))
  · cases gap with
    | nil => exact (List.cons.inj hgap).1.symm
    | cons first rest =>
        obtain ⟨rfl, rfl⟩ := List.cons.inj hgap
        exact absurd (hafter' threat (by simp))
          (hcollide hdistance' hdistance (hbefore other (by simp)))

/-- The order of the numbers and the order of the patterns find the same threat. -/
theorem IsFirstThreat.of_isProper (hproper : distances.ToThreats board Single.IsProper)
    (h : board.IsFirstThreat distances Single.Precedes threat) :
    board.IsFirstThreat distances (· < ·) threat := by
  have hgood : ∀ other ∈ board.threats, ∀ distance,
      distances.between board.agent other.tile = .ok distance → distance.IsProper :=
    fun other hother distance hdistance =>
      hproper other hother board.agent distance (Or.inl rfl) hdistance
  have hdistance := h.mem
  obtain ⟨before, after, distance, hthreats, hthreat, hbefore, hafter⟩ := h
  have hleast := hgood threat hdistance distance hthreat
  refine ⟨before, after, distance, hthreats, hthreat, ?_, ?_⟩
  · intro other hother
    obtain ⟨farther, hfarther, hless⟩ := hbefore other hother
    have hmem : other ∈ board.threats := by simp [hthreats, hother]
    exact ⟨farther, hfarther, (hleast.place_lt_iff (hgood other hmem farther hfarther)).mp
      (Single.precedes_iff.mp hless)⟩
  · intro other hother
    obtain ⟨farther, hfarther, hless⟩ := hafter other hother
    have hmem : other ∈ board.threats := by simp [hthreats, hother]
    refine ⟨farther, hfarther, fun hnearer => hless ?_⟩
    exact Single.precedes_iff.mpr (((hgood other hmem farther hfarther).place_lt_iff hleast).mpr
      hnearer)

end Snapshot

namespace GoalConfig

variable {config : GoalConfig} {board other : Snapshot} {field : Field} {forecast : Forecast}
  {distances : Distances} {source later : RandomSource}

/-! ## The nearest threat -/

section Nearest

variable {threats : List (Ghost × Single)} {radius : Single}

theorem nearest_eq_none_iff : nearest threats = none ↔ threats = [] := by
  cases threats <;> simp [nearest]

/-- Two threats are compared by the places of their distances. -/
theorem nearest_isFirstMin {threat : Ghost × Single} (h : nearest threats = some threat) :
    IsFirstMin (fun threat => threat.2.place) threats threat := by
  cases threats with
  | nil => cases h
  | cons first rest =>
      cases h
      apply (isFirstMin_singleton first).foldl
      intro a _ b _
      unfold nearer Single.totalCompare
      simp only [Int.compare_eq_lt]

theorem map_fst_threatDistances (h : threatDistances board distances = .ok threats) :
    threats.map Prod.fst = board.threats :=
  Checked.map_fst_of_mapM h

theorem between_of_threatDistances (h : threatDistances board distances = .ok threats)
    {threat : Ghost × Single} (hthreat : threat ∈ threats) :
    distances.between board.agent threat.1.tile = .ok threat.2 := by
  obtain ⟨ghost, -, hghost⟩ := (Checked.mem_mapM_iff h threat).mp hthreat
  obtain ⟨found, hfound, hpair⟩ := Checked.bind_eq_ok_iff.mp hghost
  cases hpair
  exact hfound

theorem isFirstThreat_of_isFirstMin (h : threatDistances board distances = .ok threats)
    {threat : Ghost × Single}
    (hfirst : IsFirstMin (fun threat => threat.2.place) threats threat) :
    board.IsFirstThreat distances Single.Precedes threat.1 := by
  have hall := map_fst_threatDistances h
  have hbetween : ∀ {other : Ghost × Single}, other ∈ threats →
      distances.between board.agent other.1.tile = .ok other.2 :=
    between_of_threatDistances h
  have hthreat := hbetween hfirst.mem
  obtain ⟨before, after, rfl, hbefore, hafter⟩ := hfirst
  refine ⟨before.map Prod.fst, after.map Prod.fst, threat.2, ?_, hthreat, ?_, ?_⟩
  · rw [← hall, List.map_append, List.map_cons]
  · intro ghost hghost
    obtain ⟨other, hother, rfl⟩ := List.mem_map.mp hghost
    exact ⟨other.2, hbetween (by simp [hother]), Single.precedes_iff.mpr (hbefore other hother)⟩
  · intro ghost hghost
    obtain ⟨other, hother, rfl⟩ := List.mem_map.mp hghost
    refine ⟨other.2, hbetween (by simp [hother]), fun hless => ?_⟩
    exact absurd (Single.precedes_iff.mp hless) (Int.not_lt.mpr (hafter other hother))

/-- The nearest of the threats within the radius is the nearest of all threats, since what is not
within the radius is farther away. -/
theorem nearThreat_isFirstThreat {threat : Ghost}
    (hnumber : distances.ToThreats board (fun distance => distance.isNaN = false))
    (h : nearThreat board distances radius = .ok (some threat)) :
    board.IsFirstThreat distances Single.Precedes threat ∧
      distances.IsWithin radius board.agent threat.tile := by
  obtain ⟨threats, hthreats, h⟩ := Checked.bind_eq_ok_iff.mp h
  obtain ⟨found, hnearest, rfl⟩ := Option.map_eq_some_iff.mp (Except.ok.inj h)
  have hfirst := nearest_isFirstMin hnearest
  obtain ⟨hmem, hwithin⟩ := List.mem_filter.mp hfirst.mem
  have hwithin : found.2 ≤ radius := by simpa using hwithin
  have hall : IsFirstMin (fun threat => threat.2.place) threats found := by
    apply hfirst.of_filter
    intro other hother hfarther
    have hthreat : other.1 ∈ board.threats :=
      map_fst_threatDistances hthreats ▸ List.mem_map_of_mem hother
    have hfar := hnumber other.1 hthreat board.agent other.2 (Or.inl rfl)
      (between_of_threatDistances hthreats hother)
    have hradius : radius < other.2 := by
      by_contra hle
      have hreach := (Single.le_iff.mp hwithin).2.1
      exact absurd ((Single.not_lt_iff hreach hfar).mp hle) (by simpa using hfarther)
    exact Single.place_lt_of_lt (Single.lt_of_le_of_lt hwithin hradius)
  exact ⟨isFirstThreat_of_isFirstMin hthreats hall, found.2,
    between_of_threatDistances hthreats hmem, hwithin⟩

theorem not_isWithin_of_nearThreat (h : nearThreat board distances radius = .ok none)
    {threat : Ghost} (hthreat : threat ∈ board.threats) :
    ¬ distances.IsWithin radius board.agent threat.tile := by
  rintro ⟨distance, hdistance, hle⟩
  obtain ⟨threats, hthreats, h⟩ := Checked.bind_eq_ok_iff.mp h
  have hnone := nearest_eq_none_iff.mp (Option.map_eq_none_iff.mp (Except.ok.inj h))
  rw [← map_fst_threatDistances hthreats] at hthreat
  obtain ⟨⟨_, found⟩, hpair, rfl⟩ := List.mem_map.mp hthreat
  have hfound := between_of_threatDistances hthreats hpair
  rw [hdistance] at hfound
  cases hfound
  exact List.filter_eq_nil_iff.mp hnone _ hpair (by simpa using hle)

end Nearest

/-! ## The refuge -/

/-- The distance from a tile to the nearest threat. -/
def IsClearance (board : Snapshot) (distances : Distances) (tile : Tile) (clearance : Single) :
    Prop :=
  (∃ threat ∈ board.threats, distances.between tile threat.tile = .ok clearance) ∧
    ∀ threat ∈ board.threats, ∃ distance, distances.between tile threat.tile = .ok distance ∧
      clearance ≤ distance

/-- A tile is the first in reading order of those whose nearest threat is farthest away. -/
structure IsRefuge (board : Snapshot) (distances : Distances) (tile : Tile) : Prop where
  isDestination : IsDestination board tile
  exists_clearance : ∃ clearance, IsClearance board distances tile clearance ∧
    ∀ other, IsDestination board other →
      ∃ otherClearance, IsClearance board distances other otherClearance ∧
        otherClearance ≤ clearance ∧
        (clearance ≤ otherClearance → (tile.compare other).isLE = true)

/-- The least of some numbers, or infinity if there are none. -/
theorem isFirstMin_foldl_min {values : List Single}
    (hvalues : ∀ value ∈ values, value.isNaN = false) :
    IsFirstMin Single.signedMagnitude (Single.infinity :: values)
      (values.foldl Single.min Single.infinity) := by
  have hnumber : ∀ value ∈ Single.infinity :: values, value.isNaN = false :=
    List.forall_mem_cons.mpr ⟨by decide, hvalues⟩
  apply (isFirstMin_singleton Single.infinity).foldl
  intro a ha b hb
  have ha := hnumber a ha
  have hb := hvalues b hb
  have hlt : b.lt a = true ↔ b.signedMagnitude < a.signedMagnitude := by simp [Single.lt, ha, hb]
  simp only [Single.min, ha, hb, hlt, Bool.false_eq_true, if_false]

theorem clearance_isClearance {cell : Cell} {clearance : Single}
    (hproper : distances.ToThreats board Single.IsProper) (hthreats : board.threats ≠ [])
    (h : GoalConfig.clearance board distances cell = .ok clearance) :
    IsClearance board distances cell.tile clearance := by
  obtain ⟨values, hvalues, h⟩ := Checked.bind_eq_ok_iff.mp h
  obtain rfl := Except.ok.inj h
  have hmem := Checked.mem_mapM_iff hvalues
  have hgood : ∀ value ∈ values, value.IsProper := by
    intro value hvalue
    obtain ⟨threat, hthreat, hdistance⟩ := (hmem value).mp hvalue
    exact hproper threat hthreat cell.tile value (Or.inr cell.onBoard_tile) hdistance
  have hfirst := isFirstMin_foldl_min (fun value hvalue => (hgood value hvalue).1)
  have hle : ∀ value ∈ values, (values.foldl Single.min Single.infinity).signedMagnitude ≤
      value.signedMagnitude := fun value hvalue => hfirst.le (List.mem_cons_of_mem _ hvalue)
  have hleast : values.foldl Single.min Single.infinity ∈ values := by
    rcases List.mem_cons.mp hfirst.mem with hinfinity | hleast
    · -- Then there is no other number among them.
      obtain ⟨threat, hthreat⟩ := List.exists_mem_of_ne_nil _ hthreats
      obtain ⟨value, hdistance⟩ := Checked.exists_of_mapM hvalues hthreat
      have hvalue := (hmem value).mpr ⟨threat, hthreat, hdistance⟩
      have hsame := Single.eq_infinity_of_le (hgood value hvalue).1 (hinfinity ▸ hle value hvalue)
      rw [hinfinity, ← hsame]
      exact hvalue
    · exact hleast
  refine ⟨(hmem _).mp hleast, ?_⟩
  intro threat hthreat
  obtain ⟨value, hdistance⟩ := Checked.exists_of_mapM hvalues hthreat
  have hvalue := (hmem value).mpr ⟨threat, hthreat, hdistance⟩
  exact ⟨value, hdistance, Single.le_iff.mpr ⟨(hgood _ hleast).1, (hgood value hvalue).1,
    hle value hvalue⟩⟩

/-- What the scan of the open cells finds, and what it finds it among. -/
theorem farthest_eq_ok {best : Option (Cell × Single)}
    (h : farthest board distances = .ok best) :
    ∃ entries, (board.walls.openCells.filter (fun cell => cell.tile ≠ board.agent)).mapM
        (fun cell => do return (cell, ← clearance board distances cell)) = .ok entries ∧
      entries.foldl (fun best entry => farther best entry.1 entry.2) none = best := by
  apply Checked.foldlM_eq_ok
  rw [← h]
  unfold farthest
  simp only [bind_assoc, pure_bind]

/-- Of two entries the later one is kept only when it is farther. -/
theorem foldl_farther (first : Cell × Single) (rest : List (Cell × Single)) :
    (first :: rest).foldl (fun best entry => farther best entry.1 entry.2) none =
      some (rest.foldl (fun a b => if a.2 < b.2 then b else a) first) := by
  have hstep (a b : Cell × Single) :
      farther (some a) b.1 b.2 = some (if a.2 < b.2 then b else a) :=
    (apply_ite some (a.2 < b.2) b a).symm
  exact List.foldl_hom some hstep

theorem foldl_farther_isFirstMin {entries : List (Cell × Single)} {best : Cell × Single}
    (hnumber : ∀ entry ∈ entries, entry.2.isNaN = false)
    (h : entries.foldl (fun best entry => farther best entry.1 entry.2) none = some best) :
    IsFirstMin (fun entry => -entry.2.signedMagnitude) entries best := by
  cases entries with
  | nil => cases h
  | cons first rest =>
      rw [foldl_farther] at h
      obtain rfl := Option.some.inj h
      apply (isFirstMin_singleton first).foldl
      intro a ha b hb
      have hlt : a.2 < b.2 ↔ -b.2.signedMagnitude < -a.2.signedMagnitude := by
        rw [Single.lt_iff, neg_lt_neg_iff]
        simp [hnumber a ha, hnumber b (List.mem_cons_of_mem _ hb)]
      simp only [hlt]

theorem mem_openCells_filter_iff {cell : Cell} :
    cell ∈ board.walls.openCells.filter (fun cell => cell.tile ≠ board.agent) ↔
      IsDestination board cell.tile := by
  rw [List.mem_filter, Maze.mem_openCells_iff, IsDestination, Snapshot.isWalkable_tile,
    decide_eq_true_iff]

/-- The scan of the open cells finds the refuge. -/
theorem farthest_isRefuge {cell : Cell} {clearance : Single}
    (hproper : distances.ToThreats board Single.IsProper) (hthreats : board.threats ≠ [])
    (h : farthest board distances = .ok (some (cell, clearance))) :
    IsRefuge board distances cell.tile := by
  obtain ⟨entries, hentries, hbest⟩ := farthest_eq_ok h
  have hcells := Checked.map_fst_of_mapM hentries
  have hclearance : ∀ {place : Cell} {room : Single}, (place, room) ∈ entries →
      IsClearance board distances place.tile room := by
    intro place room hplace
    obtain ⟨cell, -, hcell⟩ := (Checked.mem_mapM_iff hentries _).mp hplace
    obtain ⟨found, hfound, hentry⟩ := Checked.bind_eq_ok_iff.mp hcell
    cases hentry
    exact clearance_isClearance hproper hthreats hfound
  have hnumber : ∀ entry ∈ entries, entry.2.isNaN = false := by
    intro entry hentry
    obtain ⟨⟨threat, hthreat, hdistance⟩, -⟩ := hclearance hentry
    exact hproper.isNaN threat hthreat entry.1.tile entry.2 (Or.inr entry.1.onBoard_tile) hdistance
  have horder : entries.Pairwise (fun a b => a.1.index < b.1.index) := by
    have hcellOrder : (entries.map Prod.fst).Pairwise (fun a b => a.index < b.index) := by
      rw [hcells]
      exact board.walls.pairwise_openCells.filter _
    rwa [List.pairwise_map] at hcellOrder
  have hfirst := foldl_farther_isFirstMin hnumber hbest
  refine ⟨?_, clearance, hclearance hfirst.mem, ?_⟩
  · rw [← mem_openCells_filter_iff, ← hcells]
    exact List.mem_map_of_mem hfirst.mem
  · intro other hother
    obtain ⟨place, rfl, -⟩ := Snapshot.isWalkable_iff.mp hother.1
    rw [← mem_openCells_filter_iff, ← hcells] at hother
    obtain ⟨⟨place, room⟩, hentry, rfl⟩ := List.mem_map.mp hother
    have hroom := hnumber _ hentry
    have hclear := hnumber _ hfirst.mem
    refine ⟨room, hclearance hentry, ?_, ?_⟩
    · exact Single.le_iff.mpr ⟨hroom, hclear, neg_le_neg_iff.mp (hfirst.le hentry)⟩
    · intro hle
      -- What comes before has less room, and the scan goes in reading order.
      obtain ⟨before, after, rfl, hbefore, -⟩ := hfirst
      have hlater : (place, room) ∉ before := fun hearlier =>
        absurd (neg_lt_neg_iff.mp (hbefore _ hearlier)) (Int.not_lt.mpr (Single.le_iff.mp hle).2.2)
      have horder := Tile.isLE_compare_of_pairwise horder hentry hlater
      exact horder

/-- The scan of the open cells finds nothing when there is nowhere to go. -/
theorem not_isDestination_of_farthest (h : farthest board distances = .ok none) (tile : Tile) :
    ¬ IsDestination board tile := by
  intro htile
  obtain ⟨entries, hentries, hbest⟩ := farthest_eq_ok h
  obtain ⟨cell, rfl, -⟩ := Snapshot.isWalkable_iff.mp htile.1
  rw [← mem_openCells_filter_iff, ← Checked.map_fst_of_mapM hentries] at htile
  cases entries with
  | nil => cases htile
  | cons first rest =>
      rw [foldl_farther] at hbest
      cases hbest

/-! ## Flight -/

section Flight

variable {tile : Tile} {found : Option Goal}

/-- What the search for a flight from a tile ends with, and why. -/
inductive FlightEnds (config : GoalConfig) (board : Snapshot) (distances : Distances)
    (tile : Tile) : Option Goal → Prop where
  | disabled : config.evadeRadius ≤ 0 → FlightEnds config board distances tile none
  | alone : nearThreat board distances config.evadeRadius = .ok none →
      FlightEnds config board distances tile none
  | away {threat : Ghost} {distance : Single} :
      nearThreat board distances config.evadeRadius = .ok (some threat) →
      distances.between tile threat.tile = .ok distance → config.evadeRadius < distance →
        FlightEnds config board distances tile none
  | nowhere : farthest board distances = .ok none → FlightEnds config board distances tile none
  | refuge {threat : Ghost} {distance : Single} {best : Cell × Single} :
      ¬ config.evadeRadius ≤ 0 →
      nearThreat board distances config.evadeRadius = .ok (some threat) →
      distances.between tile threat.tile = .ok distance → ¬ config.evadeRadius < distance →
      farthest board distances = .ok (some best) →
        FlightEnds config board distances tile (some (.evade best.1.tile threat.color))

theorem flight_ends (h : config.flight board distances tile = .ok found) :
    config.FlightEnds board distances tile found := by
  unfold flight at h
  split at h
  · next hradius =>
    cases h
    exact .disabled hradius
  · next hradius =>
    obtain ⟨near, hnear, h⟩ := Checked.bind_eq_ok_iff.mp h
    cases near with
    | none =>
        cases h
        exact .alone hnear
    | some threat =>
        obtain ⟨distance, hdistance, h⟩ := Checked.bind_eq_ok_iff.mp h
        split at h
        · next hreach =>
          cases h
          exact .away hnear hdistance hreach
        · next hreach =>
          obtain ⟨best, hbest, h⟩ := Checked.bind_eq_ok_iff.mp h
          cases h
          cases best with
          | none => exact .nowhere hbest
          | some best => exact .refuge hradius hnear hdistance hreach hbest

/-- A flight depends on the walls, the agent and the threats. -/
theorem flight_congr (hwalls : other.walls = board.walls) (hagent : other.agent = board.agent)
    (hthreats : other.threats = board.threats) :
    config.flight other distances tile = config.flight board distances tile := by
  unfold flight nearThreat threatDistances farthest clearance
  rw [hwalls, hagent, hthreats]

end Flight

/-! ## The choice between flight and the candidate -/

section Select

variable {cell : Cell} {cost : Single}

/-- With a candidate the goal is a flight, or the candidate when there is no flight. -/
theorem select_eq_flight (source : RandomSource) (hghosts : board.ghosts ≠ [])
    (hcandidate : config.candidate board field forecast distances = .ok (some (cell, cost))) :
    config.select board field forecast distances source =
      (config.flight board distances cell.tile) >>=
        fun found => .ok (.ok (found.getD (.seek cell.tile cost)), source) := by
  unfold select
  rw [if_neg (by simpa using hghosts), hcandidate, Checked.ok_bind]
  dsimp only
  cases config.flight board distances cell.tile with
  | error fault => rfl
  | ok found => cases found <;> rfl

/-- A choice to flee is a flight from a candidate. -/
theorem exists_flight_of_select {refuge : Tile} {color : GhostColor}
    (h : config.select board field forecast distances source =
      .ok (.ok (.evade refuge color), later)) :
    board.ghosts ≠ [] ∧ ∃ cell cost,
      config.candidate board field forecast distances = .ok (some (cell, cost)) ∧
      config.flight board distances cell.tile = .ok (some (.evade refuge color)) := by
  have hghosts : board.ghosts ≠ [] := by
    intro hghosts
    have hempty : config.select board field forecast distances source =
        .ok (.error .noGhosts, source) := if_pos (by simp [hghosts])
    rw [hempty] at h
    cases h
  refine ⟨hghosts, ?_⟩
  obtain ⟨best, hbest, hresult⟩ := select_eq_ok hghosts h
  cases best with
  | none =>
      rcases explore_eq_ok hresult with ⟨_, _, hgoal⟩ | ⟨_, hgoal⟩ <;> cases hgoal
  | some found =>
      obtain ⟨cell, cost⟩ := found
      refine ⟨cell, cost, hbest, ?_⟩
      rw [select_eq_flight source hghosts hbest, Checked.bind_eq_ok_iff] at h
      obtain ⟨found, hfound, h⟩ := h
      cases found with
      | none => cases h
      | some goal =>
          cases h
          exact hfound

theorem zero_lt_of_isWithin {radius : Single} {a b : Tile} (hradius : ¬ radius ≤ 0)
    (h : distances.IsWithin radius a b) : 0 < radius := by
  obtain ⟨distance, -, hle⟩ := h
  have hzero : Single.isNaN 0 = false := by decide +kernel
  by_contra hlt
  exact hradius ((Single.not_lt_iff hzero (Single.le_iff.mp hle).2.1).mp hlt)

/-- What a flight says about a snapshot: the threat is the first one among the nearest and close to
the agent and to the cheapest candidate, and the refuge is the tile that is farthest from all
threats. -/
structure IsFlight (config : GoalConfig) (board : Snapshot) (field : Field) (forecast : Forecast)
    (distances : Distances) (cell : Cell) (cost : Single) (refuge : Tile) (color : GhostColor) :
    Prop where
  radius_pos : 0 < config.evadeRadius
  candidate_eq : config.candidate board field forecast distances = .ok (some (cell, cost))
  isCheapest : field.walls = board.walls →
    (∀ tile cost, IsDestination board tile →
      config.HasCost board field forecast distances tile cost → cost.isNaN = false) →
    config.IsCheapest board field forecast distances
      (config.IsCandidate board field forecast distances) cell.tile cost
  exists_threat : ∃ threat, board.IsFirstThreat distances (· < ·) threat ∧ threat.color = color ∧
    distances.IsWithin config.evadeRadius board.agent threat.tile ∧
    distances.IsWithin config.evadeRadius cell.tile threat.tile
  isRefuge : IsRefuge board distances refuge

/-- A flight that is found has a threat near the agent and near the candidate. -/
theorem exists_threat_of_flight {goal : Goal}
    (hnumber : distances.ToThreats board (fun distance => distance.isNaN = false))
    (h : config.flight board distances cell.tile = .ok (some goal)) :
    0 < config.evadeRadius ∧ ∃ threat best, board.IsFirstThreat distances Single.Precedes threat ∧
      distances.IsWithin config.evadeRadius board.agent threat.tile ∧
      distances.IsWithin config.evadeRadius cell.tile threat.tile ∧
      farthest board distances = .ok (some best) ∧ goal = .evade best.1.tile threat.color := by
  cases flight_ends h with
  | @refuge threat distance best hradius hnear hdistance hreach hbest =>
      obtain ⟨hfirst, hwithin⟩ := nearThreat_isFirstThreat hnumber hnear
      have hfar := hnumber threat hfirst.mem cell.tile distance (Or.inr cell.onBoard_tile) hdistance
      have ⟨_, _, hle⟩ := hwithin
      have hcell := (Single.not_lt_iff (Single.le_iff.mp hle).2.1 hfar).mp hreach
      exact ⟨zero_lt_of_isWithin hradius hwithin, threat, best, hfirst, hwithin,
        ⟨distance, hdistance, hcell⟩, hbest, rfl⟩

/-- There is no reason to flee without a threat near the agent and near the candidate. -/
theorem not_isWithin_of_flight
    (hnumber : distances.ToThreats board (fun distance => distance.isNaN = false))
    (hcell : IsDestination board cell.tile)
    (h : config.flight board distances cell.tile = .ok none) (hradius : 0 < config.evadeRadius)
    {threat : Ghost} (hfirst : board.IsFirstThreat distances Single.Precedes threat)
    (hagent : distances.IsWithin config.evadeRadius board.agent threat.tile) :
    ¬ distances.IsWithin config.evadeRadius cell.tile threat.tile := by
  have hpositive := Single.lt_iff.mp hradius
  cases flight_ends h with
  | disabled hnonpositive => exact absurd hnonpositive (by simp [Single.le_iff, hpositive])
  | alone hnone => exact absurd hagent (not_isWithin_of_nearThreat hnone hfirst.mem)
  | away hnear hdistance hreach =>
      -- The threat that was found near the agent is the first one.
      obtain rfl := (nearThreat_isFirstThreat hnumber hnear).1.unique hfirst
      rintro ⟨again, hagain, hle⟩
      rw [hdistance] at hagain
      cases hagain
      exact Single.lt_irrefl _ (Single.lt_of_lt_of_le hreach hle)
  | nowhere hnowhere => exact absurd hcell (not_isDestination_of_farthest hnowhere cell.tile)

/-- Whoever flees does so from the first of the nearest threats, to the tile that is farthest from
all threats. The other ghosts matter for the candidate alone: with the same candidate, walls, agent
and threats every snapshot has the same flight. -/
theorem select_evade_isFlight {refuge : Tile} {color : GhostColor}
    (hproper : distances.ToThreats board Single.IsProper)
    (h : config.select board field forecast distances source =
      .ok (.ok (.evade refuge color), later)) :
    ∃ cell cost, config.IsFlight board field forecast distances cell cost refuge color ∧
      ∀ (other : Snapshot) (otherField : Field) (otherForecast : Forecast)
        (otherSource : RandomSource) (otherCost : Single),
        other.walls = board.walls → other.agent = board.agent → other.threats = board.threats →
        config.candidate other otherField otherForecast distances = .ok (some (cell, otherCost)) →
        config.select other otherField otherForecast distances otherSource =
          .ok (.ok (.evade refuge color), otherSource) := by
  obtain ⟨-, cell, cost, hcandidate, hflight⟩ := exists_flight_of_select h
  obtain ⟨hradius, threat, best, hfirst, hagent, hcell, hbest, hgoal⟩ :=
    exists_threat_of_flight hproper.isNaN hflight
  obtain ⟨rfl, rfl⟩ := Goal.evade.inj hgoal
  have hthreats : board.threats ≠ [] := List.ne_nil_of_mem hfirst.mem
  refine ⟨cell, cost, ⟨hradius, hcandidate, ?_, ?_, ?_⟩, ?_⟩
  · intro hfield hnumber
    exact (candidate_finds hfield hnumber hcandidate).isCheapest cell cost rfl
  · exact ⟨threat, hfirst.of_isProper hproper, rfl, hagent, hcell⟩
  · exact farthest_isRefuge hproper hthreats hbest
  · intro other otherField otherForecast otherSource otherCost hwalls hagent hsame hother
    have hghosts : other.ghosts ≠ [] := by
      intro hghosts
      rw [← hsame, Snapshot.threats, hghosts] at hthreats
      exact hthreats rfl
    rw [select_eq_flight otherSource hghosts hother, flight_congr hwalls hagent hsame, hflight]
    rfl

/-- The ring with two equally near threats, a frightened ghost and one in its pen. -/
def ambush : Snapshot := { Snapshot.detour with
  ghosts := [⟨.red, ⟨1, 3⟩, false, false, none⟩, ⟨.pink, ⟨3, 1⟩, false, false, none⟩,
    ⟨.orange, ⟨1, 2⟩, true, false, none⟩, ⟨.cyan, ⟨2, 1⟩, false, true, none⟩] }

/-- The agent flees from the first of the two threats, to the first of the two tiles that are
farthest from both. -/
theorem select_evade_isFlight_ambush :
    (Distances.ofMetric .manhattan).ToThreats ambush Single.IsProper ∧
      (∃ later, nearsighted.select ambush lures .start (.ofMetric .manhattan) (.cyclic #[]) =
        .ok (.ok (.evade ⟨2, 4⟩ .red), later)) ∧
      ∃ cell cost, nearsighted.IsFlight ambush lures .start (.ofMetric .manhattan) cell cost
        ⟨2, 4⟩ .red := by
  have hcells : ambush.walls.openCells = Snapshot.detour.walls.openCells := rfl
  have hresult : (nearsighted.select ambush lures .start (.ofMetric .manhattan)
      (.cyclic #[])).map Prod.fst = .ok (.ok (.evade ⟨2, 4⟩ .red)) := by
    unfold select candidate cheapest flight farthest
    rw [toList_lures, hcells, Snapshot.openCells_detour]
    decide +kernel
  have hfaithful : (Distances.ofMetric .manhattan).Faithful ambush.walls := .ofMetric .manhattan
  have hboard : ambush.Standing := ⟨by decide, by decide⟩
  have hproper := hfaithful.toThreats hboard
  obtain ⟨⟨_, later⟩, hselect, rfl⟩ := Checked.exists_of_map_eq_ok hresult
  obtain ⟨cell, cost, hflight, -⟩ := select_evade_isFlight hproper hselect
  exact ⟨hproper, ⟨later, hselect⟩, cell, cost, hflight⟩

/-- The agent flees when the first of its nearest threats is near it and near the candidate.
Otherwise it goes to the candidate, even if another threat is near both. -/
theorem select_evade_iff (hfield : field.walls = board.walls)
    (hnumber : distances.ToThreats board (fun distance => distance.isNaN = false))
    (hghosts : board.ghosts ≠ [])
    (hcandidate : config.candidate board field forecast distances = .ok (some (cell, cost))) :
    (board.Standing → ∃ result later,
        config.select board field forecast distances source = .ok (result, later)) ∧
      ∀ result later, config.select board field forecast distances source = .ok (result, later) →
        ((∃ refuge color, result = .ok (.evade refuge color)) ↔
          0 < config.evadeRadius ∧ ∃ threat,
            board.IsFirstThreat distances Single.Precedes threat ∧
            distances.IsWithin config.evadeRadius board.agent threat.tile ∧
            distances.IsWithin config.evadeRadius cell.tile threat.tile) ∧
        ((¬ ∃ refuge color, result = .ok (.evade refuge color)) →
          result = .ok (.seek cell.tile cost)) := by
  refine ⟨?_, ?_⟩
  · intro hboard
    obtain ⟨⟨result, later⟩, hselect, -⟩ := select_succeeds hboard source
    exact ⟨result, later, hselect⟩
  · intro result later h
    rw [select_eq_flight source hghosts hcandidate, Checked.bind_eq_ok_iff] at h
    obtain ⟨found, hflight, h⟩ := h
    cases found with
    | none =>
        cases h
        refine ⟨iff_of_false (by simp) ?_, fun _ => rfl⟩
        rintro ⟨hradius, threat, hfirst, hagent, hcell⟩
        exact not_isWithin_of_flight hnumber (isDestination_of_candidate hfield hcandidate) hflight
          hradius hfirst hagent hcell
    | some goal =>
        cases h
        obtain ⟨hradius, threat, best, hfirst, hagent, hcell, -, rfl⟩ :=
          exists_threat_of_flight hnumber hflight
        have hflees : ∃ refuge color, (Except.ok (Goal.evade best.1.tile threat.color) :
            Except GoalError Goal) = .ok (.evade refuge color) := ⟨_, _, rfl⟩
        exact ⟨iff_of_true hflees ⟨hradius, threat, hfirst, hagent, hcell⟩,
          fun hnot => absurd hflees hnot⟩

/-- The ring with a threat on each side of the agent, of which the nearer one is far from the
candidate. -/
def pincer : Snapshot := { Snapshot.detour with
  ghosts := [⟨.red, ⟨3, 1⟩, false, false, none⟩, ⟨.pink, ⟨2, 3⟩, false, false, none⟩] }

theorem pincer_toThreats :
    (Distances.ofMetric .manhattan).ToThreats pincer (fun distance => distance.isNaN = false) := by
  have hfaithful : (Distances.ofMetric .manhattan).Faithful pincer.walls := .ofMetric .manhattan
  have hboard : pincer.Standing := ⟨by decide, by decide⟩
  exact (hfaithful.toThreats hboard).isNaN

theorem candidate_pincer :
    nearsighted.candidate pincer lures .start (.ofMetric .manhattan) =
      .ok (some (⟨31⟩, -6)) := by
  unfold candidate cheapest
  rw [toList_lures]
  decide +kernel

theorem exists_select_pincer :
    ∃ later, nearsighted.select pincer lures .start (.ofMetric .manhattan) (.cyclic #[]) =
      .ok (.ok (.seek ⟨1, 3⟩ (-6)), later) := by
  have hresult : (nearsighted.select pincer lures .start (.ofMetric .manhattan)
      (.cyclic #[])).map Prod.fst = .ok (.ok (.seek ⟨1, 3⟩ (-6))) := by
    have hcells : pincer.walls.openCells = Snapshot.detour.walls.openCells := rfl
    unfold select candidate cheapest flight farthest
    rw [toList_lures, hcells, Snapshot.openCells_detour]
    decide +kernel
  obtain ⟨⟨_, later⟩, hselect, rfl⟩ := Checked.exists_of_map_eq_ok hresult
  exact ⟨later, hselect⟩

/-- Between the two threats the agent does not flee. -/
theorem select_evade_iff_pincer :
    lures.walls = pincer.walls ∧
      (Distances.ofMetric .manhattan).ToThreats pincer (fun distance => distance.isNaN = false) ∧
      pincer.ghosts ≠ [] ∧
      nearsighted.candidate pincer lures .start (.ofMetric .manhattan) =
        .ok (some (⟨31⟩, -6)) ∧
      (∃ later, nearsighted.select pincer lures .start (.ofMetric .manhattan) (.cyclic #[]) =
        .ok (.ok (.seek ⟨1, 3⟩ (-6)), later)) ∧
      ¬ (0 < nearsighted.evadeRadius ∧ ∃ threat,
        pincer.IsFirstThreat (.ofMetric .manhattan) Single.Precedes threat ∧
        (Distances.ofMetric .manhattan).IsWithin nearsighted.evadeRadius pincer.agent threat.tile ∧
        (Distances.ofMetric .manhattan).IsWithin nearsighted.evadeRadius ⟨1, 3⟩ threat.tile) := by
  obtain ⟨later, hselect⟩ := exists_select_pincer
  have hghosts : pincer.ghosts ≠ [] := List.cons_ne_nil _ _
  obtain ⟨hflees, -⟩ :=
    (select_evade_iff rfl pincer_toThreats hghosts candidate_pincer).2 _ later hselect
  refine ⟨rfl, pincer_toThreats, hghosts, candidate_pincer, ⟨later, hselect⟩, fun hreason => ?_⟩
  obtain ⟨refuge, color, hgoal⟩ := hflees.mpr hreason
  cases hgoal

/-- A threat that is near the agent and near the candidate is not always a reason to flee. -/
theorem not_evade_of_any_threat :
    ¬ ∀ (config : GoalConfig) (board : Snapshot) (field : Field) (forecast : Forecast)
      (distances : Distances) (source later : RandomSource) (result : Except GoalError Goal)
      (cell : Cell) (cost : Single),
      field.walls = board.walls →
      distances.ToThreats board (fun distance => distance.isNaN = false) →
      0 < config.evadeRadius →
      config.candidate board field forecast distances = .ok (some (cell, cost)) →
      (∃ threat ∈ board.threats,
        distances.IsWithin config.evadeRadius board.agent threat.tile ∧
        distances.IsWithin config.evadeRadius cell.tile threat.tile) →
      config.select board field forecast distances source = .ok (result, later) →
      ∃ refuge color, result = .ok (.evade refuge color) := by
  intro hclaim
  obtain ⟨later, hselect⟩ := exists_select_pincer
  have hpink : ∃ threat ∈ pincer.threats,
      (Distances.ofMetric .manhattan).IsWithin nearsighted.evadeRadius pincer.agent threat.tile ∧
      (Distances.ofMetric .manhattan).IsWithin nearsighted.evadeRadius ⟨1, 3⟩ threat.tile := by
    refine ⟨⟨.pink, ⟨2, 3⟩, false, false, none⟩, by decide, ⟨3, ?_, ?_⟩, ⟨1, ?_, ?_⟩⟩ <;>
      decide +kernel
  obtain ⟨refuge, color, hgoal⟩ := hclaim nearsighted pincer lures .start (.ofMetric .manhattan)
    (.cyclic #[]) later _ _ _ rfl pincer_toThreats (by decide +kernel) candidate_pincer hpink
    hselect
  cases hgoal

end Select

end GoalConfig
end MazeAgent
