import MazeAgent.Distance.Table
import MazeAgent.Proofs.Board.Access
import MazeAgent.Proofs.Board.Walk
import MazeAgent.Proofs.Number.Whole

/-!
# What the table of distances holds

The cells that wait in the queue of the search are at two distances: first those at some
distance, then those at the next, as far as they have been reached. A turn keeps this, and after
the last cell at one distance the search goes on with the next. Every turn takes one cell off the
queue, and a cell that enters the queue was not reached before, so there are turns enough.

**Results.**
* `Maze.IsSearch.turn`, `Maze.IsSearch.next`: one more turn, and the next distance.
* `Maze.IsSearch.search`: the search ends with an empty queue.
* `Maze.toNat_lengthsFrom_iff`: what is known from one cell.
* `DistanceTable.lookup_exact`: what the table knows about two tiles.
-/

namespace MazeAgent

theorem toNat_nextLength {length : UInt16} (h : length.toNat < 65535) :
    (nextLength length).toNat = length.toNat + 1 := by
  unfold nextLength
  rw [if_neg]
  · have hone : (1 : UInt16).toNat = 1 := rfl
    rw [UInt16.toNat_add, hone]
    exact Nat.mod_eq_of_lt (by omega)
  · rintro rfl
    exact Nat.lt_irrefl _ h

namespace Maze

variable {maze : Maze} {source : Cell}

/-! ## Reaching the exits of a cell -/

section Reach

variable {length : UInt16}

theorem reach_of_unreached {lengths : Grid UInt16} {cell : Cell}
    (h : lengths.get cell = unreached) (queue : List Cell) :
    reach length (lengths, queue) cell = (lengths.set cell length, queue ++ [cell]) :=
  if_pos h

theorem reach_of_ne {lengths : Grid UInt16} {cell : Cell} (h : lengths.get cell ≠ unreached)
    (queue : List Cell) : reach length (lengths, queue) cell = (lengths, queue) :=
  if_neg h

/-- Reaching cells one after the other gives the length to those that were not reached. -/
theorem foldl_reach (hlength : length ≠ unreached) (cells : List Cell) (lengths : Grid UInt16)
    (queue : List Cell) (cell : Cell) :
    (cells.foldl (reach length) (lengths, queue)).1.get cell =
        (if lengths.get cell = unreached ∧ cell ∈ cells then length else lengths.get cell) ∧
      (cell ∈ (cells.foldl (reach length) (lengths, queue)).2 ↔
        cell ∈ queue ∨ lengths.get cell = unreached ∧ cell ∈ cells) := by
  induction cells generalizing lengths queue with
  | nil => simp
  | cons first rest ih =>
      rw [List.foldl_cons]
      by_cases hfirst : lengths.get first = unreached
      · rw [reach_of_unreached hfirst]
        obtain ⟨hget, hmem⟩ := ih (lengths.set first length) (queue ++ [first])
        rw [hget, hmem]
        by_cases heq : first = cell
        · subst heq
          simp [hlength, hfirst]
        · simp [Grid.get_set_of_ne _ heq, Ne.symm heq]
      · rw [reach_of_ne hfirst]
        obtain ⟨hget, hmem⟩ := ih lengths queue
        rw [hget, hmem]
        by_cases heq : first = cell
        · subst heq
          simp [hfirst]
        · simp [Ne.symm heq]

/-- The cells that wait already keep their places. -/
theorem foldl_reach_append (cells : List Cell) (lengths : Grid UInt16) (front back : List Cell) :
    cells.foldl (reach length) (lengths, front ++ back) =
      ((cells.foldl (reach length) (lengths, back)).1,
        front ++ (cells.foldl (reach length) (lengths, back)).2) := by
  induction cells generalizing lengths back with
  | nil => rfl
  | cons first rest ih =>
      rw [List.foldl_cons, List.foldl_cons]
      by_cases hfirst : lengths.get first = unreached
      · rw [reach_of_unreached hfirst, reach_of_unreached hfirst, List.append_assoc]
        exact ih (lengths.set first length) (back ++ [first])
      · rw [reach_of_ne hfirst, reach_of_ne hfirst]
        exact ih lengths back

/-- The number of cells that have not been reached. -/
def countUnreached (lengths : Grid UInt16) : Nat :=
  Cell.all.countP (fun cell => lengths.get cell = unreached)

theorem countUnreached_set {lengths : Grid UInt16} {cell : Cell}
    (hcell : lengths.get cell = unreached) (hlength : length ≠ unreached) :
    countUnreached (lengths.set cell length) + 1 = countUnreached lengths := by
  have hperm := List.perm_cons_erase cell.mem_all
  have hrest : (Cell.all.erase cell).countP
        (fun other => (lengths.set cell length).get other = unreached) =
      (Cell.all.erase cell).countP (fun other => lengths.get other = unreached) := by
    apply List.countP_congr
    intro other hother
    have hne := (Grid.nodup_all.mem_erase_iff.mp hother).1
    rw [Grid.get_set_of_ne _ hne.symm]
  unfold countUnreached
  rw [hperm.countP_eq, hperm.countP_eq, List.countP_cons, List.countP_cons, hrest]
  simp [hcell, hlength]

/-- A cell that is reached waits from then on, so that the two numbers change together. -/
theorem countUnreached_foldl_reach (hlength : length ≠ unreached) (cells : List Cell)
    (lengths : Grid UInt16) (queue : List Cell) :
    countUnreached (cells.foldl (reach length) (lengths, queue)).1 +
        (cells.foldl (reach length) (lengths, queue)).2.length =
      countUnreached lengths + queue.length := by
  induction cells generalizing lengths queue with
  | nil => rfl
  | cons first rest ih =>
      rw [List.foldl_cons]
      by_cases hfirst : lengths.get first = unreached
      · have hcount := countUnreached_set hfirst hlength
        rw [reach_of_unreached hfirst, ih, List.length_append, List.length_singleton]
        omega
      · rw [reach_of_ne hfirst, ih]

end Reach

/-! ## One turn -/

/-- The state of the search before a turn. Every cell up to the distance `bound` has been reached.
The cells of `front` are at this distance and wait, and behind them wait those of `back`, at the
next one. A cell at the next distance that has not been reached is an exit of one in `front`. -/
structure IsSearch (maze : Maze) (source : Cell) (bound : Nat) (lengths : Grid UInt16)
    (front back : List Cell) : Prop where
  known : ∀ cell, lengths.get cell ≠ unreached →
    maze.IsDistance source cell (lengths.get cell).toNat
  near : ∀ cell n, n ≤ bound → maze.IsDistance source cell n → lengths.get cell ≠ unreached
  far : ∀ cell n, lengths.get cell ≠ unreached → maze.IsDistance source cell n → n ≤ bound + 1
  isDistance_front : ∀ cell ∈ front, maze.IsDistance source cell bound
  mem_back : ∀ cell, cell ∈ back ↔
    lengths.get cell ≠ unreached ∧ maze.IsDistance source cell (bound + 1)
  due : ∀ cell, lengths.get cell = unreached → maze.IsDistance source cell (bound + 1) →
    ∃ other ∈ front, cell ∈ maze.exits other

variable {bound : Nat} {lengths : Grid UInt16} {cell : Cell} {front rest back : List Cell}

theorem IsSearch.start :
    IsSearch maze source 0 ((Grid.filled unreached).set source 0) [source] [] := by
  -- Only the source has been reached.
  have hget : ∀ cell, ((Grid.filled unreached).set source 0).get cell ≠ unreached ↔
      source = cell := by
    intro cell
    rw [Grid.get_set, Grid.get_filled]
    by_cases heq : source = cell
    · rw [if_pos heq]
      exact iff_of_true (by decide) heq
    · rw [if_neg heq]
      exact iff_of_false (not_not.mpr rfl) heq
  constructor
  · intro cell hcell
    obtain rfl := (hget cell).mp hcell
    rw [Grid.get_set_self]
    exact isDistance_zero_iff.mpr rfl
  · intro cell n hle hn
    obtain rfl := Nat.le_zero.mp hle
    exact (hget cell).mpr (isDistance_zero_iff.mp hn)
  · intro cell n hcell hn
    obtain rfl := (hget cell).mp hcell
    rw [hn.unique (isDistance_zero_iff.mpr rfl)]
    exact Nat.zero_le 1
  · intro cell hcell
    rw [List.mem_singleton.mp hcell]
    exact isDistance_zero_iff.mpr rfl
  · intro cell
    simp only [List.not_mem_nil, false_iff, not_and]
    intro hcell hn
    obtain rfl := (hget cell).mp hcell
    cases hn.unique (isDistance_zero_iff.mpr rfl)
  · intro cell _ hn
    obtain ⟨other, hother, hexit⟩ := hn.exists_before
    obtain rfl := isDistance_zero_iff.mp hother
    exact ⟨source, List.mem_singleton_self source, hexit⟩

theorem IsSearch.toNat_get (h : IsSearch maze source bound lengths front back) {n : Nat}
    (hcell : lengths.get cell ≠ unreached) (hn : maze.IsDistance source cell n) :
    (lengths.get cell).toNat = n :=
  (h.known cell hcell).unique hn

/-- The cell that is taken off the queue has its distance, and its exits get the next number. -/
theorem IsSearch.toNat_next (h : IsSearch maze source bound lengths (cell :: rest) back) :
    (nextLength (lengths.get cell)).toNat = bound + 1 ∧
      nextLength (lengths.get cell) ≠ unreached := by
  have hcell := h.isDistance_front cell List.mem_cons_self
  have hlt := hcell.lt
  have hget := h.toNat_get (h.near cell bound (Nat.le_refl bound) hcell) hcell
  have hnext : (nextLength (lengths.get cell)).toNat = bound + 1 := by
    rw [toNat_nextLength (by omega), hget]
  refine ⟨hnext, ?_⟩
  intro heq
  rw [heq] at hnext
  change 65535 = bound + 1 at hnext
  omega

/-- An exit that had not been reached is at the next distance. -/
theorem IsSearch.isDistance_exit (h : IsSearch maze source bound lengths (cell :: rest) back)
    {exit : Cell} (hexit : exit ∈ maze.exits cell) (hnew : lengths.get exit = unreached) :
    maze.IsDistance source exit (bound + 1) := by
  refine isDistance_succ_iff.mpr ⟨⟨cell, h.isDistance_front cell List.mem_cons_self, hexit⟩, ?_⟩
  intro m hle hm
  exact h.near exit m hle hm hnew

/-- A turn reaches the exits of the first cell that waits. -/
theorem IsSearch.turn (h : IsSearch maze source bound lengths (cell :: rest) back) :
    IsSearch maze source bound
      ((maze.exits cell).foldl (reach (nextLength (lengths.get cell))) (lengths, back)).1 rest
      ((maze.exits cell).foldl (reach (nextLength (lengths.get cell))) (lengths, back)).2 := by
  obtain ⟨hnext, hne⟩ := h.toNat_next
  have hget := fun other => (foldl_reach hne (maze.exits cell) lengths back other).1
  have hmem := fun other => (foldl_reach hne (maze.exits cell) lengths back other).2
  set lengths' := ((maze.exits cell).foldl (reach (nextLength (lengths.get cell)))
    (lengths, back)).1
  -- A cell that is reached after the turn was reached before, or it is a new exit.
  have hreached : ∀ other, lengths'.get other ≠ unreached ↔
      lengths.get other ≠ unreached ∨ lengths.get other = unreached ∧ other ∈ maze.exits cell := by
    intro other
    rw [hget]
    by_cases hother : lengths.get other = unreached ∧ other ∈ maze.exits cell
    · rw [if_pos hother]
      exact iff_of_true hne (Or.inr hother)
    · rw [if_neg hother, or_iff_left hother]
  constructor
  · intro other hother
    rw [hget]
    rcases (hreached other).mp hother with hold | hnew
    · rw [if_neg (fun hnew => hold hnew.1)]
      exact h.known other hold
    · rw [if_pos hnew, hnext]
      exact h.isDistance_exit hnew.2 hnew.1
  · intro other n hle hn
    exact (hreached other).mpr (Or.inl (h.near other n hle hn))
  · intro other n hother hn
    rcases (hreached other).mp hother with hold | hnew
    · exact h.far other n hold hn
    · rw [hn.unique (h.isDistance_exit hnew.2 hnew.1)]
  · intro other hother
    exact h.isDistance_front other (List.mem_cons_of_mem cell hother)
  · intro other
    rw [hmem, h.mem_back, hreached]
    constructor
    · rintro (⟨hold, hn⟩ | hnew)
      · exact ⟨Or.inl hold, hn⟩
      · exact ⟨Or.inr hnew, h.isDistance_exit hnew.2 hnew.1⟩
    · rintro ⟨hold | hnew, hn⟩
      · exact Or.inl ⟨hold, hn⟩
      · exact Or.inr hnew
  · intro other hother hn
    have hneither := (hreached other).not.mp (not_not.mpr hother)
    rw [not_or, not_not] at hneither
    obtain ⟨hnew, hexit⟩ := hneither
    obtain ⟨last, hlast, hlater⟩ := h.due other hnew hn
    rcases List.mem_cons.mp hlast with rfl | hlast
    · exact absurd ⟨hnew, hlater⟩ hexit
    · exact ⟨last, hlast, hlater⟩

/-- When all cells at one distance have had their turn, those at the next are known. -/
theorem IsSearch.next (h : IsSearch maze source bound lengths [] back) :
    IsSearch maze source (bound + 1) lengths back [] := by
  have hnear : ∀ other, maze.IsDistance source other (bound + 1) →
      lengths.get other ≠ unreached := by
    intro other hn hnew
    obtain ⟨last, hlast, -⟩ := h.due other hnew hn
    exact List.not_mem_nil hlast
  constructor
  · exact h.known
  · intro other n hle hn
    rcases Nat.le_succ_iff.mp hle with hle | rfl
    · exact h.near other n hle hn
    · exact hnear other hn
  · intro other n hother hn
    exact Nat.le_succ_of_le (h.far other n hother hn)
  · intro other hother
    exact ((h.mem_back other).mp hother).2
  · intro other
    simp only [List.not_mem_nil, false_iff, not_and]
    intro hother hn
    have hle := h.far other _ hother hn
    omega
  · intro other _ hn
    obtain ⟨last, hlast, hexit⟩ := hn.exists_before
    exact ⟨last, (h.mem_back last).mpr ⟨hnear last hlast, hlast⟩, hexit⟩

/-- Once no cell waits, every cell that a walk leads to has been reached. -/
theorem IsSearch.get_eq_unreached_iff (h : IsSearch maze source bound lengths [] []) (cell : Cell) :
    lengths.get cell = unreached ↔ ¬ maze.Connected source cell := by
  constructor
  · intro hget hconnected
    obtain ⟨n, hn⟩ := hconnected.exists_isDistance
    -- Nothing is at the next distance, so nothing is farther either.
    have hle : n ≤ bound := by
      by_contra hlt
      obtain ⟨other, hother⟩ := hn.exists_of_le (m := bound + 1) (by omega)
      by_cases hnew : lengths.get other = unreached
      · obtain ⟨last, hlast, -⟩ := h.due other hnew hother
        exact List.not_mem_nil hlast
      · exact List.not_mem_nil ((h.mem_back other).mpr ⟨hnew, hother⟩)
    exact h.near cell n hle hn hget
  · intro hapart
    by_contra hget
    exact hapart (h.known cell hget).connected

/-! ## The whole search -/

/-- While a cell waits, the first one is at the smaller of the two distances. -/
theorem IsSearch.exists_front (h : IsSearch maze source bound lengths front back) :
    (front = [] ∧ back = []) ∨
      ∃ nearest cell rest later, front ++ back = cell :: (rest ++ later) ∧
        IsSearch maze source nearest lengths (cell :: rest) later := by
  cases front with
  | cons cell rest => exact Or.inr ⟨bound, cell, rest, back, rfl, h⟩
  | nil =>
      cases back with
      | nil => exact Or.inl ⟨rfl, rfl⟩
      | cons cell rest => exact Or.inr ⟨bound + 1, cell, rest, [], by simp, h.next⟩

/-- With a turn for every cell that waits or has not been reached the search ends when no cell
waits any more. -/
theorem IsSearch.search {turns : Nat} (h : IsSearch maze source bound lengths front back)
    (hturns : countUnreached lengths + (front ++ back).length ≤ turns) :
    ∃ last, IsSearch maze source last (maze.search turns lengths (front ++ back)) [] [] := by
  induction turns generalizing bound lengths front back with
  | zero =>
      obtain ⟨rfl, rfl⟩ := List.append_eq_nil_iff.mp
        (List.length_eq_zero_iff.mp (Nat.le_zero.mp ((Nat.le_add_left _ _).trans hturns)))
      exact ⟨bound, h⟩
  | succ turns ih =>
      rcases h.exists_front with ⟨rfl, rfl⟩ | ⟨nearest, cell, rest, later, hqueue, hfront⟩
      · exact ⟨bound, h⟩
      · have hcount := countUnreached_foldl_reach hfront.toNat_next.2 (maze.exits cell) lengths
          (rest ++ later)
        rw [foldl_reach_append] at hcount
        rw [hqueue, List.length_cons] at hturns
        rw [hqueue, Maze.search, foldl_reach_append]
        exact ih hfront.turn (by dsimp only at hcount; omega)

theorem lengthsFrom_isSearch (maze : Maze) (source : Cell) :
    ∃ last, IsSearch maze source last (maze.lengthsFrom source) [] [] := by
  apply IsSearch.start.search
  have hfilled : countUnreached (Grid.filled unreached) = 868 := by
    have hall : Cell.all.countP (fun cell => (Grid.filled unreached).get cell = unreached) =
        Cell.all.length := by
      rw [List.countP_eq_length]
      simp
    rw [countUnreached, hall, Cell.all, List.length_map, List.length_finRange]
  have hcount := countUnreached_set (Grid.get_filled unreached source)
    (show (0 : UInt16) ≠ unreached by decide)
  rw [hfilled] at hcount
  exact hcount.le

/-- From a cell exactly the distances are known. -/
theorem toNat_lengthsFrom_iff {n : Nat} (hn : n < 868) :
    ((maze.lengthsFrom source).get cell).toNat = n ↔ maze.IsDistance source cell n := by
  obtain ⟨last, h⟩ := maze.lengthsFrom_isSearch source
  constructor
  · rintro rfl
    apply h.known
    intro hget
    rw [hget] at hn
    exact absurd hn (by decide)
  · intro hdistance
    refine h.toNat_get ?_ hdistance
    exact (h.get_eq_unreached_iff cell).not.mpr (not_not.mpr hdistance.connected)

/-- The marker stands for the cells that no walk leads to, and for no others. -/
theorem lengthsFrom_eq_unreached_iff :
    (maze.lengthsFrom source).get cell = unreached ↔ ¬ maze.Connected source cell := by
  obtain ⟨last, h⟩ := maze.lengthsFrom_isSearch source
  exact h.get_eq_unreached_iff cell

end Maze

/-! ## Looking up two tiles -/

namespace DistanceTable

theorem rows_ofMaze (maze : Maze) (cell : Cell) :
    (ofMaze maze).rows.get cell =
      if maze.isOpen cell then some (maze.lengthsFrom cell) else none := by
  rw [ofMaze, Grid.get_ofFn]

theorem length?_eq_some_iff {maze : Maze} {source target : Cell} {length : UInt16} :
    (ofMaze maze).length? source target = some length ↔
      maze.isOpen source = true ∧ maze.IsDistance source target length.toNat := by
  unfold length?
  rw [rows_ofMaze]
  by_cases hopen : maze.isOpen source = true
  · rw [if_pos hopen]
    dsimp only
    split
    · next hget =>
      have hfar := Maze.lengthsFrom_eq_unreached_iff.mp hget
      constructor
      · intro h
        cases h
      · rintro ⟨-, hdistance⟩
        exact absurd hdistance.connected hfar
    · next hget =>
      rw [Option.some.injEq]
      constructor
      · rintro rfl
        have hconnected := not_not.mp (Maze.lengthsFrom_eq_unreached_iff.not.mp hget)
        obtain ⟨n, hn⟩ := hconnected.exists_isDistance
        rw [(Maze.toNat_lengthsFrom_iff hn.lt).mpr hn]
        exact ⟨hopen, hn⟩
      · rintro ⟨-, hdistance⟩
        exact UInt16.toNat_inj.mp ((Maze.toNat_lengthsFrom_iff hdistance.lt).mpr hdistance)
  · rw [if_neg hopen]
    simp [hopen]

theorem size_ofMaze (maze : Maze) : (ofMaze maze).size = maze.openCells.length := by
  unfold size Maze.openCells
  rw [← List.countP_eq_length_filter]
  apply List.countP_congr
  intro cell _
  rw [rows_ofMaze]
  split <;> simp [*]

section Lookup

variable {board : Snapshot} {source target : Tile}

theorem lookup_eq_some_iff {distance : Single} :
    (ofMaze board.walls).lookup source target = some distance ↔
      board.isWalkable source = true ∧ board.isWalkable target = true ∧
        ∃ length < 868, board.IsDistance source target length ∧ distance = Single.ofNat length := by
  constructor
  · intro h
    unfold lookup at h
    split at h
    · next a b ha hb =>
      obtain rfl := Tile.cell?_eq_some.mp ha
      obtain rfl := Tile.cell?_eq_some.mp hb
      obtain ⟨length, hlength, rfl⟩ := Option.map_eq_some_iff.mp h
      obtain ⟨hopen, hdistance⟩ := length?_eq_some_iff.mp hlength
      refine ⟨?_, ?_, length.toNat, hdistance.lt, ?_, rfl⟩
      · rw [Snapshot.isWalkable_tile, hopen]
      · rw [Snapshot.isWalkable_tile]
        exact hdistance.1.isOpen hopen
      · exact Snapshot.isDistance_tile_iff.mpr hdistance
    · cases h
  · rintro ⟨hsource, htarget, length, hlt, hdistance, rfl⟩
    obtain ⟨a, rfl, ha⟩ := Snapshot.isWalkable_iff.mp hsource
    obtain ⟨b, rfl, hb⟩ := Snapshot.isWalkable_iff.mp htarget
    rw [Snapshot.isDistance_tile_iff] at hdistance
    have hvalue : (UInt16.ofNat length).toNat = length := Nat.mod_eq_of_lt (by omega)
    have hlength : (ofMaze board.walls).length? a b = some (UInt16.ofNat length) :=
      length?_eq_some_iff.mpr ⟨ha, by rw [hvalue]; exact hdistance⟩
    unfold lookup
    rw [Tile.cell?_tile, Tile.cell?_tile]
    dsimp only
    rw [hlength, Option.map_some, hvalue]

theorem exists_length (hsource : board.isWalkable source = true)
    (htarget : board.isWalkable target = true) (h : board.Connected source target) :
    ∃ length < 868, board.IsDistance source target length := by
  obtain ⟨a, rfl, -⟩ := Snapshot.isWalkable_iff.mp hsource
  obtain ⟨b, rfl, -⟩ := Snapshot.isWalkable_iff.mp htarget
  obtain ⟨length, hdistance⟩ := (Snapshot.connected_tile_iff.mp h).exists_isDistance
  exact ⟨length, hdistance.lt, Snapshot.isDistance_tile_iff.mpr hdistance⟩

/-- The table knows the distance of two tiles exactly when both can be entered and a walk joins
them, and then it is the length of a shortest one. Every length is smaller than the board, so none
is taken for the marker, which stands for the cells that no walk leads to. There is a row for every
open cell and for no other. -/
theorem lookup_exact (board : Snapshot) :
    (∀ source target, ∀ length < 868,
      (ofMaze board.walls).lookup source target = some (Single.ofNat length) ↔
        board.isWalkable source = true ∧ board.isWalkable target = true ∧
          board.IsDistance source target length) ∧
    (∀ source target, (ofMaze board.walls).lookup source target = none ↔
      ¬ (board.isWalkable source = true ∧ board.isWalkable target = true ∧
        board.Connected source target)) ∧
    (∀ source target length, board.isWalkable source = true →
      board.IsDistance source target length → length < 868) ∧
    (∀ source target, (board.walls.lengthsFrom source).get target = unreached ↔
      ¬ board.walls.Connected source target) ∧
    (∀ cell, ((ofMaze board.walls).rows.get cell).isSome = board.walls.isOpen cell) ∧
    (ofMaze board.walls).size = board.walls.openCells.length := by
  refine ⟨?_, ?_, ?_, ?_, ?_, size_ofMaze board.walls⟩
  · intro source target length hlength
    rw [lookup_eq_some_iff]
    constructor
    · rintro ⟨hsource, htarget, other, hother, hdistance, hsame⟩
      rw [Single.ofNat_inj hlength.le hother.le hsame]
      exact ⟨hsource, htarget, hdistance⟩
    · rintro ⟨hsource, htarget, hdistance⟩
      exact ⟨hsource, htarget, length, hlength, hdistance, rfl⟩
  · intro source target
    constructor
    · rintro hnone ⟨hsource, htarget, hconnected⟩
      obtain ⟨length, hlt, hdistance⟩ := exists_length hsource htarget hconnected
      rw [lookup_eq_some_iff.mpr ⟨hsource, htarget, length, hlt, hdistance, rfl⟩] at hnone
      cases hnone
    · intro hapart
      rw [Option.eq_none_iff_forall_ne_some]
      intro distance hsome
      obtain ⟨hsource, htarget, length, -, hdistance, -⟩ := lookup_eq_some_iff.mp hsome
      exact hapart ⟨hsource, htarget, hdistance.1.connected⟩
  · intro source target length hsource hdistance
    obtain ⟨a, rfl, -⟩ := Snapshot.isWalkable_iff.mp hsource
    obtain ⟨b, rfl, -⟩ := hdistance.1.exists_cell
    exact (Snapshot.isDistance_tile_iff.mp hdistance).lt
  · intro source target
    exact Maze.lengthsFrom_eq_unreached_iff
  · intro cell
    rw [rows_ofMaze]
    split <;> simp [*]

end Lookup

end DistanceTable
end MazeAgent
