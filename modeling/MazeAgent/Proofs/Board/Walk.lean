import MazeAgent.Proofs.Board.Adjacency

/-!
# Shortest walks

A cell at some distance from another one has a neighbour on every shorter distance before it. So
the cells on a shortest walk are all different, and no distance is as large as the board.

**Results.**
* `Maze.isDistance_succ_iff`: the cells at a distance are the exits of those at the distance
  before that are not nearer.
* `Maze.IsDistance.lt`: a bound on all distances.
* `Maze.Walk.symm`, `Maze.IsDistance.symm`: a walk from an open cell leads back too.
* `Maze.Joined`: two open cells with a walk between them.
* `Snapshot.isDistance_tile_iff`: distances of tiles and of cells.
-/

namespace MazeAgent
namespace Maze

variable {maze : Maze} {a b c : Cell} {m n : Nat}

theorem walk_zero_iff : maze.Walk 0 a b ↔ a = b := by
  constructor
  · intro h
    cases h
    rfl
  · rintro rfl
    exact .stay a

theorem walk_succ_iff : maze.Walk (n + 1) a c ↔ ∃ b, maze.Walk n a b ∧ c ∈ maze.exits b := by
  constructor
  · intro h
    cases h with
    | step hwalk hexit => exact ⟨_, hwalk, hexit⟩
  · rintro ⟨b, hwalk, hexit⟩
    exact hwalk.step hexit

theorem Walk.isOpen (h : maze.Walk n a b) (hopen : maze.isOpen a = true) :
    maze.isOpen b = true := by
  cases h with
  | stay => exact hopen
  | step _ hexit => exact isOpen_of_mem_exits hexit

theorem isDistance_zero_iff : maze.IsDistance a b 0 ↔ a = b := by
  rw [IsDistance, walk_zero_iff]
  simp

theorem IsDistance.unique (hm : maze.IsDistance a b m) (hn : maze.IsDistance a b n) : m = n :=
  Nat.le_antisymm (hm.2 n hn.1) (hn.2 m hm.1)

theorem IsDistance.connected (h : maze.IsDistance a b n) : maze.Connected a b := ⟨n, h.1⟩

/-- A walk is at least as long as a distance. -/
theorem Walk.exists_isDistance (h : maze.Walk n a b) : ∃ m ≤ n, maze.IsDistance a b m := by
  induction n using Nat.strong_induction_on with
  | _ n ih =>
      by_cases hshorter : ∃ m < n, maze.Walk m a b
      · obtain ⟨m, hlt, hwalk⟩ := hshorter
        obtain ⟨least, hle, hleast⟩ := ih m hlt hwalk
        exact ⟨least, hle.trans hlt.le, hleast⟩
      · refine ⟨n, Nat.le_refl n, h, ?_⟩
        intro m hwalk
        by_contra hlt
        exact hshorter ⟨m, Nat.lt_of_not_le hlt, hwalk⟩

theorem Connected.exists_isDistance (h : maze.Connected a b) : ∃ n, maze.IsDistance a b n := by
  obtain ⟨length, hwalk⟩ := h
  obtain ⟨n, -, hdistance⟩ := hwalk.exists_isDistance
  exact ⟨n, hdistance⟩

/-- A cell at a distance is an exit of one at the distance before. -/
theorem IsDistance.exists_before (h : maze.IsDistance a c (n + 1)) :
    ∃ b, maze.IsDistance a b n ∧ c ∈ maze.exits b := by
  obtain ⟨b, hwalk, hexit⟩ := walk_succ_iff.mp h.1
  refine ⟨b, ⟨hwalk, ?_⟩, hexit⟩
  intro m hother
  have hle := h.2 (m + 1) (hother.step hexit)
  omega

theorem isDistance_succ_iff :
    maze.IsDistance a c (n + 1) ↔
      (∃ b, maze.IsDistance a b n ∧ c ∈ maze.exits b) ∧ ∀ m ≤ n, ¬ maze.IsDistance a c m := by
  constructor
  · intro h
    refine ⟨h.exists_before, ?_⟩
    intro m hle hm
    have heq := hm.unique h
    omega
  · rintro ⟨⟨b, hb, hexit⟩, hfar⟩
    refine ⟨hb.1.step hexit, ?_⟩
    intro m hwalk
    obtain ⟨least, hle, hleast⟩ := hwalk.exists_isDistance
    by_contra hlt
    exact hfar least (by omega) hleast

/-- There is a cell at every shorter distance. -/
theorem IsDistance.exists_of_le (h : maze.IsDistance a b n) (hle : m ≤ n) :
    ∃ c, maze.IsDistance a c m := by
  induction n generalizing b with
  | zero =>
      obtain rfl := Nat.le_zero.mp hle
      exact ⟨b, h⟩
  | succ n ih =>
      rcases Nat.le_succ_iff.mp hle with hle | rfl
      · obtain ⟨c, hc, -⟩ := h.exists_before
        exact ih hc hle
      · exact ⟨b, h⟩

/-- On a shortest walk there is one cell at every distance. -/
theorem IsDistance.exists_path (h : maze.IsDistance a b n) :
    ∃ path : List Cell, path.length = n + 1 ∧ path.Nodup ∧
      ∀ cell ∈ path, ∃ m ≤ n, maze.IsDistance a cell m := by
  induction n generalizing b with
  | zero =>
      refine ⟨[b], rfl, List.nodup_singleton b, ?_⟩
      intro cell hcell
      obtain rfl := List.mem_singleton.mp hcell
      exact ⟨0, Nat.le_refl 0, h⟩
  | succ n ih =>
      obtain ⟨c, hc, -⟩ := h.exists_before
      obtain ⟨path, hlength, hnodup, hpath⟩ := ih hc
      refine ⟨b :: path, by rw [List.length_cons, hlength], ?_, ?_⟩
      · refine List.nodup_cons.mpr ⟨?_, hnodup⟩
        -- All cells before the last one are nearer.
        intro hmem
        obtain ⟨m, hle, hm⟩ := hpath b hmem
        have heq := hm.unique h
        omega
      · intro cell hcell
        rcases List.mem_cons.mp hcell with rfl | hcell
        · exact ⟨n + 1, Nat.le_refl _, h⟩
        · obtain ⟨m, hle, hm⟩ := hpath cell hcell
          exact ⟨m, Nat.le_succ_of_le hle, hm⟩

/-- No distance is as large as the board. -/
theorem IsDistance.lt (h : maze.IsDistance a b n) : n < 868 := by
  obtain ⟨path, hlength, hnodup, -⟩ := h.exists_path
  have hle := (hnodup.subperm (fun cell _ => cell.mem_all)).length_le
  rw [hlength, Cell.all, List.length_map, List.length_finRange] at hle
  exact hle

/-! ## Walking back -/

theorem mem_exits_symm (h : b ∈ maze.exits a) (hopen : maze.isOpen a = true) :
    a ∈ maze.exits b := by
  obtain ⟨⟨direction, hstep⟩, -⟩ := mem_exits_iff.mp h
  obtain ⟨hrow, hcol⟩ := Cell.step?_eq_some_iff.mp hstep
  have hoffset := direction.offset_natAbs
  obtain ⟨back, hbackRow, hbackCol⟩ := Direction.exists_offset
    (-direction.rowOffset.toInt) (-direction.colOffset.toInt) (by omega)
  exact mem_exits_iff.mpr ⟨⟨back, Cell.step?_eq_some_iff.mpr ⟨by omega, by omega⟩⟩, hopen⟩

/-- A walk can be given a first step. -/
theorem Walk.cons (h : b ∈ maze.exits a) (hwalk : maze.Walk n b c) : maze.Walk (n + 1) a c := by
  induction hwalk with
  | stay => exact (Walk.stay a).step h
  | step _ hexit ih => exact (ih h).step hexit

theorem Walk.symm (h : maze.Walk n a b) (hopen : maze.isOpen a = true) : maze.Walk n b a := by
  induction h with
  | stay => exact .stay _
  | step hwalk hexit ih => exact (ih hopen).cons (mem_exits_symm hexit (hwalk.isOpen hopen))

theorem Connected.isOpen (h : maze.Connected a b) (hopen : maze.isOpen a = true) :
    maze.isOpen b = true := by
  obtain ⟨length, hwalk⟩ := h
  exact hwalk.isOpen hopen

theorem Connected.symm (h : maze.Connected a b) (hopen : maze.isOpen a = true) :
    maze.Connected b a := by
  obtain ⟨length, hwalk⟩ := h
  exact ⟨length, hwalk.symm hopen⟩

theorem IsDistance.symm (h : maze.IsDistance a b n) (hopen : maze.isOpen a = true) :
    maze.IsDistance b a n := by
  refine ⟨h.1.symm hopen, ?_⟩
  intro other hback
  exact h.2 other (hback.symm (h.1.isOpen hopen))

theorem Connected.trans (hab : maze.Connected a b) (hbc : maze.Connected b c) :
    maze.Connected a c := by
  rw [connected_iff] at *
  exact hab.trans hbc

/-- The first cell is open and some walk leads from it to the second one, which is then open
too. -/
def Joined (maze : Maze) (a b : Cell) : Prop := maze.isOpen a = true ∧ maze.Connected a b

theorem Joined.symm (h : maze.Joined a b) : maze.Joined b a :=
  ⟨h.2.isOpen h.1, h.2.symm h.1⟩

end Maze

/-! ## Walks of tiles -/

namespace Snapshot

variable {board : Snapshot} {a b : Cell} {n : Nat}

/-- There is a walk of the given length from the first tile to the second over tiles that can be
entered. -/
inductive Walk (board : Snapshot) : Nat → Tile → Tile → Prop where
  | stay (tile : Tile) : Walk board 0 tile tile
  | step {length : Nat} {first last next : Tile} :
      Walk board length first last → board.IsNeighbor last next → Walk board (length + 1) first next

/-- The shortest walk from the first tile to the second has the given length. -/
def IsDistance (board : Snapshot) (first last : Tile) (length : Nat) : Prop :=
  board.Walk length first last ∧ ∀ other, board.Walk other first last → length ≤ other

theorem Walk.connected {first last : Tile} (h : board.Walk n first last) :
    board.Connected first last := by
  induction h with
  | stay => exact .refl
  | step _ hneighbor ih => exact ih.tail hneighbor

/-- A walk that starts on the board stays there. -/
theorem Walk.exists_cell {tile : Tile} (h : board.Walk n a.tile tile) :
    ∃ cell, tile = cell.tile ∧ board.walls.Walk n a cell := by
  generalize hfirst : a.tile = first at h
  induction h with
  | stay first => exact ⟨a, hfirst.symm, .stay a⟩
  | step _ hneighbor ih =>
      obtain ⟨cell, rfl, hwalk⟩ := ih hfirst
      obtain ⟨exit, hexit, rfl⟩ := isNeighbor_tile_iff.mp hneighbor
      exact ⟨exit, rfl, hwalk.step hexit⟩

theorem walk_tile_iff : board.Walk n a.tile b.tile ↔ board.walls.Walk n a b := by
  constructor
  · intro h
    obtain ⟨cell, htile, hwalk⟩ := h.exists_cell
    rw [Tile.tile_injective htile]
    exact hwalk
  · intro h
    induction h with
    | stay cell => exact .stay cell.tile
    | step _ hexit ih => exact ih.step (isNeighbor_tile_iff.mpr ⟨_, hexit, rfl⟩)

theorem isDistance_tile_iff : board.IsDistance a.tile b.tile n ↔ board.walls.IsDistance a b n := by
  simp only [IsDistance, Maze.IsDistance, walk_tile_iff]

end Snapshot
end MazeAgent
