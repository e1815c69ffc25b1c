import MazeAgent.Proofs.Route.Invariant

/-!
# Routes are paths

A route that a search finds is read off the parents, from the goal back to the source. Since the
known steps strictly drop along the parents, the reading ends at the source, and no cell occurs
twice in it.

**Results.**
* `Search.run_isPath`: what a valid search returns is a path.
* `Snapshot.isRoute_of_route_ne_nil`: a route between two tiles, if there is one, is connected,
  walkable and without repetition.
-/

namespace MazeAgent

/-- A walk of open cells from a source, which is left out, to a goal. No cell occurs twice. -/
structure Maze.IsPath (maze : Maze) (source goal : Cell) (path : List Cell) : Prop where
  getLast?_eq : path.getLast? = some goal
  isChain : (source :: path).IsChain (fun cell next => next ∈ maze.exits cell)
  nodup : (source :: path).Nodup

/-- A chain of exits enters open cells only. -/
theorem Maze.isOpen_of_isChain {maze : Maze} {path : List Cell} :
    ∀ source : Cell, (source :: path).IsChain (fun cell next => next ∈ maze.exits cell) →
      ∀ cell ∈ path, maze.isOpen cell = true := by
  induction path with
  | nil => simp
  | cons first rest ih =>
      intro source hchain cell hcell
      obtain ⟨hfirst, hrest⟩ := List.isChain_cons_cons.mp hchain
      rcases List.mem_cons.mp hcell with rfl | hcell
      · exact isOpen_of_mem_exits hfirst
      · exact ih first hrest cell hcell

theorem Maze.IsPath.ne_nil {maze : Maze} {source goal : Cell} {path : List Cell}
    (h : maze.IsPath source goal path) : path ≠ [] := by
  rintro rfl
  cases h.getLast?_eq

/-- A path connects its source to its goal. -/
theorem Maze.IsPath.connected {maze : Maze} {source goal : Cell} {path : List Cell}
    (h : maze.IsPath source goal path) : maze.Connected source goal := by
  rw [connected_iff]
  apply List.relationReflTransGen_of_exists_isChain_cons path h.isChain
  have hlast : (source :: path).getLast? = some goal := by
    rw [List.getLast?_cons, h.getLast?_eq, Option.getD_some]
  rw [List.getLast?_eq_some_getLast (List.cons_ne_nil _ _)] at hlast
  exact Option.some.inj hlast

namespace Search

variable {maze : Maze} {estimate : Cell → Single} {source goal : Cell} {search : Search}

/-! ## Reading the parents -/

/-- One cell is an exit of another and known to be farther from the source. -/
def Leads (maze : Maze) (best : Grid (Option Nat)) (cell next : Cell) : Prop :=
  next ∈ maze.exits cell ∧ (best.get cell).getD 0 < (best.get next).getD 0

/-- Along a chain of cells that lead to each other no cell comes back. -/
theorem nodup_of_leads {best : Grid (Option Nat)} {cells : List Cell}
    (h : cells.IsChain (Leads maze best)) : cells.Nodup := by
  have hsteps : (cells.map (fun cell => (best.get cell).getD 0)).IsChain (· < ·) :=
    List.isChain_map_of_isChain _ (fun _ _ hleads => hleads.2) h
  have hpairwise := List.pairwise_map.mp hsteps.pairwise
  apply List.nodup_iff_pairwise_ne.mpr
  apply hpairwise.imp
  rintro a b hlt rfl
  exact Nat.lt_irrefl _ hlt

theorem Sound.leads_parent (h : Sound maze source search) {cell : Cell} {steps : Nat}
    (hcell : cell ≠ source) (hsteps : search.best.get cell = some steps) :
    ∃ earlier known, search.parent.get cell = some earlier ∧
      search.best.get earlier = some known ∧ known < steps ∧
      Leads maze search.best earlier cell := by
  obtain ⟨earlier, known, hparent, hexit, hknown, hlt⟩ := h.parent cell steps hcell hsteps
  refine ⟨earlier, known, hparent, hknown, hlt, hexit, ?_⟩
  rw [hknown, hsteps]
  exact hlt

/-- Reading the parents from a cell on prolongs the known end of the route back to the source.
The steps of the cell bound how long that takes. -/
theorem Sound.trace (h : Sound maze source search) (fuel : Nat) :
    ∀ (cell : Cell) (steps : Nat) (done : List Cell), cell ≠ source →
      search.best.get cell = some steps → steps ≤ fuel →
      (cell :: done).IsChain (Leads maze search.best) →
      (source :: Search.trace search.parent source fuel cell (cell :: done)).IsChain
          (Leads maze search.best) ∧
        (Search.trace search.parent source fuel cell (cell :: done)).getLast? =
          (cell :: done).getLast? := by
  induction fuel with
  | zero =>
      -- Only the source is no steps away.
      intro cell steps done hcell hsteps hfuel _
      obtain ⟨_, known, _, _, hlt, _⟩ := h.leads_parent hcell hsteps
      omega
  | succ fuel ih =>
      intro cell steps done hcell hsteps hfuel hchain
      obtain ⟨earlier, known, hparent, hknown, hlt, hleads⟩ := h.leads_parent hcell hsteps
      unfold Search.trace
      rw [hparent]
      dsimp only
      split
      · next hsource =>
        subst hsource
        exact ⟨List.isChain_cons_cons.mpr ⟨hleads, hchain⟩, rfl⟩
      · next hsource =>
        obtain ⟨hrest, hlast⟩ := ih earlier known (cell :: done) hsource hknown (by omega)
          (List.isChain_cons_cons.mpr ⟨hleads, hchain⟩)
        exact ⟨hrest, by rw [hlast, List.getLast?_cons_cons]⟩

theorem length_openCells_le (maze : Maze) : maze.openCells.length ≤ 868 := by
  have hall : Cell.all.length = 868 := by
    unfold Cell.all
    rw [List.length_map, List.length_finRange]
  rw [← hall]
  exact List.length_filter_le _ _

/-- What is read off the parents of a known goal is a path. -/
theorem Sound.trace_isPath (h : Sound maze source search) {steps : Nat} (hgoal : goal ≠ source)
    (hsteps : search.best.get goal = some steps) :
    maze.IsPath source goal (Search.trace search.parent source 868 goal [goal]) := by
  have hfuel : steps ≤ 868 := by
    have hlt := h.lt_length hsteps
    have hle := length_openCells_le maze
    omega
  obtain ⟨hchain, hlast⟩ := h.trace 868 goal steps [] hgoal hsteps hfuel (List.isChain_singleton _)
  exact ⟨hlast, hchain.imp (fun _ _ hleads => hleads.1), nodup_of_leads hchain⟩

/-! ## Running the search -/

variable {entry : Entry} {rest : Frontier} {budget : Nat}

theorem run_of_nil (h : search.fresh = []) :
    run maze estimate source goal budget search = [] := by
  unfold fresh at h
  unfold run
  rw [h]

theorem run_of_goal (h : search.fresh = entry :: rest) (hgoal : entry.cell = goal) :
    run maze estimate source goal budget search =
      trace search.parent source 868 goal [goal] := by
  unfold fresh at h
  unfold run
  rw [h]
  dsimp only
  rw [if_pos hgoal]

theorem run_zero (h : search.fresh = entry :: rest) (hgoal : entry.cell ≠ goal) :
    run maze estimate source goal 0 search = [] := by
  unfold fresh at h
  unfold run
  rw [h]
  dsimp only
  rw [if_neg hgoal]

theorem run_succ (h : search.fresh = entry :: rest) (hgoal : entry.cell ≠ goal) :
    run maze estimate source goal (budget + 1) search =
      run maze estimate source goal budget (search.expand maze estimate entry rest) := by
  unfold fresh at h
  rw [run, h]
  dsimp only
  rw [if_neg hgoal]

/-- When the first fresh entry is one of the goal, the parents tell a path. -/
theorem Valid.trace_isPath (h : Valid maze source goal search) (hne : goal ≠ source)
    (hfresh : search.fresh = entry :: rest) (hgoal : entry.cell = goal) :
    maze.IsPath source goal (trace search.parent source 868 goal [goal]) :=
  h.sound.trace_isPath hne (hgoal ▸ h.sound.best_of_fresh hfresh)

/-- A valid search returns a path to its goal, if it returns anything. -/
theorem run_isPath (hgoal : goal ≠ source) (budget : Nat) :
    ∀ search : Search, Valid maze source goal search →
      run maze estimate source goal budget search = [] ∨
        maze.IsPath source goal (run maze estimate source goal budget search) := by
  induction budget with
  | zero =>
      intro search hvalid
      cases hfresh : search.fresh with
      | nil => exact Or.inl (run_of_nil hfresh)
      | cons entry rest =>
          by_cases hfound : entry.cell = goal
          · right
            rw [run_of_goal hfresh hfound]
            exact hvalid.trace_isPath hgoal hfresh hfound
          · exact Or.inl (run_zero hfresh hfound)
  | succ budget ih =>
      intro search hvalid
      cases hfresh : search.fresh with
      | nil => exact Or.inl (run_of_nil hfresh)
      | cons entry rest =>
          by_cases hfound : entry.cell = goal
          · right
            rw [run_of_goal hfresh hfound]
            exact hvalid.trace_isPath hgoal hfresh hfound
          · rw [run_succ hfresh hfound]
            exact ih _ (hvalid.expand hfresh hfound)

end Search

/-! ## Routes between tiles -/

/-- The route of a maze between two cells is empty or a path. -/
theorem Maze.route_isPath (maze : Maze) (field : Field) (distances : Distances)
    (config : SearchConfig) (source goal : Cell) :
    maze.route field distances config source goal = [] ∨
      maze.IsPath source goal (maze.route field distances config source goal) := by
  unfold route
  split
  · exact Or.inl rfl
  · next hends =>
    rw [not_or, not_or, Bool.not_eq_false] at hends
    exact Search.run_isPath (Ne.symm hends.1) _ _ (Search.start_valid _ goal hends.2.1)

namespace Snapshot

/-- A connected walk over tiles that can be entered, from a source, which is left out, to a goal.
No tile occurs twice. -/
structure IsRoute (board : Snapshot) (source goal : Tile) (route : List Tile) : Prop where
  getLast?_eq : route.getLast? = some goal
  isAdjacent : (source :: route).IsChain (fun tile next => tile.isAdjacent next = .ok true)
  isWalkable : ∀ tile ∈ route, board.isWalkable tile = true
  source_notMem : source ∉ route
  nodup : route.Nodup

/-- The tiles of a path are a route. -/
theorem isRoute_of_isPath {board : Snapshot} {source goal : Cell} {path : List Cell}
    (h : board.walls.IsPath source goal path) :
    board.IsRoute source.tile goal.tile (path.map Cell.tile) where
  getLast?_eq := by rw [List.getLast?_map, h.getLast?_eq, Option.map_some]
  isAdjacent := by
    rw [← List.map_cons]
    exact List.isChain_map_of_isChain _ (fun _ _ => Maze.isAdjacent_of_mem_exits) h.isChain
  isWalkable := by
    intro tile htile
    obtain ⟨cell, hcell, rfl⟩ := List.mem_map.mp htile
    rw [isWalkable_tile]
    exact Maze.isOpen_of_isChain source h.isChain cell hcell
  source_notMem := by
    rw [List.mem_map_of_injective Tile.tile_injective]
    exact (List.nodup_cons.mp h.nodup).1
  nodup := (List.nodup_cons.mp h.nodup).2.map Tile.tile_injective

theorem route_isRoute (board : Snapshot) (field : Field) (distances : Distances)
    (config : SearchConfig) (source goal : Tile) :
    board.route field distances config source goal = [] ∨
      board.IsRoute source goal (board.route field distances config source goal) := by
  unfold route
  split
  · next start target hstart htarget =>
    rw [← Tile.tile_of_cell? hstart, ← Tile.tile_of_cell? htarget]
    rcases board.walls.route_isPath field distances config start target with hnil | hpath
    · left
      rw [hnil, List.map_nil]
    · exact Or.inr (isRoute_of_isPath hpath)
  · exact Or.inl rfl

/-- A route begins with a neighbour of its source. -/
theorem IsRoute.isNeighbor_head {board : Snapshot} {source goal next : Tile} {rest : List Tile}
    (h : board.IsRoute source goal (next :: rest)) : board.IsNeighbor source next := by
  have hadjacent := (List.isChain_cons_cons.mp h.isAdjacent).1
  exact ⟨h.isWalkable next List.mem_cons_self, Tile.isAdjacent_iff.mp hadjacent⟩

/-- A route, if there is one, leads from the source to the goal. -/
theorem isRoute_of_route_ne_nil {board : Snapshot} {field : Field} {distances : Distances}
    {config : SearchConfig} {source goal : Tile}
    (h : board.route field distances config source goal ≠ []) :
    board.IsRoute source goal (board.route field distances config source goal) :=
  (board.route_isRoute field distances config source goal).resolve_left h

/-- A ring of eight cells around a wall, with a spur behind its right side. -/
def detour : Snapshot where
  sequence := 0
  walls := [⟨1, 1⟩, ⟨1, 2⟩, ⟨1, 3⟩, ⟨2, 1⟩, ⟨2, 3⟩, ⟨2, 4⟩, ⟨3, 1⟩, ⟨3, 2⟩, ⟨3, 3⟩].foldl
    (fun walls tile => walls.write tile false) (Grid.filled true)
  pellets := Grid.filled false
  superPellets := Grid.filled false
  fruit := none
  ghosts := []
  agent := ⟨1, 1⟩
  heading := none
  lives := 3
  mode := .chase
  pelletsRemaining := 0

theorem openCells_detour : detour.walls.openCells =
    [⟨29⟩, ⟨30⟩, ⟨31⟩, ⟨57⟩, ⟨59⟩, ⟨60⟩, ⟨85⟩, ⟨86⟩, ⟨87⟩] := by
  have hopen (cell : Cell) : detour.walls.isOpen cell = decide (cell.tile ∈
      [⟨1, 1⟩, ⟨1, 2⟩, ⟨1, 3⟩, ⟨2, 1⟩, ⟨2, 3⟩, ⟨2, 4⟩, ⟨3, 1⟩, ⟨3, 2⟩, ⟨3, 3⟩]) := by
    unfold detour Maze.isOpen
    dsimp only
    rw [Grid.get_foldl_write, Grid.get_filled]
    split <;> simp [*]
  rw [Maze.openCells, funext hopen]
  decide +kernel

/-- Distances under which the long way around the ring looks best at first. -/
def misleading : Distances where
  metric := .manhattan
  oracle := some (fun tile _ =>
    if tile = ⟨1, 2⟩ then some 100
    else if tile = ⟨2, 4⟩ then some Single.infinity
    else some 0)

/-- The route takes the short way around the ring, although its cells are first entered from the
far end. -/
theorem isRoute_detour :
    detour.route ⟨Grid.filled true, Grid.filled 0⟩ misleading ⟨some 20⟩ ⟨1, 1⟩ ⟨2, 4⟩ =
        [⟨1, 2⟩, ⟨1, 3⟩, ⟨2, 3⟩, ⟨2, 4⟩] ∧
      detour.IsRoute ⟨1, 1⟩ ⟨2, 4⟩
        (detour.route ⟨Grid.filled true, Grid.filled 0⟩ misleading ⟨some 20⟩ ⟨1, 1⟩ ⟨2, 4⟩) := by
  have hroute : detour.route ⟨Grid.filled true, Grid.filled 0⟩ misleading ⟨some 20⟩ ⟨1, 1⟩ ⟨2, 4⟩ =
      [⟨1, 2⟩, ⟨1, 3⟩, ⟨2, 3⟩, ⟨2, 4⟩] := by decide +kernel
  exact ⟨hroute, isRoute_of_route_ne_nil (by rw [hroute]; exact List.cons_ne_nil _ _)⟩

end Snapshot
end MazeAgent
