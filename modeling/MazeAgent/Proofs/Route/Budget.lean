import MazeAgent.Proofs.Route.Path
import Mathlib.Algebra.Order.BigOperators.Group.List

/-!
# What a search costs

The steps of all open cells, where a cell that is not known yet counts as many steps as there
are open cells, together with the entries that wait, are a weight that every expansion lowers.
So the search ends after at most the square of the number of open cells, and then it has found
its goal or looked at everything that is connected to its source.

**Results.**
* `Search.Valid.weight_expand_lt`: an expansion lowers the weight.
* `Search.Valid.exists_last`: the search without a limit ends.
* `Search.Valid.run_eq_ite`: the limit decides between the route and nothing.
* `Snapshot.route_eq_ite_searchEnds`: the same for the route between two tiles.
-/

namespace MazeAgent
namespace Search

variable {maze : Maze} {estimate : Cell → Single} {source goal : Cell} {search : Search}

/-! ## The weight of a search -/

/-- The steps of the open cells, with a bound for those that are not known. -/
def remoteness (maze : Maze) (best : Grid (Option Nat)) : Nat :=
  (maze.openCells.map (fun cell => (best.get cell).getD maze.openCells.length)).sum

/-- What a search has before it: steps that can still be lowered, and entries that wait. -/
def weight (maze : Maze) (search : Search) : Nat :=
  remoteness maze search.best + search.frontier.length

/-- Fewer steps for an open cell lower the sum. -/
theorem remoteness_set_lt {best : Grid (Option Nat)} {steps : Nat} {next : Cell}
    (hopen : maze.isOpen next = true) (hsteps : steps < maze.openCells.length)
    (hnext : ¬ Within best steps next) :
    remoteness maze (best.set next (some steps)) < remoteness maze best := by
  have hlt : steps < (best.get next).getD maze.openCells.length := by
    cases hbest : best.get next with
    | none =>
        rw [Option.getD_none]
        exact hsteps
    | some known =>
        by_contra hle
        exact hnext ⟨known, hbest, Nat.le_of_not_lt hle⟩
  unfold remoteness
  apply List.sum_lt_sum
  · intro cell _
    by_cases heq : next = cell
    · subst heq
      rw [Grid.get_set_self]
      exact hlt.le
    · rw [Grid.get_set_of_ne _ heq]
  · refine ⟨next, Maze.mem_openCells_iff.mpr hopen, ?_⟩
    rw [Grid.get_set_self]
    exact hlt

/-- At most one entry is made for every exit, and it pays with the steps it saves. -/
theorem Underway.weight_enter_le {cell next : Cell} {steps : Nat}
    (h : Underway maze source goal cell steps search) (hexit : next ∈ maze.exits cell) :
    weight maze (Search.enter estimate cell (steps + 1) search next) ≤ weight maze search := by
  by_cases hnext : Within search.best (steps + 1) next
  · rw [enter_of_within hnext]
  · have hopen := Maze.isOpen_of_mem_exits hexit
    obtain ⟨trail, htrail⟩ := h.sound.trail cell steps h.best_eq
    have hlt := remoteness_set_lt hopen (htrail.cons hopen hnext).lt_length hnext
    rw [enter_of_not_within hnext]
    unfold weight
    dsimp only
    rw [Frontier.length_insert]
    omega

/-- What holds after an exit of a cell has been entered, if it held before, holds after all of
them. -/
theorem Underway.foldl_enter_keeps {keeps : Search → Prop} {cell : Cell} {steps : Nat}
    (henter : ∀ search next, Underway maze source goal cell steps search →
      next ∈ maze.exits cell → keeps search →
        keeps (Search.enter estimate cell (steps + 1) search next))
    (exits : List Cell) (hexits : ∀ next ∈ exits, next ∈ maze.exits cell)
    (h : Underway maze source goal cell steps search) (hkeeps : keeps search) :
    keeps (exits.foldl (Search.enter estimate cell (steps + 1)) search) := by
  induction exits generalizing search with
  | nil => exact hkeeps
  | cons first rest ih =>
      have hfirst := hexits first List.mem_cons_self
      exact ih (fun next hnext => hexits next (List.mem_cons_of_mem _ hnext)) (h.enter hfirst)
        (henter search first h hfirst hkeeps)

/-- An expansion lowers the weight. -/
theorem Valid.weight_expand_lt {entry : Entry} {rest : Frontier}
    (h : Valid maze source goal search) (hfresh : search.fresh = entry :: rest) :
    weight maze (search.expand maze estimate entry rest) < weight maze search := by
  have hlength : rest.length < search.frontier.length := by
    have hle := (List.dropWhile_suffix (l := search.frontier) (isStale search.best)).length_le
    change search.fresh.length ≤ search.frontier.length at hle
    rw [hfresh, List.length_cons] at hle
    exact hle
  have hpaid : weight maze { search with frontier := rest } < weight maze search :=
    Nat.add_lt_add_left hlength _
  exact (h.underway hfresh).foldl_enter_keeps
    (fun _ _ hunder hexit hlt => (hunder.weight_enter_le hexit).trans_lt hlt) _
    (fun _ hnext => hnext) hpaid

/-- At first the weight is at most the square of the number of open cells. -/
theorem weight_start_le (estimate : Cell → Single) (hsource : maze.isOpen source = true) :
    weight maze (start estimate source) ≤ maze.openCells.length * maze.openCells.length := by
  have hlt : remoteness maze (start estimate source).best <
      (maze.openCells.map (fun _ => maze.openCells.length)).sum := by
    have hmem := Maze.mem_openCells_iff.mpr hsource
    unfold remoteness
    -- The source counts nothing, and this pays for its entry.
    apply List.sum_lt_sum
    · intro cell _
      cases hcell : (start estimate source).best.get cell with
      | none => rw [Option.getD_none]
      | some steps =>
          rw [(best_start_iff.mp hcell).2]
          exact Nat.zero_le _
    · refine ⟨source, hmem, ?_⟩
      rw [best_start_iff.mpr ⟨rfl, rfl⟩]
      exact List.length_pos_of_mem hmem
  rw [List.map_const', List.sum_replicate, smul_eq_mul] at hlt
  exact hlt

/-! ## The search without a limit -/

/-- The search after its next expansion; none when the first fresh entry is one of the goal, or
when there is no fresh entry. -/
def advance (maze : Maze) (estimate : Cell → Single) (goal : Cell) (search : Search) :
    Option Search :=
  match search.fresh with
  | [] => none
  | entry :: rest =>
      if entry.cell = goal then none else some (search.expand maze estimate entry rest)

/-- The search after a number of expansions, if it goes on for so long. -/
def after (maze : Maze) (estimate : Cell → Single) (goal : Cell) : Nat → Search → Option Search
  | 0, search => some search
  | count + 1, search => (search.advance maze estimate goal).bind (after maze estimate goal count)

theorem advance_eq_some_iff {later : Search} :
    search.advance maze estimate goal = some later ↔ ∃ entry rest,
      search.fresh = entry :: rest ∧ entry.cell ≠ goal ∧
        search.expand maze estimate entry rest = later := by
  unfold advance
  cases search.fresh with
  | nil => simp
  | cons entry rest =>
      dsimp only
      split
      · next hgoal => simp [hgoal]
      · next hgoal => simp [hgoal]

/-- A search with a fresh entry ends at the goal only. -/
theorem cell_eq_of_advance_eq_none {entry : Entry} {rest : Frontier}
    (hfresh : search.fresh = entry :: rest)
    (hend : search.advance maze estimate goal = none) : entry.cell = goal := by
  by_contra hother
  have hsome : search.advance maze estimate goal = some (search.expand maze estimate entry rest) :=
    advance_eq_some_iff.mpr ⟨entry, rest, hfresh, hother, rfl⟩
  rw [hend] at hsome
  cases hsome

theorem Valid.advance {later : Search} (h : Valid maze source goal search)
    (hlater : search.advance maze estimate goal = some later) :
    Valid maze source goal later ∧ weight maze later < weight maze search := by
  obtain ⟨entry, rest, hfresh, hgoal, rfl⟩ := advance_eq_some_iff.mp hlater
  exact ⟨h.expand hfresh hgoal, h.weight_expand_lt hfresh⟩

/-- Every expansion is paid from the weight. -/
theorem Valid.after {later : Search} (count : Nat) (h : Valid maze source goal search)
    (hlater : after maze estimate goal count search = some later) :
    Valid maze source goal later ∧ count + weight maze later ≤ weight maze search := by
  induction count generalizing search with
  | zero =>
      cases hlater
      exact ⟨h, by omega⟩
  | succ count ih =>
      obtain ⟨next, hnext, hrest⟩ := Option.bind_eq_some_iff.mp hlater
      obtain ⟨hvalid, hlt⟩ := h.advance hnext
      obtain ⟨hfinal, hle⟩ := ih hvalid hrest
      exact ⟨hfinal, by omega⟩

/-- What every expansion keeps holds after any number of expansions. -/
theorem Valid.after_keeps {keeps : Search → Prop} {later : Search} (count : Nat)
    (h : Valid maze source goal search)
    (hadvance : ∀ search later, Valid maze source goal search → keeps search →
      search.advance maze estimate goal = some later → keeps later)
    (hkeeps : keeps search)
    (hlater : Search.after maze estimate goal count search = some later) : keeps later := by
  induction count generalizing search with
  | zero =>
      cases hlater
      exact hkeeps
  | succ count ih =>
      obtain ⟨next, hnext, hrest⟩ := Option.bind_eq_some_iff.mp hlater
      exact ih (h.advance hnext).1 (hadvance search next h hkeeps hnext) hrest

/-- The search without a limit ends. -/
theorem Valid.exists_last (estimate : Cell → Single) (h : Valid maze source goal search) :
    ∃ count last, Search.after maze estimate goal count search = some last ∧
      last.advance maze estimate goal = none := by
  induction hweight : weight maze search using Nat.strong_induction_on generalizing search with
  | _ bound ih =>
      cases hadvance : search.advance maze estimate goal with
      | none => exact ⟨0, search, rfl, hadvance⟩
      | some later =>
          obtain ⟨hvalid, hlt⟩ := h.advance hadvance
          obtain ⟨count, last, hlast, hend⟩ := ih _ (hweight ▸ hlt) hvalid rfl
          refine ⟨count + 1, last, ?_, hend⟩
          rw [Search.after, hadvance, Option.bind_some, hlast]

/-! ## The limit -/

/-- A search with a limit goes through the same expansions. -/
theorem run_add {later : Search} (count budget : Nat)
    (h : after maze estimate goal count search = some later) :
    run maze estimate source goal (count + budget) search =
      run maze estimate source goal budget later := by
  induction count generalizing search with
  | zero =>
      cases h
      rw [Nat.zero_add]
  | succ count ih =>
      obtain ⟨next, hnext, hrest⟩ := Option.bind_eq_some_iff.mp h
      obtain ⟨entry, rest, hfresh, hgoal, rfl⟩ := advance_eq_some_iff.mp hnext
      rw [Nat.add_right_comm, run_succ hfresh hgoal]
      exact ih hrest

/-- A search that has to give up before it ends returns nothing. -/
theorem run_eq_nil_of_lt {later : Search} (count budget : Nat)
    (h : after maze estimate goal count search = some later) (hlt : budget < count) :
    run maze estimate source goal budget search = [] := by
  induction count generalizing search budget with
  | zero => omega
  | succ count ih =>
      obtain ⟨next, hnext, hrest⟩ := Option.bind_eq_some_iff.mp h
      obtain ⟨entry, rest, hfresh, hgoal, rfl⟩ := advance_eq_some_iff.mp hnext
      cases budget with
      | zero => exact run_zero hfresh hgoal
      | succ budget =>
          rw [run_succ hfresh hgoal]
          exact ih budget hrest (by omega)

/-! ## The end of the search -/

/-- What is known and closed under exits takes in everything a walk leads to. -/
theorem exists_best_of_walk {best : Grid (Option Nat)} {length : Nat} {first cell : Cell}
    (hclosed : ∀ cell steps, best.get cell = some steps →
      ∀ next ∈ maze.exits cell, ∃ known, best.get next = some known)
    (hfirst : ∃ steps, best.get first = some steps) (hwalk : maze.Walk length first cell) :
    ∃ steps, best.get cell = some steps := by
  induction hwalk with
  | stay cell => exact hfirst
  | step _ hexit ih =>
      obtain ⟨steps, hsteps⟩ := ih hfirst
      exact hclosed _ steps hsteps _ hexit

/-- When no fresh entry is left, everything connected to the source is done, and the goal is not
part of it. -/
theorem Valid.not_connected (h : Valid maze source goal search) (hfresh : search.fresh = []) :
    ¬ maze.Connected source goal := by
  have hdone : ∀ cell steps, search.best.get cell = some steps →
      IsDone maze goal search cell steps := by
    intro cell steps hcell
    rcases h.complete cell steps hcell with ⟨entry, hentry, rfl, rfl⟩ | hdone
    · have hmem := mem_fresh_of_best hentry hcell
      rw [hfresh] at hmem
      exact absurd hmem List.not_mem_nil
    · exact hdone
  have hclosed : ∀ cell steps, search.best.get cell = some steps →
      ∀ next ∈ maze.exits cell, ∃ known, search.best.get next = some known := by
    intro cell steps hcell next hnext
    obtain ⟨known, hknown, _⟩ := (hdone cell steps hcell).2 next hnext
    exact ⟨known, hknown⟩
  rintro ⟨length, hwalk⟩
  obtain ⟨steps, hsteps⟩ := exists_best_of_walk hclosed ⟨0, h.sound.source_best⟩ hwalk
  exact (hdone goal steps hsteps).1 rfl

/-- A search for a goal that is connected to the source returns the same path for every limit
that allows the expansions up to its end, and nothing for the limits below. -/
theorem Valid.run_eq_ite {needed : Nat} {last : Search} (h : Valid maze source goal search)
    (hne : goal ≠ source) (hconnected : maze.Connected source goal)
    (hlast : Search.after maze estimate goal needed search = some last)
    (hend : last.advance maze estimate goal = none) :
    ∃ path, path ≠ [] ∧ ∀ budget, run maze estimate source goal budget search =
      if needed ≤ budget then path else [] := by
  have hvalid := (h.after needed hlast).1
  cases hfresh : last.fresh with
  | nil => exact absurd hconnected (hvalid.not_connected hfresh)
  | cons entry rest =>
      have hgoal := cell_eq_of_advance_eq_none hfresh hend
      have hpath := hvalid.trace_isPath hne hfresh hgoal
      refine ⟨trace last.parent source 868 goal [goal], hpath.ne_nil, ?_⟩
      intro budget
      split
      · next hbudget =>
        rw [← Nat.add_sub_cancel' hbudget, run_add needed _ hlast, run_of_goal hfresh hgoal]
      · next hbudget => exact run_eq_nil_of_lt needed budget hlast (by omega)

/-- A search for a goal that is not connected to the source returns nothing. -/
theorem Valid.run_eq_nil (h : Valid maze source goal search) (hne : goal ≠ source)
    (hconnected : ¬ maze.Connected source goal) (budget : Nat) :
    run maze estimate source goal budget search = [] := by
  rcases run_isPath hne budget search h with hnil | hpath
  · exact hnil
  · exact absurd hpath.connected hconnected

end Search

/-! ## Routes between tiles -/

namespace Snapshot

theorem route_tile (board : Snapshot) (field : Field) (distances : Distances)
    (config : SearchConfig) {source goal : Cell} (hne : source ≠ goal)
    (hsource : board.walls.isOpen source = true) (hgoal : board.walls.isOpen goal = true) :
    board.route field distances config source.tile goal.tile =
      (Search.run board.walls (field.estimate distances goal) source goal
        (board.walls.searchLimit config)
        (Search.start (field.estimate distances goal) source)).map Cell.tile := by
  have hends : ¬ (source = goal ∨ board.walls.isOpen source = false ∨
      board.walls.isOpen goal = false) := by
    simp [hne, hsource, hgoal]
  unfold route Maze.route
  rw [Tile.cell?_tile, Tile.cell?_tile]
  dsimp only
  rw [if_neg hends]

/-- Without a limit the search between two tiles ends after a number of expansions. -/
def SearchEnds (board : Snapshot) (field : Field) (distances : Distances) (source goal : Tile)
    (count : Nat) : Prop :=
  ∃ start target last, source = Cell.tile start ∧ goal = Cell.tile target ∧
    Search.after board.walls (field.estimate distances target) target count
      (Search.start (field.estimate distances target) start) = some last ∧
    last.advance board.walls (field.estimate distances target) target = none

/-- Between two different tiles that can be entered, the search without a limit ends, after at
most as many expansions as the square of the number of open cells. If the tiles are connected,
every limit that allows these expansions gives the same route, and every other limit none. If
they are not connected, there is no route. -/
theorem route_eq_ite_searchEnds (board : Snapshot) (field : Field) (distances : Distances)
    {source goal : Tile} (hne : source ≠ goal) (hsource : board.isWalkable source = true)
    (hgoal : board.isWalkable goal = true) :
    ∃ needed, needed ≤ board.walls.openCells.length * board.walls.openCells.length ∧
      board.SearchEnds field distances source goal needed ∧
      (board.Connected source goal → ∃ route, route ≠ [] ∧
        ∀ config, board.route field distances config source goal =
          if needed ≤ board.walls.searchLimit config then route else []) ∧
      (¬ board.Connected source goal →
        ∀ config, board.route field distances config source goal = []) := by
  obtain ⟨start, rfl, hstart⟩ := isWalkable_iff.mp hsource
  obtain ⟨target, rfl, htarget⟩ := isWalkable_iff.mp hgoal
  have hcells : start ≠ target := fun h => hne (congrArg Cell.tile h)
  have hvalid := Search.start_valid (field.estimate distances target) target hstart
  have hweight := Search.weight_start_le (field.estimate distances target) hstart
  obtain ⟨needed, last, hlast, hend⟩ := hvalid.exists_last (field.estimate distances target)
  have hneeded := (hvalid.after needed hlast).2
  refine ⟨needed, by omega, ⟨start, target, last, rfl, rfl, hlast, hend⟩, ?_, ?_⟩
  · intro hconnected
    obtain ⟨path, hpath, hrun⟩ :=
      hvalid.run_eq_ite hcells.symm (connected_tile_iff.mp hconnected) hlast hend
    refine ⟨path.map Cell.tile, by simpa using hpath, ?_⟩
    intro config
    rw [route_tile board field distances config hcells hstart htarget, hrun]
    split <;> rfl
  · intro hconnected config
    rw [connected_tile_iff] at hconnected
    rw [route_tile board field distances config hcells hstart htarget,
      hvalid.run_eq_nil hcells.symm hconnected, List.map_nil]

theorem detour_connected : detour.Connected ⟨1, 1⟩ ⟨2, 4⟩ := by
  have hright : detour.IsNeighbor ⟨1, 1⟩ ⟨1, 2⟩ := ⟨by decide +kernel, .right, rfl⟩
  have hcorner : detour.IsNeighbor ⟨1, 2⟩ ⟨1, 3⟩ := ⟨by decide +kernel, .right, rfl⟩
  have hdown : detour.IsNeighbor ⟨1, 3⟩ ⟨2, 3⟩ := ⟨by decide +kernel, .down, rfl⟩
  have hspur : detour.IsNeighbor ⟨2, 3⟩ ⟨2, 4⟩ := ⟨by decide +kernel, .right, rfl⟩
  exact (((Relation.ReflTransGen.single hright).tail hcorner).tail hdown).tail hspur

/-- On the ring a limit separates the routes of the tiles that are connected. -/
theorem route_detour_eq_ite :
    (⟨1, 1⟩ : Tile) ≠ ⟨2, 4⟩ ∧ detour.isWalkable ⟨1, 1⟩ = true ∧ detour.isWalkable ⟨2, 4⟩ = true ∧
      detour.Connected ⟨1, 1⟩ ⟨2, 4⟩ ∧
      ∃ needed route, needed ≤ detour.walls.openCells.length * detour.walls.openCells.length ∧
        route ≠ [] ∧ ∀ config,
          detour.route ⟨Grid.filled true, Grid.filled 0⟩ misleading config ⟨1, 1⟩ ⟨2, 4⟩ =
            if needed ≤ detour.walls.searchLimit config then route else [] := by
  have hne : (⟨1, 1⟩ : Tile) ≠ ⟨2, 4⟩ := by decide
  have hsource : detour.isWalkable ⟨1, 1⟩ = true := by decide +kernel
  have hgoal : detour.isWalkable ⟨2, 4⟩ = true := by decide +kernel
  obtain ⟨needed, hle, -, hroute, -⟩ := route_eq_ite_searchEnds detour
    ⟨Grid.filled true, Grid.filled 0⟩ misleading hne hsource hgoal
  obtain ⟨route, hnonempty, heq⟩ := hroute detour_connected
  exact ⟨hne, hsource, hgoal, detour_connected, needed, route, hle, hnonempty, heq⟩

end Snapshot
end MazeAgent
