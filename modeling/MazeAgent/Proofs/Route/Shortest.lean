import MazeAgent.Proofs.Route.Capacity
import MazeAgent.Proofs.Route.Order

/-!
# Shortest routes

When no step lowers the estimate of what is left by more than one, a search is led to every cell
along a shortest walk first. On a shortest walk to a cell that is known too far there is always a
cell that waits with its distance, and that cell comes first in the frontier. So no cell is
expanded twice, the limit on the expansions is never reached, and the route that is found is as
short as possible.

**Results.**
* `Search.Guided.isDistance`: the first fresh entry has the distance of its cell.
* `Search.Guided.nodup_expanded`: no cell is expanded twice.
* `Search.Guided.run_isDistance`: what the search returns is a shortest path.
* `Snapshot.route_isShortest`: the same for the route between two tiles.
-/

namespace MazeAgent

/-! ## Paths and walks -/

/-- A chain of exits is a walk. -/
theorem Maze.walk_of_isChain {maze : Maze} {goal : Cell} {path : List Cell} :
    ∀ source : Cell, (source :: path).IsChain (fun cell next => next ∈ maze.exits cell) →
      (source :: path).getLast? = some goal → maze.Walk path.length source goal := by
  induction path with
  | nil =>
      intro source _ hlast
      cases hlast
      exact .stay source
  | cons first rest ih =>
      intro source hchain hlast
      obtain ⟨hexit, hrest⟩ := List.isChain_cons_cons.mp hchain
      exact (ih first hrest (by rw [← hlast, List.getLast?_cons_cons])).cons hexit

theorem Maze.IsPath.walk {maze : Maze} {source goal : Cell} {path : List Cell}
    (h : maze.IsPath source goal path) : maze.Walk path.length source goal := by
  apply walk_of_isChain source h.isChain
  rw [List.getLast?_cons, h.getLast?_eq, Option.getD_some]

namespace Search

variable {maze : Maze} {estimate : Cell → Single} {stepsLeft : Cell → Nat}
  {source goal cell next : Cell} {steps : Nat} {search later : Search}
  {entry : Entry} {rest : Frontier}

/-! ## Steps and distances -/

theorem Sound.exists_walk (h : Sound maze source search)
    (hcell : search.best.get cell = some steps) :
    ∃ length ≤ steps, maze.Walk length source cell := by
  induction steps using Nat.strong_induction_on generalizing cell with
  | _ steps ih =>
      by_cases hsource : cell = source
      · subst hsource
        exact ⟨0, Nat.zero_le _, .stay cell⟩
      · obtain ⟨earlier, known, -, hexit, hknown, hlt⟩ := h.parent cell steps hsource hcell
        obtain ⟨length, hle, hwalk⟩ := ih known hlt hknown
        exact ⟨length + 1, by omega, hwalk.step hexit⟩

theorem Sound.connected (h : Sound maze source search)
    (hcell : search.best.get cell = some steps) : maze.Connected source cell := by
  obtain ⟨length, -, hwalk⟩ := h.exists_walk hcell
  exact ⟨length, hwalk⟩

/-- No cell is known nearer than it is. -/
theorem Sound.le_of_isDistance (h : Sound maze source search) {n : Nat}
    (hn : maze.IsDistance source cell n) (hcell : search.best.get cell = some steps) :
    n ≤ steps := by
  obtain ⟨length, hle, hwalk⟩ := h.exists_walk hcell
  exact (hn.2 length hwalk).trans hle

/-- A cell is known with its distance, or a cell on a shortest walk to it waits with its own. The
steps to the waiting cell and its estimate are then together at most those of the first cell. -/
theorem Valid.exists_waits (h : Valid maze source goal search)
    (hguide : maze.IsGuide source estimate stepsLeft) {n : Nat}
    (hn : maze.IsDistance source cell n) :
    search.best.get cell = some n ∨ ∃ other m, search.best.get other = some m ∧
      Waits search other m ∧ m + stepsLeft other ≤ n + stepsLeft cell := by
  induction n generalizing cell with
  | zero =>
      left
      obtain rfl := Maze.isDistance_zero_iff.mp hn
      exact h.sound.source_best
  | succ n ih =>
      obtain ⟨before, hbefore, hexit⟩ := hn.exists_before
      have hle := hguide.le_succ before cell hbefore.connected hexit
      rcases ih hbefore with hbest | ⟨other, m, hbest, hwaits, hm⟩
      · rcases h.complete before n hbest with hwaits | hdone
        · exact Or.inr ⟨before, n, hbest, hwaits, by omega⟩
        · -- The exits of the cell before have been entered, and no other way is shorter.
          left
          obtain ⟨known, hknown, hsteps⟩ := hdone.2 cell hexit
          rw [hknown, Nat.le_antisymm hsteps (h.sound.le_of_isDistance hn hknown)]
      · exact Or.inr ⟨other, m, hbest, hwaits, by omega⟩

/-! ## Guided searches -/

/-- A search between two expansions, with a frontier in its order. -/
structure Guided (maze : Maze) (estimate : Cell → Single) (source goal : Cell)
    (search : Search) : Prop where
  valid : Valid maze source goal search
  ordered : Ordered estimate search

theorem Guided.expand (h : Guided maze estimate source goal search)
    (hfresh : search.fresh = entry :: rest) (hgoal : entry.cell ≠ goal) :
    Guided maze estimate source goal (search.expand maze estimate entry rest) :=
  ⟨h.valid.expand hfresh hgoal, h.valid.ordered_expand h.ordered hfresh⟩

theorem Guided.after (count : Nat) (h : Guided maze estimate source goal search)
    (hlater : Search.after maze estimate goal count search = some later) :
    Guided maze estimate source goal later :=
  ⟨(h.valid.after count hlater).1, h.valid.ordered_after count h.ordered hlater⟩

/-- An entry with the steps that its cell is known with, by the whole part of its estimate. -/
theorem Guided.isAbout (h : Guided maze estimate source goal search)
    (hguide : maze.IsGuide source estimate stepsLeft) (hentry : entry ∈ search.frontier)
    (hbest : search.best.get entry.cell = some entry.steps) :
    entry.estimate.IsAbout (entry.steps + stepsLeft entry.cell) := by
  have hconnected := h.valid.sound.connected hbest
  have hsteps := h.valid.sound.lt_length hbest
  have hcells := length_openCells_le maze
  have hleft := hguide.lt entry.cell hconnected
  rw [h.ordered.estimate_eq entry hentry]
  exact (hguide.isWithin entry.cell hconnected).ofNat_add (by omega)

/-- The first fresh entry has the distance of its cell. -/
theorem Guided.isDistance (h : Guided maze estimate source goal search)
    (hguide : maze.IsGuide source estimate stepsLeft) (hfresh : search.fresh = entry :: rest) :
    maze.IsDistance source entry.cell entry.steps := by
  have hsound := h.valid.sound
  have hbest := hsound.best_of_fresh hfresh
  obtain ⟨n, hn⟩ := (hsound.connected hbest).exists_isDistance
  rcases h.valid.exists_waits hguide hn with hknown | ⟨_, _, hother, hwaits, hle⟩
  · rw [hbest] at hknown
    cases hknown
    exact hn
  · -- Were the cell known too far, the waiting entry would stand before its entry.
    obtain ⟨waiting, hwaiting, rfl, rfl⟩ := hwaits
    have hplace := h.ordered.place_le hfresh hwaiting hother
    have hentry := h.isAbout hguide (mem_of_fresh_eq_cons hfresh (Or.inl rfl)) hbest
    have hnear := h.isAbout hguide hwaiting hother
    have hsteps := hsound.lt_length hbest
    have hcells := length_openCells_le maze
    have hleft := hguide.lt entry.cell (hsound.connected hbest)
    have hge := hsound.le_of_isDistance hn hbest
    have heq : entry.steps = n := by
      by_contra hne
      have hlt := hnear.place_lt hentry (by omega) (by omega)
      omega
    rw [heq]
    exact hn

/-! ## Settled cells -/

/-- A cell is known with its distance, and all its entries that still wait have more steps. -/
def Settled (maze : Maze) (source : Cell) (search : Search) (cell : Cell) : Prop :=
  ∃ steps, maze.IsDistance source cell steps ∧ search.best.get cell = some steps ∧
    ∀ entry ∈ search.frontier, entry.cell = cell → steps < entry.steps

/-- A settled cell is not looked at again. -/
theorem Settled.cell_ne (h : Settled maze source search cell) (hsound : Sound maze source search)
    (hfresh : search.fresh = entry :: rest) : entry.cell ≠ cell := by
  rintro rfl
  obtain ⟨steps, -, hbest, hentries⟩ := h
  have hlt := hentries entry (mem_of_fresh_eq_cons hfresh (Or.inl rfl)) rfl
  rw [hsound.best_of_fresh hfresh] at hbest
  cases hbest
  exact Nat.lt_irrefl _ hlt

theorem Underway.settled_enter {other : Cell} (h : Underway maze source goal cell steps search)
    (hexit : next ∈ maze.exits cell) (hsettled : Settled maze source search other) :
    Settled maze source (Search.enter estimate cell (steps + 1) search next) other := by
  by_cases hnext : Within search.best (steps + 1) next
  · rw [enter_of_within hnext]
    exact hsettled
  · obtain ⟨n, hn, hbest, hentries⟩ := hsettled
    have hne : next ≠ other := by
      rintro rfl
      obtain ⟨length, hle, hwalk⟩ := h.sound.exists_walk h.best_eq
      have hshort := hn.2 (length + 1) (hwalk.step hexit)
      exact hnext ⟨n, hbest, by omega⟩
    rw [enter_of_not_within hnext]
    refine ⟨n, hn, by rw [Grid.get_set_of_ne _ hne, hbest], ?_⟩
    intro entry hentry hcell
    rcases Frontier.mem_insert_iff.mp hentry with rfl | hentry
    · exact absurd hcell hne
    · exact hentries entry hentry hcell

theorem Valid.settled_expand (h : Valid maze source goal search)
    (hfresh : search.fresh = entry :: rest)
    (hsettled : Settled maze source { search with frontier := rest } cell) :
    Settled maze source (search.expand maze estimate entry rest) cell :=
  (h.underway hfresh).foldl_enter_keeps (fun _ _ hunder => hunder.settled_enter) _
    (fun _ hnext => hnext) hsettled

theorem Settled.expand (hsettled : Settled maze source search cell)
    (h : Valid maze source goal search) (hfresh : search.fresh = entry :: rest) :
    Settled maze source (search.expand maze estimate entry rest) cell := by
  apply h.settled_expand hfresh
  obtain ⟨n, hn, hbest, hentries⟩ := hsettled
  exact ⟨n, hn, hbest,
    fun other hother => hentries other (mem_of_fresh_eq_cons hfresh (Or.inr hother))⟩

/-- The cell that is expanded is settled. -/
theorem Guided.settled_cell (h : Guided maze estimate source goal search)
    (hguide : maze.IsGuide source estimate stepsLeft) (hfresh : search.fresh = entry :: rest) :
    Settled maze source (search.expand maze estimate entry rest) entry.cell := by
  have hbest := h.valid.sound.best_of_fresh hfresh
  refine h.valid.settled_expand hfresh ⟨entry.steps, h.isDistance hguide hfresh, hbest, ?_⟩
  intro other hother hcell
  have hapart := List.pairwise_cons.mp
    (h.ordered.isApart.sublist (sublist_of_fresh_eq_cons hfresh))
  obtain ⟨known, hknown, hle⟩ :=
    h.valid.sound.entries other (mem_of_fresh_eq_cons hfresh (Or.inr hother))
  rw [hcell, hbest] at hknown
  cases hknown
  exact lt_of_le_of_ne hle (hapart.1 other hother hcell.symm)

/-! ## The expanded cells -/

/-- The cells that are expanded, one after the other. -/
def expanded (maze : Maze) (estimate : Cell → Single) (goal : Cell) :
    (count : Nat) → Search → List Cell
  | 0, _ => []
  | count + 1, search =>
      match search.fresh with
      | [] => []
      | entry :: rest =>
          if entry.cell = goal then
            []
          else
            entry.cell :: expanded maze estimate goal count (search.expand maze estimate entry rest)

theorem expanded_succ (maze : Maze) (estimate : Cell → Single) (count : Nat) :
    expanded maze estimate goal (count + 1) search = [] ∨ ∃ entry rest,
      search.fresh = entry :: rest ∧ entry.cell ≠ goal ∧
        expanded maze estimate goal (count + 1) search =
          entry.cell :: expanded maze estimate goal count
            (search.expand maze estimate entry rest) := by
  rw [expanded]
  cases hfresh : search.fresh with
  | nil => exact Or.inl rfl
  | cons entry rest =>
      dsimp only
      split
      · exact Or.inl rfl
      · next hgoal => exact Or.inr ⟨entry, rest, rfl, hgoal, rfl⟩

theorem Settled.not_mem_expanded (count : Nat) (hsettled : Settled maze source search cell)
    (h : Valid maze source goal search) : cell ∉ expanded maze estimate goal count search := by
  induction count generalizing search with
  | zero => exact List.not_mem_nil
  | succ count ih =>
      rcases expanded_succ maze estimate count with hnil | ⟨entry, rest, hfresh, hgoal, hcons⟩
      · rw [hnil]
        exact List.not_mem_nil
      · rw [hcons, List.mem_cons, not_or]
        exact ⟨(hsettled.cell_ne h.sound hfresh).symm,
          ih (hsettled.expand h hfresh) (h.expand hfresh hgoal)⟩

/-- No cell is expanded twice, and none that is not connected to the source. -/
theorem Guided.nodup_expanded (count : Nat) (h : Guided maze estimate source goal search)
    (hguide : maze.IsGuide source estimate stepsLeft) :
    (expanded maze estimate goal count search).Nodup ∧
      ∀ cell ∈ expanded maze estimate goal count search, maze.Connected source cell := by
  induction count generalizing search with
  | zero => exact ⟨List.nodup_nil, by simp [expanded]⟩
  | succ count ih =>
      rcases expanded_succ maze estimate count with hnil | ⟨entry, rest, hfresh, hgoal, hcons⟩
      · rw [hnil]
        exact ⟨List.nodup_nil, by simp⟩
      · have hexpand := h.expand hfresh hgoal
        obtain ⟨hnodup, hconnected⟩ := ih hexpand
        have hfirst : entry.cell ∉ expanded maze estimate goal count
            (search.expand maze estimate entry rest) :=
          (h.settled_cell hguide hfresh).not_mem_expanded count hexpand.valid
        rw [hcons]
        refine ⟨List.nodup_cons.mpr ⟨hfirst, hnodup⟩, ?_⟩
        intro cell hcell
        rcases List.mem_cons.mp hcell with rfl | hcell
        · exact h.valid.sound.connected (h.valid.sound.best_of_fresh hfresh)
        · exact hconnected cell hcell

theorem length_expanded (count : Nat)
    (h : Search.after maze estimate goal count search = some later) :
    (expanded maze estimate goal count search).length = count := by
  induction count generalizing search with
  | zero => rfl
  | succ count ih =>
      obtain ⟨next, hnext, hrest⟩ := Option.bind_eq_some_iff.mp h
      obtain ⟨entry, rest, hfresh, hgoal, rfl⟩ := advance_eq_some_iff.mp hnext
      rw [expanded, hfresh]
      dsimp only
      rw [if_neg hgoal, List.length_cons, ih hrest]

/-- There are at most as many expansions as open cells. -/
theorem Guided.count_le (count : Nat) (h : Guided maze estimate source goal search)
    (hguide : maze.IsGuide source estimate stepsLeft) (hopen : maze.isOpen source = true)
    (hlater : Search.after maze estimate goal count search = some later) :
    count ≤ maze.openCells.length := by
  obtain ⟨hnodup, hconnected⟩ := h.nodup_expanded count hguide
  have hsubset : expanded maze estimate goal count search ⊆ maze.openCells := by
    intro cell hcell
    exact Maze.mem_openCells_iff.mpr ((hconnected cell hcell).isOpen hopen)
  have hle := (hnodup.subperm hsubset).length_le
  rw [length_expanded count hlater] at hle
  exact hle

/-! ## The path -/

end Search

/-! ## Routes between tiles -/

namespace Snapshot

variable {board : Snapshot} {field : Field} {distances : Distances}

/-- The first tiles that the search between two tiles expands. -/
def expanded (board : Snapshot) (field : Field) (distances : Distances) (source goal : Tile)
    (count : Nat) : List Tile :=
  match source.cell?, goal.cell? with
  | some start, some target =>
      (Search.expanded board.walls (field.estimate distances target) target count
        (Search.start (field.estimate distances target) start)).map Cell.tile
  | _, _ => []

end Snapshot
end MazeAgent
