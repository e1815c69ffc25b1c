import MazeAgent.Route.Search
import MazeAgent.Proofs.Board.Adjacency
import Mathlib.Data.List.TakeWhile

/-!
# What a search keeps

The estimates of a search are arbitrary, so a cell can be entered again and again, each time
with fewer steps, while older entries for it still wait. Four facts survive every expansion:

* the parent of a cell is known with fewer steps than the cell, so that parents lead back to
  the source;
* behind the steps of a cell lies a walk of distinct open cells, so that no cell is ever more
  steps away than there are open cells;
* no entry has fewer steps than its cell is known with;
* a known cell still waits with the steps it is known with, or all its exits have been entered.

**Results.**
* `Search.start_valid`: the facts hold at first.
* `Search.Valid.expand`: an expansion keeps them.
-/

namespace MazeAgent

/-! ## The frontier -/

namespace Frontier

theorem mem_insert_iff {entry other : Entry} {frontier : Frontier} :
    other ∈ frontier.insert entry ↔ other = entry ∨ other ∈ frontier := by
  induction frontier with
  | nil => simp [insert]
  | cons first rest ih =>
      unfold insert
      split
      · exact List.mem_cons
      · rw [List.mem_cons, ih, List.mem_cons]
        tauto

theorem length_insert (entry : Entry) (frontier : Frontier) :
    (frontier.insert entry).length = frontier.length + 1 := by
  induction frontier with
  | nil => rfl
  | cons first rest ih =>
      unfold insert
      split
      · rfl
      · rw [List.length_cons, ih, List.length_cons]

end Frontier

namespace Search

variable {maze : Maze} {estimate : Cell → Single} {source goal : Cell}

/-! ## Known steps -/

/-- A cell is known to be at most so many steps away. -/
def Within (best : Grid (Option Nat)) (steps : Nat) (cell : Cell) : Prop :=
  ∃ known, best.get cell = some known ∧ known ≤ steps

theorem Within.mono {best : Grid (Option Nat)} {steps more : Nat} {cell : Cell}
    (h : Within best steps cell) (hle : steps ≤ more) : Within best more cell := by
  obtain ⟨known, hknown, hsteps⟩ := h
  exact ⟨known, hknown, hsteps.trans hle⟩

theorem improves_eq_true_iff {best : Grid (Option Nat)} {steps : Nat} {cell : Cell} :
    improves best steps cell = true ↔ ¬ Within best steps cell := by
  unfold improves Within
  cases best.get cell with
  | none => simp
  | some known => simp

/-- An entry is fresh when its cell is known with no fewer steps. -/
theorem isStale_eq_false_iff {best : Grid (Option Nat)} {entry : Entry} :
    isStale best entry = false ↔ ∀ known, best.get entry.cell = some known →
      entry.steps ≤ known := by
  unfold isStale
  cases best.get entry.cell with
  | none => simp
  | some known => simp

/-- Writing down fewer steps for one cell makes no cell farther. -/
theorem Within.set {best : Grid (Option Nat)} {steps bound : Nat} {cell next : Cell}
    (h : Within best bound cell) (hnext : ¬ Within best steps next) :
    Within (best.set next (some steps)) bound cell := by
  obtain ⟨known, hknown, hle⟩ := h
  by_cases heq : next = cell
  · subst heq
    refine ⟨steps, Grid.get_set_self _ _ _, ?_⟩
    by_contra hlt
    exact hnext ⟨known, hknown, by omega⟩
  · exact ⟨known, by rw [Grid.get_set_of_ne _ heq, hknown], hle⟩

/-! ## The facts -/

/-- A walk without repetition through cells that are known to be near. -/
structure IsTrail (maze : Maze) (best : Grid (Option Nat)) (steps : Nat)
    (trail : List Cell) : Prop where
  nodup : trail.Nodup
  length_eq : trail.length = steps + 1
  isOpen : ∀ cell ∈ trail, maze.isOpen cell = true
  within : ∀ cell ∈ trail, Within best steps cell

/-- A cell waits in the frontier with the steps that it is known with. -/
def Waits (search : Search) (cell : Cell) (steps : Nat) : Prop :=
  ∃ entry ∈ search.frontier, entry.cell = cell ∧ entry.steps = steps

/-- A cell is no goal, and all its exits are known to be at most one step farther. -/
def IsDone (maze : Maze) (goal : Cell) (search : Search) (cell : Cell) (steps : Nat) : Prop :=
  cell ≠ goal ∧ ∀ next ∈ maze.exits cell, Within search.best (steps + 1) next

/-- What every expansion keeps about the known cells and the entries. -/
structure Sound (maze : Maze) (source : Cell) (search : Search) : Prop where
  source_best : search.best.get source = some 0
  /-- Steps strictly drop along the parents. -/
  parent : ∀ cell steps, cell ≠ source → search.best.get cell = some steps →
    ∃ earlier known, search.parent.get cell = some earlier ∧ cell ∈ maze.exits earlier ∧
      search.best.get earlier = some known ∧ known < steps
  /-- The steps of a cell have been walked. -/
  trail : ∀ cell steps, search.best.get cell = some steps →
    ∃ trail, IsTrail maze search.best steps trail
  entries : ∀ entry ∈ search.frontier, Within search.best entry.steps entry.cell

/-- A search that is between two expansions. -/
structure Valid (maze : Maze) (source goal : Cell) (search : Search) : Prop where
  sound : Sound maze source search
  complete : ∀ cell steps, search.best.get cell = some steps →
    Waits search cell steps ∨ IsDone maze goal search cell steps

/-- A search that is in the middle of entering the exits of a cell. -/
structure Underway (maze : Maze) (source goal cell : Cell) (steps : Nat)
    (search : Search) : Prop where
  sound : Sound maze source search
  best_eq : search.best.get cell = some steps
  complete : ∀ other known, other ≠ cell → search.best.get other = some known →
    Waits search other known ∨ IsDone maze goal search other known

theorem IsTrail.set {best : Grid (Option Nat)} {steps length : Nat} {trail : List Cell}
    {next : Cell} (h : IsTrail maze best length trail) (hnext : ¬ Within best steps next) :
    IsTrail maze (best.set next (some steps)) length trail where
  nodup := h.nodup
  length_eq := h.length_eq
  isOpen := h.isOpen
  within cell hcell := (h.within cell hcell).set hnext

/-- A trail goes on to an exit that is not yet known to be near. -/
theorem IsTrail.cons {best : Grid (Option Nat)} {steps : Nat} {trail : List Cell}
    {next : Cell} (h : IsTrail maze best steps trail) (hopen : maze.isOpen next = true)
    (hnext : ¬ Within best (steps + 1) next) :
    IsTrail maze (best.set next (some (steps + 1))) (steps + 1) (next :: trail) where
  nodup := by
    refine List.nodup_cons.mpr ⟨?_, h.nodup⟩
    intro hmem
    exact hnext ((h.within next hmem).mono (Nat.le_succ steps))
  length_eq := by rw [List.length_cons, h.length_eq]
  isOpen := by
    intro cell hcell
    rcases List.mem_cons.mp hcell with rfl | hcell
    · exact hopen
    · exact h.isOpen cell hcell
  within := by
    intro cell hcell
    rcases List.mem_cons.mp hcell with rfl | hcell
    · exact ⟨steps + 1, Grid.get_set_self _ _ _, Nat.le_refl _⟩
    · exact ((h.within cell hcell).mono (Nat.le_succ steps)).set hnext

/-- No cell is as many steps away as there are open cells. -/
theorem IsTrail.lt_length {best : Grid (Option Nat)} {steps : Nat} {trail : List Cell}
    (h : IsTrail maze best steps trail) : steps < maze.openCells.length := by
  have hsubset : trail ⊆ maze.openCells := by
    intro cell hcell
    exact Maze.mem_openCells_iff.mpr (h.isOpen cell hcell)
  have hle := (h.nodup.subperm hsubset).length_le
  rw [h.length_eq] at hle
  exact hle

theorem Sound.lt_length {search : Search} (h : Sound maze source search) {cell : Cell}
    {steps : Nat} (hcell : search.best.get cell = some steps) :
    steps < maze.openCells.length := by
  obtain ⟨trail, htrail⟩ := h.trail cell steps hcell
  exact htrail.lt_length

/-! ## The first search -/

theorem best_start_iff {cell : Cell} {steps : Nat} :
    (start estimate source).best.get cell = some steps ↔ cell = source ∧ steps = 0 := by
  unfold start
  rw [Grid.get_set, Grid.get_filled]
  by_cases h : source = cell
  · subst h
    simp [eq_comm]
  · simp [h, Ne.symm h]

theorem start_valid (estimate : Cell → Single) (goal : Cell) (hsource : maze.isOpen source = true) :
    Valid maze source goal (start estimate source) := by
  have hzero : (start estimate source).best.get source = some 0 :=
    best_start_iff.mpr ⟨rfl, rfl⟩
  refine ⟨⟨hzero, ?_, ?_, ?_⟩, ?_⟩
  · intro cell steps hne hcell
    exact absurd (best_start_iff.mp hcell).1 hne
  · intro cell steps hcell
    obtain ⟨rfl, rfl⟩ := best_start_iff.mp hcell
    refine ⟨[cell], List.nodup_singleton cell, rfl, ?_, ?_⟩
    · intro other hother
      rw [List.mem_singleton.mp hother, hsource]
    · intro other hother
      rw [List.mem_singleton.mp hother]
      exact ⟨0, hzero, Nat.le_refl 0⟩
  · intro entry hentry
    obtain rfl := List.mem_singleton.mp hentry
    exact ⟨0, hzero, Nat.le_refl 0⟩
  · intro cell steps hcell
    obtain ⟨rfl, rfl⟩ := best_start_iff.mp hcell
    exact Or.inl ⟨_, List.mem_singleton.mpr rfl, rfl, rfl⟩

/-! ## Entering an exit -/

section Enter

variable {cell next : Cell} {steps : Nat} {search : Search}

theorem enter_of_within (h : Within search.best steps next) :
    enter estimate cell steps search next = search := by
  have himproves : ¬ improves search.best steps next = true := by
    rw [improves_eq_true_iff]
    exact not_not_intro h
  cases search
  exact if_neg himproves

theorem enter_of_not_within (h : ¬ Within search.best steps next) :
    enter estimate cell steps search next =
      { best := search.best.set next (some steps)
        parent := search.parent.set next (some cell)
        frontier := search.frontier.insert
          ⟨Single.ofNat steps + estimate next, search.sequence + 1, steps, next⟩
        sequence := search.sequence + 1 } := by
  have himproves := improves_eq_true_iff.mpr h
  cases search
  exact if_pos himproves

/-- Entering an exit makes no cell farther. -/
theorem Within.enter {bound : Nat} {other : Cell} (h : Within search.best bound other) :
    Within (enter estimate cell steps search next).best bound other := by
  by_cases hnext : Within search.best steps next
  · rw [enter_of_within hnext]
    exact h
  · rw [enter_of_not_within hnext]
    exact h.set hnext

/-- An exit that has been entered is near enough. -/
theorem within_enter_self :
    Within (enter estimate cell steps search next).best steps next := by
  by_cases hnext : Within search.best steps next
  · rw [enter_of_within hnext]
    exact hnext
  · rw [enter_of_not_within hnext]
    exact ⟨steps, Grid.get_set_self _ _ _, Nat.le_refl steps⟩

theorem Waits.enter {other : Cell} {known : Nat} (h : Waits search other known) :
    Waits (enter estimate cell steps search next) other known := by
  by_cases hnext : Within search.best steps next
  · rw [enter_of_within hnext]
    exact h
  · rw [enter_of_not_within hnext]
    obtain ⟨entry, hentry, hcell, hsteps⟩ := h
    exact ⟨entry, Frontier.mem_insert_iff.mpr (Or.inr hentry), hcell, hsteps⟩

theorem IsDone.enter {other : Cell} {known : Nat} (h : IsDone maze goal search other known) :
    IsDone maze goal (enter estimate cell steps search next) other known :=
  ⟨h.1, fun exit hexit => (h.2 exit hexit).enter⟩

/-- Entering an exit of a cell keeps what is known about the cells sound. -/
theorem Sound.enter (h : Sound maze source search) (hbest : search.best.get cell = some steps)
    (hexit : next ∈ maze.exits cell) :
    Sound maze source (enter estimate cell (steps + 1) search next) := by
  by_cases hnext : Within search.best (steps + 1) next
  · rw [enter_of_within hnext]
    exact h
  have hnextSource : next ≠ source := by
    rintro rfl
    exact hnext ⟨0, h.source_best, Nat.zero_le _⟩
  have hnextCell : next ≠ cell := by
    rintro rfl
    exact hnext ⟨steps, hbest, Nat.le_succ steps⟩
  rw [enter_of_not_within hnext]
  refine ⟨?_, ?_, ?_, ?_⟩
  · rw [Grid.get_set_of_ne _ hnextSource, h.source_best]
  · intro other known hother hknown
    by_cases heq : next = other
    · subst heq
      rw [Grid.get_set_self] at hknown ⊢
      cases hknown
      exact ⟨cell, steps, rfl, hexit, by rw [Grid.get_set_of_ne _ hnextCell, hbest],
        Nat.lt_succ_self steps⟩
    · rw [Grid.get_set_of_ne _ heq] at hknown ⊢
      -- The parent may be the exit itself, which has only come nearer, so the steps still drop.
      obtain ⟨earlier, before, hparent, hmem, hbefore, hlt⟩ := h.parent other known hother hknown
      have hwithin : Within search.best before earlier := ⟨before, hbefore, Nat.le_refl before⟩
      obtain ⟨now, hnow, hle⟩ := hwithin.set hnext
      exact ⟨earlier, now, hparent, hmem, hnow, by omega⟩
  · intro other known hknown
    by_cases heq : next = other
    · subst heq
      rw [Grid.get_set_self] at hknown
      cases hknown
      obtain ⟨trail, htrail⟩ := h.trail cell steps hbest
      exact ⟨next :: trail, htrail.cons (Maze.isOpen_of_mem_exits hexit) hnext⟩
    · rw [Grid.get_set_of_ne _ heq] at hknown
      obtain ⟨trail, htrail⟩ := h.trail other known hknown
      exact ⟨trail, htrail.set hnext⟩
  · intro entry hentry
    rcases Frontier.mem_insert_iff.mp hentry with rfl | hentry
    · exact ⟨steps + 1, Grid.get_set_self _ _ _, Nat.le_refl _⟩
    · exact (h.entries entry hentry).set hnext

/-- Entering an exit of a cell leaves the search underway. -/
theorem Underway.enter (h : Underway maze source goal cell steps search)
    (hexit : next ∈ maze.exits cell) :
    Underway maze source goal cell steps (enter estimate cell (steps + 1) search next) := by
  refine ⟨h.sound.enter h.best_eq hexit, ?_, ?_⟩
  · by_cases hnext : Within search.best (steps + 1) next
    · rw [enter_of_within hnext]
      exact h.best_eq
    · have hne : next ≠ cell := by
        rintro rfl
        exact hnext ⟨steps, h.best_eq, Nat.le_succ steps⟩
      rw [enter_of_not_within hnext, Grid.get_set_of_ne _ hne, h.best_eq]
  · intro other known hother hknown
    by_cases hsame : search.best.get other = some known
    · rcases h.complete other known hother hsame with hwaits | hdone
      · exact Or.inl hwaits.enter
      · exact Or.inr hdone.enter
    · -- Only the exit itself can have got other steps, and it waits with them.
      left
      by_cases hnext : Within search.best (steps + 1) next
      · rw [enter_of_within hnext] at hknown
        exact absurd hknown hsame
      · rw [enter_of_not_within hnext] at hknown ⊢
        by_cases heq : next = other
        · subst heq
          rw [Grid.get_set_self] at hknown
          cases hknown
          exact ⟨_, Frontier.mem_insert_iff.mpr (Or.inl rfl), rfl, rfl⟩
        · rw [Grid.get_set_of_ne _ heq] at hknown
          exact absurd hknown hsame

end Enter

/-! ## Expanding a cell -/

section Expand

variable {cell : Cell} {steps : Nat} {search : Search}

/-- Once some exits of a cell have been entered, the search is still underway and these exits
are near enough. -/
theorem Underway.foldl_enter (estimate : Cell → Single) (exits : List Cell)
    (hexits : ∀ next ∈ exits, next ∈ maze.exits cell)
    (h : Underway maze source goal cell steps search) :
    Underway maze source goal cell steps
        (exits.foldl (Search.enter estimate cell (steps + 1)) search) ∧
      (∀ next ∈ exits,
        Within (exits.foldl (Search.enter estimate cell (steps + 1)) search).best
          (steps + 1) next) ∧
      ∀ bound other, Within search.best bound other →
        Within (exits.foldl (Search.enter estimate cell (steps + 1)) search).best bound other := by
  induction exits generalizing search with
  | nil => exact ⟨h, by simp, fun _ _ hwithin => hwithin⟩
  | cons first rest ih =>
      rw [List.foldl_cons]
      obtain ⟨hunderway, hrest, hkeep⟩ := ih
        (fun next hnext => hexits next (List.mem_cons_of_mem _ hnext))
        (h.enter (hexits first List.mem_cons_self))
      refine ⟨hunderway, ?_, ?_⟩
      · intro next hnext
        rcases List.mem_cons.mp hnext with rfl | hnext
        · exact hkeep _ _ within_enter_self
        · exact hrest next hnext
      · intro bound other hwithin
        exact hkeep bound other hwithin.enter

/-- The entries from the first fresh one on. -/
def fresh (search : Search) : Frontier := search.frontier.dropWhile (isStale search.best)

variable {entry : Entry} {rest : Frontier}

theorem mem_of_fresh_eq_cons (h : search.fresh = entry :: rest) {other : Entry}
    (hother : other = entry ∨ other ∈ rest) : other ∈ search.frontier := by
  apply (List.dropWhile_suffix (isStale search.best)).subset
  change other ∈ search.fresh
  rw [h]
  exact List.mem_cons.mpr hother

/-- An entry with the steps that its cell is known with is not passed over. -/
theorem mem_fresh_of_best {other : Entry} (hother : other ∈ search.frontier)
    (hbest : search.best.get other.cell = some other.steps) : other ∈ search.fresh := by
  rw [← List.takeWhile_append_dropWhile (p := isStale search.best) (l := search.frontier)]
    at hother
  rcases List.mem_append.mp hother with htaken | hdropped
  · have hstale := List.mem_takeWhile_imp htaken
    have hfresh : isStale search.best other = false := by
      rw [isStale_eq_false_iff]
      intro known hknown
      rw [hbest] at hknown
      cases hknown
      exact Nat.le_refl _
    rw [hfresh] at hstale
    cases hstale
  · exact hdropped

/-- The first fresh entry has the steps that its cell is known with. -/
theorem Sound.best_of_fresh (h : Sound maze source search) (hfresh : search.fresh = entry :: rest) :
    search.best.get entry.cell = some entry.steps := by
  obtain ⟨known, hknown, hle⟩ := h.entries entry (mem_of_fresh_eq_cons hfresh (Or.inl rfl))
  have hstale : isStale search.best entry = false := by
    have hhead := List.head?_dropWhile_not (isStale search.best) search.frontier
    unfold fresh at hfresh
    rw [hfresh] at hhead
    exact hhead
  have hge := isStale_eq_false_iff.mp hstale known hknown
  rw [hknown, Nat.le_antisymm hle hge]

/-- Before the exits of the first fresh entry are entered, the search is underway. -/
theorem Valid.underway (h : Valid maze source goal search) (hfresh : search.fresh = entry :: rest) :
    Underway maze source goal entry.cell entry.steps { search with frontier := rest } := by
  refine ⟨⟨h.sound.source_best, h.sound.parent, h.sound.trail, ?_⟩,
    h.sound.best_of_fresh hfresh, ?_⟩
  · intro other hother
    exact h.sound.entries other (mem_of_fresh_eq_cons hfresh (Or.inr hother))
  · intro other known hother hknown
    rcases h.complete other known hknown with ⟨waiting, hwaiting, rfl, rfl⟩ | hdone
    · have hmem := mem_fresh_of_best hwaiting hknown
      rw [hfresh] at hmem
      rcases List.mem_cons.mp hmem with rfl | hmem
      · exact absurd rfl hother
      · exact Or.inl ⟨waiting, hmem, rfl, rfl⟩
    · exact Or.inr hdone

/-- An expansion keeps the search valid. -/
theorem Valid.expand (h : Valid maze source goal search) (hfresh : search.fresh = entry :: rest)
    (hgoal : entry.cell ≠ goal) :
    Valid maze source goal (search.expand maze estimate entry rest) := by
  obtain ⟨hunderway, hexits, -⟩ :=
    (h.underway hfresh).foldl_enter estimate (maze.exits entry.cell) (fun _ hnext => hnext)
  refine ⟨hunderway.sound, ?_⟩
  intro cell known hknown
  by_cases heq : cell = entry.cell
  · subst heq
    have hsteps := hunderway.best_eq
    unfold Search.expand at hknown
    rw [hknown] at hsteps
    cases hsteps
    exact Or.inr ⟨hgoal, hexits⟩
  · exact hunderway.complete cell known heq hknown

end Expand

end Search
end MazeAgent
