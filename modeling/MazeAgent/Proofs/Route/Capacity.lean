import MazeAgent.Proofs.Route.Budget

/-!
# How large a search gets

An entry is made only when it saves steps, and the steps of all open cells together are at most
the square of their number. So no count of a search leaves its machine word, however many
expansions are allowed: neither the number of expansions, nor the number of entries, nor the
steps of an entry.

**Results.**
* `Search.Paid`: the entries that have been made are paid with saved steps.
* `Search.Valid.paid_after`: they are after any number of expansions.
* `Search.contained_of_after`: all counts of a search are small.
-/

namespace MazeAgent
namespace Search

variable {maze : Maze} {estimate : Cell → Single} {source goal cell next : Cell} {steps : Nat}
  {search later : Search}

/-! ## Paying for entries -/

/-- Every entry that has been made has saved a step, and none is as many steps away as there are
open cells. -/
structure Paid (maze : Maze) (search : Search) : Prop where
  sequence_le : search.sequence + remoteness maze search.best ≤
    maze.openCells.length * maze.openCells.length
  steps_lt : ∀ entry ∈ search.frontier, entry.steps < maze.openCells.length

theorem start_paid (estimate : Cell → Single) (hsource : maze.isOpen source = true) :
    Paid maze (start estimate source) := by
  have hpos : 0 < maze.openCells.length :=
    List.length_pos_of_mem (Maze.mem_openCells_iff.mpr hsource)
  have hweight := weight_start_le estimate hsource
  refine ⟨?_, ?_⟩
  · simp only [weight, start, List.length_singleton] at hweight ⊢
    omega
  · intro entry hentry
    obtain rfl := List.mem_singleton.mp hentry
    exact hpos

/-- Entering an exit pays for itself. -/
theorem Underway.paid_enter (h : Underway maze source goal cell steps search)
    (hexit : next ∈ maze.exits cell) (hpaid : Paid maze search) :
    Paid maze (Search.enter estimate cell (steps + 1) search next) := by
  by_cases hnext : Within search.best (steps + 1) next
  · rw [enter_of_within hnext]
    exact hpaid
  · have hopen := Maze.isOpen_of_mem_exits hexit
    obtain ⟨trail, htrail⟩ := h.sound.trail cell steps h.best_eq
    have hsteps := (htrail.cons hopen hnext).lt_length
    -- There is one more entry, and the steps of its cell have become fewer.
    have hlt := remoteness_set_lt hopen hsteps hnext
    have hbefore := hpaid.sequence_le
    rw [enter_of_not_within hnext]
    refine ⟨?_, ?_⟩
    · dsimp only
      omega
    · intro entry hentry
      rcases Frontier.mem_insert_iff.mp hentry with rfl | hentry
      · exact hsteps
      · exact hpaid.steps_lt entry hentry

theorem Valid.paid_advance (h : Valid maze source goal search) (hpaid : Paid maze search)
    (hlater : search.advance maze estimate goal = some later) : Paid maze later := by
  obtain ⟨entry, rest, hfresh, -, rfl⟩ := advance_eq_some_iff.mp hlater
  have hrest : Paid maze { search with frontier := rest } :=
    ⟨hpaid.sequence_le, fun other hother =>
      hpaid.steps_lt other (mem_of_fresh_eq_cons hfresh (Or.inr hother))⟩
  exact (h.underway hfresh).foldl_enter_keeps (fun _ _ hunder => hunder.paid_enter) _
    (fun _ hnext => hnext) hrest

/-- All entries are paid after any number of expansions. -/
theorem Valid.paid_after (count : Nat) (h : Valid maze source goal search)
    (hpaid : Paid maze search)
    (hlater : Search.after maze estimate goal count search = some later) : Paid maze later :=
  h.after_keeps count (fun _ _ hvalid => hvalid.paid_advance) hpaid hlater

/-! ## Counts -/

/-- All counts of a search after a number of expansions are small. -/
structure Contained (count : Nat) (search : Search) : Prop where
  count_le : count ≤ 868 * 868
  sequence_le : search.sequence ≤ 868 * 868
  best_lt : ∀ cell steps, search.best.get cell = some steps → steps < 868
  steps_lt : ∀ entry ∈ search.frontier, entry.steps < 868

theorem contained_of_after {count : Nat} (hsource : maze.isOpen source = true)
    (h : Search.after maze estimate goal count (start estimate source) = some later) :
    Contained count later := by
  have hstart := start_valid estimate goal hsource
  obtain ⟨hvalid, hcount⟩ := hstart.after count h
  have hpaid := hstart.paid_after count (start_paid estimate hsource) h
  have hweight := weight_start_le estimate hsource
  have hcells := length_openCells_le maze
  have hsquare : maze.openCells.length * maze.openCells.length ≤ 868 * 868 :=
    Nat.mul_le_mul hcells hcells
  have hsequence := hpaid.sequence_le
  refine ⟨by omega, by omega, ?_, ?_⟩
  · intro cell steps hcell
    exact (hvalid.sound.lt_length hcell).trans_le hcells
  · intro entry hentry
    exact (hpaid.steps_lt entry hentry).trans_le hcells

end Search
end MazeAgent
