import MazeAgent.Proofs.Distance.Estimate
import MazeAgent.Proofs.Route.Budget

/-!
# The order of the frontier

The frontier stays in the order of its estimates, and every estimate is made of the steps of its
entry and of what its cell is estimated to have left. A cell is entered again only with fewer
steps, so that no two entries of a cell have the same.

**Results.**
* `Frontier.pairwise_insert`: an entry is inserted at its place.
* `Search.Ordered`: the order of the frontier; `Search.Valid.ordered_after` shows that all
  expansions keep it.
-/

namespace MazeAgent

/-! ## Inserting an entry -/

namespace Entry

theorem place_le_of_compare_eq_lt {a b : Entry} (h : a.compare b = .lt) :
    a.estimate.place ≤ b.estimate.place := by
  rcases Ordering.then_eq_lt.mp h with hlt | ⟨heq, -⟩
  · exact (compare_lt_iff_lt.mp hlt).le
  · exact (compare_eq_iff_eq.mp heq).le

theorem place_le_of_compare_ne_lt {a b : Entry} (h : a.compare b ≠ .lt) :
    b.estimate.place ≤ a.estimate.place := by
  by_contra hlt
  exact h (Ordering.then_eq_lt.mpr (Or.inl (compare_lt_iff_lt.mpr (not_le.mp hlt))))

end Entry

namespace Frontier

theorem insert_perm (entry : Entry) (frontier : Frontier) :
    (frontier.insert entry).Perm (entry :: frontier) := by
  induction frontier with
  | nil => exact .refl _
  | cons first rest ih =>
      unfold insert
      split
      · exact .refl _
      · exact (ih.cons first).trans (.swap entry first rest)

/-- An entry is inserted at its place in every order that follows the order of the entries. -/
theorem pairwise_insert {before : Entry → Entry → Prop} {frontier : Frontier}
    (htrans : ∀ a b c, before a b → before b c → before a c)
    (hlt : ∀ a b : Entry, a.compare b = .lt → before a b)
    (hge : ∀ a b : Entry, a.compare b ≠ .lt → before b a) (h : frontier.Pairwise before)
    (entry : Entry) : (frontier.insert entry).Pairwise before := by
  induction frontier with
  | nil => exact List.pairwise_singleton _ _
  | cons first rest ih =>
      obtain ⟨hfirst, hrest⟩ := List.pairwise_cons.mp h
      unfold Frontier.insert
      split
      · next hbefore =>
        refine List.pairwise_cons.mpr ⟨?_, h⟩
        intro other hother
        rcases List.mem_cons.mp hother with rfl | hother
        · exact hlt _ _ hbefore
        · exact htrans _ _ _ (hlt _ _ hbefore) (hfirst other hother)
      · next hbehind =>
        refine List.pairwise_cons.mpr ⟨?_, ih hrest⟩
        intro other hother
        rcases mem_insert_iff.mp hother with rfl | hother
        · exact hge _ _ hbehind
        · exact hfirst other hother

/-- The entries are in the order of their estimates. -/
def IsSorted (frontier : Frontier) : Prop :=
  frontier.Pairwise (fun a b => a.estimate.place ≤ b.estimate.place)

theorem IsSorted.insert {frontier : Frontier} (h : frontier.IsSorted) (entry : Entry) :
    (frontier.insert entry).IsSorted := by
  refine pairwise_insert ?_ ?_ ?_ h entry
  · exact fun _ _ _ => Int.le_trans
  · exact fun _ _ => Entry.place_le_of_compare_eq_lt
  · exact fun _ _ => Entry.place_le_of_compare_ne_lt

/-- No two entries of a cell have the same steps. -/
def IsApart (frontier : Frontier) : Prop :=
  frontier.Pairwise (fun a b => a.cell = b.cell → a.steps ≠ b.steps)

theorem IsApart.insert {frontier : Frontier} (h : frontier.IsApart) {entry : Entry}
    (hnew : ∀ other ∈ frontier, entry.cell = other.cell → entry.steps ≠ other.steps) :
    (frontier.insert entry).IsApart := by
  refine (List.Perm.pairwise_iff ?_ (insert_perm entry frontier)).mpr
    (List.pairwise_cons.mpr ⟨hnew, h⟩)
  intro a b hab hcell
  exact (hab hcell.symm).symm

end Frontier

namespace Search

variable {maze : Maze} {estimate : Cell → Single} {stepsLeft : Cell → Nat}
  {source goal cell next : Cell} {steps : Nat} {search later : Search}

/-! ## Ordered searches -/

/-- What an expansion keeps about the order of the entries. -/
structure Ordered (estimate : Cell → Single) (search : Search) : Prop where
  isSorted : search.frontier.IsSorted
  isApart : search.frontier.IsApart
  estimate_eq : ∀ entry ∈ search.frontier,
    entry.estimate = Single.ofNat entry.steps + estimate entry.cell

/-- An entry is made only with fewer steps than all others of its cell. -/
theorem Underway.ordered_enter (h : Underway maze source goal cell steps search)
    (hordered : Ordered estimate search) :
    Ordered estimate (Search.enter estimate cell (steps + 1) search next) := by
  by_cases hnext : Within search.best (steps + 1) next
  · rw [enter_of_within hnext]
    exact hordered
  · rw [enter_of_not_within hnext]
    refine ⟨hordered.isSorted.insert _, hordered.isApart.insert ?_, ?_⟩
    · intro other hother hcell hsteps
      have hwithin := h.sound.entries other hother
      dsimp only at hcell hsteps
      rw [← hcell, ← hsteps] at hwithin
      exact hnext hwithin
    · intro entry hentry
      rcases Frontier.mem_insert_iff.mp hentry with rfl | hentry
      · rfl
      · exact hordered.estimate_eq entry hentry

section Fresh

variable {entry : Entry} {rest : Frontier}

theorem sublist_of_fresh_eq_cons (h : search.fresh = entry :: rest) :
    (entry :: rest).Sublist search.frontier := by
  rw [← h]
  exact List.dropWhile_sublist _

/-- The first fresh entry has the least estimate of all that are known with their steps. -/
theorem Ordered.place_le (h : Ordered estimate search) (hfresh : search.fresh = entry :: rest)
    {other : Entry} (hother : other ∈ search.frontier)
    (hbest : search.best.get other.cell = some other.steps) :
    entry.estimate.place ≤ other.estimate.place := by
  have hmem := mem_fresh_of_best hother hbest
  rw [hfresh] at hmem
  rcases List.mem_cons.mp hmem with rfl | hrest
  · exact Int.le_refl _
  · exact (List.pairwise_cons.mp (h.isSorted.sublist (sublist_of_fresh_eq_cons hfresh))).1
      other hrest

theorem Ordered.pop (h : Ordered estimate search) (hfresh : search.fresh = entry :: rest) :
    Ordered estimate { search with frontier := rest } := by
  have hsub := (List.sublist_cons_self entry rest).trans (sublist_of_fresh_eq_cons hfresh)
  refine ⟨h.isSorted.sublist hsub, h.isApart.sublist hsub, ?_⟩
  intro other hother
  exact h.estimate_eq other (hsub.subset hother)

theorem Valid.ordered_expand (h : Valid maze source goal search)
    (hordered : Ordered estimate search) (hfresh : search.fresh = entry :: rest) :
    Ordered estimate (search.expand maze estimate entry rest) :=
  (h.underway hfresh).foldl_enter_keeps (fun _ _ hunder _ => hunder.ordered_enter) _
    (fun _ hnext => hnext) (hordered.pop hfresh)

end Fresh

theorem Valid.ordered_after (count : Nat) (h : Valid maze source goal search)
    (hordered : Ordered estimate search)
    (hlater : Search.after maze estimate goal count search = some later) :
    Ordered estimate later := by
  refine h.after_keeps count ?_ hordered hlater
  intro search later hvalid hbefore hadvance
  obtain ⟨entry, rest, hfresh, -, rfl⟩ := advance_eq_some_iff.mp hadvance
  exact hvalid.ordered_expand hbefore hfresh

end Search
end MazeAgent
