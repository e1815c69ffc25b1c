import MazeAgent.Proofs.Route.Order

/-!
# The first entry of a search

Estimates are compared by their bits, so that the order of the entries is total for all of them,
not-a-numbers included. Entries with the same bits are told apart by their sequence numbers, and the
sequence number of an entry is its position among all entries that a search has made. So whenever an
entry is taken from the frontier, one entry comes before all others, and of several entries with the
same estimate it is the one that was made first.

**Results.**
* `Entry.isOrder_compare`: the laws of the order.
* `Search.record`: the entries that a search makes, one after the other.
* `Search.Recorded.enter`, `Search.Recorded.after`: the frontier is a part of the record, in order.
* `Search.openAt_precedence`: the entry that is taken next.
-/

namespace MazeAgent

/-! ## The order of the entries -/

namespace Entry

/-- A comparison that is a total order of the bits of the estimates and the sequence numbers. An
equality and a partial comparison come with it and say the same. -/
structure IsOrder (cmp : Entry → Entry → Ordering) (same : Entry → Entry → Bool)
    (partialCmp : Entry → Entry → Option Ordering) : Prop where
  refl : ∀ a, cmp a a = .eq
  swap : ∀ a b, cmp b a = (cmp a b).swap
  antisymm : ∀ a b, (cmp a b).isLE → (cmp b a).isLE → cmp a b = .eq
  trans : ∀ a b c, (cmp a b).isLE → (cmp b c).isLE → (cmp a c).isLE
  total : ∀ a b, (cmp a b).isLE ∨ (cmp b a).isLE
  eq_iff : ∀ a b, cmp a b = .eq ↔ a.estimate.bits = b.estimate.bits ∧ a.sequence = b.sequence
  same_iff : ∀ a b, same a b = true ↔ cmp a b = .eq
  partial_eq : ∀ a b, partialCmp a b = some (cmp a b)

instance : Std.TransCmp Entry.compare :=
  inferInstanceAs (Std.TransCmp (compareLex (compareOn (fun entry : Entry => entry.estimate.place))
    (compareOn Entry.sequence)))

theorem compare_eq_eq_iff {a b : Entry} :
    a.compare b = .eq ↔ a.estimate.bits = b.estimate.bits ∧ a.sequence = b.sequence := by
  have hbits : a.estimate.bits = b.estimate.bits ↔ a.estimate.place = b.estimate.place := by
    constructor
    · intro h
      exact congrArg Single.place (congrArg Single.mk h)
    · intro h
      exact congrArg Single.bits (Single.place_injective h)
  rw [hbits]
  exact Ordering.then_eq_eq.trans (and_congr compare_eq_iff_eq compare_eq_iff_eq)

theorem isOrder_compare : IsOrder Entry.compare ties partialCompare where
  refl _ := Std.ReflCmp.compare_self
  swap _ _ := Std.OrientedCmp.eq_swap
  antisymm _ _ := Std.OrientedCmp.isLE_antisymm
  trans _ _ _ := Std.TransCmp.isLE_trans
  total a b := by
    have hswap : b.compare a = (a.compare b).swap := Std.OrientedCmp.eq_swap
    rw [hswap]
    cases a.compare b <;> decide
  eq_iff _ _ := compare_eq_eq_iff
  same_iff _ _ := beq_iff_eq
  partial_eq _ _ := rfl

/-- What has no value comes before both zeros or after them, by its sign. -/
example : (⟨.invalid, 3, 0, ⟨0⟩⟩ : Entry).compare ⟨.negZero, 2, 0, ⟨0⟩⟩ = .lt ∧
    (⟨.negZero, 2, 0, ⟨0⟩⟩ : Entry).compare ⟨0, 1, 0, ⟨0⟩⟩ = .lt ∧
    (⟨0, 1, 0, ⟨0⟩⟩ : Entry).compare ⟨.nan, 0, 0, ⟨0⟩⟩ = .lt := by decide +kernel

end Entry

namespace Frontier

/-- No entry comes before an earlier one in the order of the entries. -/
def IsRanked (frontier : Frontier) : Prop :=
  frontier.Pairwise (fun a b => (a.compare b).isLE)

theorem IsRanked.insert {frontier : Frontier} (h : frontier.IsRanked) (entry : Entry) :
    (frontier.insert entry).IsRanked := by
  refine pairwise_insert ?_ ?_ ?_ h entry
  · exact fun _ _ _ => Std.TransCmp.isLE_trans
  · intro a b hlt
    rw [hlt]
    rfl
  · intro a b hge
    rw [Entry.isOrder_compare.swap, Ordering.isLE_swap]
    cases hab : a.compare b with
    | lt => exact absurd hab hge
    | eq | gt => rfl

end Frontier

namespace Search

variable {maze : Maze} {estimate : Cell → Single} {source goal cell next : Cell} {steps count : Nat}
  {search later : Search} {entry : Entry} {entries past : List Entry}

/-! ## The entries that are made -/

/-- The entry that is made for an exit, when fewer steps to it have turned up. -/
def entered (estimate : Cell → Single) (steps : Nat) (search : Search) (next : Cell) :
    List Entry :=
  if improves search.best steps next then
    [⟨Single.ofNat steps + estimate next, search.sequence + 1, steps, next⟩]
  else
    []

/-- The entries that are made for some exits of a cell, one after the other. -/
def enteredAll (estimate : Cell → Single) (source : Cell) (steps : Nat) :
    List Cell → Search → List Entry
  | [], _ => []
  | next :: rest, search => entered estimate steps search next ++
      enteredAll estimate source steps rest (enter estimate source steps search next)

/-- The entries that are made by a number of expansions. -/
def made (maze : Maze) (estimate : Cell → Single) (goal : Cell) :
    (count : Nat) → Search → List Entry
  | 0, _ => []
  | count + 1, search =>
      match search.fresh with
      | [] => []
      | entry :: rest =>
          if entry.cell = goal then
            []
          else
            enteredAll estimate entry.cell (entry.steps + 1) (maze.exits entry.cell)
                { search with frontier := rest } ++
              made maze estimate goal count (search.expand maze estimate entry rest)

/-- All entries of a search up to a number of expansions, in the order in which they are made. -/
def record (maze : Maze) (estimate : Cell → Single) (source goal : Cell) (count : Nat) :
    List Entry :=
  (start estimate source).frontier ++ made maze estimate goal count (start estimate source)

theorem entered_of_within (h : Within search.best steps next) :
    entered estimate steps search next = [] := by
  rw [entered, if_neg]
  rw [improves_eq_true_iff]
  exact not_not_intro h

theorem entered_of_not_within (h : ¬ Within search.best steps next) :
    entered estimate steps search next =
      [⟨Single.ofNat steps + estimate next, search.sequence + 1, steps, next⟩] :=
  if_pos (improves_eq_true_iff.mpr h)

theorem frontier_enter_perm :
    (enter estimate cell steps search next).frontier.Perm
      (entered estimate steps search next ++ search.frontier) := by
  by_cases hnext : Within search.best steps next
  · rw [enter_of_within hnext, entered_of_within hnext]
    exact .refl _
  · rw [enter_of_not_within hnext, entered_of_not_within hnext]
    exact Frontier.insert_perm _ _

/-! ## The frontier and the record -/

/-- The frontier is an ordered part of what has been made, and this is numbered through. -/
structure Recorded (past : List Entry) (search : Search) : Prop where
  isRanked : search.frontier.IsRanked
  subperm : search.frontier.Subperm past
  sequences : past.map Entry.sequence = List.range (search.sequence + 1)

theorem start_recorded (estimate : Cell → Single) (source : Cell) :
    Recorded (start estimate source).frontier (start estimate source) :=
  ⟨List.pairwise_singleton _ _, List.Subperm.refl _, rfl⟩

/-- An entry is made with the next number. -/
theorem Recorded.enter (h : Recorded past search) :
    Recorded (past ++ entered estimate steps search next)
      (Search.enter estimate cell steps search next) := by
  have hsubperm : (Search.enter estimate cell steps search next).frontier.Subperm
      (past ++ entered estimate steps search next) :=
    (frontier_enter_perm.subperm.trans ((List.subperm_append_left _).mpr h.subperm)).trans
      List.perm_append_comm.subperm
  by_cases hnext : Within search.best steps next
  · rw [enter_of_within hnext, entered_of_within hnext, List.append_nil]
    exact h
  · rw [enter_of_not_within hnext, entered_of_not_within hnext] at hsubperm ⊢
    refine ⟨h.isRanked.insert _, hsubperm, ?_⟩
    rw [List.map_append, h.sequences, List.range_succ (n := search.sequence + 1)]
    rfl

theorem Recorded.foldl_enter (exits : List Cell) (h : Recorded past search) :
    Recorded (past ++ enteredAll estimate cell steps exits search)
      (exits.foldl (Search.enter estimate cell steps) search) := by
  induction exits generalizing past search with
  | nil =>
      rw [enteredAll, List.append_nil]
      exact h
  | cons first rest ih =>
      rw [enteredAll, ← List.append_assoc]
      exact ih h.enter

/-- The frontier is an ordered part of the record after any number of expansions. -/
theorem Recorded.after (count : Nat) (h : Recorded past search)
    (hlater : Search.after maze estimate goal count search = some later) :
    Recorded (past ++ made maze estimate goal count search) later := by
  induction count generalizing past search with
  | zero =>
      cases hlater
      rw [made, List.append_nil]
      exact h
  | succ count ih =>
      obtain ⟨next, hnext, hrest⟩ := Option.bind_eq_some_iff.mp hlater
      obtain ⟨entry, rest, hfresh, hgoal, rfl⟩ := advance_eq_some_iff.mp hnext
      have hsub := (List.sublist_cons_self entry rest).trans (sublist_of_fresh_eq_cons hfresh)
      have hpop : Recorded past { search with frontier := rest } :=
        ⟨h.isRanked.sublist hsub, hsub.subperm.trans h.subperm, h.sequences⟩
      rw [made, hfresh]
      dsimp only
      rw [if_neg hgoal, ← List.append_assoc]
      exact ih (hpop.foldl_enter _) hrest

/-- Every entry has the number of its position. -/
theorem Recorded.sequence_eq (h : Recorded past search) {i : Nat} (hentry : past[i]? = some entry) :
    entry.sequence = i := by
  have hsequence : (past.map Entry.sequence)[i]? = some entry.sequence := by
    rw [List.getElem?_map, hentry, Option.map_some]
  rw [h.sequences, List.getElem?_eq_some_iff] at hsequence
  obtain ⟨hlt, hsequence⟩ := hsequence
  rw [← hsequence, List.getElem_range]

theorem Recorded.getElem?_eq (h : Recorded past search) (hentry : entry ∈ past) :
    past[entry.sequence]? = some entry := by
  obtain ⟨i, hi⟩ := List.mem_iff_getElem?.mp hentry
  rw [h.sequence_eq hi, hi]

/-- No entry waits twice. -/
theorem Recorded.nodup (h : Recorded past search) : search.frontier.Nodup := by
  have hpast : past.Nodup := by
    apply List.Nodup.of_map Entry.sequence
    rw [h.sequences]
    exact List.nodup_range
  obtain ⟨part, hperm, hsub⟩ := h.subperm
  exact hperm.nodup_iff.mp (hpast.sublist hsub)

/-! ## The entry that is taken -/

/-- After a number of expansions, and after some entries that are no longer needed have been taken,
these are the entries from which the next one is taken. -/
def OpenAt (maze : Maze) (estimate : Cell → Single) (source goal : Cell) (count : Nat)
    (entries : List Entry) : Prop :=
  ∃ search stale, Search.after maze estimate goal count (start estimate source) = some search ∧
    search.frontier = stale ++ entries ∧ ∀ entry ∈ stale, isStale search.best entry = true

/-- The first fresh entry is taken from the entries that follow the others. -/
theorem openAt_fresh
    (h : Search.after maze estimate goal count (start estimate source) = some later) :
    OpenAt maze estimate source goal count later.fresh :=
  ⟨later, later.frontier.takeWhile (isStale later.best), h,
    List.takeWhile_append_dropWhile.symm, fun _ hentry => List.mem_takeWhile_imp hentry⟩

/-- The entries from which one is taken are recorded. -/
theorem OpenAt.exists_recorded (h : OpenAt maze estimate source goal count entries) :
    ∃ search, Recorded (record maze estimate source goal count) search ∧
      entries.Sublist search.frontier := by
  obtain ⟨search, stale, hafter, hfrontier, -⟩ := h
  refine ⟨search, (start_recorded estimate source).after count hafter, ?_⟩
  rw [hfrontier]
  exact List.sublist_append_right stale entries

/-- An entry that is not behind another one comes before it, or is the same one. -/
theorem Recorded.compare_eq_lt {other : Entry} (h : Recorded past search) (hentry : entry ∈ past)
    (hother : other ∈ past) (hne : entry ≠ other) (hle : (entry.compare other).isLE) :
    entry.compare other = .lt := by
  refine (Ordering.isLE_iff_eq_lt_or_eq_eq.mp hle).resolve_right ?_
  intro heq
  have hsame := h.getElem?_eq hentry
  rw [(Entry.compare_eq_eq_iff.mp heq).2, h.getElem?_eq hother] at hsame
  exact hne (Option.some.inj hsame).symm

/-- The order of the entries is total for all estimates. Whenever an entry is taken in a search, all
entries that have been made so far have the numbers of their positions. The entry that is taken
comes before all others that are open, so that it is the only least one, and among those with the
same estimate it is the one that was made first. -/
theorem openAt_precedence :
    Entry.IsOrder Entry.compare Entry.ties Entry.partialCompare ∧
    ∀ (maze : Maze) (estimate : Cell → Single) (source goal : Cell) (count : Nat) (entry : Entry)
      (rest : List Entry), OpenAt maze estimate source goal count (entry :: rest) →
      (∀ (i : Nat) (other : Entry), (record maze estimate source goal count)[i]? = some other →
        other.sequence = i) ∧
      (∀ other ∈ entry :: rest,
        (record maze estimate source goal count)[other.sequence]? = some other) ∧
      (∀ other ∈ rest, entry.compare other = .lt) ∧
      (∀ least ∈ entry :: rest,
        (∀ other ∈ entry :: rest, (least.compare other).isLE) ↔ least = entry) ∧
      ∀ other ∈ rest, other.estimate.bits = entry.estimate.bits →
        entry.sequence < other.sequence := by
  refine ⟨Entry.isOrder_compare, ?_⟩
  intro maze estimate source goal count entry rest hopen
  obtain ⟨search, hrecorded, hsub⟩ := hopen.exists_recorded
  have hmem : ∀ other ∈ entry :: rest, other ∈ record maze estimate source goal count :=
    fun other hother => hrecorded.subperm.subset (hsub.subset hother)
  obtain ⟨hfirst, -⟩ := List.pairwise_cons.mp (hrecorded.isRanked.sublist hsub)
  obtain ⟨hnew, -⟩ := List.nodup_cons.mp (hrecorded.nodup.sublist hsub)
  have hlt : ∀ other ∈ rest, entry.compare other = .lt := by
    intro other hother
    refine hrecorded.compare_eq_lt (hmem _ List.mem_cons_self)
      (hmem _ (List.mem_cons_of_mem _ hother)) ?_ (hfirst other hother)
    rintro rfl
    exact hnew hother
  refine ⟨fun _ _ => hrecorded.sequence_eq,
    fun other hother => hrecorded.getElem?_eq (hmem _ hother), hlt, ?_, ?_⟩
  · intro least hleast
    constructor
    · intro hle
      rcases List.mem_cons.mp hleast with rfl | hrest
      · rfl
      · have hback := hle entry List.mem_cons_self
        rw [Entry.isOrder_compare.swap entry least, hlt least hrest] at hback
        cases hback
    · rintro rfl other hother
      rcases List.mem_cons.mp hother with rfl | hother
      · rw [Entry.isOrder_compare.refl]
        rfl
      · exact hfirst other hother
  · intro other hother hbits
    rcases Ordering.then_eq_lt.mp (hlt other hother) with hplace | ⟨-, hsequence⟩
    · have hplace := compare_lt_iff_lt.mp hplace
      rw [congrArg Single.place (congrArg Single.mk hbits)] at hplace
      exact absurd hplace (lt_irrefl _)
    · exact compare_lt_iff_lt.mp hsequence

/-- The search on the ring after its first expansion, when all cells are estimated alike. -/
def crossing : Search :=
  (start (fun _ => 1) ⟨29⟩).expand Snapshot.detour.walls (fun _ => 1) ⟨1, 0, 0, ⟨29⟩⟩ []

theorem after_crossing :
    Search.after Snapshot.detour.walls (fun _ => 1) ⟨60⟩ 1 (start (fun _ => 1) ⟨29⟩) =
      some crossing := by
  have hfresh : (start (fun _ => 1) ⟨29⟩).fresh = [⟨1, 0, 0, ⟨29⟩⟩] := by decide +kernel
  have hadvance : (start (fun _ => 1) ⟨29⟩).advance Snapshot.detour.walls (fun _ => 1) ⟨60⟩ =
      some crossing :=
    advance_eq_some_iff.mpr ⟨_, _, hfresh, by decide, rfl⟩
  rw [Search.after, hadvance]
  rfl

/-- Two exits wait with the same estimate, and the one that was entered first is taken. -/
theorem openAt_precedence_crossing :
    OpenAt Snapshot.detour.walls (fun _ => 1) ⟨29⟩ ⟨60⟩ 1
        [⟨2, 1, 1, ⟨57⟩⟩, ⟨2, 2, 1, ⟨30⟩⟩] ∧
      (⟨2, 1, 1, ⟨57⟩⟩ : Entry).compare ⟨2, 2, 1, ⟨30⟩⟩ = .lt := by
  have hfresh : crossing.fresh = [⟨2, 1, 1, ⟨57⟩⟩, ⟨2, 2, 1, ⟨30⟩⟩] := by decide +kernel
  have hopen := openAt_fresh after_crossing
  rw [hfresh] at hopen
  obtain ⟨-, hlt, -⟩ := (openAt_precedence.2 _ _ _ _ _ _ _ hopen).2
  exact ⟨hopen, hlt _ (List.mem_singleton.mpr rfl)⟩

end Search
end MazeAgent
