import MazeAgent.Goal.Select
import MazeAgent.Proofs.Board.Adjacency
import MazeAgent.Proofs.Number.Order

/-!
# Scans for the cheapest cell

A scan in reading order that replaces its best cell only by a strictly cheaper one ends with the
first of the cells of least cost, as long as every cost is a number.

**Results.**
* `IsFirstMin.foldl`: a fold that keeps the better of two items ends with the first of the best.
* `Tile.isLE_compare_tile`, `Maze.pairwise_openCells`: the open cells come in reading order.
* `Field.mem_toList_iff`: the entries of a field are the scores of its open tiles.
* `GoalConfig.scan_none_isFirstLeast`: what a scan of numbers ends with.
-/

namespace MazeAgent

/-! ## The first of the best -/

section FirstMin

variable {α : Type} {score : α → Int} {items : List α} {best : α}

/-- An item has the least score of all, and those before it have a greater one. -/
def IsFirstMin (score : α → Int) (items : List α) (best : α) : Prop :=
  ∃ before after, items = before ++ best :: after ∧ (∀ other ∈ before, score best < score other) ∧
    ∀ other ∈ after, score best ≤ score other

theorem isFirstMin_singleton (best : α) : IsFirstMin score [best] best :=
  ⟨[], [], rfl, by simp, by simp⟩

theorem IsFirstMin.mem (h : IsFirstMin score items best) : best ∈ items := by
  obtain ⟨before, after, rfl, -, -⟩ := h
  simp

theorem IsFirstMin.le (h : IsFirstMin score items best) {other : α} (hother : other ∈ items) :
    score best ≤ score other := by
  obtain ⟨before, after, rfl, hbefore, hafter⟩ := h
  rcases List.mem_append.mp hother with hother | hother
  · exact (hbefore other hother).le
  · rcases List.mem_cons.mp hother with rfl | hother
    · exact le_rfl
    · exact hafter other hother

/-- One more item is the best only when its score is strictly less. -/
theorem IsFirstMin.append (h : IsFirstMin score items best) (next : α) :
    IsFirstMin score (items ++ [next]) (if score next < score best then next else best) := by
  split
  · next hlt => exact ⟨items, [], rfl, fun other hother => hlt.trans_le (h.le hother), by simp⟩
  · next hle =>
    obtain ⟨before, after, rfl, hbefore, hafter⟩ := h
    refine ⟨before, after ++ [next], by simp, hbefore, ?_⟩
    intro other hother
    rcases List.mem_append.mp hother with hother | hother
    · exact hafter other hother
    · obtain rfl := List.mem_singleton.mp hother
      exact Int.not_lt.mp hle

/-- A fold that keeps the earlier of two items with the same score. -/
theorem IsFirstMin.foldl {step : α → α → α} {rest : List α} (h : IsFirstMin score items best)
    (hstep : ∀ a ∈ items ++ rest, ∀ b ∈ rest, step a b = if score b < score a then b else a) :
    IsFirstMin score (items ++ rest) (rest.foldl step best) := by
  induction rest generalizing items best with
  | nil => simpa using h
  | cons next rest ih =>
      have hbest : best ∈ items ++ next :: rest := List.mem_append_left _ h.mem
      have hsame : items ++ next :: rest = (items ++ [next]) ++ rest := by simp
      rw [List.foldl_cons, hstep best hbest next List.mem_cons_self, hsame]
      apply ih (h.append next)
      intro a ha b hb
      rw [← hsame] at ha
      exact hstep a ha b (List.mem_cons_of_mem _ hb)

/-- The first of the best of some items is the first of the best of all, when what was left out is
worse. -/
theorem IsFirstMin.of_filter {keep : α → Bool} (h : IsFirstMin score (items.filter keep) best)
    (hworse : ∀ other ∈ items, keep other = false → score best < score other) :
    IsFirstMin score items best := by
  obtain ⟨before, after, hitems, hbefore, hafter⟩ := h
  obtain ⟨front, back, rfl, rfl, hback⟩ := List.filter_eq_append_iff.mp hitems
  obtain ⟨gap, tail, rfl, hgap, hbest, rfl⟩ := List.filter_eq_cons_iff.mp hback
  refine ⟨front ++ gap, tail, by simp, ?_, ?_⟩
  · intro other hother
    cases hkeep : keep other with
    | false => exact hworse other (by grind) hkeep
    | true =>
        rcases List.mem_append.mp hother with hother | hother
        · exact hbefore other (List.mem_filter.mpr ⟨hother, hkeep⟩)
        · exact absurd hkeep (hgap other hother)
  · intro other hother
    cases hkeep : keep other with
    | false => exact (hworse other (by grind) hkeep).le
    | true => exact hafter other (List.mem_filter.mpr ⟨hother, hkeep⟩)

end FirstMin

/-! ## Reading order -/

theorem Tile.isLE_compare_iff {a b : Tile} :
    (a.compare b).isLE = true ↔ a.row.toInt < b.row.toInt ∨
      a.row.toInt = b.row.toInt ∧ a.col.toInt ≤ b.col.toInt := by
  unfold Tile.compare
  rw [Ordering.isLE_then_iff_or, Int.isLE_compare, Int.compare_eq_lt, Int.compare_eq_eq]

theorem Tile.eq_of_isLE_compare {a b : Tile} (hab : (a.compare b).isLE = true)
    (hba : (b.compare a).isLE = true) : a = b := by
  rw [isLE_compare_iff] at hab hba
  exact ext_toInt (by omega) (by omega)

theorem Tile.isLE_compare_tile {a b : Cell} (h : a.index ≤ b.index) :
    (a.tile.compare b.tile).isLE = true := by
  have hindex : a.index.val ≤ b.index.val := h
  rw [isLE_compare_iff, a.row_tile, b.row_tile, a.col_tile, b.col_tile, Cell.row, Cell.row,
    Cell.col, Cell.col]
  omega

theorem Maze.pairwise_openCells (maze : Maze) :
    maze.openCells.Pairwise (fun a b => a.index < b.index) := by
  apply List.Pairwise.filter
  exact List.pairwise_map.mpr (List.pairwise_lt_finRange 868)

/-- Among entries in reading order, one comes no later than those that are not before it. -/
theorem Tile.isLE_compare_of_pairwise {before after : List (Cell × Single)}
    {best other : Cell × Single}
    (horder : (before ++ best :: after).Pairwise (fun a b => a.1.index < b.1.index))
    (hother : other ∈ before ++ best :: after) (hbefore : other ∉ before) :
    (best.1.tile.compare other.1.tile).isLE = true := by
  obtain ⟨-, hafter, -⟩ := List.pairwise_append.mp horder
  apply isLE_compare_tile
  rcases List.mem_cons.mp ((List.mem_append.mp hother).resolve_left hbefore) with rfl | hlater
  · exact le_rfl
  · exact ((List.pairwise_cons.mp hafter).1 other hlater).le

/-! ## The entries of a field -/

namespace Field

variable {field : Field}

theorem mem_toList_iff {cell : Cell} {score : Single} :
    (cell, score) ∈ field.toList ↔ field.score? cell.tile = some score := by
  unfold toList score? isOpen
  rw [Tile.cell?_tile]
  simp [Maze.mem_openCells_iff]

theorem pairwise_toList (field : Field) :
    field.toList.Pairwise (fun a b => a.1.index < b.1.index) :=
  List.pairwise_map.mpr field.walls.pairwise_openCells

/-- A field has an entry for every open tile of its board. -/
theorem exists_mem_toList {board : Snapshot} (hfield : field.walls = board.walls) {tile : Tile}
    (htile : board.isWalkable tile = true) :
    ∃ cell score, tile = cell.tile ∧ (cell, score) ∈ field.toList := by
  obtain ⟨cell, rfl, hopen⟩ := Snapshot.isWalkable_iff.mp htile
  rw [← hfield, ← Maze.mem_openCells_iff] at hopen
  exact ⟨cell, field.scores.get cell, rfl, List.mem_map_of_mem hopen⟩

theorem isWalkable_of_score? {board : Snapshot} (hfield : field.walls = board.walls) {cell : Cell}
    {score : Single} (h : field.score? cell.tile = some score) :
    board.isWalkable cell.tile = true := by
  rw [Snapshot.isWalkable_tile, ← hfield, ← Maze.mem_openCells_iff]
  obtain ⟨other, hother, hentry⟩ := List.mem_map.mp (mem_toList_iff.mpr h)
  cases hentry
  exact hother

theorem scoreOr_of_score? {cell : Cell} {score : Single} (h : field.score? cell.tile = some score) :
    field.scoreOr cell = score := by
  unfold score? at h
  rw [Tile.cell?_tile] at h
  unfold scoreOr
  dsimp only at h
  split at h
  · next hopen =>
    rw [if_pos hopen]
    exact Option.some.inj h
  · cases h

end Field

namespace GoalConfig

/-! ## The first of least cost -/

section Scan

variable {offers : List (Cell × Single)} {best : Cell × Single}

/-- The scan of cells with their costs, from a best one on. -/
def scan (best : Option (Cell × Single)) (offers : List (Cell × Single)) :
    Option (Cell × Single) :=
  offers.foldl (fun best offer => cheaper best offer.1 offer.2) best

/-- An offer is of least cost, and all offers before it cost more. -/
def IsFirstLeast (offers : List (Cell × Single)) (best : Cell × Single) : Prop :=
  ∃ before after, offers = before ++ best :: after ∧ (∀ other ∈ before, best.2 < other.2) ∧
    ∀ other ∈ after, best.2 ≤ other.2

theorem IsFirstLeast.mem (h : IsFirstLeast offers best) : best ∈ offers := by
  obtain ⟨before, after, rfl, -, -⟩ := h
  simp

theorem IsFirstLeast.le (h : IsFirstLeast offers best) (hbest : best.2.isNaN = false)
    {other : Cell × Single} (hother : other ∈ offers) : best.2 ≤ other.2 := by
  obtain ⟨before, after, rfl, hbefore, hafter⟩ := h
  rcases List.mem_append.mp hother with hother | hother
  · exact Single.le_of_lt (hbefore other hother)
  · rcases List.mem_cons.mp hother with rfl | hother
    · exact Single.le_refl hbest
    · exact hafter other hother

/-- Numbers are compared by their signed magnitudes. -/
theorem isFirstLeast_of_isFirstMin (hoffers : ∀ offer ∈ offers, offer.2.isNaN = false)
    (h : IsFirstMin (fun offer => offer.2.signedMagnitude) offers best) :
    IsFirstLeast offers best := by
  have hbest := hoffers best h.mem
  obtain ⟨before, after, rfl, hbefore, hafter⟩ := h
  refine ⟨before, after, rfl, ?_, ?_⟩
  · intro other hother
    exact Single.lt_iff.mpr ⟨hbest, hoffers other (by simp [hother]), hbefore other hother⟩
  · intro other hother
    exact Single.le_iff.mpr ⟨hbest, hoffers other (by simp [hother]), hafter other hother⟩

/-- From its first offer on, a scan always keeps one. -/
theorem scan_cons (first : Cell × Single) (rest : List (Cell × Single)) :
    scan none (first :: rest) =
      some (rest.foldl (fun a b => if b.2 < a.2 then b else a) first) := by
  have hstep (a b : Cell × Single) : cheaper (some a) b.1 b.2 = some (if b.2 < a.2 then b else a) :=
    (apply_ite some (b.2 < a.2) b a).symm
  exact List.foldl_hom some hstep

theorem mem_of_scan_none (h : scan none offers = some best) : best ∈ offers := by
  cases offers with
  | nil => cases h
  | cons first rest =>
      rw [scan_cons] at h
      obtain rfl := Option.some.inj h
      apply List.foldlRecOn rest _ List.mem_cons_self
      intro best hbest next hnext
      split
      · exact List.mem_cons_of_mem _ hnext
      · exact hbest

/-- A scan of offers that cost a number each ends with the first of least cost. -/
theorem scan_none_isFirstLeast (hoffers : ∀ offer ∈ offers, offer.2.isNaN = false)
    (h : scan none offers = some best) : IsFirstLeast offers best := by
  cases offers with
  | nil => cases h
  | cons first rest =>
      rw [scan_cons] at h
      obtain rfl := Option.some.inj h
      apply isFirstLeast_of_isFirstMin hoffers
      apply (isFirstMin_singleton first).foldl
      intro a ha b hb
      have hlt : b.2 < a.2 ↔ b.2.signedMagnitude < a.2.signedMagnitude := by
        rw [Single.lt_iff]
        simp [hoffers a ha, hoffers b (List.mem_cons_of_mem _ hb)]
      simp only [hlt]

theorem scan_none_eq_none_iff : scan none offers = none ↔ offers = [] := by
  cases offers with
  | nil => simp [scan]
  | cons first rest => simp [scan_cons]

end Scan

end GoalConfig
end MazeAgent
