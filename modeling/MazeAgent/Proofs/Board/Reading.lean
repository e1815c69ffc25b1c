import MazeAgent.Board.Layout
import MazeAgent.Proofs.Board.Adjacency

/-!
# What the text of a layout means

A text is a layout when its lines fit on the board, every character is a glyph and at most one of
them marks the agent. Each glyph then stands for the cell in its row and column. A text that is no
layout is rejected for the first thing that is wrong with it.

**Results.**
* `Layout.reads_iff`: every text is read as one list of lines.
* `Layout.IsPlain`, `Layout.Depicts`: the texts that are layouts, and what they show.
* `Layout.FirstFault`: the first thing that is wrong with a text.
* `Layout.IsRead.place`, `Layout.IsRead.placeRow`, `Layout.IsRead.placeRows`: what is read after a
  glyph, a row and several rows.
* `Layout.parse_reads`: what reading a text ends with.
-/

namespace MazeAgent
namespace Layout

/-! ## Lines -/

/-- A text has the given lines. A line ends in a line feed, or in a carriage return and a line
feed; the last line may also end with the text. -/
inductive IsLines : List Char → List (List Char) → Prop where
  | nil : IsLines [] []
  | last {line : List Char} : line ≠ [] → '\n' ∉ line → IsLines line [line]
  | feed {line rest : List Char} {rows : List (List Char)} :
      '\n' ∉ line → line.getLast? ≠ some '\r' → IsLines rest rows →
        IsLines (line ++ '\n' :: rest) (line :: rows)
  | returnFeed {line rest : List Char} {rows : List (List Char)} :
      '\n' ∉ line → IsLines rest rows → IsLines (line ++ '\r' :: '\n' :: rest) (line :: rows)

/-- The lines that are read from a text. -/
def rowsOf (text : String) : List (List Char) := lines (dropLeadingBreak text.toList)

/-- A text has the given lines after its leading line feed, if it starts with one. -/
def Reads (text : String) (rows : List (List Char)) : Prop :=
  ∃ body, IsLines body rows ∧
    (text.toList = '\n' :: body ∨ text.toList = body ∧ body.head? ≠ some '\n')

theorem linesFrom_of_ne {char : Char} (hchar : char ≠ '\n') (front rest : List Char) :
    linesFrom front (char :: rest) = linesFrom (char :: front) rest := by
  rw [linesFrom]
  exact hchar

theorem linesFrom_append {line : List Char} (hline : '\n' ∉ line) (front rest : List Char) :
    linesFrom front (line ++ rest) = linesFrom (line.reverse ++ front) rest := by
  induction line generalizing front with
  | nil => rfl
  | cons char line ih =>
      obtain ⟨hchar, hline⟩ := not_or.mp (List.mem_cons.not.mp hline)
      rw [List.cons_append, linesFrom_of_ne (Ne.symm hchar), ih hline]
      simp

theorem lines_append_feed {line : List Char} (hline : '\n' ∉ line) (rest : List Char) :
    lines (line ++ '\n' :: rest) = dropReturn line :: lines rest := by
  have hfeed : linesFrom line.reverse ('\n' :: rest) =
      dropReturn line.reverse.reverse :: lines rest := rfl
  rw [lines, linesFrom_append hline, List.append_nil, hfeed, List.reverse_reverse]

theorem IsLines.eq_lines {text : List Char} {rows : List (List Char)} (h : IsLines text rows) :
    rows = lines text := by
  induction h with
  | nil => rfl
  | @last line hnil hline =>
      have hread := linesFrom_append hline [] []
      rw [List.append_nil, List.append_nil] at hread
      rw [lines, hread]
      simp [linesFrom, hnil]
  | feed hline hreturn _ ih => rw [lines_append_feed hline, dropReturn, if_neg hreturn, ih]
  | @returnFeed line rest rows hline _ ih =>
      have hline : '\n' ∉ line ++ ['\r'] := by simp [hline]
      have hread := lines_append_feed hline rest
      rw [List.append_assoc] at hread
      rw [List.singleton_append] at hread
      rw [hread, ih]
      simp [dropReturn]

/-- The lines from a line feed on, after a line whose characters are known. -/
theorem isLines_feed {line rest : List Char} {rows : List (List Char)} (hline : '\n' ∉ line)
    (h : IsLines rest rows) : IsLines (line ++ '\n' :: rest) (dropReturn line :: rows) := by
  unfold dropReturn
  split
  · next hreturn =>
    obtain ⟨front, rfl⟩ := List.getLast?_eq_some_iff.mp hreturn
    have hfront : '\n' ∉ front := fun hmem => hline (List.mem_append_left _ hmem)
    simpa using IsLines.returnFeed hfront h
  · next hreturn => exact .feed hline hreturn h

theorem linesFrom_isLines (text front : List Char) (hfront : '\n' ∉ front) :
    IsLines (front.reverse ++ text) (linesFrom front text) := by
  induction text generalizing front with
  | nil =>
      cases front with
      | nil => exact .nil
      | cons last front =>
          rw [List.append_nil]
          exact .last (by simp) (by rwa [List.mem_reverse])
  | cons char rest ih =>
      by_cases hchar : char = '\n'
      · subst hchar
        exact isLines_feed (by simpa using hfront) (ih [] List.not_mem_nil)
      · rw [linesFrom_of_ne hchar]
        have hlonger := ih (char :: front) (by simp [Ne.symm hchar, hfront])
        simpa using hlonger

/-- Every text is read as one list of lines. -/
theorem reads_iff {text : String} {rows : List (List Char)} :
    Reads text rows ↔ rows = rowsOf text := by
  unfold rowsOf
  constructor
  · rintro ⟨body, hlines, hbody | ⟨hbody, hhead⟩⟩
    · rw [hbody]
      exact hlines.eq_lines
    · rw [hbody, hlines.eq_lines, dropLeadingBreak]
      rintro rest rfl
      exact hhead rfl
  · rintro rfl
    refine ⟨_, linesFrom_isLines _ [] List.not_mem_nil, ?_⟩
    cases text.toList with
    | nil => exact Or.inr ⟨rfl, by simp [dropLeadingBreak]⟩
    | cons first rest =>
        by_cases hfirst : first = '\n'
        · subst hfirst
          exact Or.inl rfl
        · exact Or.inr (by simp [dropLeadingBreak, hfirst])

example : lines ['P', '\r', '\n', '\n', '#', '\r'] = [['P'], [], ['#', '\r']] := rfl

/-! ## Glyphs -/

/-- The characters that stand for something. -/
def glyphs : List Char := ['#', ' ', '.', 'o', 'P', 'F']

/-- The character of a text in the row and column of a cell. -/
def glyphAt (rows : List (List Char)) (cell : Cell) : Option Char :=
  rows[cell.row]?.bind (fun row => row[cell.col]?)

/-- No row is too wide, all characters are glyphs, and at most one of them marks the agent. -/
structure IsPlain (rows : List (List Char)) : Prop where
  width : ∀ row ∈ rows, row.length ≤ 28
  mem_glyphs : ∀ char ∈ rows.flatten, char ∈ glyphs
  count_agent : rows.flatten.count 'P' ≤ 1

/-- A layout is what the glyphs on the board say. -/
structure Depicts (glyph : Cell → Option Char) (layout : Layout) : Prop where
  floor_iff : ∀ cell, layout.walls.get cell = false ↔ ∃ char, glyph cell = some char ∧ char ≠ '#'
  pellet_iff : ∀ cell, layout.pellets.get cell = true ↔ glyph cell = some '.'
  superPellet_iff : ∀ cell, layout.superPellets.get cell = true ↔ glyph cell = some 'o'
  agent_iff : ∀ tile, layout.agent = some tile ↔ ∃ cell, tile = cell.tile ∧ glyph cell = some 'P'
  fruit_iff : ∀ tile, layout.fruit = some tile ↔ ∃ cell, tile = cell.tile ∧
    glyph cell = some 'F' ∧ ∀ other, glyph other = some 'F' → other.index ≤ cell.index

theorem ofChar?_eq_none_iff {char : Char} : Glyph.ofChar? char = none ↔ char ∉ glyphs := by
  unfold Glyph.ofChar? glyphs
  split <;> simp_all

/-- What a glyph does to a layout. -/
structure IsPlaced (layout : Layout) (cell : Cell) (char : Char) (next : Layout) : Prop where
  mem_glyphs : char ∈ glyphs
  agent_eq_none : char = 'P' → layout.agent = none
  walls : ∀ other, next.walls.get other =
    if other = cell ∧ char ≠ '#' then false else layout.walls.get other
  pellets : ∀ other, next.pellets.get other =
    if other = cell ∧ char = '.' then true else layout.pellets.get other
  superPellets : ∀ other, next.superPellets.get other =
    if other = cell ∧ char = 'o' then true else layout.superPellets.get other
  agent : next.agent = if char = 'P' then some cell.tile else layout.agent
  fruit : next.fruit = if char = 'F' then some cell.tile else layout.fruit

theorem get_write_tile {α : Type} (grid : Grid α) (cell other : Cell) (value : α) :
    (grid.write cell.tile value).get other = if other = cell then value else grid.get other := by
  rw [Grid.get_write]
  simp only [Tile.tile_injective.eq_iff, eq_comm]

theorem place_isPlaced {layout next : Layout} {cell : Cell} {char : Char}
    (h : layout.place cell.tile char = .ok next) : IsPlaced layout cell char next := by
  have hmem : char ∈ glyphs := by
    by_contra hmem
    rw [place, ofChar?_eq_none_iff.mpr hmem] at h
    cases h
  by_cases hagent : char = 'P'
  · subst hagent
    rw [place, Glyph.ofChar?] at h
    dsimp only at h
    split at h
    · cases h
    · next hnone =>
      have hnone : layout.agent = none := by simpa using hnone
      cases h
      constructor <;> simp [glyphs, dig, get_write_tile, hnone]
  · simp only [glyphs, List.mem_cons, List.not_mem_nil, hagent, or_false, false_or] at hmem
    rcases hmem with rfl | rfl | rfl | rfl | rfl
    all_goals
      cases h
      constructor <;> simp [glyphs, dig, get_write_tile]

theorem place_eq_error {layout : Layout} {tile : Tile} {char : Char} {error : LayoutError}
    (h : layout.place tile char = .error error) :
    char ∉ glyphs ∧ error = .unknownGlyph char tile ∨
      char = 'P' ∧ layout.agent.isSome = true ∧ error = .duplicateAgent tile := by
  by_cases hagent : char = 'P'
  · subst hagent
    rw [place, Glyph.ofChar?] at h
    dsimp only at h
    split at h
    · next hsome =>
      cases h
      exact Or.inr ⟨rfl, hsome, rfl⟩
    · cases h
  · by_cases hmem : char ∈ glyphs
    · simp only [glyphs, List.mem_cons, List.not_mem_nil, hagent, or_false, false_or] at hmem
      rcases hmem with rfl | rfl | rfl | rfl | rfl
      all_goals cases h
    · rw [place, ofChar?_eq_none_iff.mpr hmem] at h
      cases h
      exact Or.inl ⟨hmem, rfl⟩

/-! ## One more glyph -/

/-- The glyphs with one more on a cell. -/
def put (glyph : Cell → Option Char) (cell : Cell) (char : Char) : Cell → Option Char :=
  fun other => if other = cell then some char else glyph other

section Put

variable {glyph : Cell → Option Char} {layout next : Layout} {cell other : Cell} {char c : Char}

theorem put_self : put glyph cell char cell = some char := if_pos rfl

theorem put_of_ne (h : other ≠ cell) : put glyph cell char other = glyph other := if_neg h

theorem put_eq_some_iff (hcell : glyph cell = none) (hc : char ≠ c) :
    put glyph cell char other = some c ↔ glyph other = some c := by
  rcases eq_or_ne other cell with rfl | hne
  · rw [put_self, hcell]
    simp [hc]
  · rw [put_of_ne hne]

/-- Items of one kind are marked by one glyph. -/
theorem item_iff_put {old new : Cell → Bool} (hcell : glyph cell = none)
    (hold : ∀ other, old other = true ↔ glyph other = some c)
    (hnew : ∀ other, new other = if other = cell ∧ char = c then true else old other) :
    ∀ other, new other = true ↔ put glyph cell char other = some c := by
  intro other
  rw [hnew]
  by_cases hc : char = c
  · rcases eq_or_ne other cell with rfl | hne
    · simp [hc, put_self]
    · simpa [hne, put_of_ne hne] using hold other
  · rw [if_neg (fun hboth => hc hboth.2), put_eq_some_iff hcell hc]
    exact hold other

theorem floor_iff_put (hcell : glyph cell = none) (h : Depicts glyph layout)
    (hplaced : IsPlaced layout cell char next) (other : Cell) :
    next.walls.get other = false ↔ ∃ c, put glyph cell char other = some c ∧ c ≠ '#' := by
  have hold := h.floor_iff other
  rw [hplaced.walls]
  rcases eq_or_ne other cell with rfl | hne
  · rw [hcell] at hold
    by_cases hwall : char = '#'
    · simpa [hwall, put_self] using hold
    · simp [hwall, put_self]
  · simpa [hne, put_of_ne hne] using hold

theorem agent_iff_put (hcell : glyph cell = none) (h : Depicts glyph layout)
    (hplaced : IsPlaced layout cell char next) (tile : Tile) :
    next.agent = some tile ↔ ∃ other, tile = other.tile ∧ put glyph cell char other = some 'P' := by
  rw [hplaced.agent]
  by_cases hagent : char = 'P'
  · subst hagent
    rw [if_pos rfl]
    constructor
    · intro htile
      exact ⟨cell, (Option.some.inj htile).symm, put_self⟩
    · rintro ⟨other, rfl, hread⟩
      rcases eq_or_ne other cell with rfl | hne
      · rfl
      · rw [put_of_ne hne] at hread
        have hsome := (h.agent_iff other.tile).mpr ⟨other, rfl, hread⟩
        rw [hplaced.agent_eq_none rfl] at hsome
        cases hsome
  · simp only [if_neg hagent, put_eq_some_iff hcell hagent]
    exact h.agent_iff tile

/-- The fruit is where its last glyph is, and glyphs are read one after the other. -/
theorem fruit_iff_put (hcell : glyph cell = none)
    (hafter : ∀ other, glyph other ≠ none → other.index < cell.index) (h : Depicts glyph layout)
    (hplaced : IsPlaced layout cell char next) (tile : Tile) :
    next.fruit = some tile ↔ ∃ place, tile = place.tile ∧ put glyph cell char place = some 'F' ∧
      ∀ other, put glyph cell char other = some 'F' → other.index ≤ place.index := by
  rw [hplaced.fruit]
  by_cases hfruit : char = 'F'
  · subst hfruit
    rw [if_pos rfl]
    constructor
    · intro htile
      refine ⟨cell, (Option.some.inj htile).symm, put_self, fun other hread => ?_⟩
      rcases eq_or_ne other cell with rfl | hne
      · exact le_rfl
      · rw [put_of_ne hne] at hread
        exact (hafter other (by simp [hread])).le
    · rintro ⟨place, rfl, hread, hlast⟩
      rcases eq_or_ne place cell with rfl | hne
      · rfl
      · rw [put_of_ne hne] at hread
        exact absurd (hafter place (by simp [hread])) (not_lt.mpr (hlast cell put_self))
  · simp only [if_neg hfruit, put_eq_some_iff hcell hfruit]
    exact h.fruit_iff tile

/-- One more glyph is depicted, on a cell after all others that were read. -/
theorem Depicts.place (h : Depicts glyph layout)
    (hafter : ∀ other, glyph other ≠ none → other.index < cell.index)
    (hplaced : IsPlaced layout cell char next) : Depicts (put glyph cell char) next := by
  have hcell : glyph cell = none := by
    by_contra hread
    exact lt_irrefl _ (hafter cell hread)
  exact {
    floor_iff := floor_iff_put hcell h hplaced
    pellet_iff := item_iff_put hcell h.pellet_iff hplaced.pellets
    superPellet_iff := item_iff_put hcell h.superPellet_iff hplaced.superPellets
    agent_iff := agent_iff_put hcell h hplaced
    fruit_iff := fruit_iff_put hcell hafter h hplaced }

end Put

/-! ## A row -/

section Row

variable {done : List (List Char)} {front rest : List Char} {layout next : Layout}
  {error : LayoutError}

theorem glyphAt_append_row (other : Cell) :
    glyphAt (done ++ [front]) other =
      if other.row < done.length then glyphAt done other
      else if other.row = done.length then front[other.col]? else none := by
  unfold glyphAt
  split
  · next hlt => rw [List.getElem?_append_left hlt]
  · next hge =>
    rw [List.getElem?_append_right (Nat.le_of_not_lt hge)]
    split
    · next heq => simp [heq]
    · rw [List.getElem?_eq_none (by simp only [List.length_singleton]; omega)]
      rfl

/-- The glyph after the ones of a row is the one on its cell. -/
theorem glyphAt_concat {cell : Cell} {char : Char} (hrow : cell.row = done.length)
    (hcol : cell.col = front.length) :
    glyphAt (done ++ [front ++ [char]]) = put (glyphAt (done ++ [front])) cell char := by
  funext other
  simp only [glyphAt_append_row, put]
  split
  · next hlt =>
    have hne : other ≠ cell := fun heq => by rw [heq] at hlt; omega
    rw [if_neg hne]
  · split
    · next hother =>
      rcases Nat.lt_trichotomy other.col front.length with hlt | heq | hgt
      · have hne : other ≠ cell := fun heq => by rw [heq] at hlt; omega
        rw [if_neg hne, List.getElem?_append_left hlt]
      · have hsame : other = cell := Cell.ext_row_col (by omega) (by omega)
        rw [if_pos hsame, heq]
        simp
      · have hne : other ≠ cell := fun heq => by rw [heq] at hgt; omega
        rw [if_neg hne, List.getElem?_eq_none (by simpa using hgt),
          List.getElem?_eq_none hgt.le]
    · next hother =>
      have hne : other ≠ cell := fun heq => hother (heq ▸ hrow)
      rw [if_neg hne]

/-- Rows are read one after the other, each from its first column on. -/
theorem index_lt_of_glyphAt {cell other : Cell} (hrow : cell.row = done.length)
    (hcol : cell.col = front.length) (hread : glyphAt (done ++ [front]) other ≠ none) :
    other.index < cell.index := by
  have hplace : other.row < done.length ∨ other.row = done.length ∧ other.col < front.length := by
    rw [glyphAt_append_row] at hread
    split at hread
    · next hlt => exact Or.inl hlt
    · split at hread
      · next heq => exact Or.inr ⟨heq, by simpa using hread⟩
      · exact absurd rfl hread
  rw [← hrow, ← hcol] at hplace
  unfold Cell.row Cell.col at hplace
  apply Fin.lt_def.mpr
  omega

/-- On a board that is large enough every character is on a cell. -/
theorem mem_flatten_iff {rows : List (List Char)} {char : Char} (hrows : rows.length ≤ 31)
    (hwidth : ∀ row ∈ rows, row.length ≤ 28) :
    char ∈ rows.flatten ↔ ∃ cell, glyphAt rows cell = some char := by
  unfold glyphAt
  constructor
  · intro hchar
    obtain ⟨row, hrow, hchar⟩ := List.mem_flatten.mp hchar
    obtain ⟨i, hi, rfl⟩ := List.mem_iff_getElem.mp hrow
    obtain ⟨j, hj, rfl⟩ := List.mem_iff_getElem.mp hchar
    have hlength := hwidth _ hrow
    exact ⟨Cell.ofRowCol i j (by omega) (by omega), by simp [hi, hj]⟩
  · rintro ⟨cell, hcell⟩
    obtain ⟨row, hrow, hchar⟩ := Option.bind_eq_some_iff.mp hcell
    exact List.mem_flatten.mpr ⟨row, List.mem_of_getElem? hrow, List.mem_of_getElem? hchar⟩

/-- What has been read so far is plain and depicted. -/
structure IsRead (rows : List (List Char)) (layout : Layout) : Prop where
  isPlain : IsPlain rows
  depicts : Depicts (glyphAt rows) layout

/-- The agent is known once it was read. -/
theorem IsRead.isSome_agent_iff {rows : List (List Char)} (h : IsRead rows layout)
    (hrows : rows.length ≤ 31) : layout.agent.isSome = true ↔ 'P' ∈ rows.flatten := by
  rw [mem_flatten_iff hrows h.isPlain.width, Option.isSome_iff_exists]
  constructor
  · rintro ⟨tile, htile⟩
    obtain ⟨cell, -, hcell⟩ := (h.depicts.agent_iff tile).mp htile
    exact ⟨cell, hcell⟩
  · rintro ⟨cell, hcell⟩
    exact ⟨cell.tile, (h.depicts.agent_iff cell.tile).mpr ⟨cell, rfl, hcell⟩⟩

/-- What is read after one more glyph. -/
theorem IsRead.place {cell : Cell} {char : Char} (h : IsRead (done ++ [front]) layout)
    (hrow : cell.row = done.length) (hcol : cell.col = front.length)
    (hplace : layout.place cell.tile char = .ok next) :
    IsRead (done ++ [front ++ [char]]) next := by
  have hplaced := place_isPlaced hplace
  have hcell := cell.row_lt
  have hcell' := cell.col_lt
  have hflatten : (done ++ [front ++ [char]]).flatten = (done ++ [front]).flatten ++ [char] := by
    simp
  refine ⟨⟨?_, ?_, ?_⟩, ?_⟩
  · intro row hmem
    rcases List.mem_append.mp hmem with hmem | hmem
    · exact h.isPlain.width row (List.mem_append_left _ hmem)
    · obtain rfl := List.mem_singleton.mp hmem
      rw [List.length_append, List.length_singleton]
      omega
  · rw [hflatten]
    intro other hmem
    rcases List.mem_append.mp hmem with hmem | hmem
    · exact h.isPlain.mem_glyphs other hmem
    · obtain rfl := List.mem_singleton.mp hmem
      exact hplaced.mem_glyphs
  · rw [hflatten, List.count_append]
    by_cases hagent : char = 'P'
    · have hlength : (done ++ [front]).length ≤ 31 := by simp; omega
      have hnone := hplaced.agent_eq_none hagent
      have hnot : 'P' ∉ (done ++ [front]).flatten := by
        rw [← h.isSome_agent_iff hlength, hnone]
        exact Bool.false_ne_true
      rw [List.count_eq_zero_of_not_mem hnot, hagent]
      simp
    · rw [List.count_singleton, if_neg (by simpa using hagent)]
      exact h.isPlain.count_agent
  · rw [glyphAt_concat hrow hcol]
    exact h.depicts.place (fun other hread => index_lt_of_glyphAt hrow hcol hread) hplaced

/-- What is wrong with a glyph that comes after others. -/
inductive GlyphFault (done : List (List Char)) (front : List Char) : Char → LayoutError → Prop where
  | unknown {char : Char} : char ∉ glyphs →
      GlyphFault done front char
        (.unknownGlyph char ⟨Int32.ofNat done.length, Int32.ofNat front.length⟩)
  | second : 'P' ∈ (done ++ [front]).flatten →
      GlyphFault done front 'P'
        (.duplicateAgent ⟨Int32.ofNat done.length, Int32.ofNat front.length⟩)

theorem IsRead.glyphFault {tile : Tile} {char : Char} (h : IsRead (done ++ [front]) layout)
    (hrows : done.length < 31)
    (htile : tile = ⟨Int32.ofNat done.length, Int32.ofNat front.length⟩)
    (hplace : layout.place tile char = .error error) : GlyphFault done front char error := by
  subst htile
  rcases place_eq_error hplace with ⟨hmem, rfl⟩ | ⟨rfl, hagent, rfl⟩
  · exact .unknown hmem
  · exact .second ((h.isSome_agent_iff (by simp; omega)).mp hagent)

/-- The rest of a row is read, or a glyph of it is wrong. -/
theorem IsRead.placeRow (h : IsRead (done ++ [front]) layout) (hrows : done.length < 31)
    (hcols : front.length + rest.length ≤ 28) :
    (∀ next, layout.placeRow done.length front.length rest = .ok next →
        IsRead (done ++ [front ++ rest]) next) ∧
      ∀ error, layout.placeRow done.length front.length rest = .error error →
        ∃ middle char back, rest = middle ++ char :: back ∧ IsPlain (done ++ [front ++ middle]) ∧
          GlyphFault done (front ++ middle) char error := by
  induction rest generalizing front layout with
  | nil =>
      refine ⟨?_, ?_⟩
      · rintro next hnext
        cases hnext
        simpa using h
      · rintro error herror
        cases herror
  | cons char rest ih =>
      rw [List.length_cons] at hcols
      unfold Layout.placeRow
      cases hplace : layout.place ⟨Int32.ofNat done.length, Int32.ofNat front.length⟩ char with
      | error fault =>
          refine ⟨fun next hnext => (by cases hnext), fun error herror => ?_⟩
          cases herror
          exact ⟨[], char, rest, rfl, by simpa using h.isPlain,
            by simpa using h.glyphFault hrows rfl hplace⟩
      | ok placed =>
          have hcell : (Cell.ofRowCol done.length front.length hrows (by omega)).tile =
              ⟨Int32.ofNat done.length, Int32.ofNat front.length⟩ := by
            rw [Cell.tile, Cell.row_ofRowCol, Cell.col_ofRowCol]
          rw [← hcell] at hplace
          have hread := h.place (Cell.row_ofRowCol _ _ _ _) (Cell.col_ofRowCol _ _ _ _) hplace
          have hrest := ih hread (by rw [List.length_append, List.length_singleton]; omega)
          rw [List.length_append, List.length_singleton] at hrest
          refine ⟨fun next hnext => by simpa using hrest.1 next hnext, fun error herror => ?_⟩
          obtain ⟨middle, wrong, back, rfl, hplain, hfault⟩ := hrest.2 error herror
          exact ⟨char :: middle, wrong, back, rfl, by simpa using hplain, by simpa using hfault⟩

end Row

/-! ## All rows -/

section Rows

variable {done rest : List (List Char)} {layout : Layout}

/-- The first thing that is wrong with the rows of a text. -/
inductive FirstFault (rows : List (List Char)) : LayoutError → Prop where
  | tooManyRows : 31 < rows.length → FirstFault rows (.tooManyRows rows.length.toUInt64 31)
  | rowTooWide {before after : List (List Char)} {line : List Char} :
      rows.length ≤ 31 → rows = before ++ line :: after → IsPlain before → 28 < line.length →
        FirstFault rows (.rowTooWide before.length.toUInt64 line.length.toUInt64 28)
  | glyph {before after : List (List Char)} {front back : List Char} {char : Char}
      {error : LayoutError} :
      rows.length ≤ 31 → rows = before ++ (front ++ char :: back) :: after →
        (front ++ char :: back).length ≤ 28 → IsPlain (before ++ [front]) →
        GlyphFault before front char error → FirstFault rows error

theorem isRead_nil : IsRead [] solid where
  isPlain := ⟨by simp, by simp, by simp⟩
  depicts := by constructor <;> simp [solid, glyphAt]

/-- Nothing of the next row has been read yet. -/
theorem IsRead.newRow (h : IsRead done layout) : IsRead (done ++ [[]]) layout := by
  have hsame : glyphAt (done ++ [[]]) = glyphAt done := by
    funext cell
    rw [glyphAt_append_row]
    split
    · rfl
    · next hge => simp [glyphAt, List.getElem?_eq_none (Nat.le_of_not_lt hge)]
  refine ⟨⟨?_, by simpa using h.isPlain.mem_glyphs, by simpa using h.isPlain.count_agent⟩, ?_⟩
  · intro row hrow
    rcases List.mem_append.mp hrow with hrow | hrow
    · exact h.isPlain.width row hrow
    · obtain rfl := List.mem_singleton.mp hrow
      exact Nat.zero_le _
  · rw [hsame]
    exact h.depicts

/-- The remaining rows are read, or one of them is wrong. -/
theorem IsRead.placeRows (h : IsRead done layout) (hrows : (done ++ rest).length ≤ 31) :
    (∀ next, layout.placeRows done.length rest = .ok next → IsRead (done ++ rest) next) ∧
      ∀ error, layout.placeRows done.length rest = .error error →
        FirstFault (done ++ rest) error := by
  induction rest generalizing done layout with
  | nil =>
      refine ⟨?_, ?_⟩
      · rintro next hnext
        cases hnext
        simpa using h
      · rintro error herror
        cases herror
  | cons line rest ih =>
      have hroom : done.length < 31 := by
        rw [List.length_append, List.length_cons] at hrows
        omega
      unfold Layout.placeRows
      split
      · next hwide =>
        refine ⟨fun next hnext => (by cases hnext), fun error herror => ?_⟩
        cases herror
        exact .rowTooWide hrows rfl h.isPlain hwide
      · next hwidth =>
        have hcols : ([] : List Char).length + line.length ≤ 28 := by
          simpa using Nat.le_of_not_lt hwidth
        obtain ⟨hread, hwrong⟩ := h.newRow.placeRow hroom hcols
        rw [List.length_nil] at hread hwrong
        cases hline : layout.placeRow done.length 0 line with
        | error fault =>
            refine ⟨fun next hnext => (by cases hnext), fun error herror => ?_⟩
            cases herror
            obtain ⟨front, char, back, rfl, hplain, hfault⟩ := hwrong fault hline
            exact .glyph hrows rfl (Nat.le_of_not_lt hwidth) hplain hfault
        | ok placed =>
            have hplaced : IsRead (done ++ [line]) placed := hread placed hline
            have hrest := ih hplaced (by simpa using hrows)
            rw [List.length_append, List.length_singleton] at hrest
            simpa using hrest

end Rows

/-! ## The first fault -/

section Fault

variable {rows done before after : List (List Char)} {front back line : List Char} {char : Char}
  {error other : LayoutError}

theorem IsPlain.of_append (h : IsPlain (before ++ after)) : IsPlain before := by
  refine ⟨fun row hrow => h.width row (List.mem_append_left _ hrow), ?_, ?_⟩
  · intro char hchar
    apply h.mem_glyphs
    rw [List.flatten_append]
    exact List.mem_append_left _ hchar
  · have hcount := h.count_agent
    rw [List.flatten_append, List.count_append] at hcount
    omega

theorem IsPlain.of_append_row (h : IsPlain (done ++ [front ++ back])) :
    IsPlain (done ++ [front]) := by
  have hflatten : (done ++ [front ++ back]).flatten = (done ++ [front]).flatten ++ back := by simp
  refine ⟨?_, ?_, ?_⟩
  · intro row hrow
    rcases List.mem_append.mp hrow with hrow | hrow
    · exact h.width row (List.mem_append_left _ hrow)
    · obtain rfl := List.mem_singleton.mp hrow
      have hwidth := h.width (row ++ back) (by simp)
      rw [List.length_append] at hwidth
      omega
  · intro char hchar
    apply h.mem_glyphs
    rw [hflatten]
    exact List.mem_append_left _ hchar
  · have hcount := h.count_agent
    rw [hflatten, List.count_append] at hcount
    omega

theorem GlyphFault.not_isPlain (h : GlyphFault done front char error) :
    ¬ IsPlain (done ++ [front ++ [char]]) := by
  intro hplain
  have hflatten : (done ++ [front ++ [char]]).flatten = (done ++ [front]).flatten ++ [char] := by
    simp
  cases h with
  | unknown hmem => exact hmem (hplain.mem_glyphs char (by simp))
  | second hagent =>
      have hcount := hplain.count_agent
      have hpos := List.count_pos_iff.mpr hagent
      rw [hflatten, List.count_append, List.count_singleton_self] at hcount
      omega

theorem GlyphFault.unique (h : GlyphFault done front char error)
    (hother : GlyphFault done front char other) : error = other := by
  cases h with
  | unknown hmem =>
      cases hother with
      | unknown => rfl
      | second => exact absurd (by simp [glyphs]) hmem
  | second =>
      cases hother with
      | unknown hmem => exact absurd (by simp [glyphs]) hmem
      | second => rfl

theorem not_isPlain_of_wide (h : 28 < line.length) : ¬ IsPlain (before ++ [line]) :=
  fun hplain => absurd (hplain.width line (by simp)) (Nat.not_le_of_lt h)

theorem GlyphFault.not_isPlain_row (h : GlyphFault before front char error) :
    ¬ IsPlain (before ++ [front ++ char :: back]) := by
  intro hplain
  have hsplit : IsPlain (before ++ [front ++ [char] ++ back]) := by simpa using hplain
  exact h.not_isPlain hsplit.of_append_row

theorem FirstFault.not_isPlain (h : FirstFault rows error) :
    ¬ (rows.length ≤ 31 ∧ IsPlain rows) := by
  rintro ⟨hrows, hplain⟩
  cases h with
  | tooManyRows hmany => omega
  | @rowTooWide before after line _ heq _ hwide =>
      rw [heq, List.append_cons] at hplain
      exact not_isPlain_of_wide hwide hplain.of_append
  | glyph _ heq _ _ hfault =>
      rw [heq, List.append_cons] at hplain
      exact hfault.not_isPlain_row hplain.of_append

/-- Two places at which a property of prefixes breaks for the first time are the same. -/
theorem eq_of_break {α : Type} (keeps : List α → Prop)
    (hkeeps : ∀ front back, keeps (front ++ back) → keeps front)
    {a b c d : List α} {x y : α} (heq : a ++ x :: b = c ++ y :: d) (ha : keeps a)
    (hx : ¬ keeps (a ++ [x])) (hc : keeps c) (hy : ¬ keeps (c ++ [y])) : a = c ∧ x = y ∧ b = d := by
  rcases List.append_eq_append_iff.mp heq with ⟨gap, rfl, hgap⟩ | ⟨gap, rfl, hgap⟩
  · cases gap with
    | nil =>
        obtain ⟨rfl, rfl⟩ := List.cons.inj hgap
        simp
    | cons first gap =>
        obtain ⟨rfl, -⟩ := List.cons.inj hgap
        rw [List.append_cons] at hc
        exact absurd (hkeeps _ _ hc) hx
  · cases gap with
    | nil =>
        obtain ⟨rfl, rfl⟩ := List.cons.inj hgap
        simp
    | cons first gap =>
        obtain ⟨rfl, -⟩ := List.cons.inj hgap
        rw [List.append_cons] at ha
        exact absurd (hkeeps _ _ ha) hy

/-- There is one first fault. -/
theorem FirstFault.unique (h : FirstFault rows error) (hother : FirstFault rows other) :
    error = other := by
  have hrow : ∀ {before after before' after' : List (List Char)} {line line' : List Char},
      rows = before ++ line :: after → rows = before' ++ line' :: after' → IsPlain before →
      ¬ IsPlain (before ++ [line]) → IsPlain before' → ¬ IsPlain (before' ++ [line']) →
        before = before' ∧ line = line' := by
    intro before after before' after' line line' heq heq' hplain hline hplain' hline'
    obtain ⟨rfl, rfl, -⟩ := eq_of_break IsPlain (fun _ _ => IsPlain.of_append)
      (heq.symm.trans heq') hplain hline hplain' hline'
    exact ⟨rfl, rfl⟩
  cases h with
  | tooManyRows hmany =>
      cases hother with
      | tooManyRows => rfl
      | rowTooWide hrows => omega
      | glyph hrows => omega
  | rowTooWide hrows heq hplain hwide =>
      cases hother with
      | tooManyRows => omega
      | rowTooWide _ heq' hplain' hwide' =>
          obtain ⟨rfl, rfl⟩ := hrow heq heq' hplain (not_isPlain_of_wide hwide) hplain'
            (not_isPlain_of_wide hwide')
          rfl
      | glyph _ heq' hwidth' hplain' hfault' =>
          obtain ⟨rfl, rfl⟩ := hrow heq heq' hplain (not_isPlain_of_wide hwide) hplain'.of_append
            hfault'.not_isPlain_row
          omega
  | glyph hrows heq hwidth hplain hfault =>
      cases hother with
      | tooManyRows => omega
      | rowTooWide _ heq' hplain' hwide' =>
          obtain ⟨rfl, rfl⟩ := hrow heq heq' hplain.of_append hfault.not_isPlain_row hplain'
            (not_isPlain_of_wide hwide')
          omega
      | glyph _ heq' hwidth' hplain' hfault' =>
          obtain ⟨rfl, hline⟩ := hrow heq heq' hplain.of_append hfault.not_isPlain_row
            hplain'.of_append hfault'.not_isPlain_row
          obtain ⟨rfl, rfl, -⟩ := eq_of_break (fun front => IsPlain (_ ++ [front]))
            (fun _ _ => IsPlain.of_append_row) hline hplain hfault.not_isPlain hplain'
            hfault'.not_isPlain
          exact hfault.unique hfault'

end Fault

/-! ## Reading a text -/

section Parse

variable {text : String}

/-- A layout that is returned was read from plain lines. -/
theorem isRead_of_parse {layout : Layout} (h : parse text = .ok layout) :
    (rowsOf text).length ≤ 31 ∧ IsRead (rowsOf text) layout := by
  rw [parse, ← rowsOf] at h
  split at h
  · cases h
  · next hmany =>
    have hlength := Nat.le_of_not_lt hmany
    exact ⟨hlength, (isRead_nil.placeRows hlength).1 layout h⟩

theorem firstFault_of_parse {error : LayoutError} (h : parse text = .error error) :
    FirstFault (rowsOf text) error := by
  rw [parse, ← rowsOf] at h
  split at h
  · next hmany =>
    cases h
    exact .tooManyRows hmany
  · next hmany => exact (isRead_nil.placeRows (Nat.le_of_not_lt hmany)).2 error h

end Parse

/-- Every text is read as one list of lines. It is a layout when there are not too many lines and
these are plain, and then the layout is what the glyphs say. Otherwise the error is the first thing
that is wrong with the lines. -/
theorem parse_reads (text : String) :
    ∃ rows, (∀ other, Reads text other ↔ other = rows) ∧
      ((∃ layout, parse text = .ok layout) ↔ rows.length ≤ 31 ∧ IsPlain rows) ∧
      (∀ layout, parse text = .ok layout → Depicts (glyphAt rows) layout) ∧
      ∀ error, parse text = .error error ↔ FirstFault rows error := by
  refine ⟨rowsOf text, fun _ => reads_iff, ⟨?_, ?_⟩,
    fun layout hlayout => (isRead_of_parse hlayout).2.depicts,
    fun error => ⟨firstFault_of_parse, ?_⟩⟩
  · rintro ⟨layout, hlayout⟩
    obtain ⟨hlength, hread⟩ := isRead_of_parse hlayout
    exact ⟨hlength, hread.isPlain⟩
  · intro hplain
    cases hparse : parse text with
    | ok layout => exact ⟨layout, rfl⟩
    | error error => exact absurd hplain (firstFault_of_parse hparse).not_isPlain
  · intro hfault
    cases hparse : parse text with
    | ok layout =>
        obtain ⟨hlength, hread⟩ := isRead_of_parse hparse
        exact absurd ⟨hlength, hread.isPlain⟩ hfault.not_isPlain
    | error found => rw [(firstFault_of_parse hparse).unique hfault]

end Layout
end MazeAgent
