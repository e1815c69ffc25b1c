import MazeAgent.Proofs.Board.Reading
import MazeAgent.Proofs.Checked
import MazeAgent.Scenario.Basic

/-!
# Snapshots with everything on the board

A snapshot is built from a setup after any number of changes to it, and its agent may be moved
later. The agent and the ghosts are looked at when the snapshot is built. The fruit is not, and no
move is: what they are told to stand on they stand on.

**Results.**
* `Snapshot.OnBoard`: the agent, the ghosts and the fruit lie on the board.
* `Setup.exists_build_iff`: the snapshots that can be built.
* `Setup.assemble`: a setup after some changes; `Scenario.setup_eq_assemble`.
* `Snapshot.moved_eq_ok`: what moves of the agent keep.
* `Setup.onBoard_iff_of_assemble`: when everything lies on the board.
-/

namespace MazeAgent

/-- Everything that moves or is placed on its own lies on the board. -/
structure Snapshot.OnBoard (board : Snapshot) : Prop where
  agent : board.agent.onBoard = true
  ghosts : ∀ ghost ∈ board.ghosts, ghost.tile.onBoard = true
  fruit : ∀ fruit, board.fruit = some fruit → fruit.tile.onBoard = true

/-- The agent and the ghosts stand on the board, whereas the fruit may lie anywhere. -/
structure Snapshot.Standing (board : Snapshot) : Prop where
  agent : board.agent.onBoard = true
  ghosts : ∀ ghost ∈ board.ghosts, ghost.tile.onBoard = true

theorem Snapshot.OnBoard.standing {board : Snapshot} (h : board.OnBoard) : board.Standing :=
  ⟨h.agent, h.ghosts⟩

theorem Snapshot.Standing.threats {board : Snapshot} (h : board.Standing) :
    ∀ ghost ∈ board.threats, ghost.tile.onBoard = true :=
  fun ghost hghost => h.ghosts ghost (List.mem_of_mem_filter hghost)

namespace Setup

theorem refuseGhosts_eq_none_iff {count : Nat} {ghosts : List Ghost} (hcount : count ≤ maxGhosts) :
    refuseGhosts count ghosts = none ↔
      (∀ ghost ∈ ghosts, ghost.tile.onBoard = true) ∧ count + ghosts.length ≤ maxGhosts := by
  induction ghosts generalizing count with
  | nil => simpa [refuseGhosts] using hcount
  | cons first rest ih =>
      unfold refuseGhosts
      rw [List.forall_mem_cons, List.length_cons]
      by_cases hfirst : first.tile.onBoard = true
      · by_cases hroom : maxGhosts ≤ count
        · simp only [hfirst, hroom]
          simp
          omega
        · simp only [hfirst, hroom, Bool.not_true, Bool.false_eq_true, if_false, true_and]
          rw [ih (by omega), Nat.add_assoc, Nat.add_comm 1]
      · simp [hfirst]

variable {setup : Setup} {board : Snapshot}

/-- What a snapshot that was built takes from its setup. -/
theorem build_eq_ok (h : setup.build = .ok board) :
    setup.agent = some board.agent ∧ board.ghosts = setup.ghosts ∧ board.fruit = setup.fruit ∧
      board.Standing ∧ board.ghosts.length ≤ maxGhosts := by
  unfold build at h
  split at h
  · cases h
  · next agent hagent =>
    split at h
    · cases h
    · next honBoard =>
      split at h
      · cases h
      · next hghosts =>
        cases h
        obtain ⟨hplaces, hlength⟩ := (refuseGhosts_eq_none_iff (Nat.zero_le _)).mp hghosts
        exact ⟨hagent, rfl, rfl, ⟨by simpa using honBoard, hplaces⟩, by simpa using hlength⟩

/-- The snapshots that can be built are those whose agent and at most four ghosts stand on the
board. -/
theorem exists_build_iff :
    (∃ setup : Setup, setup.build = .ok board) ↔
      board.Standing ∧ board.ghosts.length ≤ maxGhosts := by
  constructor
  · rintro ⟨setup, h⟩
    obtain ⟨-, -, -, hboard⟩ := build_eq_ok h
    exact hboard
  · rintro ⟨hstanding, hlength⟩
    have hghosts : refuseGhosts 0 board.ghosts = none :=
      (refuseGhosts_eq_none_iff (Nat.zero_le _)).mpr ⟨hstanding.ghosts, by simpa using hlength⟩
    refine ⟨{
      layout := ⟨board.walls, board.pellets, board.superPellets, none, none⟩
      sequence := board.sequence
      fruit := board.fruit
      ghosts := board.ghosts
      agent := some board.agent
      heading := board.heading
      lives := board.lives
      mode := board.mode
      pelletsRemaining := some board.pelletsRemaining }, ?_⟩
    simp [build, hstanding.agent, hghosts]

/-! ## Changes to a setup -/

/-- One call that changes a setup. -/
inductive Change where
  | sequence (sequence : UInt64)
  | agent (tile : Tile)
  | heading (heading : Option Direction)
  | ghost (ghost : Ghost)
  | ghosts (ghosts : List Ghost)
  /-- A fruit on the marker of the layout. -/
  | markedFruit (remainingSteps duration : UInt32)
  /-- A fruit on a tile of its own. -/
  | fruit (fruit : Fruit)
  | lives (lives : UInt8)
  | mode (mode : GameMode)
  | pelletsRemaining (count : UInt32)

/-- The setup after a change. Ghosts are added, and everything else is replaced. -/
def change (setup : Setup) : Change → Setup
  | .sequence sequence => { setup with sequence := sequence }
  | .agent tile => { setup with agent := some tile }
  | .heading heading => { setup with heading := heading }
  | .ghost ghost => { setup with ghosts := setup.ghosts ++ [ghost] }
  | .ghosts ghosts => { setup with ghosts := setup.ghosts ++ ghosts }
  | .markedFruit remainingSteps duration => setup.withMarkedFruit remainingSteps duration
  | .fruit fruit => { setup with fruit := some fruit }
  | .lives lives => { setup with lives := lives }
  | .mode mode => { setup with mode := mode }
  | .pelletsRemaining count => { setup with pelletsRemaining := some count }

/-- The setup of a layout after some changes. -/
def assemble (layout : Layout) (changes : List Change) : Setup :=
  changes.foldl change (ofLayout layout)

/-- The fruit that a change sets, or that it takes away when the layout has no marker. -/
def Change.fruit? (layout : Layout) : Change → Option (Option Fruit)
  | .markedFruit remainingSteps duration =>
      some (layout.fruit.map (fun tile => ⟨tile, remainingSteps, duration⟩))
  | .fruit placed => some (some placed)
  | _ => none

theorem layout_change (setup : Setup) (call : Change) :
    (setup.change call).layout = setup.layout := by
  cases call <;> rfl

theorem fruit_change (setup : Setup) (call : Change) :
    (setup.change call).fruit = (call.fruit? setup.layout).getD setup.fruit := by
  cases call <;> rfl

/-- What the last of the changes sets, where `sets` tells what each of them does. -/
def lastSet {α : Type} (sets : Change → Option α) (changes : List Change) (start : α) : α :=
  (changes.filterMap sets).getLast?.getD start

/-- The last change that sets a field decides. -/
theorem foldl_change_eq_lastSet {α : Type} (field : Setup → α) {sets : Change → Option α}
    {setup : Setup} (changes : List Change)
    (h : ∀ next call, next.layout = setup.layout →
      field (next.change call) = (sets call).getD (field next)) :
    field (changes.foldl change setup) = lastSet sets changes (field setup) := by
  induction changes generalizing setup with
  | nil => rfl
  | cons call rest ih =>
      rw [List.foldl_cons, ih (by rwa [layout_change]), h setup call rfl, lastSet, lastSet,
        List.filterMap_cons]
      cases sets call with
      | none => rfl
      | some value => rw [List.getLast?_cons, Option.getD_some, Option.getD_some]

theorem fruit_assemble (layout : Layout) (changes : List Change) :
    (assemble layout changes).fruit =
      (changes.filterMap (Change.fruit? layout)).getLast?.getD none := by
  refine foldl_change_eq_lastSet Setup.fruit changes ?_
  intro next call hlayout
  rw [fruit_change, hlayout]
  rfl

end Setup

/-- The changes that a scenario makes to the setup of its layout. -/
def Scenario.changes (scenario : Scenario) : List Setup.Change :=
  [.heading scenario.heading, .ghosts scenario.ghosts, .mode scenario.mode, .lives scenario.lives,
    .sequence scenario.sequence] ++
  scenario.agent.toList.map .agent ++ scenario.fruit.toList.map .fruit ++
  scenario.pelletsRemaining.toList.map .pelletsRemaining

/-- A scenario is assembled like everything else. -/
theorem Scenario.setup_eq_assemble (scenario : Scenario) (layout : Layout) :
    scenario.setup layout = Setup.assemble layout scenario.changes := by
  obtain ⟨map, agent, heading, ghosts, fruit, mode, lives, pellets, sequence⟩ := scenario
  cases agent <;> cases fruit <;> cases pellets <;> rfl

/-! ## Moves of the agent -/

namespace Snapshot

variable {board next first last : Snapshot}

/-- The snapshot after some moves of the agent, each to a tile at a tick. -/
def moved (board : Snapshot) (moves : List (Tile × UInt64)) : Checked Snapshot :=
  moves.foldlM (fun board move => board.withAgentAt move.1 move.2) board

theorem withAgentAt_eq_ok {tile : Tile} {sequence : UInt64}
    (h : board.withAgentAt tile sequence = .ok next) :
    next.agent = tile ∧ next.ghosts = board.ghosts ∧ next.fruit = board.fruit := by
  obtain ⟨direction, -, h⟩ := Checked.bind_eq_ok_iff.mp h
  cases h
  exact ⟨rfl, rfl, rfl⟩

/-- Moves put the agent on the last of their tiles and keep the ghosts and the fruit. -/
theorem moved_eq_ok {moves : List (Tile × UInt64)} (h : first.moved moves = .ok last) :
    last.agent = (moves.getLast?.map Prod.fst).getD first.agent ∧
      last.ghosts = first.ghosts ∧ last.fruit = first.fruit := by
  induction moves generalizing first with
  | nil =>
      cases h
      exact ⟨rfl, rfl, rfl⟩
  | cons move rest ih =>
      rw [moved, List.foldlM_cons, Checked.bind_eq_ok_iff] at h
      obtain ⟨next, hnext, h⟩ := h
      obtain ⟨hagent, hghosts, hfruit⟩ := withAgentAt_eq_ok hnext
      obtain ⟨hlast, hlastGhosts, hlastFruit⟩ := ih h
      refine ⟨?_, hlastGhosts.trans hghosts, hlastFruit.trans hfruit⟩
      rw [hlast, hagent, List.getLast?_cons]
      cases rest.getLast? <;> rfl

/-- After moves everything lies on the board when the fruit and the tile of the last move do. -/
theorem Standing.onBoard_iff {moves : List (Tile × UInt64)} (hfirst : first.Standing)
    (h : first.moved moves = .ok last) :
    last.OnBoard ↔ (∀ fruit, first.fruit = some fruit → fruit.tile.onBoard = true) ∧
      ∀ move, moves.getLast? = some move → move.1.onBoard = true := by
  obtain ⟨hagent, hghosts, hfruit⟩ := moved_eq_ok h
  have hplace : last.agent.onBoard = true ↔
      ∀ move, moves.getLast? = some move → move.1.onBoard = true := by
    rw [hagent]
    cases moves.getLast? with
    | none => simpa using hfirst.agent
    | some move => simp
  constructor
  · intro hlast
    exact ⟨hfruit ▸ hlast.fruit, hplace.mp hlast.agent⟩
  · rintro ⟨hfirstFruit, hmove⟩
    exact ⟨hplace.mpr hmove, hghosts ▸ hfirst.ghosts, hfruit ▸ hfirstFruit⟩

end Snapshot

/-! ## Everything on the board -/

/-- The markers of a layout that was read lie on the board. -/
theorem Layout.onBoard_of_parse {text : String} {layout : Layout} {tile : Tile}
    (h : parse text = .ok layout) (htile : layout.agent = some tile ∨ layout.fruit = some tile) :
    tile.onBoard = true := by
  have hdepicts := (isRead_of_parse h).2.depicts
  rcases htile with htile | htile
  · obtain ⟨cell, rfl, -⟩ := (hdepicts.agent_iff tile).mp htile
    exact Tile.onBoard_iff.mpr ⟨cell, rfl⟩
  · obtain ⟨cell, rfl, -⟩ := (hdepicts.fruit_iff tile).mp htile
    exact Tile.onBoard_iff.mpr ⟨cell, rfl⟩

namespace Setup

variable {layout : Layout} {changes : List Change} {first last : Snapshot}
  {moves : List (Tile × UInt64)}

/-- Everything lies on the board as long as the fruit stays on the marker of a layout that was
read. -/
theorem onBoard_of_marked {text : String} (hlayout : Layout.parse text = .ok layout)
    (hchanges : ∀ fruit, Change.fruit fruit ∉ changes)
    (h : (assemble layout changes).build = .ok first) : first.OnBoard := by
  obtain ⟨-, -, hfruit, hfirst, -⟩ := build_eq_ok h
  refine ⟨hfirst.agent, hfirst.ghosts, ?_⟩
  intro fruit hsome
  rw [hfruit, fruit_assemble] at hsome
  cases hlast : (changes.filterMap (Change.fruit? layout)).getLast? with
  | none =>
      rw [hlast] at hsome
      cases hsome
  | some placed =>
      rw [hlast, Option.getD_some] at hsome
      obtain ⟨call, hcall, hplaced⟩ := List.mem_filterMap.mp (List.mem_of_getLast? hlast)
      cases call with
      | markedFruit remainingSteps duration =>
          cases hplaced
          obtain ⟨tile, htile, rfl⟩ := Option.map_eq_some_iff.mp hsome
          exact Layout.onBoard_of_parse hlayout (Or.inr htile)
      | fruit fruit => exact absurd hcall (hchanges fruit)
      | _ => cases hplaced

/-- On a snapshot that was built and moved the ghosts lie on the board. Everything does when the
last change that concerns the fruit puts it on the board, or takes it away, and the last move ends
on the board. -/
theorem onBoard_iff_of_assemble (hbuild : (assemble layout changes).build = .ok first)
    (hmoves : first.moved moves = .ok last) :
    (∀ ghost ∈ last.ghosts, ghost.tile.onBoard = true) ∧
      (last.OnBoard ↔
        (∀ fruit, (changes.filterMap (Change.fruit? layout)).getLast? = some (some fruit) →
          fruit.tile.onBoard = true) ∧
        ∀ move, moves.getLast? = some move → move.1.onBoard = true) := by
  obtain ⟨-, -, hfruit, hfirst, -⟩ := build_eq_ok hbuild
  obtain ⟨-, hghosts, -⟩ := Snapshot.moved_eq_ok hmoves
  refine ⟨hghosts ▸ hfirst.ghosts, ?_⟩
  have hplaced : ∀ fruit, first.fruit = some fruit ↔
      (changes.filterMap (Change.fruit? layout)).getLast? = some (some fruit) := by
    intro fruit
    rw [hfruit, fruit_assemble]
    cases (changes.filterMap (Change.fruit? layout)).getLast? <;> simp
  rw [hfirst.onBoard_iff hmoves]
  simp only [hplaced]

/-- A ghost, the agent and a fruit on a board that is all wall. -/
def errand : List Change :=
  [.ghost ⟨.red, ⟨1, 2⟩, false, false, none⟩, .agent ⟨1, 1⟩, .fruit ⟨⟨1, 3⟩, 5, 10⟩]

/-- The agent walks off the board. -/
theorem onBoard_iff_of_assemble_errand :
    ∃ first last, (assemble .solid errand).build = .ok first ∧
      first.moved [(⟨1, 2⟩, 1), (⟨31, 0⟩, 2)] = .ok last ∧
      (∀ ghost ∈ last.ghosts, ghost.tile.onBoard = true) ∧ ¬ last.OnBoard := by
  obtain ⟨first, last, hbuild, hmoves⟩ : ∃ first last,
      (assemble .solid errand).build = .ok first ∧
        first.moved [(⟨1, 2⟩, 1), (⟨31, 0⟩, 2)] = .ok last := ⟨_, _, rfl, rfl⟩
  obtain ⟨hghosts, honBoard⟩ := onBoard_iff_of_assemble hbuild hmoves
  refine ⟨first, last, hbuild, hmoves, hghosts, fun hlast => ?_⟩
  exact absurd ((honBoard.mp hlast).2 _ rfl) (by decide)

/-- Not everything that can be built lies on the board. -/
theorem not_onBoard_of_assemble :
    ¬ ∀ (layout : Layout) (changes : List Change) (first last : Snapshot)
      (moves : List (Tile × UInt64)), (assemble layout changes).build = .ok first →
        first.moved moves = .ok last → last.OnBoard := by
  intro hclaim
  obtain ⟨first, hfirst⟩ : ∃ first,
      (assemble .solid [.agent ⟨1, 5⟩, .fruit ⟨⟨31, 0⟩, 5, 10⟩]).build = .ok first := ⟨_, rfl⟩
  have honBoard := hclaim _ _ first first [] hfirst rfl
  obtain ⟨-, -, hfruit, -⟩ := build_eq_ok hfirst
  have hplaced := honBoard.fruit _ hfruit
  cases hplaced

end Setup
end MazeAgent
