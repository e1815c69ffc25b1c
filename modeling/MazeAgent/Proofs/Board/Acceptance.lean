import MazeAgent.Proofs.Board.Assembly

/-!
# Which setups make a snapshot

A setup is looked at only when its snapshot is built: the agent first, and then the ghosts one by
one in the order in which they were added. A ghost is refused for its tile before it is refused
for want of room, so the fifth ghost off the board is off the board, and nothing that comes after
it makes a difference.

**Results.**
* `Setup.assemble_eq`: a setup after some changes, field by field.
* `Setup.refuseGhosts_eq_some_iff`: the first ghost that is refused, and why.
* `Setup.build_assemble_iff`: the snapshot of a setup after any changes, or the error.
-/

namespace MazeAgent
namespace Setup

/-! ## What changes set -/

namespace Change

def sequence? : Change → Option UInt64
  | .sequence value => some value
  | _ => none

def agent? : Change → Option (Option Tile)
  | .agent tile => some (some tile)
  | _ => none

def heading? : Change → Option (Option Direction)
  | .heading value => some value
  | _ => none

def lives? : Change → Option UInt8
  | .lives value => some value
  | _ => none

def mode? : Change → Option GameMode
  | .mode value => some value
  | _ => none

def pelletsRemaining? : Change → Option (Option UInt32)
  | .pelletsRemaining value => some (some value)
  | _ => none

/-- The ghosts that a change adds. -/
def added : Change → List Ghost
  | .ghost one => [one]
  | .ghosts more => more
  | _ => []

end Change

theorem ghosts_change (setup : Setup) (call : Change) :
    (setup.change call).ghosts = setup.ghosts ++ call.added := by
  cases call <;> simp [change, Change.added, withMarkedFruit]

/-- Ghosts are kept in the order in which they were added. -/
theorem ghosts_foldl_change (setup : Setup) (changes : List Change) :
    (changes.foldl change setup).ghosts = setup.ghosts ++ changes.flatMap Change.added := by
  induction changes generalizing setup with
  | nil => rw [List.foldl_nil, List.flatMap_nil, List.append_nil]
  | cons call rest ih =>
      rw [List.foldl_cons, ih, ghosts_change, List.flatMap_cons, List.append_assoc]

attribute [ext] Setup

/-- A setup after some changes. -/
theorem assemble_eq (layout : Layout) (changes : List Change) :
    assemble layout changes =
      { layout := layout
        sequence := lastSet Change.sequence? changes 0
        fruit := lastSet (Change.fruit? layout) changes none
        ghosts := changes.flatMap Change.added
        agent := lastSet Change.agent? changes layout.agent
        heading := lastSet Change.heading? changes none
        lives := lastSet Change.lives? changes 3
        mode := lastSet Change.mode? changes GameMode.standard
        pelletsRemaining := lastSet Change.pelletsRemaining? changes none } := by
  have hset {α : Type} (field : Setup → α) (sets : Change → Option α)
      (h : ∀ next call, field (change next call) = (sets call).getD (field next)) :
      field (assemble layout changes) = lastSet sets changes (field (ofLayout layout)) :=
    foldl_change_eq_lastSet field changes (fun next call _ => h next call)
  ext1
  case layout =>
    rw [hset Setup.layout (fun _ => none) layout_change, lastSet, List.filterMap_none]
    rfl
  case fruit => exact fruit_assemble layout changes
  case ghosts => exact ghosts_foldl_change (ofLayout layout) changes
  case sequence => exact hset Setup.sequence _ (fun _ call => by cases call <;> rfl)
  case agent => exact hset Setup.agent _ (fun _ call => by cases call <;> rfl)
  case heading => exact hset Setup.heading _ (fun _ call => by cases call <;> rfl)
  case lives => exact hset Setup.lives _ (fun _ call => by cases call <;> rfl)
  case mode => exact hset Setup.mode _ (fun _ call => by cases call <;> rfl)
  case pelletsRemaining =>
    exact hset Setup.pelletsRemaining _ (fun _ call => by cases call <;> rfl)

/-! ## Refused ghosts -/

/-- Why a ghost that follows `count` others is refused: it is off the board, whatever room there
is, or it is on the board and there is no room. -/
@[mk_iff]
inductive IsRefused (count : Nat) (ghost : Ghost) : SnapshotError → Prop where
  | offBoard (hghost : ghost.tile.onBoard = false) :
      IsRefused count ghost (.outOfBounds ghost.tile)
  | full (hghost : ghost.tile.onBoard = true) (hcount : count = maxGhosts) :
      IsRefused count ghost (.ghostListFull 4)

/-- Why the first of some ghosts that is refused is refused, when they follow `count` others. All
ghosts before it are on the board and there is room for them. -/
inductive GhostFault (count : Nat) (ghosts : List Ghost) (error : SnapshotError) : Prop where
  | intro {before after : List Ghost} {ghost : Ghost} (heq : ghosts = before ++ ghost :: after)
      (hbefore : ∀ other ∈ before, other.tile.onBoard = true)
      (hroom : count + before.length ≤ maxGhosts)
      (hghost : IsRefused (count + before.length) ghost error)

section Ghosts

variable {count : Nat} {first : Ghost} {ghosts rest : List Ghost} {error : SnapshotError}

theorem GhostFault.le (h : GhostFault count ghosts error) : count ≤ maxGhosts := by
  obtain ⟨-, -, hroom, -⟩ := h
  omega

theorem not_ghostFault_nil : ¬ GhostFault count [] error := by
  rintro ⟨heq, -, -, -⟩
  simp at heq

theorem ghostFault_cons_iff (hcount : count ≤ maxGhosts) :
    GhostFault count (first :: rest) error ↔
      IsRefused count first error ∨
        first.tile.onBoard = true ∧ GhostFault (count + 1) rest error := by
  constructor
  · rintro ⟨heq, hbefore, hroom, hghost⟩
    rcases List.cons_eq_append_iff.mp heq with ⟨rfl, heq⟩ | ⟨before, rfl, rfl⟩
    · cases heq
      exact Or.inl hghost
    · obtain ⟨hfirst, hbefore⟩ := List.forall_mem_cons.mp hbefore
      have hlength : count + (first :: before).length = count + 1 + before.length := by
        rw [List.length_cons]
        omega
      rw [hlength] at hroom hghost
      exact Or.inr ⟨hfirst, rfl, hbefore, hroom, hghost⟩
  · rintro (hghost | ⟨hfirst, @⟨before, after, ghost, rfl, hbefore, hroom, hghost⟩⟩)
    · exact ⟨(List.nil_append _).symm, by simp, hcount, hghost⟩
    · have hlength : count + 1 + before.length = count + (first :: before).length := by
        rw [List.length_cons]
        omega
      rw [hlength] at hroom hghost
      exact ⟨List.cons_append.symm, List.forall_mem_cons.mpr ⟨hfirst, hbefore⟩, hroom, hghost⟩

/-- The ghosts are refused for the first of them that has to be. -/
theorem refuseGhosts_eq_some_iff (hcount : count ≤ maxGhosts) :
    refuseGhosts count ghosts = some error ↔ GhostFault count ghosts error := by
  induction ghosts generalizing count with
  | nil => simp [refuseGhosts, not_ghostFault_nil]
  | cons first rest ih =>
      unfold refuseGhosts
      rw [ghostFault_cons_iff hcount, isRefused_iff]
      by_cases hfirst : first.tile.onBoard = true
      · by_cases hroom : maxGhosts ≤ count
        · -- No later ghost is the first to be refused, as there is no room for this one.
          have hfull : ¬ GhostFault (count + 1) rest error := fun h => absurd h.le (by omega)
          have hmax : maxGhosts.toUInt64 = 4 := rfl
          obtain rfl := Nat.le_antisymm hcount hroom
          simp [hfirst, hfull, hmax, eq_comm]
        · have hne : count ≠ maxGhosts := by omega
          rw [← ih (by omega)]
          simp [hfirst, hroom, hne]
      · simp [hfirst, eq_comm]

end Ghosts

/-! ## Building -/

/-- Why a setup is refused, by its agent and its ghosts. -/
inductive Refusal (agent : Option Tile) (ghosts : List Ghost) : SnapshotError → Prop where
  | missingAgent (hagent : agent = none) : Refusal agent ghosts .missingAgent
  | agentOffBoard {tile : Tile} (hagent : agent = some tile) (htile : tile.onBoard = false) :
      Refusal agent ghosts (.outOfBounds tile)
  | ghost {tile : Tile} {error : SnapshotError} (hagent : agent = some tile)
      (htile : tile.onBoard = true) (hghosts : GhostFault 0 ghosts error) :
      Refusal agent ghosts error

variable {setup : Setup} {board : Snapshot} {error : SnapshotError}

/-- The snapshot of a setup whose agent stands on the given tile. -/
def snapshot (setup : Setup) (agent : Tile) : Snapshot where
  sequence := setup.sequence
  walls := setup.layout.walls
  pellets := setup.layout.pellets
  superPellets := setup.layout.superPellets
  fruit := setup.fruit
  ghosts := setup.ghosts
  agent := agent
  heading := setup.heading
  lives := setup.lives
  mode := setup.mode
  pelletsRemaining := setup.pelletsRemaining.getD setup.layout.pelletCount.toUInt32

theorem build_eq_ok_iff :
    setup.build = .ok board ↔
      ∃ agent, setup.agent = some agent ∧ agent.onBoard = true ∧
        refuseGhosts 0 setup.ghosts = none ∧ board = setup.snapshot agent := by
  unfold build
  cases setup.agent with
  | none => simp
  | some agent =>
      by_cases honBoard : agent.onBoard = true
      · cases refuseGhosts 0 setup.ghosts with
        | none => simp [honBoard, snapshot, eq_comm (a := board)]
        | some found => simp [honBoard]
      · simp [honBoard]

theorem build_eq_error_iff :
    setup.build = .error error ↔ Refusal setup.agent setup.ghosts error := by
  unfold build
  constructor
  · intro h
    split at h
    · next hagent =>
      cases h
      exact .missingAgent hagent
    · next agent hagent =>
      split at h
      · next htile =>
        cases h
        exact .agentOffBoard hagent (by simpa using htile)
      · next htile =>
        split at h
        · next found hfound =>
          cases h
          exact .ghost hagent (by simpa using htile)
            ((refuseGhosts_eq_some_iff (Nat.zero_le _)).mp hfound)
        · cases h
  · intro h
    cases h with
    | missingAgent hagent => rw [hagent]
    | agentOffBoard hagent htile => simp [hagent, htile]
    | ghost hagent htile hghosts =>
        have hfound := (refuseGhosts_eq_some_iff (Nat.zero_le _)).mpr hghosts
        simp [hagent, htile, hfound]

/-- The snapshot of a layout after any changes, and the errors otherwise. -/
theorem build_assemble_iff (layout : Layout) (changes : List Change) :
    (∀ board, (assemble layout changes).build = .ok board ↔
      ∃ agent, lastSet Change.agent? changes layout.agent = some agent ∧
        agent.onBoard = true ∧
        (∀ ghost ∈ changes.flatMap Change.added, ghost.tile.onBoard = true) ∧
        (changes.flatMap Change.added).length ≤ maxGhosts ∧
        board = {
          sequence := lastSet Change.sequence? changes 0
          walls := layout.walls
          pellets := layout.pellets
          superPellets := layout.superPellets
          fruit := lastSet (Change.fruit? layout) changes none
          ghosts := changes.flatMap Change.added
          agent := agent
          heading := lastSet Change.heading? changes none
          lives := lastSet Change.lives? changes 3
          mode := lastSet Change.mode? changes GameMode.standard
          pelletsRemaining := (lastSet Change.pelletsRemaining? changes none).getD
            layout.pelletCount.toUInt32 }) ∧
    ∀ error, (assemble layout changes).build = .error error ↔
      Refusal (lastSet Change.agent? changes layout.agent) (changes.flatMap Change.added)
        error := by
  refine ⟨fun board => ?_, fun error => ?_⟩
  · rw [build_eq_ok_iff, assemble_eq]
    simp only [refuseGhosts_eq_none_iff (Nat.zero_le _), Nat.zero_add, and_assoc]
    rfl
  · rw [build_eq_error_iff, assemble_eq]

end Setup
end MazeAgent
