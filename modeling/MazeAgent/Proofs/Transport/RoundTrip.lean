import MazeAgent.Proofs.Document.Json
import MazeAgent.Proofs.Document.Value
import MazeAgent.Transport.Event

/-!
# What travels arrives

Every value that is sent as JSON text is the value that is decoded from this text. The parts of a
value travel in the same way, so each type owes its law to the laws of its parts.

**Results.**
* `Document.Codes`: a decoding undoes an encoding, and JSON text holds what was encoded.
* `Json.Carries`: the same, of texts.
* `Json.carries_transport`: events, ghosts, fruit and board errors.
-/

namespace MazeAgent

namespace Document

/-- A decoding undoes an encoding, and JSON text holds what was encoded. -/
structure Codes {α : Type} (encode : α → Document) (decode : Document → Option α) : Prop where
  decode_encode (value : α) : decode (encode value) = some value
  isPlain (value : α) : Json.IsPlain (encode value)

namespace Codes

variable {α : Type} {encode : α → Document} {decode : Document → Option α}

/-- Words code the values of a type, when no two values have the same word. -/
theorem word {all : List α} {word : α → String} (style : DocumentStyle)
    (hmem : ∀ value, value ∈ all)
    (hword : ∀ value, ∀ other ∈ all, word other = word value → other = value) :
    Codes (fun value => text (word value)) (word? style all word) where
  decode_encode value := word?_text style (hmem value) (hword value)
  isPlain value := .text (word value)

theorem ofOption (h : Codes encode decode) (hnull : ∀ value, encode value ≠ null) :
    Codes (Document.ofOption encode) (optional? decode) where
  decode_encode := optional?_ofOption h.decode_encode hnull
  isPlain
    | none => .null
    | some value => h.isPlain value

theorem list (h : Codes encode decode) :
    Codes (fun values => Document.list (values.map encode)) (list? decode) where
  decode_encode := list?_map h.decode_encode
  isPlain values := .list fun item hitem => by
    obtain ⟨value, -, rfl⟩ := List.mem_map.mp hitem
    exact h.isPlain value

end Codes
end Document

open Document (Codes)

namespace Json

theorem isPlain_unsigned {n : Nat} (h : n < Word.count 64) : IsPlain (.integer n) :=
  .integer (Or.inr (by
    simp only [Word.isUnsigned, Bool.and_eq_true, decide_eq_true_eq]
    omega))

theorem isPlain_uint8 (n : UInt8) : IsPlain (.integer n.toNat) :=
  isPlain_unsigned (Nat.lt_of_lt_of_le n.toNat_lt (by decide))

theorem isPlain_uint32 (n : UInt32) : IsPlain (UInt32.encode n) :=
  isPlain_unsigned (Nat.lt_of_lt_of_le n.toNat_lt (by decide))

theorem isPlain_uint64 (n : UInt64) : IsPlain (UInt64.encode n) := isPlain_unsigned n.toNat_lt

theorem isPlain_int32 (n : Int32) : IsPlain (.integer n.toInt) :=
  .integer (Or.inl (by
    have hlo := n.le_toInt
    have hhi := n.toInt_lt
    simp only [Word.isSigned, Word.count, Nat.one_shiftLeft, Bool.and_eq_true, decide_eq_true_eq]
    omega))

theorem isPlain_tagged {tag : String} {payload : Document} (h : IsPlain payload) :
    IsPlain (.tagged tag payload) :=
  .table (by simpa using h)

end Json

/-! ## The board -/

section Board

variable (style : DocumentStyle)

theorem Tile.codes : Codes Tile.encode (Tile.decode style) where
  decode_encode tile := by
    simp [Tile.decode, Tile.encode, Document.record?_pair, Document.int32?_toInt]
  isPlain tile := .table (by simp [Json.isPlain_int32])

theorem Direction.codes : Codes Direction.encode (Direction.decode style) :=
  .word style (fun value => by cases value <;> decide) (fun value => by cases value <;> decide)

theorem GhostColor.codes : Codes GhostColor.encode (GhostColor.decode style) :=
  .word style (fun value => by cases value <;> decide) (fun value => by cases value <;> decide)

theorem Ghost.codes : Codes Ghost.encode (Ghost.decode style) where
  decode_encode ghost := by
    have hrecord : ghost.encode.record? style false
          ["color", "tile", "frightened", "spawning", "heading"] =
        some [some ghost.color.encode, some ghost.tile.encode, some (.boolean ghost.frightened),
          some (.boolean ghost.spawning),
          some (Document.ofOption Direction.encode ghost.heading)] :=
      Document.record?_table rfl (by decide)
    have hheading := ((Direction.codes style).ofOption fun _ => nofun).decode_encode ghost.heading
    simp [Ghost.decode, hrecord, (GhostColor.codes style).decode_encode,
      (Tile.codes style).decode_encode, Document.boolean?, hheading]
  isPlain ghost := .table (by
    have hheading := ((Direction.codes style).ofOption fun _ => nofun).isPlain ghost.heading
    simp [(GhostColor.codes style).isPlain, (Tile.codes style).isPlain, Json.IsPlain.boolean,
      hheading])

theorem Fruit.codes : Codes Fruit.encode (Fruit.decode style) where
  decode_encode fruit := by
    simp [Fruit.decode, Fruit.encode, Document.record?_triple, (Tile.codes style).decode_encode,
      Document.uint32?_encode]
  isPlain fruit := .table (by simp [(Tile.codes style).isPlain, Json.isPlain_uint32])

theorem StepError.codes : Codes StepError.encode (StepError.decode style) where
  decode_encode error := by
    simp [StepError.decode, StepError.encode, Document.choice?_tagged, Document.record?_pair,
      Document.int32?_toInt]
  isPlain error := Json.isPlain_tagged (.table (by simp [Json.isPlain_int32]))

theorem LayoutError.char?_singleton (glyph : Char) :
    LayoutError.char? (.text (String.singleton glyph)) = some glyph := by
  simp [LayoutError.char?, Document.text?]

theorem LayoutError.codes : Codes LayoutError.encode (LayoutError.decode style) where
  decode_encode error := by
    cases error with
    | tooManyRows rows max =>
        simp [LayoutError.decode, LayoutError.encode, Document.choice?_tagged,
          Document.record?_pair, Document.uint64?_encode]
    | rowTooWide row cols max =>
        simp [LayoutError.decode, LayoutError.encode, Document.choice?_tagged,
          Document.record?_triple, Document.uint64?_encode]
    | unknownGlyph glyph tile =>
        simp [LayoutError.decode, LayoutError.encode, Document.choice?_tagged,
          Document.record?_pair, LayoutError.char?_singleton, (Tile.codes style).decode_encode]
    | duplicateAgent tile =>
        simp [LayoutError.decode, LayoutError.encode, Document.choice?_tagged,
          Document.record?_singleton, (Tile.codes style).decode_encode]
  isPlain error := by
    cases error with
    | tooManyRows rows max =>
        exact Json.isPlain_tagged (.table (by simp [Json.isPlain_uint64]))
    | rowTooWide row cols max =>
        exact Json.isPlain_tagged (.table (by simp [Json.isPlain_uint64]))
    | unknownGlyph glyph tile =>
        exact Json.isPlain_tagged (.table (by simp [Json.IsPlain.text, (Tile.codes style).isPlain]))
    | duplicateAgent tile =>
        exact Json.isPlain_tagged (.table (by simp [(Tile.codes style).isPlain]))

theorem SnapshotError.codes : Codes SnapshotError.encode (SnapshotError.decode style) where
  decode_encode error := by
    cases error with
    | ghostListFull max =>
        simp [SnapshotError.decode, SnapshotError.encode, Document.choice?_tagged,
          Document.record?_singleton, Document.uint64?_encode]
    | outOfBounds tile =>
        simp [SnapshotError.decode, SnapshotError.encode, Document.choice?_tagged,
          Document.record?_singleton, (Tile.codes style).decode_encode]
    | missingAgent => rfl
  isPlain error := by
    cases error with
    | ghostListFull max => exact Json.isPlain_tagged (.table (by simp [Json.isPlain_uint64]))
    | outOfBounds tile =>
        exact Json.isPlain_tagged (.table (by simp [(Tile.codes style).isPlain]))
    | missingAgent => exact .text "MissingAgent"

end Board

/-! ## Events -/

section Event

variable (style : DocumentStyle)

theorem MoveCommand.codes : Codes MoveCommand.encode (MoveCommand.decode style) :=
  .word style (fun value => by cases value <;> decide) (fun value => by cases value <;> decide)

theorem DecisionState.codes : Codes DecisionState.encode (DecisionState.decode style) :=
  .word style (fun value => by cases value <;> decide) (fun value => by cases value <;> decide)

theorem Decision.codes : Codes Decision.encode (Decision.decode style) where
  decode_encode decision := by
    have hrecord : decision.encode.record? style false ["sequence", "command", "target", "state"] =
        some [some (UInt64.encode decision.sequence), some decision.command.encode,
          some decision.target.encode, some decision.state.encode] :=
      Document.record?_table rfl (by decide)
    simp [Decision.decode, hrecord, Document.uint64?_encode,
      (MoveCommand.codes style).decode_encode, (Tile.codes style).decode_encode,
      (DecisionState.codes style).decode_encode]
  isPlain decision := .table (by
    simp [Json.isPlain_uint64, (MoveCommand.codes style).isPlain, (Tile.codes style).isPlain,
      (DecisionState.codes style).isPlain])

theorem Rgb.codes : Codes Rgb.encode (Rgb.decode style) where
  decode_encode color := by simp [Rgb.decode, Rgb.encode, Document.uint8?_toNat]
  isPlain color := .list (by simp [Json.isPlain_uint8])

theorem OverlayEvent.codes_cell :
    Codes OverlayEvent.encodeCell
      (Document.pair? style (Tile.decode style) (Rgb.decode style)) where
  decode_encode cell := by
    simp [OverlayEvent.encodeCell, Document.pair?, (Tile.codes style).decode_encode,
      (Rgb.codes style).decode_encode]
  isPlain cell := .list (by simp [(Tile.codes style).isPlain, (Rgb.codes style).isPlain])

theorem OverlayEvent.codes : Codes OverlayEvent.encode (OverlayEvent.decode style) where
  decode_encode overlay := by
    cases overlay with
    | field cells =>
        have hcells := (OverlayEvent.codes_cell style).list.decode_encode cells
        simp [OverlayEvent.decode, OverlayEvent.encode, Document.choice?_tagged,
          Document.record?_singleton, hcells]
    | path tiles =>
        have htiles := (Tile.codes style).list.decode_encode tiles
        simp [OverlayEvent.decode, OverlayEvent.encode, Document.choice?_tagged,
          Document.record?_singleton, htiles]
  isPlain overlay := by
    cases overlay with
    | field cells =>
        have hcells := (OverlayEvent.codes_cell style).list.isPlain cells
        exact Json.isPlain_tagged (.table (by simp [hcells]))
    | path tiles =>
        have htiles := (Tile.codes style).list.isPlain tiles
        exact Json.isPlain_tagged (.table (by simp [htiles]))

theorem Event.codes : Codes Event.encode (Event.decode style) where
  decode_encode event := by
    cases event with
    | decision value =>
        simp [Event.decode, Event.encode, Document.choice?_tagged,
          (Decision.codes style).decode_encode]
    | overlay value =>
        simp [Event.decode, Event.encode, Document.choice?_tagged,
          (OverlayEvent.codes style).decode_encode]
  isPlain event := by
    cases event with
    | decision value => exact Json.isPlain_tagged ((Decision.codes style).isPlain value)
    | overlay value => exact Json.isPlain_tagged ((OverlayEvent.codes style).isPlain value)

end Event

/-! ## Texts -/

namespace Json

/-- A value arrives when the text written for it is read and decoded, and no other value has the
same text. -/
structure Carries {α : Type} (encode : α → Document) (decode : Document → Option α) : Prop where
  decode_encode (value : α) : decode (encode value) = some value
  decode_read (value : α) : (read (write (encode value))).bind decode = some value
  injective : Function.Injective fun value => write (encode value)

theorem carries {α : Type} {encode : α → Document} {decode : Document → Option α}
    (h : Codes encode decode) : Carries encode decode where
  decode_encode := h.decode_encode
  decode_read value := by rw [read_write (h.isPlain value), Option.bind_some, h.decode_encode]
  injective value other heq := by
    have hread := congrArg read heq
    rw [read_write (h.isPlain value), read_write (h.isPlain other)] at hread
    have hdecode := congrArg decode (Option.some.inj hread)
    rw [h.decode_encode, h.decode_encode] at hdecode
    exact Option.some.inj hdecode

/-- Events, ghosts, fruit and board errors arrive as they were sent, whatever their numbers and
however long their lists. The tag of the text of an event is the name of its topic, and what arrives
has this topic. -/
theorem carries_transport :
    (Carries Event.encode (Event.decode .withNull) ∧
      ∀ event : Event,
        ((read (write event.encode)).bind (Event.decode .withNull)).map Event.topic =
            some event.topic ∧
          (event.encode.choice?).map Prod.fst = some event.topic.wireName) ∧
      Carries Ghost.encode (Ghost.decode .withNull) ∧
      Carries Fruit.encode (Fruit.decode .withNull) ∧
      Carries LayoutError.encode (LayoutError.decode .withNull) ∧
      Carries SnapshotError.encode (SnapshotError.decode .withNull) ∧
      Carries StepError.encode (StepError.decode .withNull) := by
  have hevent := carries (Event.codes .withNull)
  refine ⟨⟨hevent, fun event => ⟨?_, ?_⟩⟩, carries (Ghost.codes _), carries (Fruit.codes _),
    carries (LayoutError.codes _), carries (SnapshotError.codes _), carries (StepError.codes _)⟩
  · rw [hevent.decode_read event, Option.map_some]
  · cases event with
    | decision value => rfl
    | overlay value => rfl

end Json

end MazeAgent
