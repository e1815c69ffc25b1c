import MazeAgent.Number.Numeral
import MazeAgent.Number.Word

/-!
# Documents

A document is the value that a text in a data format denotes, before anything is known about
its meaning. Decoders turn documents into domain values; a decoder that finds no value says so
with `none`.

**Results.**
* `Document`: the values of the formats in use.
* `Document.record?`: the parts of a record, given by name or by position.
* the decoders of numbers, texts, lists and choices among words.
-/

namespace MazeAgent

/-- The value of a text in a data format. -/
inductive Document where
  | null
  | boolean (value : Bool)
  | integer (value : Int)
  | real (value : Numeral)
  | text (value : String)
  /-- A date or a time. -/
  | moment (value : String)
  | list (items : List Document)
  | table (fields : List (String × Document))
  deriving Inhabited, Repr

/-- Where data formats differ in what a document may stand for. -/
structure DocumentStyle where
  /-- Whether a document can be the empty payload of a choice. -/
  isEmptyPayload : Document → Bool
  /-- Whether a record given by position may have further parts. -/
  allowsExtraItems : Bool

namespace DocumentStyle

/-- The style of a format with a null value: an empty payload is null. -/
def withNull : DocumentStyle where
  isEmptyPayload
    | .null => true
    | _ => false
  allowsExtraItems := false

/-- The style of a format without a null value: an empty payload is an empty list or table. -/
def withoutNull : DocumentStyle where
  isEmptyPayload
    | .list [] => true
    | .table [] => true
    | _ => false
  allowsExtraItems := true

end DocumentStyle

namespace Document

/-! ## Plain values -/

def boolean? : Document → Option Bool
  | boolean value => some value
  | _ => none

def text? : Document → Option String
  | text value => some value
  | _ => none

def unsigned? (bits : Nat) : Document → Option Nat
  | integer value => if Word.isUnsigned bits value then some value.toNat else none
  | _ => none

def uint8? (document : Document) : Option UInt8 :=
  (document.unsigned? 8).map Nat.toUInt8

def uint32? (document : Document) : Option UInt32 :=
  (document.unsigned? 32).map Nat.toUInt32

def uint64? (document : Document) : Option UInt64 :=
  (document.unsigned? 64).map Nat.toUInt64

def int32? : Document → Option Int32
  | integer value => if Word.isSigned 32 value then some (Int32.ofInt value) else none
  | _ => none

/-- A binary32 number; a whole number of 64 bits is rounded. -/
def single? : Document → Option Single
  | integer value =>
      if Word.isSigned 64 value || Word.isUnsigned 64 value then some (Single.ofInt value)
      else none
  | real value => some value.toSingle
  | _ => none

/-- A value, or null for none. -/
def optional? {α : Type} (decode : Document → Option α) : Document → Option (Option α)
  | null => some none
  | document => (decode document).map some

def list? {α : Type} (decode : Document → Option α) : Document → Option (List α)
  | list items => items.mapM decode
  | _ => none

/-! ## Choices -/

/-- The tag of a choice and its payload: a lone text, or a table with one field. -/
def choice? : Document → Option (String × Option Document)
  | text tag => some (tag, none)
  | table [(tag, payload)] => some (tag, some payload)
  | _ => none

/-- A choice among words without payload. -/
def word? {α : Type} (style : DocumentStyle) (all : List α) (word : α → String)
    (document : Document) : Option α :=
  match document.choice? with
  | some (tag, none) => all.find? (fun value => word value == tag)
  | some (tag, some payload) =>
      if style.isEmptyPayload payload then
        all.find? (fun value => word value == tag)
      else
        none
  | none => none

/-! ## Records -/

/-- The field of a name; a later field wins over an earlier one of the same name. -/
def field? (fields : List (String × Document)) (name : String) : Option Document :=
  (fields.reverse.find? (fun field => field.1 == name)).map Prod.snd

/-- The parts of a record with the given names, none where a part is missing. A record may be a
table with further fields, or a list of its parts in order, which has to be whole unless it
may end early. -/
def record? (style : DocumentStyle) (mayEndEarly : Bool) (names : List String) :
    Document → Option (List (Option Document))
  | table fields => some (names.map (field? fields))
  | moment _ => some (names.map (fun _ => none))
  | list items =>
      if (items.length < names.length && !mayEndEarly) ||
          (names.length < items.length && !style.allowsExtraItems) then
        none
      else
        some ((List.range names.length).map (fun i => items[i]?))
  | _ => none

/-- A pair given as a list of two. -/
def pair? {α β : Type} (style : DocumentStyle) (first : Document → Option α)
    (second : Document → Option β) : Document → Option (α × β)
  | list (a :: b :: rest) =>
      if rest.isEmpty || style.allowsExtraItems then
        do return (← first a, ← second b)
      else
        none
  | _ => none

end Document
end MazeAgent
