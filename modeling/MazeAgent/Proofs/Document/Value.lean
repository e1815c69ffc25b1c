import MazeAgent.Transport.Board
import Mathlib.Tactic

/-!
# Decoding what was encoded

What the decoders of numbers, words, lists and records make of the documents that stand for
values.

**Results.**
* `Document.uint64?_encode`, `Document.int32?_toInt`, `Document.word?_text`: plain values.
* `Document.optional?_ofOption`, `Document.list?_map`, `Document.exists_items_of_list?`: values
  built from others.
* `Document.record?_table`: a record by the names of its fields.
-/

namespace MazeAgent
namespace Document

/-! ## Plain values -/

theorem unsigned?_natCast {bits n : Nat} (h : n < Word.count bits) :
    (integer n).unsigned? bits = some n := by
  have hword : Word.isUnsigned bits n = true := by
    simp only [Word.isUnsigned, Bool.and_eq_true, decide_eq_true_eq]
    omega
  exact if_pos hword

theorem uint8?_toNat (n : UInt8) : (integer n.toNat).uint8? = some n := by
  rw [uint8?, unsigned?_natCast n.toNat_lt, Option.map_some]
  exact congrArg some UInt8.ofNat_toNat

theorem uint32?_encode (n : UInt32) : (UInt32.encode n).uint32? = some n := by
  rw [UInt32.encode, uint32?, unsigned?_natCast n.toNat_lt, Option.map_some]
  exact congrArg some UInt32.ofNat_toNat

theorem uint64?_encode (n : UInt64) : (UInt64.encode n).uint64? = some n := by
  rw [UInt64.encode, uint64?, unsigned?_natCast n.toNat_lt, Option.map_some]
  exact congrArg some UInt64.ofNat_toNat

theorem isSigned_toInt (n : Int32) : Word.isSigned 32 n.toInt = true := by
  have hlo := n.le_toInt
  have hhi := n.toInt_lt
  simp only [Word.isSigned, Word.count, Nat.one_shiftLeft, Bool.and_eq_true, decide_eq_true_eq]
  omega

theorem int32?_toInt (n : Int32) : (integer n.toInt).int32? = some n := by
  rw [int32?, if_pos (isSigned_toInt n), Int32.ofInt_toInt]

/-- The word of a value is decoded as this value, when no other value has the same word. -/
theorem word?_text {α : Type} {all : List α} {word : α → String} (style : DocumentStyle) {value : α}
    (hmem : value ∈ all) (hword : ∀ other ∈ all, word other = word value → other = value) :
    (text (word value)).word? style all word = some value := by
  rw [word?, choice?]
  dsimp only
  cases hfind : all.find? (fun other => word other == word value) with
  | none => exact absurd (List.find?_eq_none.mp hfind value hmem) (by simp)
  | some other =>
      have hsame := List.find?_some hfind
      rw [hword other (List.mem_of_find?_eq_some hfind) (beq_iff_eq.mp hsame)]

/-! ## Values built from others -/

section Built

variable {α : Type} {encode : α → Document} {decode : Document → Option α}

theorem optional?_ofOption (h : ∀ value, decode (encode value) = some value)
    (hnull : ∀ value, encode value ≠ null) (value : Option α) :
    (ofOption encode value).optional? decode = some value := by
  cases value with
  | none => rfl
  | some value =>
      rw [ofOption, optional?.eq_def]
      split
      · next heq => exact absurd heq (hnull value)
      · rw [h, Option.map_some]

theorem list?_map (h : ∀ value, decode (encode value) = some value) (values : List α) :
    (list (values.map encode)).list? decode = some values := by
  rw [list?]
  induction values with
  | nil => rfl
  | cons value values ih => simp [h, ih]

/-- A list is decoded item by item. -/
theorem exists_items_of_list? {document : Document} {values : List α}
    (h : document.list? decode = some values) :
    ∃ items, document = .list items ∧
      List.Forall₂ (fun item value => decode item = some value) items values := by
  cases document with
  | list items =>
      refine ⟨items, rfl, ?_⟩
      rw [list?] at h
      induction items generalizing values with
      | nil =>
          cases h
          exact .nil
      | cons item items ih =>
          rw [List.mapM_cons] at h
          obtain ⟨value, hvalue, hrest⟩ := Option.bind_eq_some_iff.mp h
          obtain ⟨others, hothers, heq⟩ := Option.bind_eq_some_iff.mp hrest
          cases heq
          exact .cons hvalue (ih hothers)
  | _ => cases h

end Built

/-! ## Choices and records -/

theorem choice?_tagged (tag : String) (payload : Document) :
    (tagged tag payload).choice? = some (tag, some payload) :=
  rfl

theorem field?_of_mem {fields : List (String × Document)} (h : (fields.map Prod.fst).Nodup)
    {field : String × Document} (hmem : field ∈ fields) :
    field? fields field.1 = some field.2 := by
  unfold field?
  cases hfind : fields.reverse.find? (fun other => other.1 == field.1) with
  | none => exact absurd (List.find?_eq_none.mp hfind field (List.mem_reverse.mpr hmem)) (by simp)
  | some other =>
      have hother := List.mem_reverse.mp (List.mem_of_find?_eq_some hfind)
      have hname := List.find?_some hfind
      rw [List.inj_on_of_nodup_map h hother hmem (beq_iff_eq.mp hname), Option.map_some]

/-- The parts of a record are what was put under their names. -/
theorem record?_table {fields : List (String × Document)} {names : List String}
    {style : DocumentStyle} {mayEndEarly : Bool} (hnames : fields.map Prod.fst = names)
    (h : names.Nodup) :
    (table fields).record? style mayEndEarly names =
      some (fields.map fun field => some field.2) := by
  subst hnames
  rw [record?, List.map_map]
  exact congrArg some (List.map_congr_left fun field hmem => field?_of_mem h hmem)

section Short

variable {style : DocumentStyle} {mayEndEarly : Bool} {first second third : String}
  {a b c : Document}

theorem record?_singleton :
    (table [(first, a)]).record? style mayEndEarly [first] = some [some a] :=
  record?_table rfl (List.nodup_singleton first)

theorem record?_pair (h : first ≠ second) :
    (table [(first, a), (second, b)]).record? style mayEndEarly [first, second] =
      some [some a, some b] :=
  record?_table rfl (by simp [h])

theorem record?_triple (hsecond : first ≠ second) (hthird : first ≠ third)
    (hothers : second ≠ third) :
    (table [(first, a), (second, b), (third, c)]).record? style mayEndEarly
      [first, second, third] = some [some a, some b, some c] :=
  record?_table rfl (by simp [hsecond, hthird, hothers])

end Short

end Document
end MazeAgent
