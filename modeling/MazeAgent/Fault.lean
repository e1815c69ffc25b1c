/-!
# Faults of machine arithmetic and of board access

A computation that leaves the range of its machine word, or reads a board cell that is not
there, stops with a `Fault`. The type `Checked` is the result of such a computation.

**Results.**
* `Fault.message`: the text that names a fault.
* `Coordinate.add`, `Coordinate.sub`, `Coordinate.mul`: signed 32-bit arithmetic that
  faults instead of wrapping around.
-/

namespace MazeAgent

/-- The reasons for which a computation stops before it has a value. -/
inductive Fault where
  | additionOverflow
  | subtractionOverflow
  | multiplicationOverflow
  | offBoard (row col : Int32)
  | noCapacity
  | excessiveCapacity
  deriving DecidableEq, Repr

def Fault.message : Fault → String
  | .additionOverflow => "attempt to add with overflow"
  | .subtractionOverflow => "attempt to subtract with overflow"
  | .multiplicationOverflow => "attempt to multiply with overflow"
  | .offBoard row col => s!"tile ({row.toInt}, {col.toInt}) is off the board"
  | .noCapacity => "broadcast channel capacity cannot be zero"
  | .excessiveCapacity => "broadcast channel capacity exceeded `usize::MAX / 2`"

/-- A value, or the fault that prevented it. -/
abbrev Checked (α : Type) := Except Fault α

namespace Checked

variable {α β : Type}

@[simp] theorem ok_bind (value : α) (next : α → Checked β) :
    (Except.ok value : Checked α) >>= next = next value := rfl

@[simp] theorem error_bind (fault : Fault) (next : α → Checked β) :
    (Except.error fault : Checked α) >>= next = .error fault := rfl

/-- A computation in two parts has a value when both parts have one. -/
theorem bind_eq_ok_iff {first : Checked α} {next : α → Checked β} {value : β} :
    first >>= next = .ok value ↔ ∃ middle, first = .ok middle ∧ next middle = .ok value := by
  cases first with
  | error fault => simp
  | ok middle => simp

/-- A filter has a value when it has one for the first item and for the others. -/
theorem filterMapM_cons_eq_ok_iff {keep : α → Checked (Option β)} {first : α} {rest : List α}
    {kept : List β} :
    (first :: rest).filterMapM keep = .ok kept ↔
      ∃ found others, keep first = .ok found ∧ rest.filterMapM keep = .ok others ∧
        kept = found.toList ++ others := by
  rw [List.filterMapM_cons, bind_eq_ok_iff]
  constructor
  · rintro ⟨found, hfound, h⟩
    cases found with
    | none => exact ⟨none, kept, hfound, h, rfl⟩
    | some value =>
        obtain ⟨others, hothers, hkept⟩ := bind_eq_ok_iff.mp h
        cases hkept
        exact ⟨some value, others, hfound, hothers, rfl⟩
  · rintro ⟨found, others, hfound, hothers, rfl⟩
    refine ⟨found, hfound, ?_⟩
    cases found with
    | none => exact hothers
    | some value => exact bind_eq_ok_iff.mpr ⟨others, hothers, rfl⟩

/-- What a filter that has a value keeps of a list. -/
theorem mem_filterMapM_iff {keep : α → Checked (Option β)} {items : List α} {kept : List β}
    (h : items.filterMapM keep = .ok kept) (value : β) :
    value ∈ kept ↔ ∃ item ∈ items, keep item = .ok (some value) := by
  induction items generalizing kept with
  | nil =>
      cases h
      simp
  | cons first rest ih =>
      obtain ⟨found, others, hfound, hothers, rfl⟩ := filterMapM_cons_eq_ok_iff.mp h
      cases found <;> simp [ih hothers, hfound, eq_comm]

end Checked

namespace Coordinate

/-- An integer as a coordinate, when the 32 signed bits hold it. -/
def ofInt (fault : Fault) (n : Int) : Checked Int32 :=
  if Int32.minValue.toInt ≤ n ∧ n ≤ Int32.maxValue.toInt then
    .ok (Int32.ofInt n)
  else
    .error fault

def add (a b : Int32) : Checked Int32 :=
  ofInt .additionOverflow (a.toInt + b.toInt)

def sub (a b : Int32) : Checked Int32 :=
  ofInt .subtractionOverflow (a.toInt - b.toInt)

def mul (a b : Int32) : Checked Int32 :=
  ofInt .multiplicationOverflow (a.toInt * b.toInt)

end Coordinate
end MazeAgent
