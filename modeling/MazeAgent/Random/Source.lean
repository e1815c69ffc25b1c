/-!
# Sources of random words

A source is an endless sequence of 32-bit words with a mark up to which words have been drawn.
An index below a bound is the high half of a product with a word; words that would favor some
indices are passed over.

**Results.**
* `RandomSource.index`: an index below a positive bound.
* `RandomSource.choose`: an item of a list.
-/

namespace MazeAgent

/-- A sequence of words, and how many of them have been drawn. -/
structure RandomSource where
  word : Nat → UInt32
  drawn : Nat

namespace RandomSource

/-- The source that hands out the given words over and over. -/
def cyclic (words : Array UInt32) : RandomSource where
  word i := (words[i % words.size]?).getD 0
  drawn := 0

def next (source : RandomSource) : UInt32 × RandomSource :=
  (source.word source.drawn, { source with drawn := source.drawn + 1 })

/-- The greatest low half of a product that is not passed over. -/
def zone (bound : UInt32) : UInt32 :=
  (bound <<< (31 - bound.toNat.log2).toUInt32) - 1

/-- How many words may be passed over in a row. A source that offers nothing else for that long
gives the first index. -/
def patience : Nat := UInt32.size

/-- An index below a bound, from one of the next `fuel` words. -/
def indexWithin (bound : UInt32) : (fuel : Nat) → RandomSource → Nat × RandomSource
  | 0, source => (0, source)
  | fuel + 1, source =>
      let (word, source) := source.next
      let product := word.toNat * bound.toNat
      if product % UInt32.size ≤ (zone bound).toNat then
        (product / UInt32.size, source)
      else
        indexWithin bound fuel source

def index (source : RandomSource) (bound : Nat) : Nat × RandomSource :=
  indexWithin bound.toUInt32 patience source

/-- An item of a list, and nothing of an empty list, for which no word is drawn. -/
def choose {α : Type} (source : RandomSource) : List α → Option α × RandomSource
  | [] => (none, source)
  | first :: rest =>
      let (i, source) := source.index (rest.length + 1)
      (some ((first :: rest).getD i first), source)

/-! ## Indices stay below their bound -/

theorem indexWithin_lt {bound : UInt32} (hbound : 0 < bound.toNat) (fuel : Nat)
    (source : RandomSource) : (indexWithin bound fuel source).1 < bound.toNat := by
  induction fuel generalizing source with
  | zero => simpa [indexWithin] using hbound
  | succ fuel ih =>
    simp only [indexWithin]
    split
    · have hword := (source.next).1.toNat_lt
      have hlt : (source.next).1.toNat * bound.toNat < UInt32.size * bound.toNat :=
        Nat.mul_lt_mul_of_pos_right hword hbound
      exact Nat.div_lt_of_lt_mul hlt
    · exact ih _

theorem choose_nil {α : Type} (source : RandomSource) :
    source.choose ([] : List α) = (none, source) := rfl

theorem mem_of_choose {α : Type} {source : RandomSource} {items : List α} {item : α}
    (h : (source.choose items).1 = some item) : item ∈ items := by
  cases items with
  | nil => simp [choose] at h
  | cons first rest =>
    simp only [choose, Option.some.injEq] at h
    rw [← h, List.getD_eq_getElem?_getD]
    cases hget : (first :: rest)[(source.index (rest.length + 1)).1]? with
    | none => simp
    | some value =>
      rw [Option.getD_some]
      exact List.mem_of_getElem? hget

theorem choose_isSome {α : Type} (source : RandomSource) {items : List α} (h : items ≠ []) :
    (source.choose items).1.isSome = true := by
  cases items with
  | nil => exact absurd rfl h
  | cons first rest => rfl

end RandomSource
end MazeAgent
