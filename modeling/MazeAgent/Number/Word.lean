/-!
# Words of a fixed width

How many words there are of some number of bits, and which integers they stand for.

**Results.**
* `Word.count`: the number of words.
* `Word.isUnsigned`, `Word.isSigned`: whether a word stands for an integer.
-/

namespace MazeAgent
namespace Word

def count (bits : Nat) : Nat := 1 <<< bits

/-- Whether an integer is the unsigned reading of a word. -/
def isUnsigned (bits : Nat) (n : Int) : Bool := 0 ≤ n && n < count bits

/-- Whether an integer is the signed reading of a word. -/
def isSigned (bits : Nat) (n : Int) : Bool := -count (bits - 1) ≤ n && n < count (bits - 1)

end Word
end MazeAgent
