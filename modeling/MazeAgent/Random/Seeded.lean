import MazeAgent.Random.Source

/-!
# Seeded sources

A seed is stretched to a key of eight words, and the key is the key of a stream cipher of the
ChaCha family with twelve rounds. The words of its blocks, counted from zero, are the words of
the source.

**Results.**
* `RandomSource.seeded`: the source of a seed.
-/

namespace MazeAgent
namespace Chacha

abbrev Block := Vector UInt32 16

def rotateLeft (word amount : UInt32) : UInt32 :=
  (word <<< amount) ||| (word >>> (32 - amount))

def rotateRight (word amount : UInt32) : UInt32 :=
  (word >>> amount) ||| (word <<< (32 - amount))

/-- A quarter round on four words of a block. -/
def quarterRound (block : Block) (ia ib ic id : Fin 16) : Block :=
  let a := block[ia] + block[ib]
  let d := rotateLeft (block[id] ^^^ a) 16
  let c := block[ic] + d
  let b := rotateLeft (block[ib] ^^^ c) 12
  let a := a + b
  let d := rotateLeft (d ^^^ a) 8
  let c := c + d
  let b := rotateLeft (b ^^^ c) 7
  (((block.set ia a).set ib b).set ic c).set id d

/-- A round on the columns and a round on the diagonals. -/
def doubleRound (block : Block) : Block :=
  let block := quarterRound block 0 4 8 12
  let block := quarterRound block 1 5 9 13
  let block := quarterRound block 2 6 10 14
  let block := quarterRound block 3 7 11 15
  let block := quarterRound block 0 5 10 15
  let block := quarterRound block 1 6 11 12
  let block := quarterRound block 2 7 8 13
  quarterRound block 3 4 9 14

def doubleRounds : Nat := 6

/-- The block of a key before the rounds: four constants, the key and the number of the block. -/
def input (key : Vector UInt32 8) (counter : UInt64) : Block :=
  #v[0x61707865, 0x3320646e, 0x79622d32, 0x6b206574,
    key[0], key[1], key[2], key[3], key[4], key[5], key[6], key[7],
    counter.toUInt32, (counter >>> 32).toUInt32, 0, 0]

def block (key : Vector UInt32 8) (counter : UInt64) : Block :=
  let start := input key counter
  (Nat.repeat doubleRound doubleRounds start).zipWith (· + ·) start

/-- The state after a state of the generator that stretches seeds. -/
def nextState (state : UInt64) : UInt64 :=
  state * 6364136223846793005 + 11634580027462260723

/-- The word that a state of the generator gives. -/
def stateWord (state : UInt64) : UInt32 :=
  rotateRight (((state >>> 18) ^^^ state) >>> 27).toUInt32 (state >>> 59).toUInt32

/-- The state after the given number of steps. -/
def stateAfter (seed : UInt64) (steps : Nat) : UInt64 :=
  Nat.repeat nextState steps seed

def key (seed : UInt64) : Vector UInt32 8 :=
  Vector.ofFn (fun i => stateWord (stateAfter seed (i.val + 1)))

end Chacha

def RandomSource.seeded (seed : UInt64) : RandomSource :=
  let key := Chacha.key seed
  { word := fun i => (Chacha.block key (i / 16).toUInt64).get ⟨i % 16, Nat.mod_lt _ (by decide)⟩
    drawn := 0 }

end MazeAgent
