/-!
# The ChaCha stream cipher as a source of words

A block of sixteen words is made from a key of eight words and a block number by rounds of
quarter rounds on the columns and diagonals of a four by four matrix, added to the matrix at the
start. Twelve rounds are made here. The key comes from a 64-bit seed, stretched by a linear
congruential generator with permuted output.
-/

namespace DeviceBus.ChaCha

/-- A matrix of sixteen words, row after row. -/
abbrev Matrix := Vector UInt32 16

/-- A word rotated to the left. -/
def rotate (word amount : UInt32) : UInt32 :=
  (word <<< amount) ||| (word >>> (32 - amount))

/-- Mix four words of a matrix. -/
def quarterRound (a b c d : Fin 16) (m : Matrix) : Matrix :=
  let m := m.set a (m[a] + m[b])
  let m := m.set d (rotate (m[d] ^^^ m[a]) 16)
  let m := m.set c (m[c] + m[d])
  let m := m.set b (rotate (m[b] ^^^ m[c]) 12)
  let m := m.set a (m[a] + m[b])
  let m := m.set d (rotate (m[d] ^^^ m[a]) 8)
  let m := m.set c (m[c] + m[d])
  m.set b (rotate (m[b] ^^^ m[c]) 7)

/-- One round on the columns and one on the diagonals. -/
def doubleRound (m : Matrix) : Matrix :=
  let m := quarterRound 0 4 8 12 m
  let m := quarterRound 1 5 9 13 m
  let m := quarterRound 2 6 10 14 m
  let m := quarterRound 3 7 11 15 m
  let m := quarterRound 0 5 10 15 m
  let m := quarterRound 1 6 11 12 m
  let m := quarterRound 2 7 8 13 m
  quarterRound 3 4 9 14 m

/-- The matrix that a block starts from: four constants, the key, the block number in two words
and two zeros. -/
def start (key : Vector UInt32 8) (block : UInt64) : Matrix :=
  #v[0x61707865, 0x3320646e, 0x79622d32, 0x6b206574, key[0], key[1], key[2], key[3], key[4],
    key[5], key[6], key[7], block.toUInt32, (block >>> 32).toUInt32, 0, 0]

/-- A block of sixteen words. -/
def block (key : Vector UInt32 8) (number : UInt64) : Matrix :=
  let first := start key number
  let mixed := Nat.repeat doubleRound 6 first
  Vector.zipWith (· + ·) mixed first

/-- One step of the seed generator: the next state and a word of output. -/
def stretch (state : UInt64) : UInt64 × UInt32 :=
  let state := state * 6364136223846793005 + 11634580027462260723
  let mixed := (((state >>> 18) ^^^ state) >>> 27).toUInt32
  let amount := (state >>> 59).toUInt32
  (state, (mixed >>> amount) ||| (mixed <<< ((32 - amount) % 32)))

/-- So many words stretched from a state. -/
def stretchWords : Nat → UInt64 → List UInt32
  | 0, _ => []
  | count + 1, state => (stretch state).2 :: stretchWords count (stretch state).1

/-- The key of a seed. -/
def keyOfSeed (seed : UInt64) : Vector UInt32 8 :=
  let words := stretchWords 8 seed
  Vector.ofFn fun i => words.getD i 0

/-- The 64-bit word at a position of the stream of a seed: two words of the blocks, low half
first. -/
def word (seed : UInt64) (position : Nat) : UInt64 :=
  let words := block (keyOfSeed seed) (UInt64.ofNat (position / 8))
  let index := position % 8 * 2
  (words.toList.getD index 0).toUInt64 ||| ((words.toList.getD (index + 1) 0).toUInt64 <<< 32)

end DeviceBus.ChaCha
