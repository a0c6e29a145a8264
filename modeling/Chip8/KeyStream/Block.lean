/-!
# Blocks of the key stream

Random bytes come from a stream cipher's key stream: ChaCha with twelve rounds. A block is sixteen
words of 32 bits, and each block depends on the key and on its number alone. `byteAt` says directly
which byte stands at which place of the stream.
-/

namespace Chip8.KeyStream

/-- Eight words that select a stream. -/
abbrev Key := Vector UInt32 8

/-- Sixteen words. -/
abbrev Block := Vector UInt32 16

/-- Rotate a word to the left. -/
def rotateLeft (w : UInt32) (count : UInt32) : UInt32 := (w <<< count) ||| (w >>> (32 - count))

/-- Mix four words of a block. -/
def quarterRound (s : Block) (a b c d : Fin 16) : Block :=
  let wa := s[a] + s[b]
  let wd := rotateLeft (s[d] ^^^ wa) 16
  let wc := s[c] + wd
  let wb := rotateLeft (s[b] ^^^ wc) 12
  let wa := wa + wb
  let wd := rotateLeft (wd ^^^ wa) 8
  let wc := wc + wd
  let wb := rotateLeft (wb ^^^ wc) 7
  (((s.set a wa).set b wb).set c wc).set d wd

/-- A round on the columns and a round on the diagonals of the block. -/
def doubleRound (s : Block) : Block :=
  let s := quarterRound s 0 4 8 12
  let s := quarterRound s 1 5 9 13
  let s := quarterRound s 2 6 10 14
  let s := quarterRound s 3 7 11 15
  let s := quarterRound s 0 5 10 15
  let s := quarterRound s 1 6 11 12
  let s := quarterRound s 2 7 8 13
  quarterRound s 3 4 9 14

/-- The block before mixing: four constant words, the key, and the number of the block. -/
def start (key : Key) (number : UInt64) : Block :=
  #v[0x61707865, 0x3320646e, 0x79622d32, 0x6b206574,
     key[0], key[1], key[2], key[3], key[4], key[5], key[6], key[7],
     number.toUInt32, (number >>> 32).toUInt32, 0, 0]

/-- The block with a number: twelve rounds, then the starting words added. -/
def block (key : Key) (number : UInt64) : Block :=
  Vector.zipWith (· + ·) (Nat.repeat doubleRound 6 (start key number)) (start key number)

/-- The byte at a place of the stream: the low byte of a word. -/
def byteAt (key : Key) (place : Nat) : UInt8 :=
  have : place % 16 < 16 := Nat.mod_lt _ (by decide)
  (block key (UInt64.ofNat (place / 16)))[place % 16].toUInt8

/-! ## Keys from seeds -/

/-- One step of a linear congruential sequence. -/
def advance (state : UInt64) : UInt64 := state * 6364136223846793005 + 11634580027462260723

/-- The word that a member of the sequence gives: some of its bits, rotated by its highest five. -/
def scramble (state : UInt64) : UInt32 :=
  let folded := (((state >>> 18) ^^^ state) >>> 27).toUInt32
  let count := (state >>> 59).toUInt32
  (folded >>> count) ||| (folded <<< (32 - count))

/-- The key for a seed: the words of the eight members of the sequence after the seed. -/
def Key.ofSeed (seed : UInt64) : Key :=
  Vector.ofFn fun i => scramble (Nat.repeat advance (i.val + 1) seed)

end Chip8.KeyStream
