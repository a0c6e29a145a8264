import Chip8.KeyStream.Block

/-!
# Taking bytes from the key stream

A generator computes a block when it needs one and hands out its bytes one after the other. Between
two bytes it keeps the current block and how many of its words have gone.
-/

namespace Chip8.KeyStream

/-- A place in a key stream. -/
structure Generator where
  /-- The key of the stream. -/
  key : Key
  /-- The number of the block after the current one. -/
  next : UInt64
  /-- The current block. -/
  current : Block
  /-- How many words of the current block have been taken. -/
  used : Nat
deriving DecidableEq

namespace Generator

/-- The start of the stream of a key. -/
def ofKey (key : Key) : Generator := ⟨key, 0, Vector.replicate 16 0, 16⟩

/-- The start of the stream of a seed. -/
def ofSeed (seed : UInt64) : Generator := ofKey (.ofSeed seed)

/-- The next byte, and the generator after it. -/
def take (g : Generator) : UInt8 × Generator :=
  if h : g.used < 16 then
    (g.current[g.used].toUInt8, { g with used := g.used + 1 })
  else
    let fresh := block g.key g.next
    (fresh[0].toUInt8, ⟨g.key, g.next + 1, fresh, 1⟩)

end Generator

end Chip8.KeyStream
