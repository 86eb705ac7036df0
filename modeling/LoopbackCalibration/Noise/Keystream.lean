/-! # The pseudorandom keystream

The stream of 64-bit draws behind the simulated noise: the twelve-round ChaCha
stream of a key spread out of a 64-bit seed. A keystream is its key, the counter
of the next block and what is left of the current one.
-/

namespace LoopbackCalibration

namespace Noise

/-- The sixteen words that a ChaCha round works on. -/
structure Block where
  (a0 a1 a2 a3 : UInt32)
  (b0 b1 b2 b3 : UInt32)
  (c0 c1 c2 c3 : UInt32)
  (d0 d1 d2 d3 : UInt32)

/-- A word turned left by a number of bits between one and thirty-one. -/
@[inline] def turnLeft (word amount : UInt32) : UInt32 :=
  (word <<< amount) ||| (word >>> (32 - amount))

/-- One quarter round on a column or a diagonal. -/
@[inline] def quarter (a b c d : UInt32) : UInt32 × UInt32 × UInt32 × UInt32 :=
  let a := a + b
  let d := turnLeft (d ^^^ a) 16
  let c := c + d
  let b := turnLeft (b ^^^ c) 12
  let a := a + b
  let d := turnLeft (d ^^^ a) 8
  let c := c + d
  let b := turnLeft (b ^^^ c) 7
  (a, b, c, d)

namespace Block

/-- A round on the columns and a round on the diagonals. -/
def doubleRound (block : Block) : Block :=
  let (a0, b0, c0, d0) := quarter block.a0 block.b0 block.c0 block.d0
  let (a1, b1, c1, d1) := quarter block.a1 block.b1 block.c1 block.d1
  let (a2, b2, c2, d2) := quarter block.a2 block.b2 block.c2 block.d2
  let (a3, b3, c3, d3) := quarter block.a3 block.b3 block.c3 block.d3
  let (a0, b1, c2, d3) := quarter a0 b1 c2 d3
  let (a1, b2, c3, d0) := quarter a1 b2 c3 d0
  let (a2, b3, c0, d1) := quarter a2 b3 c0 d1
  let (a3, b0, c1, d2) := quarter a3 b0 c1 d2
  ⟨a0, a1, a2, a3, b0, b1, b2, b3, c0, c1, c2, c3, d0, d1, d2, d3⟩

/-- The words of two blocks added one by one. -/
def add (left right : Block) : Block :=
  ⟨left.a0 + right.a0, left.a1 + right.a1, left.a2 + right.a2, left.a3 + right.a3,
    left.b0 + right.b0, left.b1 + right.b1, left.b2 + right.b2, left.b3 + right.b3,
    left.c0 + right.c0, left.c1 + right.c1, left.c2 + right.c2, left.c3 + right.c3,
    left.d0 + right.d0, left.d1 + right.d1, left.d2 + right.d2, left.d3 + right.d3⟩

/-- The twelve rounds, and the starting block added back. -/
def mixed (block : Block) : Block :=
  (Nat.repeat doubleRound 6 block).add block

/-- Two words as one, the low one first. -/
@[inline] def pair (low high : UInt32) : UInt64 :=
  low.toUInt64 ||| (high.toUInt64 <<< 32)

/-- The draws of a block, two words each. -/
def draws (block : Block) : Array UInt64 :=
  #[pair block.a0 block.a1, pair block.a2 block.a3, pair block.b0 block.b1,
    pair block.b2 block.b3, pair block.c0 block.c1, pair block.c2 block.c3,
    pair block.d0 block.d1, pair block.d2 block.d3]

end Block

/-- The eight key words. -/
structure Key where
  (k0 k1 k2 k3 : UInt32)
  (k4 k5 k6 k7 : UInt32)

namespace Key

/-- One step of the generator that spreads a seed: its next state and the word that
the state stands for. -/
def spread (state : UInt64) : UInt64 × UInt32 :=
  let state := state * 6364136223846793005 + 11634580027462260723
  let folded := (((state >>> 18) ^^^ state) >>> 27).toUInt32
  let amount := (state >>> 59).toUInt32
  (state, if amount = 0 then folded else (folded >>> amount) ||| (folded <<< (32 - amount)))

/-- The key of a seed: eight words spread out of it. -/
def ofSeed (seed : UInt64) : Key :=
  let (s0, k0) := spread seed
  let (s1, k1) := spread s0
  let (s2, k2) := spread s1
  let (s3, k3) := spread s2
  let (s4, k4) := spread s3
  let (s5, k5) := spread s4
  let (s6, k6) := spread s5
  let (_, k7) := spread s6
  ⟨k0, k1, k2, k3, k4, k5, k6, k7⟩

/-- The block at a count: the constants, the key and the count. -/
def block (key : Key) (counter : UInt64) : Block :=
  ⟨0x61707865, 0x3320646e, 0x79622d32, 0x6b206574,
    key.k0, key.k1, key.k2, key.k3, key.k4, key.k5, key.k6, key.k7,
    counter.toUInt32, (counter >>> 32).toUInt32, 0, 0⟩

end Key

/-- A position in the stream of draws. -/
structure Keystream where
  key : Key
  counter : UInt64
  current : Array UInt64
  position : Nat

namespace Keystream

/-- The stream of a seed, nothing drawn yet. -/
def ofSeed (seed : UInt64) : Keystream := ⟨.ofSeed seed, 0, #[], 0⟩

/-- The next draw; a block that is used up makes way for the next one. -/
def next (stream : Keystream) : UInt64 × Keystream :=
  match stream.current[stream.position]? with
  | some draw => (draw, { stream with position := stream.position + 1 })
  | none =>
    let current := (stream.key.block stream.counter).mixed.draws
    (current.getD 0 0, ⟨stream.key, stream.counter + 1, current, 1⟩)

end Keystream

end Noise

end LoopbackCalibration
