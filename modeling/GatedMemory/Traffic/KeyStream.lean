import GatedMemory.Traffic.RandomStream

/-!
The source of random numbers of the program: the words of a keyed stream cipher with twelve rounds,
read two at a time. The words are a function of the key and a position, so drawing from the stream
is only moving the position.
-/

set_option autoImplicit false

namespace GatedMemory

/-- The eight words of a stream's key. -/
abbrev StreamKey := Vector UInt32 8

namespace KeyStream

/-- One step of the linear generator that spreads a seed over a key. -/
def spreadStep (state : UInt64) : UInt64 :=
  state * 6364136223846793005 + 11634580027462260723

/-- The output of the generator: mixed bits, rotated by the top five. -/
def spreadWord (state : UInt64) : UInt32 :=
  let mixed := (((state >>> 18) ^^^ state) >>> 27).toUInt32
  let turn := (state >>> 59).toUInt32
  (mixed >>> turn) ||| (mixed <<< (32 - turn))

/-- The state of the generator after some steps from a seed. -/
def spreadState (seed : UInt64) : Nat → UInt64
  | 0 => seed
  | steps + 1 => spreadStep (spreadState seed steps)

/-- The key that belongs to a seed. -/
def key (seed : Nat) : StreamKey :=
  Vector.ofFn fun i => spreadWord (spreadState seed.toUInt64 (i.val + 1))

/-- The sixteen words that a block of the cipher works on. -/
abbrev Block := Vector UInt32 16

def rotateLeft (word : UInt32) (turn : UInt32) : UInt32 :=
  (word <<< turn) ||| (word >>> (32 - turn))

/-- Mixes four words of a block. -/
def quarterRound (block : Block) (a b c d : Fin 16) : Block :=
  let wa := block[a] + block[b]
  let wd := rotateLeft (block[d] ^^^ wa) 16
  let wc := block[c] + wd
  let wb := rotateLeft (block[b] ^^^ wc) 12
  let wa := wa + wb
  let wd := rotateLeft (wd ^^^ wa) 8
  let wc := wc + wd
  let wb := rotateLeft (wb ^^^ wc) 7
  (((block.set a wa).set b wb).set c wc).set d wd

/-- Mixes the columns of a block, then its diagonals. -/
def doubleRound (block : Block) : Block :=
  let columns := quarterRound (quarterRound (quarterRound (quarterRound block
    0 4 8 12) 1 5 9 13) 2 6 10 14) 3 7 11 15
  quarterRound (quarterRound (quarterRound (quarterRound columns
    0 5 10 15) 1 6 11 12) 2 7 8 13) 3 4 9 14

/-- A block before mixing: four constants, the key, a block number and two words of zero. -/
def initialBlock (key : StreamKey) (number : Nat) : Block :=
  #v[0x61707865, 0x3320646e, 0x79622d32, 0x6b206574,
    key[0], key[1], key[2], key[3], key[4], key[5], key[6], key[7],
    UInt32.ofNat number, UInt32.ofNat (number / UInt32.size), 0, 0]

/-- Number of double rounds. -/
def doubleRounds : Nat := 6

/-- The words of a block: the mixed block added to the one it was made from. -/
def block (key : StreamKey) (number : Nat) : Block :=
  let start := initialBlock key number
  let mixed := doubleRounds.fold (fun _ _ block => doubleRound block) start
  Vector.zipWith (· + ·) start mixed

/-- The 64-bit number at a position: two successive words, the low one first. -/
def word64 (key : StreamKey) (position : Nat) : Nat :=
  let words := block key (position / 8)
  let at_ := 2 * (position % 8)
  (words[at_]?.getD 0).toNat + UInt32.size * (words[at_ + 1]?.getD 0).toNat

/-- The largest low half of a product that a draw below `bound` may have: as many low halves as a
multiple of `bound` are allowed, so that each result is equally likely. -/
def zone (bound : Nat) : Nat :=
  bound <<< (63 - bound.log2) - 1

/-- Positions that a draw looks at before it settles for what it has. More than half of all numbers
fall into the zone, so that it gets this far is beyond all likelihood. -/
def patience : Nat := 256

/-- Draws until the low half of `number * bound` falls into the zone; the high half is the result.
Returned with the position after the last number used. -/
def drawFrom (key : StreamKey) (bound : Nat) : Nat → Nat → Nat × Nat
  | 0, position => (word64 key position * bound / UInt64.size, position + 1)
  | fuel + 1, position =>
    let product := word64 key position * bound
    if product % UInt64.size ≤ zone bound then (product / UInt64.size, position + 1)
    else drawFrom key bound fuel (position + 1)

theorem word64_lt (key : StreamKey) (position : Nat) : word64 key position < UInt64.size := by
  have low := ((block key (position / 8))[2 * (position % 8)]?.getD 0).toNat_lt
  have high := ((block key (position / 8))[2 * (position % 8) + 1]?.getD 0).toNat_lt
  simp only [word64, UInt32.size, UInt64.size]
  omega

theorem high_half_lt {bound : Nat} (key : StreamKey) (position : Nat) (pos : 0 < bound) :
    word64 key position * bound / UInt64.size < bound := by
  apply Nat.div_lt_of_lt_mul
  exact Nat.mul_lt_mul_of_pos_right (word64_lt key position) pos

theorem drawFrom_lt {bound : Nat} (key : StreamKey) (pos : 0 < bound) (fuel position : Nat) :
    (drawFrom key bound fuel position).1 < bound := by
  induction fuel generalizing position with
  | zero => exact high_half_lt key position pos
  | succ fuel ih =>
    rw [drawFrom]
    split
    · exact high_half_lt key position pos
    · exact ih (position + 1)

/-- The stream of the program. -/
def stream (seed : Nat) : RandomStream where
  seed
  next bound position := drawFrom (key seed) bound patience position
  next_lt pos := drawFrom_lt _ pos patience _

end KeyStream

end GatedMemory
