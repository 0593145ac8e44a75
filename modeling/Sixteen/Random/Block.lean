import Sixteen.Random.Key

/-!
# Pseudorandom blocks

The stream of a key is cut into numbered blocks of sixteen words of 32 bits, which can be worked out
in any order. A block is ChaCha with twelve rounds: its first state holds four constants, the key
and its number, the rounds stir that state, and what they make of it is added to it.

* `quarter` : stirs four words, `quarterAt` those at four places of a block;
* `doubleRound` : stirs the columns and then the diagonals of a block, seen as a square;
* `block` : the block of a key and a number; `stream` : the words of all blocks in order.
-/

namespace Sixteen.Random

/-- Sixteen words. -/
abbrev Block := Vector UInt32 16

def rotateLeft (word count : UInt32) : UInt32 :=
  (word <<< count) ||| (word >>> (32 - count))

/-- Stirs four words. -/
def quarter (a b c d : UInt32) : UInt32 × UInt32 × UInt32 × UInt32 :=
  let a := a + b
  let d := rotateLeft (d ^^^ a) 16
  let c := c + d
  let b := rotateLeft (b ^^^ c) 12
  let a := a + b
  let d := rotateLeft (d ^^^ a) 8
  let c := c + d
  let b := rotateLeft (b ^^^ c) 7
  (a, b, c, d)

def quarterAt (i j k l : Fin 16) (s : Block) : Block :=
  let (a, b, c, d) := quarter s[i] s[j] s[k] s[l]
  (((s.set i a).set j b).set k c).set l d

/-- Stirs the columns and then the diagonals of a block. -/
def doubleRound (s : Block) : Block :=
  let s := quarterAt 3 7 11 15 (quarterAt 2 6 10 14 (quarterAt 1 5 9 13 (quarterAt 0 4 8 12 s)))
  quarterAt 3 4 9 14 (quarterAt 2 7 8 13 (quarterAt 1 6 11 12 (quarterAt 0 5 10 15 s)))

def constants : Vector UInt32 4 := #v[0x61707865, 0x3320646e, 0x79622d32, 0x6b206574]

/-- The state that the rounds start from. The number of the block takes two words, the lower first,
and the last two are zero. -/
def start (key : Key) (number : Nat) : Block :=
  let low := UInt32.ofNat number
  let high := UInt32.ofNat (number / 0x100000000)
  constants ++ key ++ #v[low, high, 0, 0]

def block (key : Key) (number : Nat) : Block :=
  let s := start key number
  s.zipWith (· + ·) (Nat.repeat doubleRound 6 s)

/-- The word number `i` of the stream of a key. -/
def stream (key : Key) (i : Nat) : UInt32 :=
  (block key (i / 16))[i % 16]

/-- The first `n` words of the stream of a key, from whole blocks. -/
def streamTo (key : Key) (n : Nat) : Vector UInt32 n :=
  let blocks : Vector Block (n / 16 + 1) := Vector.ofFn fun k => block key k
  Vector.ofFn fun i => blocks[i.val / 16][i.val % 16]

@[simp] theorem getElem_streamTo (key : Key) {n i : Nat} (h : i < n) :
    (streamTo key n)[i] = stream key i := by
  simp [streamTo, stream]

end Sixteen.Random
