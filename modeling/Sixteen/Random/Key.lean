/-!
# Keys from seeds

A seed of 64 bits is stretched to a key of eight words of 32 bits. A congruential generator starts
from the seed; each word is what one of its next eight states shows.

* `advance` : the next state of the generator;
* `shown` : the word that a state shows;
* `Key.ofSeed` : the key of a seed.
-/

namespace Sixteen.Random

def advance (state : UInt64) : UInt64 :=
  state * 6364136223846793005 + 11634580027462260723

def rotateRight (word count : UInt32) : UInt32 :=
  (word >>> count) ||| (word <<< (32 - count))

/-- The word that a state shows: a mixture of its upper bits, turned by the number in the highest
five. -/
def shown (state : UInt64) : UInt32 :=
  rotateRight (((state >>> 18) ^^^ state) >>> 27).toUInt32 (state >>> 59).toUInt32

/-- A key of 256 bits. -/
abbrev Key := Vector UInt32 8

def Key.ofSeed (seed : UInt64) : Key :=
  Vector.ofFn fun i => shown (Nat.repeat advance (i.val + 1) seed)

end Sixteen.Random
