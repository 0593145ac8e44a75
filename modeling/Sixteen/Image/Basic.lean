import Sixteen.Word.Field

/-!
# Object images

An image is a block of words and the address at which the first of them belongs.

* `Image.Fits` : no word of the image lies past the end of memory.
-/

namespace Sixteen

def memorySize : Nat := 0x10000

theorem Word.toNat_lt_memorySize (w : Word) : w.toNat < memorySize := w.isLt

/-- A block of words and its place in memory. -/
structure Image where
  /-- The address of the first word. -/
  origin : Word
  words : List Word
  deriving DecidableEq, Repr

namespace Image

def size (o : Image) : Nat :=
  o.words.length

def isEmpty (o : Image) : Bool :=
  o.words.isEmpty

/-- No word lies past the end of memory. -/
def Fits (o : Image) : Prop :=
  o.origin.toNat + o.size ≤ memorySize

instance (o : Image) : Decidable o.Fits :=
  inferInstanceAs (Decidable (_ ≤ _))

def check? (o : Image) : Option Image :=
  if o.Fits then some o else none

end Image

end Sixteen
