import Sixteen.Image.Basic

/-!
# Binary images

A binary image is a sequence of words of two bytes each, the high byte first. The first word is the
origin and the others are the words of the block.

* `Word.bytes`, `Word.ofBytes` : a word and its two bytes;
* `Image.toBytes`, `Image.ofBytes?` : an image and its bytes. Bytes that end within a word, that
  have no origin, or whose block does not fit memory are no image.
-/

namespace Sixteen

namespace Word

/-- The bytes of a word, high byte first. -/
def bytes (w : Word) : List UInt8 :=
  [⟨w.extractLsb' 8 8⟩, ⟨w.extractLsb' 0 8⟩]

def ofBytes (high low : UInt8) : Word :=
  high.toBitVec ++ low.toBitVec

theorem bytes_ofBytes (high low : UInt8) : (ofBytes high low).bytes = [high, low] := by
  have h : (ofBytes high low).extractLsb' 8 8 = high.toBitVec :=
    BitVec.extractLsb'_append_eq_left
  have l : (ofBytes high low).extractLsb' 0 8 = low.toBitVec :=
    BitVec.extractLsb'_append_eq_right
  rw [bytes, h, l]

/-- The words of a sequence of bytes, after the words `done`. -/
def readAll (done : Array Word) : List UInt8 → Option (Array Word)
  | [] => some done
  | [_] => none
  | high :: low :: rest => readAll (done.push (ofBytes high low)) rest

end Word

namespace Image

def toBytes (o : Image) : List UInt8 :=
  (o.origin :: o.words).flatMap Word.bytes

/-- The image of its words, the origin first. -/
def ofWords? : List Word → Option Image
  | [] => none
  | origin :: words => check? ⟨origin, words⟩

def ofBytes? (bytes : List UInt8) : Option Image :=
  (Word.readAll #[] bytes).bind fun words => ofWords? words.toList

end Image

end Sixteen
