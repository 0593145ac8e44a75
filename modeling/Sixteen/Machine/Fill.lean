import Sixteen.Word.Field
import Sixteen.Random.Block
import Sixteen.Text.Numeral

/-!
# What a machine starts with

* `Fill` : how the memory and the registers of a new machine are filled;
* `Fill.word` : the `i`-th word of a fill. Memory takes the first 65536 words, the registers the
  eight after them;
* `Fill.words` : the first words of a fill, worked out together.
-/

namespace Sixteen

/-- How a new machine is filled. -/
inductive Fill where
  | zeroed
  /-- With pseudorandom words that depend on a seed alone. -/
  | seeded (seed : UInt64)
  /-- With words that no program should rely on. -/
  | unseeded
  | known (value : Word)
  deriving DecidableEq, Repr

namespace Fill

def half (word : UInt32) : Word :=
  word.toBitVec.setWidth 16

/-- The word number `i` of a fill. -/
def word : Fill → Nat → Word
  | zeroed, _ => 0
  | seeded seed, i => half (Random.stream (.ofSeed seed) i)
  | unseeded, i => half (Random.stream (.ofSeed 0) i)
  | known value, _ => value

def words (fill : Fill) (n : Nat) : Vector Word n :=
  match fill with
  | zeroed => .replicate n 0
  | seeded seed => (Random.streamTo (.ofSeed seed) n).map half
  | unseeded => (Random.streamTo (.ofSeed 0) n).map half
  | known value => .replicate n value

@[simp] theorem getElem_words (fill : Fill) {n i : Nat} (h : i < n) :
    (fill.words n)[i] = fill.word i := by
  cases fill <;> simp [words, word]

/-- The name of a fill with its parameter, as the state of a simulator shows it. -/
def describe : Fill → String
  | zeroed => "Zeroed"
  | seeded seed => "Seeded \x7b seed: " ++ Numeral.decimal seed.toNat ++ " \x7d"
  | unseeded => "Unseeded"
  | known value => "Known \x7b value: " ++ Numeral.decimal value.toNat ++ " \x7d"

end Fill

end Sixteen
