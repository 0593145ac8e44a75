import Sixteen.Proofs.Checked.Basic
import Sixteen.Proofs.Image.Forms
import Sixteen.Simulator

/-!
# Images under checks

The bytes of an image are read in pairs, and each pair by index. The words of an image are copied to
memory as far as memory goes: from its origin up to its end, or to the end of memory if this comes
first.

* `Checked.ofBytes?`, `Checked.ofText?` : the two forms of an image;
* `Checked.load` : an image in memory, which it need not fit.

Whether an image fits is told from the sum of its origin and its length, which is in range for every
length that a block of words can have.
-/

namespace Sixteen.Checked

/-! ## Reading images -/

/-- Whether words from `origin` up stay in memory. -/
def fits (origin : Word) (words : List Word) : Checked Bool := do
  return (← natural 64 (origin.toNat + words.length)) ≤ 1 <<< (← amount 64 16)

def ofWords? : List Word → Checked (Option Image)
  | [] => return none
  | origin :: words => return if ← fits origin words then some ⟨origin, words⟩ else none

/-- The bytes of words, two for each. -/
def pairs : List UInt8 → List (List UInt8)
  | high :: low :: rest => [high, low] :: pairs rest
  | _ => []

def word (pair : List UInt8) : Checked Word :=
  return .ofBytes (← item pair 0) (← item pair 1)

def ofBytes? (bytes : List UInt8) : Checked (Option Image) := do
  if bytes.length % 2 ≠ 0 then return none
  else ofWords? (← (pairs bytes).mapM word)

def ofText? (text : List Char) : Checked (Option Image) :=
  match Image.dataLines text with
  | first :: rest =>
    if first = Image.header.toList then
      match rest.mapM Image.readWord? with
      | some words => ofWords? words
      | none => return none
    else return none
  | [] => return none

theorem fits_eq {origin : Word} {words : List Word} (h : words.length < 2 ^ 63) :
    fits origin words = .ok (decide (Image.mk origin words).Fits) := by
  have small := origin.isLt
  rw [fits, natural_eq (n := origin.toNat + words.length) (by omega) (by omega),
    amount_eq (by decide)]
  rfl

theorem ofWords?_eq {words : List Word} (h : words.length < 2 ^ 63) :
    ofWords? words = .ok (Image.ofWords? words) := by
  cases words with
  | nil => rfl
  | cons origin words =>
    rw [List.length_cons] at h
    rw [ofWords?, fits_eq (by omega), Image.ofWords?, Image.check?]
    simp only [ok_bind, pure_eq, decide_eq_true_eq]

/-- An even number of bytes is read as the words of its pairs. -/
theorem mapM_word_pairs {bytes : List UInt8} (even : bytes.length % 2 = 0) (done : Array Word) :
    ∃ words, (pairs bytes).mapM word = .ok words ∧ words.length ≤ bytes.length ∧
      Word.readAll done bytes = some (done ++ words) := by
  induction bytes using pairs.induct generalizing done with
  | case1 high low rest ih =>
    simp only [List.length_cons] at even
    obtain ⟨words, read, short, all⟩ := ih (by omega) (done.push (.ofBytes high low))
    refine ⟨.ofBytes high low :: words, ?_, by simp only [List.length_cons]; omega, ?_⟩
    · rw [pairs, List.mapM_cons, read]
      rfl
    · rw [Word.readAll, all]
      simp
  | case2 bytes other =>
    have none : bytes = [] := by
      rcases bytes with _ | ⟨high, _ | ⟨low, rest⟩⟩
      · rfl
      · cases even
      · exact absurd rfl (other high low rest)
    subst none
    exact ⟨[], rfl, Nat.le_refl _, by simp [Word.readAll]⟩

theorem readAll_of_odd {bytes : List UInt8} (odd : bytes.length % 2 ≠ 0) (done : Array Word) :
    Word.readAll done bytes = none := by
  induction done, bytes using Word.readAll.induct with
  | case1 done => exact absurd rfl odd
  | case2 done byte => rfl
  | case3 done high low rest ih =>
    simp only [List.length_cons] at odd
    exact ih (by omega)

theorem ofBytes?_eq {bytes : List UInt8} (h : bytes.length < 2 ^ 63) :
    ofBytes? bytes = .ok (Image.ofBytes? bytes) := by
  unfold ofBytes? Image.ofBytes?
  split
  · next odd =>
    rw [readAll_of_odd odd]
    rfl
  · next even =>
    obtain ⟨words, read, short, all⟩ := mapM_word_pairs (not_not.1 even) #[]
    rw [read, ok_bind, ofWords?_eq (by omega), all]
    simp

/-- No more words than characters are read from a text. -/
theorem length_le_of_dataLines {text : List Char} {first : List Char} {rest : List (List Char)}
    (lines : Image.dataLines text = first :: rest) {words : List Word}
    (read : rest.mapM Image.readWord? = some words) : words.length ≤ text.length := by
  have nonempty : ∀ l ∈ first :: rest, l ≠ [] := by
    rw [← lines]
    intro l hl
    simpa using (List.mem_filter.1 hl).2
  have total := Image.sum_length_dataLines text
  have double := Image.length_le_sum_dataLines nonempty
  rw [lines] at total
  rw [Image.length_of_mapM read]
  rw [List.length_cons] at double
  omega

theorem ofText?_eq {text : List Char} (h : text.length < 2 ^ 63) :
    ofText? text = .ok (Image.ofText? text) := by
  rw [ofText?, Image.ofText?]
  cases lines : Image.dataLines text with
  | nil => rfl
  | cons first rest =>
    dsimp only
    split
    · cases read : rest.mapM Image.readWord? with
      | none => rfl
      | some words =>
        have short := length_le_of_dataLines lines read
        exact ofWords?_eq (by omega)
    · rfl

/-! ## Loading images -/

/-- Copies the first words of an image to memory, up to the end of memory at most, and points the
program counter at the first of them. -/
def load (s : Simulator) (image : Image) : Checked Simulator := do
  let ⟨machine, fill, count⟩ := s
  let start := image.origin.toNat
  let stop := min (← natural 64 (start + image.words.length)) memorySize
  part start stop memorySize
  let kept ← natural 64 (stop - start)
  part 0 kept image.words.length
  let block := image.words.take kept
  if block.length = stop - start then
    let memory := machine.memory.copyFrom start block
    return { machine := { machine with memory, pc := image.origin }, fill, count }
  else .error (.lengths (stop - start) block.length)

/-- The words that would lie past the end of memory make no difference. -/
theorem copyFrom_take (memory : Memory) (i : Nat) (words : List Word) :
    memory.copyFrom i (words.take (memorySize - i)) = memory.copyFrom i words := by
  induction words generalizing memory i with
  | nil => rw [List.take_nil]
  | cons word words ih =>
    by_cases h : i < memorySize
    · have one : memorySize - i = memorySize - (i + 1) + 1 := by omega
      rw [one, List.take_succ_cons, Memory.copyFrom, Memory.copyFrom, dif_pos h, dif_pos h, ih]
    · have none : memorySize - i = 0 := by omega
      rw [none, List.take_zero, Memory.copyFrom, Memory.copyFrom, dif_neg h]

theorem load_eq (s : Simulator) {image : Image} (h : image.words.length < 2 ^ 63) :
    load s image = .ok (s.load image) := by
  obtain ⟨machine, fill, count⟩ := s
  obtain ⟨origin, words⟩ := image
  have start := origin.toNat_lt_memorySize
  have size : memorySize = 2 ^ 16 := rfl
  -- The part of memory that is written is as long as the part of the words that is kept.
  have kept : min (origin.toNat + words.length) memorySize - origin.toNat =
      min words.length (memorySize - origin.toNat) := by omega
  rw [load]
  dsimp only
  rw [natural_eq (n := origin.toNat + words.length) (by omega) (by dsimp only at h; omega), ok_bind,
    part_eq (by omega) (by omega), ok_bind,
    natural_eq (n := min words.length (memorySize - origin.toNat)) (by omega) (by omega), ok_bind,
    part_eq (by omega) (by omega), ok_bind, if_pos (by rw [List.length_take]; omega)]
  have same : words.take (min words.length (memorySize - origin.toNat)) =
      words.take (memorySize - origin.toNat) := List.take_eq_take_iff.2 (by omega)
  rw [same, copyFrom_take]
  rfl

end Sixteen.Checked
