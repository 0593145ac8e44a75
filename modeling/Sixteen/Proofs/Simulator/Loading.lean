import Sixteen.Simulator
import Sixteen.Proofs.Image.Faithful
import Sixteen.Proofs.Program.Assembly

/-!
# Loading images

A block of words is copied into memory word by word and ends at the end of memory at the latest: it
does not go on at the other end. What the assembler and both readers of images make fits, so none of
its words is dropped.

* `Memory.read_copyFrom`, `Memory.read_copyBlock` : a word of memory with a block in it;
* `Memory.block`, `Memory.block_copyBlock` : a block that fits is in memory as it is;
* `Image.Made`, `Image.Made.fits` : what the assembler and the readers make;
* `Simulator.Loads`, `Simulator.loads_image` : the simulator after an image was loaded.
-/

namespace Sixteen

/-! ## Blocks in memory -/

namespace Memory

variable {m : Memory} {words : List Word}

theorem read_set (m : Memory) {i : Nat} (word : Word) (h : i < memorySize) (a : Word) :
    (⟨m.cells.set i word h⟩ : Memory).read a = if i = a.toNat then word else m.read a := by
  simp only [read, Vector.getElem_set]

/-- A block has its words from the cell number `i` up. -/
theorem read_copyFrom (m : Memory) (i : Nat) (words : List Word) (a : Word) :
    (m.copyFrom i words).read a =
      if i ≤ a.toNat then words[a.toNat - i]?.getD (m.read a) else m.read a := by
  have inside : a.toNat < memorySize := a.toNat_lt_memorySize
  induction words generalizing m i with
  | nil => simp [copyFrom]
  | cons word rest ih =>
    by_cases h : i < memorySize
    · rw [copyFrom, dif_pos h, ih, read_set]
      rcases Nat.lt_trichotomy i a.toNat with below | here | above
      · have next : a.toNat - i = a.toNat - (i + 1) + 1 := by omega
        rw [if_pos (Nat.succ_le_of_lt below), if_neg (Nat.ne_of_lt below),
          if_pos (Nat.le_of_lt below), next, List.getElem?_cons_succ]
      · rw [if_neg (by omega), if_pos here, if_pos (Nat.le_of_eq here), here, Nat.sub_self]
        rfl
      · rw [if_neg (by omega), if_neg (Nat.ne_of_gt above), if_neg (Nat.not_le.2 above)]
    · rw [copyFrom, dif_neg h, if_neg (by omega)]

theorem read_copyBlock_of_lt {start a : Word} (h : a.toNat < start.toNat) :
    (m.copyBlock start words).read a = m.read a := by
  rw [copyBlock, read_copyFrom, if_neg (Nat.not_le.2 h)]

theorem read_copyBlock_of_le {start a : Word} (h : start.toNat ≤ a.toNat) :
    (m.copyBlock start words).read a = words[a.toNat - start.toNat]?.getD (m.read a) := by
  rw [copyBlock, read_copyFrom, if_pos h]

/-- The `n` words of memory from an address up. -/
def block (m : Memory) (start : Word) (n : Nat) : List Word :=
  (List.range n).map fun i => m.read (BitVec.ofNat 16 (start.toNat + i))

theorem block_copyBlock {start : Word} (fits : start.toNat + words.length ≤ memorySize) :
    (m.copyBlock start words).block start words.length = words := by
  refine List.ext_getElem (by simp [block]) fun i hi hw => ?_
  have size : memorySize = 2 ^ 16 := rfl
  have address : (BitVec.ofNat 16 (start.toNat + i)).toNat = start.toNat + i := by
    rw [BitVec.toNat_ofNat]
    exact Nat.mod_eq_of_lt (by omega)
  have place : (BitVec.ofNat 16 (start.toNat + i)).toNat - start.toNat = i := by omega
  simp only [block, List.getElem_map, List.getElem_range]
  rw [read_copyBlock_of_le (by omega), place, List.getElem?_eq_getElem hw, Option.getD_some]

end Memory

/-! ## Images that fit -/

namespace Image

/-- The image is that of a program, or is read from its bytes or from a text. -/
inductive Made (o : Image) : Prop
  | assembled {source : String} {limits : Limits} (h : assemble source limits = .ok o)
  | ofBytes {bytes : List UInt8} (h : ofBytes? bytes = some o)
  | ofText {text : List Char} (h : ofText? text = some o)

theorem Made.fits {o : Image} (h : o.Made) : o.Fits := by
  cases h with
  | assembled h => exact fits_of_assemble h
  | ofBytes h => exact (ofBytes?_eq_some_iff.1 h).1
  | ofText h => exact fits_of_ofText? h

end Image

/-! ## Simulators -/

namespace Simulator

/-- The simulator `after` is `before` with the image `o` in memory, as far as there is room. -/
structure Loads (before : Simulator) (o : Image) (after : Simulator) : Prop where
  inside : ∀ x : Word, o.origin.toNat ≤ x.toNat →
    x.toNat < min (o.origin.toNat + o.words.length) 65536 →
      o.words[x.toNat - o.origin.toNat]? = some (after.machine.read x)
  /-- Nothing below the block changes, and nothing above it. -/
  outside : ∀ x : Word, ¬(o.origin.toNat ≤ x.toNat ∧
      x.toNat < min (o.origin.toNat + o.words.length) 65536) →
    after.machine.read x = before.machine.read x
  pc : after.machine.pc = o.origin
  registers : after.machine.registers = before.machine.registers
  cond : after.machine.cond = before.machine.cond
  count : after.count = before.count
  fill : after.fill = before.fill

theorem machine_load (s : Simulator) (o : Image) :
    (s.load o).machine = { s.machine with
      memory := s.machine.memory.copyBlock o.origin o.words
      pc := o.origin } := rfl

theorem loads_load (s : Simulator) (o : Image) : s.Loads o (s.load o) where
  inside x low high := by
    have here : x.toNat - o.origin.toNat < o.words.length := by omega
    rw [Machine.read, machine_load, Memory.read_copyBlock_of_le low, List.getElem?_eq_getElem here,
      Option.getD_some]
  outside x other := by
    rw [Machine.read, machine_load]
    rcases Nat.lt_or_ge x.toNat o.origin.toNat with below | low
    · exact Memory.read_copyBlock_of_lt below
    · have room : x.toNat < 65536 := x.isLt
      have past : o.words.length ≤ x.toNat - o.origin.toNat := by omega
      rw [Memory.read_copyBlock_of_le low, List.getElem?_eq_none past]
      rfl
  pc := rfl
  registers := rfl
  cond := rfl
  count := rfl
  fill := rfl

/-- Loading an image puts its words in memory from the origin up, as far as memory goes, points the
program counter at the first, and changes nothing else. Of an image that was assembled or read no
word is dropped: the block at its origin ends within memory and is the words of the image. -/
theorem loads_image (s : Simulator) (o : Image) :
    s.Loads o (s.load o) ∧
    (o.Made → o.origin.toNat + o.words.length ≤ 65536 ∧
      (s.load o).machine.memory.block o.origin o.words.length = o.words) := by
  refine ⟨loads_load s o, fun made => ?_⟩
  have fits : o.origin.toNat + o.words.length ≤ 65536 := made.fits
  refine ⟨fits, ?_⟩
  rw [machine_load]
  exact Memory.block_copyBlock fits

/-- A word at the last address, and one more that there is no room for. -/
theorem loads_image_last :
    Image.ofBytes? [0xff, 0xff, 0x12, 0x34] = some ⟨0xffff, [0x1234]⟩ ∧
    ((new .zeroed).load ⟨0xffff, [0x1234]⟩).machine.memory.block 0xffff 1 = [0x1234] ∧
    ((new .zeroed).load ⟨0xffff, [0x1234, 0x5678]⟩).machine.read 0 = 0 := by
  have read : Image.ofBytes? [0xff, 0xff, 0x12, 0x34] = some ⟨0xffff, [0x1234]⟩ := by decide
  refine ⟨read, ?_, ?_⟩
  · exact ((loads_image (new .zeroed) ⟨0xffff, [0x1234]⟩).2 (.ofBytes read)).2
  · have wrapped := (loads_image (new .zeroed) ⟨0xffff, [0x1234, 0x5678]⟩).1.outside 0 (by decide)
    rw [wrapped]
    exact Machine.read_memory_new .zeroed 0

end Simulator

end Sixteen
