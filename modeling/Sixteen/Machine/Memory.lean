import Sixteen.Image.Basic

/-!
# Memory

Memory has a word for each of the 65536 addresses, so an address is always in range.

* `Memory.read`, `Memory.write` : one word;
* `Memory.copyBlock` : a block of words; what would lie past the end of memory is dropped.
-/

namespace Sixteen

/-- A word for each address. -/
structure Memory where
  cells : Vector Word memorySize
  deriving DecidableEq

namespace Memory

def ofFn (f : Fin memorySize → Word) : Memory :=
  ⟨Vector.ofFn f⟩

def read (m : Memory) (address : Word) : Word :=
  have h := address.toNat_lt_memorySize
  m.cells[address.toNat]

def write (m : Memory) (address word : Word) : Memory :=
  ⟨m.cells.set address.toNat word address.toNat_lt_memorySize⟩

/-- Memory with a block of words from the cell number `i` up, as far as memory goes. -/
def copyFrom (m : Memory) (i : Nat) : List Word → Memory
  | [] => m
  | word :: rest =>
    if h : i < memorySize then copyFrom ⟨m.cells.set i word h⟩ (i + 1) rest else m

/-- Memory with a block of words from an address up, as far as memory goes. -/
def copyBlock (m : Memory) (start : Word) (words : List Word) : Memory :=
  m.copyFrom start.toNat words

theorem read_write (m : Memory) (a b word : Word) :
    (m.write a word).read b = if a = b then word else m.read b := by
  simp only [read, write, Vector.getElem_set, BitVec.toNat_inj]

@[simp] theorem read_write_self (m : Memory) (a word : Word) :
    (m.write a word).read a = word := by
  rw [read_write, if_pos rfl]

theorem read_write_of_ne (m : Memory) {a b : Word} (word : Word) (h : a ≠ b) :
    (m.write a word).read b = m.read b := by
  rw [read_write, if_neg h]

@[simp] theorem read_ofFn (f : Fin memorySize → Word) (a : Word) :
    (ofFn f).read a = f ⟨a.toNat, a.toNat_lt_memorySize⟩ := by
  simp [read, ofFn]

end Memory

end Sixteen
