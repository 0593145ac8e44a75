import Sixteen.Machine.Memory
import Sixteen.Machine.Fill
import Sixteen.Instr.Basic

/-!
# The state of a machine

* `Cond` : the condition code, the sign of the word that an instruction wrote last;
* `Machine` : memory, registers, program counter and condition code;
* `Machine.assign` : writes a register and sets the condition code by it, `Machine.setReg` leaves
  the condition code alone.
-/

namespace Sixteen

/-! ## Condition codes -/

/-- The condition code. -/
inductive Cond where
  | negative
  | zero
  | positive
  deriving DecidableEq, Repr

namespace Cond

/-- The condition code of a word, read in two's complement. -/
def ofWord (w : Word) : Cond :=
  if w = 0 then zero else if w.isNegative then negative else positive

/-- The bit that stands for a condition in the condition byte of a branch. -/
def bits : Cond → Branch
  | negative => 4
  | zero => 2
  | positive => 1

def name : Cond → String
  | negative => "Negative"
  | zero => "Zero"
  | positive => "Positive"

end Cond

/-! ## Machines -/

/-- The state of a machine. -/
structure Machine where
  memory : Memory
  registers : Vector Word 8
  /-- The address of the next instruction. -/
  pc : Word
  cond : Cond
  deriving DecidableEq

namespace Machine

/-- Where the program counter of a new machine points. -/
def start : Word := 0x3000

def new (fill : Fill) : Machine :=
  let words := fill.words (memorySize + 8)
  { memory := .ofFn fun i => words[i.val]
    registers := .ofFn fun i => words[memorySize + i.val]
    pc := start
    cond := .zero }

@[simp] theorem read_memory_new (fill : Fill) (address : Word) :
    (new fill).memory.read address = fill.word address.toNat := by
  simp [new]

@[simp] theorem getElem_registers_new (fill : Fill) {i : Nat} (h : i < 8) :
    (new fill).registers[i] = fill.word (memorySize + i) := by
  simp [new]

def read (m : Machine) (address : Word) : Word :=
  m.memory.read address

def write (m : Machine) (address word : Word) : Machine :=
  { m with memory := m.memory.write address word }

def reg (m : Machine) (r : Reg) : Word :=
  have h := r.number_lt
  m.registers[r.number]

def setReg (m : Machine) (r : Reg) (word : Word) : Machine :=
  { m with registers := m.registers.set r.number word r.number_lt }

/-- Writes a register and sets the condition code by the word. -/
def assign (m : Machine) (r : Reg) (word : Word) : Machine :=
  { m.setReg r word with cond := .ofWord word }

def jump (m : Machine) (address : Word) : Machine :=
  { m with pc := address }

theorem reg_setReg (m : Machine) (r s : Reg) (word : Word) :
    (m.setReg r word).reg s = if r = s then word else m.reg s := by
  simp only [reg, setReg, Vector.getElem_set, Reg.number_inj]

@[simp] theorem read_setReg (m : Machine) (r : Reg) (word a : Word) :
    (m.setReg r word).read a = m.read a := rfl

@[simp] theorem pc_setReg (m : Machine) (r : Reg) (word : Word) : (m.setReg r word).pc = m.pc := rfl

@[simp] theorem reg_write (m : Machine) (a word : Word) (r : Reg) :
    (m.write a word).reg r = m.reg r := rfl

@[simp] theorem pc_write (m : Machine) (a word : Word) : (m.write a word).pc = m.pc := rfl

end Machine

end Sixteen
