import Sixteen.Machine.Basic

/-!
# Instructions at work

An instruction is executed when the program counter already points past it, and offsets are counted
from there. Sums wrap at the size of a word. Only `add`, `and`, `not` and the loads set the
condition code, and only the stores change memory.

* `Source.wordIn` : the word of a register or number;
* `Branch.taken` : whether a branch goes to its target;
* `Machine.execute` : the machine after an instruction.
-/

namespace Sixteen

/-- The word that the last operand of `add` and `and` stands for. -/
def Source.wordIn {n : Nat} (m : Machine) : Source n → Word
  | .imm value => value.toWord
  | .reg r => m.reg r

/-- Whether a branch goes to its target: on one of its conditions, or always if it has none. -/
def Branch.taken (b : Branch) (cond : Cond) : Bool :=
  b = 0 || b &&& cond.bits ≠ 0

namespace Machine

/-- The address at an offset from the next instruction. -/
def relative {n : Nat} (m : Machine) (offset : Signed n) : Word :=
  m.pc + offset.toWord

/-- The address at an offset from the address in a register. -/
def based {n : Nat} (m : Machine) (base : Reg) (offset : Signed n) : Word :=
  m.reg base + offset.toWord

/-- Goes on at an address and leaves the address of the next instruction in the link register. -/
def call (m : Machine) (address : Word) : Machine :=
  (m.setReg .link m.pc).jump address

/-- The machine after an instruction. A trap is left to the console. -/
def execute (m : Machine) : Instr → Machine
  | .br cond offset => if cond.taken m.cond then m.jump (m.relative offset) else m
  | .add dst src1 src2 => m.assign dst (m.reg src1 + src2.wordIn m)
  | .ld dst offset => m.assign dst (m.read (m.relative offset))
  | .st src offset => m.write (m.relative offset) (m.reg src)
  | .jsr offset => m.call (m.relative offset)
  | .jsrr base => m.call (m.reg base)
  | .and dst src1 src2 => m.assign dst (m.reg src1 &&& src2.wordIn m)
  | .ldr dst base offset => m.assign dst (m.read (m.based base offset))
  | .str src base offset => m.write (m.based base offset) (m.reg src)
  | .not dst src => m.assign dst (~~~m.reg src)
  | .ldi dst offset => m.assign dst (m.read (m.read (m.relative offset)))
  | .sti src offset => m.write (m.read (m.relative offset)) (m.reg src)
  | .jmp base => m.jump (m.reg base)
  | .lea dst offset => m.assign dst (m.relative offset)
  | .trap _ => m

end Machine

end Sixteen
