import Sixteen.Service

/-!
# Instructions of the machine

* `Opcode` : the top four bits of an instruction word, two of whose values are reserved;
* `Branch` : the condition byte of a branch;
* `Instr` : an instruction with its operands resolved. `jsr` and `jsrr` are the two forms of one
  opcode.
-/

namespace Sixteen

/-! ## Opcodes -/

/-- The sixteen operation codes, by rising value. -/
inductive Opcode where
  | br | add | ld | st | jsr | and | ldr | str | rti | not | ldi | sti | jmp | res | lea | trap
  deriving DecidableEq, Repr

namespace Opcode

/-- Every opcode, at the place of its value. -/
def all : Vector Opcode 16 :=
  #v[br, add, ld, st, jsr, and, ldr, str, rti, not, ldi, sti, jmp, res, lea, trap]

def ofBits (b : BitVec 4) : Opcode :=
  all.get b.toFin

def ofWord (w : Word) : Opcode :=
  ofBits (w.extractLsb' 12 4)

def bits : Opcode → BitVec 4
  | br => 0x0
  | add => 0x1
  | ld => 0x2
  | st => 0x3
  | jsr => 0x4
  | and => 0x5
  | ldr => 0x6
  | str => 0x7
  | rti => 0x8
  | not => 0x9
  | ldi => 0xa
  | sti => 0xb
  | jmp => 0xc
  | res => 0xd
  | lea => 0xe
  | trap => 0xf

def isReserved (op : Opcode) : Bool :=
  op = rti || op = res

def name : Opcode → String
  | br => "BR"
  | add => "ADD"
  | ld => "LD"
  | st => "ST"
  | jsr => "JSR"
  | and => "AND"
  | ldr => "LDR"
  | str => "STR"
  | rti => "RTI"
  | not => "NOT"
  | ldi => "LDI"
  | sti => "STI"
  | jmp => "JMP"
  | res => "RES"
  | lea => "LEA"
  | trap => "TRAP"

/-- An opcode as it is shown: its name and its value. -/
def text (op : Opcode) : String :=
  op.name ++ " (0x" ++ Numeral.hexPadded 1 op.bits.toNat ++ ")"

@[simp] theorem ofBits_bits (op : Opcode) : ofBits op.bits = op := by
  cases op <;> rfl

@[simp] theorem bits_ofBits (b : BitVec 4) : (ofBits b).bits = b := by
  revert b; decide

end Opcode

/-! ## Branches -/

/-- The condition byte of a branch. Bits 2, 1 and 0 stand for the conditions n, z and p; the other
bits mean nothing, and instruction words have no room for them. -/
abbrev Branch := BitVec 8

namespace Branch

/-- The letters of the conditions and their bits, in the order they are written. -/
def letters : List (Char × Branch) :=
  [('n', 4), ('z', 2), ('p', 1)]

/-- The letters of the conditions in a byte. -/
def conditions (b : Branch) : List Char :=
  (letters.filter fun (_, bit) => b &&& bit ≠ 0).map (·.1)

def mnemonic (b : Branch) : String :=
  String.ofList ('b' :: 'r' :: b.conditions)

end Branch

/-! ## Instructions -/

/-- An instruction with its operands resolved. -/
inductive Instr where
  /-- Branch by an offset if the condition code is among those of `cond`, or if `cond` is zero. -/
  | br (cond : Branch) (offset : Signed 9)
  | add (dst src1 : Reg) (src2 : Source 5)
  | ld (dst : Reg) (offset : Signed 9)
  | st (src : Reg) (offset : Signed 9)
  | jsr (offset : Signed 11)
  /-- Call a subroutine at the address in a register. -/
  | jsrr (base : Reg)
  | and (dst src1 : Reg) (src2 : Source 5)
  | ldr (dst base : Reg) (offset : Signed 6)
  | str (src base : Reg) (offset : Signed 6)
  | not (dst src : Reg)
  /-- Load from the address that is found at an offset. -/
  | ldi (dst : Reg) (offset : Signed 9)
  /-- Store at the address that is found at an offset. -/
  | sti (src : Reg) (offset : Signed 9)
  | jmp (base : Reg)
  /-- Load the address at an offset. -/
  | lea (dst : Reg) (offset : Signed 9)
  /-- Ask for the service of a vector. -/
  | trap (vector : Unsigned 8)
  deriving DecidableEq, Repr

def Instr.opcode : Instr → Opcode
  | .br .. => .br
  | .add .. => .add
  | .ld .. => .ld
  | .st .. => .st
  | .jsr .. => .jsr
  | .jsrr .. => .jsr
  | .and .. => .and
  | .ldr .. => .ldr
  | .str .. => .str
  | .not .. => .not
  | .ldi .. => .ldi
  | .sti .. => .sti
  | .jmp .. => .jmp
  | .lea .. => .lea
  | .trap .. => .trap

end Sixteen
