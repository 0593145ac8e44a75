import Sixteen.Instr.Basic

/-!
# Instruction words

The opcode stands in bits 15 to 12. Registers stand in bits 11 to 9, 8 to 6 and 2 to 0, numbers in
the low bits. Bit 5 tells a number from a register in the last operand of `add` and `and`, bit 11
tells `jsr` from `jsrr`.

* `Instr.operands` : the low twelve bits of an instruction word, with unused bits in their fixed
  values (ones for `not`, zeros elsewhere);
* `Instr.encode` : the word of an instruction;
* `Instr.decode?` : the instruction of a word, or the reserved opcode that the word has. Unused bits
  are ignored;
* `Instr.isCanonical` : a word is the encoding of the instruction it decodes to.
-/

namespace Sixteen

/-! ## Encoding -/

/-- The low six bits of the last operand of `add` and `and`: the mark of a number, then the number;
or zeros, then a register. -/
def Source.field : Source 5 → BitVec 6
  | .imm value => 1#1 ++ value.bits
  | .reg register => 0#3 ++ register.bits

namespace Instr

def operands : Instr → BitVec 12
  | .br cond offset => cond.setWidth 3 ++ offset.bits
  | .add dst src1 src2 => dst.bits ++ src1.bits ++ src2.field
  | .ld dst offset => dst.bits ++ offset.bits
  | .st src offset => src.bits ++ offset.bits
  | .jsr offset => 1#1 ++ offset.bits
  | .jsrr base => 0#3 ++ base.bits ++ 0#6
  | .and dst src1 src2 => dst.bits ++ src1.bits ++ src2.field
  | .ldr dst base offset => dst.bits ++ base.bits ++ offset.bits
  | .str src base offset => src.bits ++ base.bits ++ offset.bits
  | .not dst src => dst.bits ++ src.bits ++ 63#6
  | .ldi dst offset => dst.bits ++ offset.bits
  | .sti src offset => src.bits ++ offset.bits
  | .jmp base => 0#3 ++ base.bits ++ 0#6
  | .lea dst offset => dst.bits ++ offset.bits
  | .trap vector => 0#4 ++ vector.bits

def encode (i : Instr) : Word :=
  i.opcode.bits ++ i.operands

end Instr

/-! ## Decoding -/

namespace Word

/-- The register whose number is in the three bits of `w` from bit `start` up. -/
def reg (w : Word) (start : Nat) : Reg :=
  ⟨w.extractLsb' start 3⟩

/-- The signed number in the low `n` bits of `w`. -/
def low (w : Word) (n : Nat) : Signed n :=
  ⟨w.extractLsb' 0 n⟩

def source (w : Word) : Source 5 :=
  if w.getLsbD 5 then .imm (w.low 5) else .reg (w.reg 0)

end Word

namespace Instr

/-- The instruction of a word; a reserved opcode is returned as such. -/
def decode? (w : Word) : Except Opcode Instr :=
  match Opcode.ofWord w with
  | .br => .ok (.br ((w.extractLsb' 9 3).setWidth 8) (w.low 9))
  | .add => .ok (.add (w.reg 9) (w.reg 6) w.source)
  | .ld => .ok (.ld (w.reg 9) (w.low 9))
  | .st => .ok (.st (w.reg 9) (w.low 9))
  | .jsr => .ok (if w.getLsbD 11 then .jsr (w.low 11) else .jsrr (w.reg 6))
  | .and => .ok (.and (w.reg 9) (w.reg 6) w.source)
  | .ldr => .ok (.ldr (w.reg 9) (w.reg 6) (w.low 6))
  | .str => .ok (.str (w.reg 9) (w.reg 6) (w.low 6))
  | .rti => .error .rti
  | .not => .ok (.not (w.reg 9) (w.reg 6))
  | .ldi => .ok (.ldi (w.reg 9) (w.low 9))
  | .sti => .ok (.sti (w.reg 9) (w.low 9))
  | .jmp => .ok (.jmp (w.reg 6))
  | .res => .error .res
  | .lea => .ok (.lea (w.reg 9) (w.low 9))
  | .trap => .ok (.trap ⟨w.extractLsb' 0 8⟩)

/-- Whether `w` is the encoding of the instruction it decodes to. -/
def isCanonical (w : Word) : Bool :=
  match decode? w with
  | .ok i => i.encode = w
  | .error _ => false

theorem ofWord_encode (i : Instr) : Opcode.ofWord i.encode = i.opcode := by
  have h : i.encode.extractLsb' 12 4 = i.opcode.bits := BitVec.extractLsb'_append_eq_left
  rw [Opcode.ofWord, h, Opcode.ofBits_bits]

end Instr

end Sixteen
