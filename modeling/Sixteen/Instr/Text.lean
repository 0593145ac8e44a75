import Sixteen.Instr.Codec

/-!
# Instructions as text

* `Instr.parts` : the mnemonic of an instruction and its operands, as they are written;
* `Instr.text` : the same with single spaces between. A trap whose vector has no service has no
  mnemonic and is written as the value of its word.
-/

namespace Sixteen

def Word.literal (w : Word) : String :=
  "0x" ++ Numeral.hex w.toNat

namespace Instr

/-- The mnemonic of an instruction, then its operands. -/
def parts (i : Instr) : List String :=
  match i with
  | .br cond offset => [cond.mnemonic, offset.text]
  | .add dst src1 src2 => ["add", dst.text, src1.text, src2.text]
  | .ld dst offset => ["ld", dst.text, offset.text]
  | .st src offset => ["st", src.text, offset.text]
  | .jsr offset => ["jsr", offset.text]
  | .jsrr base => ["jssr", base.text]
  | .and dst src1 src2 => ["and", dst.text, src1.text, src2.text]
  | .ldr dst base offset => ["ldr", dst.text, base.text, "$" ++ offset.text]
  | .str src base offset => ["str", src.text, base.text, "$" ++ offset.text]
  | .not dst src => ["not", dst.text, src.text]
  | .ldi dst offset => ["ldi", dst.text, offset.text]
  | .sti src offset => ["sti", src.text, offset.text]
  | .jmp base => ["jmp", base.text]
  | .lea dst offset => ["lea", dst.text, offset.text]
  | .trap vector =>
    match Service.ofVector? vector with
    | some s => [s.name]
    | none => ["val", i.encode.literal]

def text (i : Instr) : String :=
  " ".intercalate i.parts

end Instr

end Sixteen
