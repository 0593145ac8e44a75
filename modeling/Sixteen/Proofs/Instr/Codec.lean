import Sixteen.Instr.Codec

/-!
# Decoding what was encoded

* `Word.source_of_field` : the last operand of `add` and `and` is read back from its six bits;
* `Instr.Encodable` : an instruction word has room for the instruction. Only a branch can be too
  large for one;
* `Instr.extractLsb'_encode`, `Instr.getLsbD_encode` : the low bits of an instruction word are the
  operands;
* `Instr.decode?_encode` : the word of an instruction decodes to the instruction;
* `Instr.encodable_of_decode?` : what a word decodes to has room in a word.
-/

namespace Sixteen

/-! ## The last operand of `add` and `and` -/

namespace Source

theorem getLsbD_field_imm (v : Signed 5) : (imm v).field.getLsbD 5 = true := by
  rw [field, BitVec.getLsbD_append]
  rfl

theorem getLsbD_field_reg (r : Reg) : (reg r).field.getLsbD 5 = false := by
  rw [field, BitVec.getLsbD_append, if_neg (by omega), BitVec.getLsbD_zero]

theorem extractLsb'_field_imm (v : Signed 5) : (imm v).field.extractLsb' 0 5 = v.bits :=
  BitVec.extractLsb'_append_eq_right

theorem extractLsb'_field_reg (r : Reg) : (reg r).field.extractLsb' 0 3 = r.bits :=
  BitVec.extractLsb'_append_eq_right

end Source

theorem Word.source_of_field {w : Word} {s : Source 5} (h : w.extractLsb' 0 6 = s.field) :
    Word.source w = s := by
  have bit : w.getLsbD 5 = s.field.getLsbD 5 := by
    rw [← h, BitVec.getLsbD_extractLsb']
    rfl
  have below : ∀ n ≤ 6, w.extractLsb' 0 n = s.field.extractLsb' 0 n := by
    intro n hn
    rw [← h, BitVec.extractLsb'_extractLsb'_of_le (by omega)]
  unfold source
  cases s with
  | imm v =>
    rw [bit, Source.getLsbD_field_imm, if_pos rfl, low, below 5 (by omega),
      Source.extractLsb'_field_imm]
  | reg r =>
    rw [bit, Source.getLsbD_field_reg, if_neg Bool.false_ne_true, reg, below 3 (by omega),
      Source.extractLsb'_field_reg]

namespace Instr

/-! ## The bits of an instruction word -/

theorem extractLsb'_encode (i : Instr) {start len : Nat} (h : start + len ≤ 12) :
    i.encode.extractLsb' start len = i.operands.extractLsb' start len :=
  BitVec.extractLsb'_append_eq_of_add_le h

theorem getLsbD_encode (i : Instr) {n : Nat} (h : n < 12) :
    i.encode.getLsbD n = i.operands.getLsbD n := by
  rw [encode, BitVec.getLsbD_append, if_pos h]

/-- A register and a number of nine bits. -/
theorem fields_of_two {i : Instr} {a : BitVec 3} {b : BitVec 9} (h : i.operands = a ++ b) :
    i.encode.extractLsb' 9 3 = a ∧ i.encode.extractLsb' 0 9 = b := by
  constructor
  · rw [extractLsb'_encode i (by omega), h]
    exact BitVec.extractLsb'_append_eq_left
  · rw [extractLsb'_encode i (by omega), h]
    exact BitVec.extractLsb'_append_eq_right

/-- Two registers and six bits. -/
theorem fields_of_three {i : Instr} {a b : BitVec 3} {c : BitVec 6}
    (h : i.operands = a ++ b ++ c) :
    i.encode.extractLsb' 9 3 = a ∧ i.encode.extractLsb' 6 3 = b ∧ i.encode.extractLsb' 0 6 = c := by
  refine ⟨?_, ?_, ?_⟩
  · rw [extractLsb'_encode i (by omega), h]
    exact (BitVec.extractLsb'_append_eq_of_le (by omega)).trans BitVec.extractLsb'_append_eq_left
  · rw [extractLsb'_encode i (by omega), h]
    exact (BitVec.extractLsb'_append_eq_of_le (by omega)).trans BitVec.extractLsb'_append_eq_right
  · rw [extractLsb'_encode i (by omega), h]
    exact BitVec.extractLsb'_append_eq_right

/-! ## Decoding -/

/-- Whether an instruction word has room for the instruction: for all of the condition byte, if it is
a branch. -/
def Encodable : Instr → Prop
  | .br cond _ => cond.toNat < 8
  | _ => True

/-- The low three bits of a condition byte that fits them are all of it. -/
theorem setWidth_setWidth_cond {cond : Branch} (h : cond.toNat < 8) :
    (cond.setWidth 3).setWidth 8 = cond := by
  apply BitVec.eq_of_toNat_eq
  rw [BitVec.toNat_setWidth, BitVec.toNat_setWidth]
  omega

/-- The word of an instruction decodes to the instruction. -/
theorem decode?_encode {i : Instr} (h : i.Encodable) : decode? i.encode = .ok i := by
  unfold decode?
  rw [ofWord_encode]
  cases i with
  | br cond offset =>
    obtain ⟨cond_eq, offset_eq⟩ := fields_of_two (i := .br cond offset) rfl
    simp only [opcode, Word.low, cond_eq, offset_eq, setWidth_setWidth_cond h]
  | add dst src1 src2 =>
    obtain ⟨dst_eq, src1_eq, src2_eq⟩ := fields_of_three (i := .add dst src1 src2) rfl
    simp only [opcode, Word.reg, dst_eq, src1_eq, Word.source_of_field src2_eq]
  | and dst src1 src2 =>
    obtain ⟨dst_eq, src1_eq, src2_eq⟩ := fields_of_three (i := .and dst src1 src2) rfl
    simp only [opcode, Word.reg, dst_eq, src1_eq, Word.source_of_field src2_eq]
  | ld dst offset =>
    obtain ⟨dst_eq, offset_eq⟩ := fields_of_two (i := .ld dst offset) rfl
    simp only [opcode, Word.reg, Word.low, dst_eq, offset_eq]
  | ldi dst offset =>
    obtain ⟨dst_eq, offset_eq⟩ := fields_of_two (i := .ldi dst offset) rfl
    simp only [opcode, Word.reg, Word.low, dst_eq, offset_eq]
  | lea dst offset =>
    obtain ⟨dst_eq, offset_eq⟩ := fields_of_two (i := .lea dst offset) rfl
    simp only [opcode, Word.reg, Word.low, dst_eq, offset_eq]
  | st src offset =>
    obtain ⟨src_eq, offset_eq⟩ := fields_of_two (i := .st src offset) rfl
    simp only [opcode, Word.reg, Word.low, src_eq, offset_eq]
  | sti src offset =>
    obtain ⟨src_eq, offset_eq⟩ := fields_of_two (i := .sti src offset) rfl
    simp only [opcode, Word.reg, Word.low, src_eq, offset_eq]
  | ldr dst base offset =>
    obtain ⟨dst_eq, base_eq, offset_eq⟩ := fields_of_three (i := .ldr dst base offset) rfl
    simp only [opcode, Word.reg, Word.low, dst_eq, base_eq, offset_eq]
  | str src base offset =>
    obtain ⟨src_eq, base_eq, offset_eq⟩ := fields_of_three (i := .str src base offset) rfl
    simp only [opcode, Word.reg, Word.low, src_eq, base_eq, offset_eq]
  | not dst src =>
    obtain ⟨dst_eq, src_eq, -⟩ := fields_of_three (i := .not dst src) rfl
    simp only [opcode, Word.reg, dst_eq, src_eq]
  | jmp base =>
    obtain ⟨-, base_eq, -⟩ := fields_of_three (i := .jmp base) rfl
    simp only [opcode, Word.reg, base_eq]
  | jsr offset =>
    have bit : (Instr.jsr offset).encode.getLsbD 11 = true := by
      rw [getLsbD_encode _ (by omega), operands, BitVec.getLsbD_append]
      rfl
    have offset_eq : (Instr.jsr offset).encode.extractLsb' 0 11 = offset.bits := by
      rw [extractLsb'_encode _ (by omega)]
      exact BitVec.extractLsb'_append_eq_right
    simp only [opcode, bit, if_true, Word.low, offset_eq]
  | jsrr base =>
    have bit : (Instr.jsrr base).encode.getLsbD 11 = false := by
      rw [getLsbD_encode _ (by omega), operands, BitVec.getLsbD_append, if_neg (by omega),
        BitVec.getLsbD_append, if_neg (by omega), BitVec.getLsbD_zero]
    obtain ⟨-, base_eq, -⟩ := fields_of_three (i := .jsrr base) rfl
    simp only [opcode, bit, Bool.false_eq_true, if_false, Word.reg, base_eq]
  | trap vector =>
    have vector_eq : (Instr.trap vector).encode.extractLsb' 0 8 = vector.bits := by
      rw [extractLsb'_encode _ (by omega)]
      exact BitVec.extractLsb'_append_eq_right
    simp only [opcode, vector_eq]

/-- What is decoded fits a word again, since the field of a condition has three bits. -/
theorem encodable_of_decode? {w : Word} {i : Instr} (h : decode? w = .ok i) :
    i.Encodable := by
  unfold decode? at h
  split at h <;> cases h
  case h_1 =>
    show (BitVec.setWidth 8 _).toNat < 8
    rw [BitVec.toNat_setWidth]
    omega
  case h_5 => split <;> exact trivial
  all_goals exact trivial

end Instr

end Sixteen
