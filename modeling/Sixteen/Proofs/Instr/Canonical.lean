import Sixteen.Proofs.Instr.Codec

/-!
# Words and the instructions they decode to

The layout of an instruction need not use every bit of its word. Decoding passes over the bits that
are left, and encoding gives them their fixed values, so a word is the one of its instruction exactly
if these bits have them already.

* `Spare`, `Word.spare` : the fields that the layout of a word does not use, and their fixed values;
* `Word.Uses`, `Word.SpareFixed` : the bits that the layout uses, and that the others have their
  fixed values;
* `Instr.getLsbD_encode_of_uses`, `Instr.field_encode_of_spare` : decoding and encoding a word keeps
  the bits in use and sets the others;
* `Instr.isCanonical_iff` : the words of instructions;
* `Instr.codec_faithful` : what encoding and decoding keep, and what is refused.
-/

namespace Sixteen

/-! ## Fields as words -/

namespace Word

variable {w : Word} {start width : Nat}

theorem getLsbD_field {n : Nat} (hn : n < width) (fits : start + width ≤ 16) :
    (w.field start width).getLsbD n = w.getLsbD (start + n) := by
  rw [field, BitVec.getLsbD_setWidth, BitVec.getLsbD_extractLsb']
  simp [hn, show n < 16 by omega]

/-- Nothing of a field is lost when it is widened to a word. -/
theorem field_eq_setWidth_iff (hw : width ≤ 16) {v : BitVec width} :
    w.field start width = v.setWidth 16 ↔ w.extractLsb' start width = v := by
  constructor
  · intro h
    have narrow := congrArg (BitVec.setWidth width) h
    rwa [field, BitVec.setWidth_setWidth_of_le _ hw, BitVec.setWidth_setWidth_of_le _ hw,
      BitVec.setWidth_eq, BitVec.setWidth_eq] at narrow
  · rintro rfl
    rfl

end Word

theorem Opcode.ofWord_eq_iff {w : Word} {op : Opcode} :
    ofWord w = op ↔ w.field 12 4 = op.bits.setWidth 16 := by
  rw [Word.field_eq_setWidth_iff (by omega), ofWord]
  constructor
  · rintro rfl
    rw [bits_ofBits]
  · intro h
    rw [h, ofBits_bits]

/-! ## Bits that a layout does not use -/

/-- A field of a word that the layout of its instruction does not use. -/
structure Spare where
  start : Nat
  width : Nat
  /-- What encoding writes there. -/
  value : Word
  fits : start + width ≤ 16 := by decide

namespace Word

/-- The fields of a word that the layout of its instruction does not use. The layout is given by the
opcode, and by the bit that tells the two forms of it apart. -/
def spare (w : Word) : List Spare :=
  match Opcode.ofWord w with
  | .add | .and => if w.getLsbD 5 then [] else [{ start := 3, width := 2, value := 0 }]
  | .jsr =>
    if w.getLsbD 11 then []
    else [{ start := 9, width := 2, value := 0 }, { start := 0, width := 6, value := 0 }]
  | .not => [{ start := 0, width := 6, value := 0b111111 }]
  | .jmp => [{ start := 9, width := 3, value := 0 }, { start := 0, width := 6, value := 0 }]
  | .trap => [{ start := 8, width := 4, value := 0 }]
  | _ => []

/-- The layout of the instruction of `w` uses the bit number `n`. -/
def Uses (w : Word) (n : Nat) : Prop :=
  ∀ f ∈ w.spare, n < f.start ∨ f.start + f.width ≤ n

/-- The bits that the layout does not use have their fixed values. -/
def SpareFixed (w : Word) : Prop :=
  ∀ f ∈ w.spare, w.field f.start f.width = f.value

end Word

namespace Instr

variable {w : Word} {i : Instr} {n : Nat}

/-! ## What is refused -/

theorem decode?_eq_error_iff {op : Opcode} :
    decode? w = .error op ↔
      w.field 12 4 = 0x8 ∧ op = .rti ∨ w.field 12 4 = 0xd ∧ op = .res := by
  have rti : w.field 12 4 = 0x8 ↔ Opcode.ofWord w = .rti := by
    rw [Opcode.ofWord_eq_iff]
    rfl
  have res : w.field 12 4 = 0xd ↔ Opcode.ofWord w = .res := by
    rw [Opcode.ofWord_eq_iff]
    rfl
  rw [rti, res, decode?]
  cases Opcode.ofWord w with
  | rti => simp [@eq_comm _ op]
  | res => simp [@eq_comm _ op]
  | _ => simp

/-! ## Bits in use -/

/-- A field of three bits and one of nine. -/
theorem getLsbD_two (hn : n < 12) :
    (w.extractLsb' 9 3 ++ w.extractLsb' 0 9).getLsbD n = w.getLsbD n := by
  rw [BitVec.getLsbD_append, BitVec.getLsbD_extractLsb', BitVec.getLsbD_extractLsb']
  split
  · next low => simp [low]
  · simp [show n - 9 < 3 by omega, show 9 + (n - 9) = n by omega]

/-- Two fields of three bits, and six bits that are the ones of the word where they matter. -/
theorem getLsbD_three (hn : n < 12) {c : BitVec 6} (hc : n < 6 → c.getLsbD n = w.getLsbD n) :
    (w.extractLsb' 9 3 ++ w.extractLsb' 6 3 ++ c).getLsbD n = w.getLsbD n := by
  rw [BitVec.getLsbD_append, BitVec.getLsbD_append, BitVec.getLsbD_extractLsb',
    BitVec.getLsbD_extractLsb']
  split
  · next low => exact hc low
  · split
    · next mid => simp [mid, show 6 + (n - 6) = n by omega]
    · simp [show n - 6 - 3 < 3 by omega, show 9 + (n - 6 - 3) = n by omega]

/-- A register in the middle of zeros. -/
theorem getLsbD_base (n : Nat) :
    (0#3 ++ w.extractLsb' 6 3 ++ 0#6).getLsbD n = (decide (6 ≤ n ∧ n < 9) && w.getLsbD n) := by
  rw [BitVec.getLsbD_append, BitVec.getLsbD_append, BitVec.getLsbD_extractLsb',
    BitVec.getLsbD_zero, BitVec.getLsbD_zero]
  split
  · simp [show ¬6 ≤ n by omega]
  · split
    · next mid => simp [mid, show 6 ≤ n ∧ n < 9 by omega, show 6 + (n - 6) = n by omega]
    · simp [show ¬n < 9 by omega]

/-- The low bits of a word. -/
theorem getLsbD_low {width : Nat} (hn : n < width) :
    (w.extractLsb' 0 width).getLsbD n = w.getLsbD n := by
  simp [hn]

/-- The last operand of `add` and `and`. Two of its bits are not used if it is a register. -/
theorem getLsbD_source (hn : n < 6) (used : w.getLsbD 5 = false → n < 3 ∨ 5 ≤ n) :
    w.source.field.getLsbD n = w.getLsbD n := by
  unfold Word.source
  cases form : w.getLsbD 5 with
  | false =>
    have := used form
    rw [if_neg Bool.false_ne_true, Source.field, Word.reg, BitVec.getLsbD_append]
    split
    · next low => exact getLsbD_low low
    · rw [show n = 5 by omega, form, BitVec.getLsbD_zero]
  | true =>
    rw [if_pos rfl, Source.field, Word.low, BitVec.getLsbD_append]
    split
    · next low => exact getLsbD_low low
    · rw [show n = 5 by omega, form]
      rfl

/-- The operands of a word have the bits of the word, as far as the layout uses them. -/
theorem getLsbD_operands_of_uses (h : decode? w = .ok i) (hn : n < 12) (used : w.Uses n) :
    i.operands.getLsbD n = w.getLsbD n := by
  unfold decode? at h
  unfold Word.Uses Word.spare at used
  cases op : Opcode.ofWord w with simp only [op, List.forall_mem_cons] at h used
  | br =>
    cases h
    rw [operands, BitVec.setWidth_setWidth_of_le _ (by omega), BitVec.setWidth_eq]
    exact getLsbD_two hn
  | ld | st | ldi | sti | lea =>
    cases h
    exact getLsbD_two hn
  | ldr | str =>
    cases h
    exact getLsbD_three hn getLsbD_low
  | add | and =>
    cases h
    refine getLsbD_three hn fun low => getLsbD_source low fun form => ?_
    simp only [form, Bool.false_eq_true, if_false, List.forall_mem_cons] at used
    exact used.1
  | not =>
    cases h
    exact getLsbD_three hn fun low => by omega
  | jmp =>
    cases h
    show (0#3 ++ w.extractLsb' 6 3 ++ 0#6).getLsbD n = _
    rw [getLsbD_base, decide_eq_true (by omega), Bool.true_and]
  | jsr =>
    cases form : w.getLsbD 11 with
    | true =>
      rw [form] at h
      cases h
      show (1#1 ++ w.extractLsb' 0 11).getLsbD n = _
      rw [BitVec.getLsbD_append]
      split
      · next low => exact getLsbD_low low
      · rw [show n = 11 by omega, form]
        rfl
    | false =>
      rw [form] at h
      cases h
      simp only [form, Bool.false_eq_true, if_false, List.forall_mem_cons] at used
      show (0#3 ++ w.extractLsb' 6 3 ++ 0#6).getLsbD n = _
      rw [getLsbD_base]
      by_cases top : n = 11
      · rw [top, form, Bool.and_false]
      · rw [decide_eq_true (by omega), Bool.true_and]
  | trap =>
    cases h
    show (0#4 ++ w.extractLsb' 0 8).getLsbD n = _
    rw [BitVec.getLsbD_append, if_pos (by omega)]
    exact getLsbD_low (by omega)
  | rti | res => cases h

theorem opcode_of_decode? (h : decode? w = .ok i) : i.opcode = Opcode.ofWord w := by
  unfold decode? at h
  cases op : Opcode.ofWord w with simp only [op] at h
  | jsr =>
    cases h
    split <;> rfl
  | rti | res => cases h
  | _ =>
    cases h
    rfl

/-- Decoding and encoding a word keeps the bits that the layout uses. -/
theorem getLsbD_encode_of_uses (h : decode? w = .ok i) (used : w.Uses n) :
    i.encode.getLsbD n = w.getLsbD n := by
  rcases Nat.lt_or_ge n 12 with low | high
  · rw [getLsbD_encode i low, getLsbD_operands_of_uses h low used]
  · have top : i.encode.extractLsb' 12 4 = w.extractLsb' 12 4 := by
      rw [encode, BitVec.extractLsb'_append_eq_left, opcode_of_decode? h, Opcode.ofWord,
        Opcode.bits_ofBits]
    rcases Nat.lt_or_ge n 16 with within | beyond
    · have bit := congrArg (BitVec.getLsbD · (n - 12)) top
      simpa [show n - 12 < 4 by omega, show 12 + (n - 12) = n by omega] using bit
    · rw [BitVec.getLsbD_of_ge _ _ beyond, BitVec.getLsbD_of_ge _ _ beyond]

/-! ## Bits that are not in use -/

/-- A field of an instruction word that lies within the operands. -/
theorem field_encode (i : Instr) {start width : Nat} (h : start + width ≤ 12) :
    i.encode.field start width = (i.operands.extractLsb' start width).setWidth 16 := by
  rw [Word.field, extractLsb'_encode i h]

/-- The two bits between the registers of `add` and `and`. -/
theorem extractLsb'_source (h : w.getLsbD 5 = false) : w.source.field.extractLsb' 3 2 = 0#2 := by
  rw [Word.source, h, if_neg Bool.false_ne_true, Source.field,
    BitVec.extractLsb'_append_eq_of_le (by omega), BitVec.extractLsb'_zero]

/-- Encoding gives the bits that the layout does not use their fixed values. -/
theorem field_encode_of_spare (h : decode? w = .ok i) {f : Spare} (hf : f ∈ w.spare) :
    i.encode.field f.start f.width = f.value := by
  unfold decode? at h
  unfold Word.spare at hf
  cases op : Opcode.ofWord w with simp only [op] at h hf
  | add | and =>
    cases form : w.getLsbD 5 with
    | true => simp [form] at hf
    | false =>
      cases h
      simp only [form, Bool.false_eq_true, if_false, List.mem_singleton] at hf
      subst hf
      rw [field_encode _ (by decide), operands, BitVec.extractLsb'_append_eq_of_add_le (by decide),
        extractLsb'_source form]
      rfl
  | not =>
    cases h
    obtain rfl := List.mem_singleton.1 hf
    rw [field_encode _ (by decide), operands, BitVec.extractLsb'_append_eq_right]
    rfl
  | jmp =>
    cases h
    simp only [List.mem_cons, List.not_mem_nil, or_false] at hf
    rcases hf with rfl | rfl
    · rw [field_encode _ (by decide), operands, BitVec.extractLsb'_append_eq_of_le (by decide),
        BitVec.extractLsb'_append_eq_left]
      rfl
    · rw [field_encode _ (by decide), operands, BitVec.extractLsb'_append_eq_right]
      rfl
  | jsr =>
    cases form : w.getLsbD 11 with
    | true => simp [form] at hf
    | false =>
      simp only [form, Bool.false_eq_true, if_false, Except.ok.injEq, List.mem_cons,
        List.not_mem_nil, or_false] at h hf
      subst h
      rcases hf with rfl | rfl
      · rw [field_encode _ (by decide), operands, BitVec.extractLsb'_append_eq_of_le (by decide),
          BitVec.extractLsb'_append_eq_of_le (by decide), BitVec.extractLsb'_zero]
        rfl
      · rw [field_encode _ (by decide), operands, BitVec.extractLsb'_append_eq_right]
        rfl
  | trap =>
    cases h
    obtain rfl := List.mem_singleton.1 hf
    rw [field_encode _ (by decide), operands, BitVec.extractLsb'_append_eq_left]
    rfl
  | _ => cases hf

/-! ## The words of instructions -/

theorem isCanonical_encode (h : i.Encodable) : isCanonical i.encode = true := by
  rw [isCanonical, decode?_encode h]
  exact decide_eq_true rfl

/-- A word is the one of its instruction if its spare bits have their fixed values. -/
theorem encode_eq_of_spareFixed (h : decode? w = .ok i) (fixed : w.SpareFixed) : i.encode = w := by
  apply BitVec.eq_of_getLsbD_eq
  intro n hn
  by_cases used : w.Uses n
  · exact getLsbD_encode_of_uses h used
  · obtain ⟨f, hf, low, high⟩ : ∃ f ∈ w.spare, f.start ≤ n ∧ n < f.start + f.width := by
      simpa [Word.Uses] using used
    have place : f.start + (n - f.start) = n := by omega
    have same : i.encode.field f.start f.width = w.field f.start f.width := by
      rw [field_encode_of_spare h hf, fixed f hf]
    rw [← place, ← Word.getLsbD_field (by omega) f.fits, ← Word.getLsbD_field (by omega) f.fits, same]

/-- The words of instructions are the ones that decode and have their spare bits fixed. -/
theorem isCanonical_iff : isCanonical w = true ↔ (∃ i, decode? w = .ok i) ∧ w.SpareFixed := by
  unfold isCanonical
  constructor
  · intro h
    split at h
    · next i decoded =>
      refine ⟨⟨i, decoded⟩, fun f hf => ?_⟩
      rw [← field_encode_of_spare decoded hf, of_decide_eq_true h]
    · cases h
  · rintro ⟨⟨i, decoded⟩, fixed⟩
    rw [decoded]
    exact decide_eq_true (encode_eq_of_spareFixed decoded fixed)

/-- What is encoded is decoded again, and is canonical; the reserved opcodes are refused, and nothing
else is; decoding a word and encoding it again keeps the instruction and the bits that its layout
uses; and a word is canonical exactly if it decodes and its other bits have their fixed values. -/
theorem codec_faithful :
    (∀ i : Instr, i.Encodable →
      decode? i.encode = .ok i ∧ Opcode.ofWord i.encode = i.opcode ∧
        isCanonical i.encode = true) ∧
    (∀ (w : Word) (op : Opcode), decode? w = .error op ↔
      w.field 12 4 = 0x8 ∧ op = .rti ∨ w.field 12 4 = 0xd ∧ op = .res) ∧
    (∀ (w : Word) (i : Instr), decode? w = .ok i →
      decode? i.encode = .ok i ∧ ∀ n, w.Uses n → i.encode.getLsbD n = w.getLsbD n) ∧
    (∀ w : Word, isCanonical w = true ↔ (∃ i, decode? w = .ok i) ∧ w.SpareFixed) := by
  refine ⟨?_, ?_, ?_, ?_⟩
  · intro i h
    exact ⟨decode?_encode h, ofWord_encode i, isCanonical_encode h⟩
  · intro w op
    exact decode?_eq_error_iff
  · intro w i h
    exact ⟨decode?_encode (encodable_of_decode? h), fun n used => getLsbD_encode_of_uses h used⟩
  · intro w
    exact isCanonical_iff

/-- A branch on a backward offset, and an addition with a bit set between its operands. -/
theorem codec_faithful_branch_add :
    decode? (encode (.br 5 ⟨0x1ff⟩)) = .ok (.br 5 ⟨0x1ff⟩) ∧
    decode? 0x1298 = .ok (.add ⟨1⟩ ⟨2⟩ (.reg ⟨0⟩)) ∧
    decode? (encode (.add ⟨1⟩ ⟨2⟩ (.reg ⟨0⟩))) = .ok (.add ⟨1⟩ ⟨2⟩ (.reg ⟨0⟩)) ∧
    ¬(0x1298 : Word).SpareFixed := by
  obtain ⟨encoded, -, decoded, canonical⟩ := codec_faithful
  have add : decode? 0x1298 = .ok (.add ⟨1⟩ ⟨2⟩ (.reg ⟨0⟩)) := rfl
  refine ⟨(encoded (.br 5 ⟨0x1ff⟩) (show (5 : Branch).toNat < 8 by decide)).1, add,
    (decoded _ _ add).1, ?_⟩
  intro fixed
  exact absurd ((canonical 0x1298).2 ⟨⟨_, add⟩, fixed⟩) (by decide)

end Instr

end Sixteen
