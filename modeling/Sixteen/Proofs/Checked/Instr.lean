import Sixteen.Proofs.Checked.Basic
import Sixteen.Proofs.Machine.Architecture
import Sixteen.Proofs.Operand.Range
import Sixteen.Listing

/-!
# Operands and instruction words under checks

A number is cut to a field by shifting it up and back, a word is put together by shifting each of
its fields to its place, and it is taken apart by masks. A register is taken from a word by its
number, which has to be one of the eight.

* `Checked.narrow` : a word cut to its low bits; `Checked.offset?`, `Checked.low` and
  `Checked.vector` make operands by it;
* `Checked.register`, `Checked.decode?` : taking an instruction word apart;
* `Checked.encode`, `Checked.text` : putting one together, and an instruction as text;
* `Checked.disassemble` : the listing of a block of words.

No check fails in them for the widths of operands, and they compute what the library does.
-/

namespace Sixteen.Checked

/-! ## Cutting words -/

/-- The low `n` bits of a word, shifted up to its end and then brought back by `back`. -/
def narrow (back : Word → Nat → Word) (n : Nat) (w : Word) : Checked Word := do
  require (checkWidth n)
  let rest ← natural 32 (16 - n)
  let up ← shiftLeft w rest
  return back up (← amount 16 rest)

/-- There are operands of so many bits, and cutting a word to them takes no shift by all its
bits. -/
def IsWidth (n : Nat) : Prop :=
  0 < n ∧ n ≤ 16

instance : DecidablePred IsWidth := fun n => inferInstanceAs (Decidable (0 < n ∧ n ≤ 16))

theorem narrow_eq (back : Word → Nat → Word) {n : Nat} (h : IsWidth n) (w : Word) :
    narrow back n w = .ok (back (w <<< (16 - n)) (16 - n)) := by
  obtain ⟨pos, le⟩ := h
  rw [narrow, checkWidth, if_pos le, natural_eq (n := 16 - n) (by omega) (by omega)]
  simp only [require, ok_bind]
  rw [shiftLeft_eq w (by omega), amount_eq (by omega)]
  rfl

/-- Brought back with its sign, a number is the low bits of the word in two's complement. -/
theorem narrow_sshiftRight {n : Nat} (h : IsWidth n) (w : Word) :
    narrow BitVec.sshiftRight n w = .ok (w.extend n) := by
  rw [narrow_eq _ h, Word.sshiftRight_shiftLeft h.1 h.2]

/-- Brought back with zeros, it is the low bits of the word. -/
theorem ushiftRight_shiftLeft {n : Nat} (h : IsWidth n) (w : Word) :
    (w <<< (16 - n)) >>> (16 - n) = (w.setWidth n).setWidth 16 := by
  obtain ⟨pos, le⟩ := h
  apply BitVec.eq_of_getLsbD_eq
  intro i hi
  simp only [BitVec.getLsbD_ushiftRight, BitVec.getLsbD_shiftLeft, BitVec.getLsbD_setWidth]
  by_cases inside : i < n
  · have back : 16 - n + i - (16 - n) = i := by omega
    simp [hi, inside, back, show 16 - n + i < 16 by omega]
  · simp [inside, show ¬16 - n + i < 16 by omega]

/-! ## Operands -/

/-- A number as an operand of `n` bits, refused if a word does not hold it or if cutting it to the
operand changes it. -/
def offset? (n : Nat) (v : Int) : Checked (Except RangeError (Signed n)) := do
  if -0x8000 ≤ v ∧ v ≤ 0x7fff then
    let w := BitVec.ofInt 16 v
    let kept ← narrow BitVec.sshiftRight n w
    return if w = kept then .ok ⟨kept.setWidth n⟩ else .error (.signed n)
  else return .error (.signed n)

/-- The signed number in the low `n` bits of a word. -/
def low (w : Word) (n : Nat) : Checked (Signed n) := do
  let kept ← narrow BitVec.sshiftRight n (← field w 0 n)
  return ⟨kept.setWidth n⟩

/-- The service number in the low bits of a word. -/
def vector (w : Word) : Checked (Unsigned 8) := do
  let kept ← narrow (· >>> ·) 8 w
  return ⟨kept.setWidth 8⟩

/-- The bits of a signed operand as a field of an instruction word. -/
def offsetField {n : Nat} (s : Signed n) : Checked Word :=
  field s.toWord 0 n

/-- The register with the number in the three bits of `w` from bit `start` up. -/
def register (w : Word) (start : Nat) : Checked Reg := do
  let number ← field w start 3
  match Reg.ofNat? number.toNat with
  | .ok r => return r
  | .error e => .error (.index e.number 8)

theorem setWidth_signExtend {n : Nat} (h : n ≤ 16) (v : BitVec n) :
    (v.signExtend 16).setWidth n = v := by
  apply BitVec.eq_of_getLsbD_eq
  intro i hi
  rw [BitVec.getLsbD_setWidth, BitVec.getLsbD_signExtend]
  simp [hi, show i < 16 by omega]

theorem setWidth_ofInt {n : Nat} (h : n ≤ 16) (v : Int) :
    (BitVec.ofInt 16 v).setWidth n = BitVec.ofInt n v := by
  have divides : ((2 ^ n : Nat) : Int) ∣ (2 ^ 16 : Nat) := mod_cast Nat.pow_dvd_pow 2 h
  apply BitVec.eq_of_toNat_eq
  rw [BitVec.toNat_setWidth, BitVec.toNat_ofInt, BitVec.toNat_ofInt,
    ← Int.emod_emod_of_dvd v divides,
    Int.toNat_emod (Int.emod_nonneg v (by decide)) (Int.natCast_nonneg _), Int.toNat_natCast]

theorem extractLsb'_zero (w : Word) (n : Nat) : w.extractLsb' 0 n = w.setWidth n := by
  apply BitVec.eq_of_getLsbD_eq
  intro i hi
  simp [hi]

theorem setWidth_field (w : Word) {start width n : Nat} (h : n ≤ 16) :
    (w.field start width).setWidth n = (w.extractLsb' start width).setWidth n :=
  BitVec.setWidth_setWidth_of_le _ h

theorem offset?_eq {n : Nat} (h : IsWidth n) (v : Int) :
    offset? n v = .ok (Signed.ofInt? n v) := by
  have kept : narrow BitVec.sshiftRight n (BitVec.ofInt 16 v) =
      .ok ((Signed.truncate n v).toWord) := by
    rw [narrow_sshiftRight h, Word.extend, setWidth_ofInt h.2]
    rfl
  have bounds := Signed.value_bounds h.2 (Signed.truncate n v)
  unfold offset? Signed.ofInt?
  split
  · next fits =>
    have same : BitVec.ofInt 16 v = (Signed.truncate n v).toWord ↔
        (Signed.truncate n v).value = v := by
      rw [← BitVec.toInt_inj, BitVec.toInt_ofInt_eq_self (by decide) (by omega) (by omega),
        Signed.toWord, BitVec.toInt_signExtend_of_le h.2, eq_comm]
      rfl
    simp only [kept, same, ok_bind]
    rw [Signed.toWord, setWidth_signExtend h.2]
    rfl
  · next far =>
    rw [if_neg (by omega)]
    rfl

theorem low_eq {n : Nat} (h : IsWidth n) (w : Word) : low w n = .ok (w.low n) := by
  rw [low, field_eq w (by have := h.2; omega)]
  simp only [ok_bind, narrow_sshiftRight h]
  rw [Word.extend, setWidth_signExtend h.2, setWidth_field w h.2, BitVec.setWidth_eq]
  rfl

theorem vector_eq (w : Word) : vector w = .ok ⟨w.setWidth 8⟩ := by
  have h : IsWidth 8 := by decide
  rw [vector, narrow_eq _ h, ushiftRight_shiftLeft h, ok_bind,
    BitVec.setWidth_setWidth_of_le _ (by decide), BitVec.setWidth_eq]
  rfl

theorem offsetField_eq {n : Nat} (h : n ≤ 16) (s : Signed n) :
    offsetField s = .ok (s.bits.setWidth 16) := by
  rw [offsetField, field_eq _ (by omega), Word.field, extractLsb'_zero, Signed.toWord,
    setWidth_signExtend h]

theorem register_eq (w : Word) {start : Nat} (h : start + 3 ≤ 16) :
    register w start = .ok (w.reg start) := by
  have number : (w.field start 3).toNat = (w.extractLsb' start 3).toNat :=
    BitVec.toNat_setWidth_of_le (by decide)
  have small : (w.extractLsb' start 3).toNat < 8 := (w.extractLsb' start 3).isLt
  rw [register, field_eq w h]
  rw [ok_bind, Reg.ofNat?, if_pos (number ▸ small), BitVec.ofNat_toNat,
    setWidth_field w (by decide), BitVec.setWidth_eq]
  rfl

/-! ## Taking words apart -/

def opcode (w : Word) : Checked Opcode := do
  get Opcode.all (← shiftRight w 12).toNat

def source (w : Word) : Checked (Source 5) := do
  if (← bit w 5) = 1 then return .imm (← low w 5) else return .reg (← register w 0)

/-- The instruction of a word; a reserved opcode is returned as such. -/
def decode? (w : Word) : Checked (Except Opcode Instr) := do
  match ← opcode w with
  | .br => return .ok (.br ((← field w 9 3).setWidth 8) (← low w 9))
  | .add => return .ok (.add (← register w 9) (← register w 6) (← source w))
  | .ld => return .ok (.ld (← register w 9) (← low w 9))
  | .st => return .ok (.st (← register w 9) (← low w 9))
  | .jsr =>
    if (← bit w 11) = 1 then return .ok (.jsr (← low w 11))
    else return .ok (.jsrr (← register w 6))
  | .and => return .ok (.and (← register w 9) (← register w 6) (← source w))
  | .ldr => return .ok (.ldr (← register w 9) (← register w 6) (← low w 6))
  | .str => return .ok (.str (← register w 9) (← register w 6) (← low w 6))
  | .rti => return .error .rti
  | .not => return .ok (.not (← register w 9) (← register w 6))
  | .ldi => return .ok (.ldi (← register w 9) (← low w 9))
  | .sti => return .ok (.sti (← register w 9) (← low w 9))
  | .jmp => return .ok (.jmp (← register w 6))
  | .res => return .error .res
  | .lea => return .ok (.lea (← register w 9) (← low w 9))
  | .trap => return .ok (.trap (← vector (← field w 0 8)))

theorem opcode_eq (w : Word) : opcode w = .ok (Opcode.ofWord w) := by
  have top : (w >>> 12).toNat = (w.extractLsb' 12 4).toNat := by
    have := w.isLt
    rw [BitVec.toNat_ushiftRight, BitVec.extractLsb'_toNat, Nat.mod_eq_of_lt]
    omega
  have small : (w >>> 12).toNat < 16 := by
    rw [top]
    exact (w.extractLsb' 12 4).isLt
  rw [opcode, shiftRight_eq w (by decide), ok_bind, get_eq small]
  simp only [top]
  rfl

theorem source_eq (w : Word) : source w = .ok w.source := by
  rw [source, bit_eq w (by decide), ok_bind, Word.source]
  simp only [Architecture.bit_eq_one_iff]
  split
  · rw [low_eq (by decide)]
    rfl
  · rw [register_eq w (by decide)]
    rfl

theorem decode?_eq (w : Word) : decode? w = .ok (Instr.decode? w) := by
  have nine := low_eq (n := 9) (by decide) w
  have eleven := low_eq (n := 11) (by decide) w
  have six := low_eq (n := 6) (by decide) w
  have high : register w 9 = .ok (w.reg 9) := register_eq w (by decide)
  have middle : register w 6 = .ok (w.reg 6) := register_eq w (by decide)
  have cond : field w 9 3 = .ok (w.field 9 3) := field_eq w (by decide)
  have number : field w 0 8 = .ok (w.field 0 8) := field_eq w (by decide)
  have byte (start width : Nat) :
      (w.field start width).setWidth 8 = (w.extractLsb' start width).setWidth 8 :=
    setWidth_field w (by decide)
  have call := bit_eq w (n := 11) (by decide)
  rw [decode?, opcode_eq, ok_bind, Instr.decode?]
  cases Opcode.ofWord w with
  | jsr =>
    simp only [call, ok_bind, Architecture.bit_eq_one_iff]
    split
    · rw [eleven]
      rfl
    · rw [middle]
      rfl
  | br => simp only [cond, nine, ok_bind, pure_eq, byte]
  | trap => simp only [number, vector_eq, ok_bind, pure_eq, byte, BitVec.setWidth_eq]
  | add | and => simp only [high, middle, source_eq, ok_bind, pure_eq]
  | ld | st | ldi | sti | lea => simp only [high, nine, ok_bind, pure_eq]
  | ldr | str => simp only [high, middle, six, ok_bind, pure_eq]
  | not => simp only [high, middle, ok_bind, pure_eq]
  | jmp => simp only [middle, ok_bind, pure_eq]
  | rti | res => rfl

/-! ## Putting words together -/

def sourceField : Source 5 → Checked Word
  | .imm value => return (← shiftLeft 1 5) ||| (← offsetField value)
  | .reg r => return r.bits.setWidth 16

/-- The operands of an instruction at their places. -/
def operands : Instr → Checked Word
  | .br cond offset =>
    return (← shiftLeft ((cond &&& 7).setWidth 16) 9) ||| (← offsetField offset)
  | .add dst src1 src2 | .and dst src1 src2 =>
    return (← shiftLeft (dst.bits.setWidth 16) 9) ||| (← shiftLeft (src1.bits.setWidth 16) 6)
      ||| (← sourceField src2)
  | .ld r offset | .st r offset | .ldi r offset | .sti r offset | .lea r offset =>
    return (← shiftLeft (r.bits.setWidth 16) 9) ||| (← offsetField offset)
  | .jsr offset => return (← shiftLeft 1 11) ||| (← offsetField offset)
  | .jsrr base | .jmp base => shiftLeft (base.bits.setWidth 16) 6
  | .ldr r base offset | .str r base offset =>
    return (← shiftLeft (r.bits.setWidth 16) 9) ||| (← shiftLeft (base.bits.setWidth 16) 6)
      ||| (← offsetField offset)
  | .not dst src =>
    return (← shiftLeft (dst.bits.setWidth 16) 9) ||| (← shiftLeft (src.bits.setWidth 16) 6)
      ||| 0x3f
  | .trap vector => field (vector.bits.setWidth 16) 0 8

def encode (i : Instr) : Checked Word := do
  return (← shiftLeft (i.opcode.bits.setWidth 16) 12) ||| (← operands i)

/-- Two fields side by side are the first one shifted past the second. -/
theorem setWidth_append {a b : Nat} (x : BitVec a) (y : BitVec b) :
    (x ++ y).setWidth 16 = x.setWidth 16 <<< b ||| y.setWidth 16 := by
  apply BitVec.eq_of_getLsbD_eq
  intro i hi
  rw [BitVec.getLsbD_setWidth, BitVec.getLsbD_append, BitVec.getLsbD_or, BitVec.getLsbD_shiftLeft,
    BitVec.getLsbD_setWidth, BitVec.getLsbD_setWidth]
  by_cases h : i < b
  · simp [hi, h]
  · have past : y.getLsbD i = false := BitVec.getLsbD_of_ge y i (by omega)
    simp [hi, h, past, show i - b < 16 by omega]

theorem sourceField_eq (s : Source 5) : sourceField s = .ok (s.field.setWidth 16) := by
  cases s with
  | imm value =>
    rw [sourceField, shiftLeft_eq _ (by decide), offsetField_eq (by decide), Source.field,
      setWidth_append]
    rfl
  | reg r =>
    rw [sourceField, Source.field, setWidth_append]
    simp

theorem setWidth_append_three (a b : BitVec 3) (c : BitVec 6) :
    (a ++ b ++ c : BitVec 12).setWidth 16 =
      a.setWidth 16 <<< 9 ||| b.setWidth 16 <<< 6 ||| c.setWidth 16 := by
  rw [setWidth_append, setWidth_append, BitVec.shiftLeft_or_distrib, ← BitVec.shiftLeft_add]

theorem setWidth_and_seven (cond : Branch) :
    (cond &&& 7).setWidth 16 = (cond.setWidth 3).setWidth 16 := by
  revert cond
  decide

theorem operands_eq (i : Instr) : operands i = .ok (i.operands.setWidth 16) := by
  have nine (w : Word) := shiftLeft_eq w (show 9 < 16 by decide)
  have six (w : Word) := shiftLeft_eq w (show 6 < 16 by decide)
  have eleven (w : Word) := shiftLeft_eq w (show 11 < 16 by decide)
  cases i with
  | br cond offset =>
    rw [operands, nine, offsetField_eq (by decide), setWidth_and_seven]
    exact congrArg Except.ok (setWidth_append (cond.setWidth 3) offset.bits).symm
  | add dst src1 src2 | and dst src1 src2 =>
    rw [operands, nine, six, sourceField_eq]
    exact congrArg Except.ok (setWidth_append_three dst.bits src1.bits src2.field).symm
  | ld r offset | st r offset | ldi r offset | sti r offset | lea r offset =>
    rw [operands, nine, offsetField_eq (by decide)]
    exact congrArg Except.ok (setWidth_append r.bits offset.bits).symm
  | jsr offset =>
    rw [operands, eleven, offsetField_eq (by decide)]
    exact congrArg Except.ok (setWidth_append 1#1 offset.bits).symm
  | jsrr base | jmp base =>
    rw [operands, six, Instr.operands, setWidth_append_three]
    simp
  | ldr r base offset | str r base offset =>
    rw [operands, nine, six, offsetField_eq (by decide)]
    exact congrArg Except.ok (setWidth_append_three r.bits base.bits offset.bits).symm
  | not dst src =>
    rw [operands, nine, six]
    exact congrArg Except.ok (setWidth_append_three dst.bits src.bits 63#6).symm
  | trap vector =>
    rw [operands, field_eq _ (by decide), Word.field, extractLsb'_zero,
      BitVec.setWidth_setWidth_of_le vector.bits (show 8 ≤ 16 by decide), BitVec.setWidth_eq]
    refine congrArg Except.ok ((setWidth_append 0#4 vector.bits).trans ?_).symm
    simp

theorem encode_eq (i : Instr) : encode i = .ok i.encode := by
  rw [encode, shiftLeft_eq _ (by decide), operands_eq]
  simp only [ok_bind, pure_eq]
  rw [← setWidth_append, BitVec.setWidth_eq]
  rfl

/-! ## Listings -/

/-- An instruction as text. Only a trap without a service is shown by its word. -/
def text (i : Instr) : Checked String :=
  match i with
  | .trap vector =>
    match Service.ofVector? vector with
    | some s => return s.name
    | none => return " ".intercalate ["val", (← encode i).literal]
  | i => return i.text

/-- The assembly text of a word. -/
def statement (w : Word) : Checked String := do
  match ← decode? w with
  | .ok i => if (← encode i) = w then text i else return "val " ++ w.literal
  | .error _ => return "val " ++ w.literal

/-- The lines for words, the first of which has the number `i`. A word is numbered by a count that
is raised as soon as there is a word. -/
def lines (origin : Word) (i : Nat) : List Word → Checked (List String)
  | [] => return []
  | w :: ws => do
    let next ← natural 64 (i + 1)
    let address := origin + BitVec.ofNat 16 i
    let line := Listing.cell address ++ ": " ++ Listing.cell w ++ "  " ++ (← statement w)
    return line :: (← lines origin next ws)

/-- The listing of a block of words from `origin` up. -/
def disassemble (origin : Word) (words : List Word) : Checked String := do
  return String.join ((← lines origin 0 words).map (· ++ "\n"))

theorem text_eq (i : Instr) : text i = .ok i.text := by
  cases i with
  | trap vector =>
    rw [text, Instr.text, Instr.parts]
    cases Service.ofVector? vector with
    | none =>
      rw [encode_eq]
      rfl
    | some s => rfl
  | _ => rfl

theorem statement_eq (w : Word) : statement w = .ok (Listing.statement w) := by
  rw [statement, decode?_eq, ok_bind, Listing.statement]
  cases Instr.decode? w with
  | error op => rfl
  | ok i =>
    simp only [encode_eq, ok_bind, text_eq]
    split <;> rfl

theorem lines_eq (origin : Word) {i : Nat} {words : List Word} (h : i + words.length < 2 ^ 64) :
    lines origin i words = .ok ((words.zipIdx i).map fun (w, i) =>
      Listing.line (origin + BitVec.ofNat 16 i) w) := by
  induction words generalizing i with
  | nil => rfl
  | cons w ws ih =>
    rw [List.length_cons] at h
    rw [lines, natural_eq (n := i + 1) (by omega) (by omega)]
    simp only [ok_bind, statement_eq, ih (show i + 1 + ws.length < 2 ^ 64 by omega)]
    rfl

theorem disassemble_eq (origin : Word) {words : List Word} (h : words.length < 2 ^ 64) :
    disassemble origin words = .ok (Sixteen.disassemble origin words) := by
  rw [disassemble, lines_eq origin (by omega)]
  rfl

end Sixteen.Checked
