import Sixteen.Proofs.Checked.Instr
import Mathlib.Data.Int.ModEq

/-!
# Numbers of so many bits

An operand of `n` bits stands for one of `2 ^ n` numbers in a row. Which row that is depends on how
words are read: in two's complement, or without a sign. Nothing else does, and the rest is the
arithmetic of remainders by `2 ^ n`.

* `Offsets n` : the operands of `n` bits under a reading of words, with the operations on them;
  `Offsets.signed` and `Offsets.unsigned` are the two there are;
* `Offsets.Lawful` : what each operation of a reading does by itself;
* `Offsets.Exact` : how they belong together, for any reading by its laws (`Offsets.Lawful.toExact`);
* `offsets_exact` : both readings, at every width that an operand can have, and the extension of a
  field by its sign.
-/

namespace Sixteen

/-- The operands of `n` bits under a reading of words as numbers. -/
structure Offsets (n : Nat) where
  Operand : Type
  /-- The number that a word stands for. -/
  read : Word → Int
  /-- Whether `n` bits hold a number. -/
  InRange : Int → Prop
  /-- What a number out of range is refused with. -/
  error : RangeError
  /-- Moves a word down, with what the reading has above it. -/
  back : Word → Nat → Word
  /-- A word as an operand, if the operand has the number of the word. -/
  ofWord? : Word → Except RangeError Operand
  /-- The operand of the low bits of a word. -/
  ofLow : Word → Operand
  value : Operand → Int
  /-- An operand as a word. -/
  toWord : Operand → Word
  /-- The bits of an operand, as instructions hold them. -/
  bits : Operand → BitVec n

namespace Offsets

variable {n : Nat}

/-- Operands in two's complement. -/
def signed (n : Nat) : Offsets n where
  Operand := Signed n
  read := BitVec.toInt
  InRange := Signed.InRange n
  error := .signed n
  back := BitVec.sshiftRight
  ofWord? w := Signed.ofInt? n w.toInt
  ofLow w := .truncate n w.toInt
  value := Signed.value
  toWord := Signed.toWord
  bits := Signed.bits

/-- Operands without a sign. -/
def unsigned (n : Nat) : Offsets n where
  Operand := Unsigned n
  read w := w.toNat
  InRange v := 0 ≤ v ∧ v < 2 ^ n
  error := .unsigned n
  back w k := w >>> k
  ofWord? w := Unsigned.ofNat? n w.toNat
  ofLow w := .truncate n w.toNat
  value u := u.value
  toWord u := u.bits.setWidth 16
  bits := Unsigned.bits

/-- The low field of an operand as a word. -/
def field (F : Offsets n) (o : F.Operand) : Word :=
  (F.toWord o).field 0 n

/-! ## A reading by its laws -/

/-- The operations of a reading, each by itself. -/
structure Lawful (F : Offsets n) : Prop where
  /-- The numbers of a word under any two readings differ by a multiple of the number of words. -/
  read_modEq (w : Word) : F.read w ≡ w.toNat [ZMOD 2 ^ 16]
  value_ofLow (w : Word) : F.value (F.ofLow w) ≡ F.read w [ZMOD 2 ^ n]
  inRange_value (o : F.Operand) : F.InRange (F.value o)
  value_injective : Function.Injective F.value
  /-- The numbers in range leave different remainders. -/
  eq_of_modEq {u v : Int} : F.InRange u → F.InRange v → u ≡ v [ZMOD 2 ^ n] → u = v
  read_toWord (o : F.Operand) : F.read (F.toWord o) = F.value o
  ofWord?_eq (w : Word) :
    F.ofWord? w = if F.value (F.ofLow w) = F.read w then .ok (F.ofLow w) else .error F.error
  narrow_eq (w : Word) : Checked.narrow F.back n w = .ok (F.toWord (F.ofLow w))
  setWidth_toWord (o : F.Operand) : (F.toWord o).setWidth n = F.bits o

/-- The operations of a reading together: operands are exactly the numbers in range. -/
structure Exact (F : Offsets n) : Prop where
  /-- A word whose number is in range is an operand, of that number. -/
  taken {w : Word} {o : F.Operand} :
    F.ofWord? w = .ok o ↔ F.InRange (F.read w) ∧ F.value o = F.read w
  /-- Every other word is refused. -/
  refused {w : Word} {e : RangeError} :
    F.ofWord? w = .error e ↔ ¬F.InRange (F.read w) ∧ e = F.error
  /-- Cut to its low bits, a word has the one number in range of the same remainder. -/
  cut {w : Word} {v : Int} :
    v = F.value (F.ofLow w) ↔ F.InRange v ∧ v ≡ F.read w [ZMOD 2 ^ n]
  /-- Cutting does not change what is taken. -/
  kept {w : Word} {o : F.Operand} : F.ofWord? w = .ok o → F.ofLow w = o
  /-- An operand has its number as a word too, -/
  stored (o : F.Operand) : F.read (F.toWord o) = F.value o
  /-- so that cutting it once more gives it back. -/
  again (o : F.Operand) : F.ofLow (F.toWord o) = o
  /-- The field of an operand is its bits, -/
  field_bits (o : F.Operand) : F.field o = (F.bits o).setWidth 16
  /-- which no two operands share, -/
  field_injective : Function.Injective F.field
  /-- and the remainder of its number. -/
  field_value (o : F.Operand) : ((F.field o).toNat : Int) = F.value o % 2 ^ n
  /-- The low field of a word is the field of one operand, the one that it is cut to. -/
  low {w : Word} {o : F.Operand} : F.ofLow (w.field 0 n) = o ↔ F.field o = w.field 0 n
  /-- Cutting a word shifts it up and back, and no check fails. -/
  shifted (w : Word) : Checked.narrow F.back n w = .ok (F.toWord (F.ofLow w))
  /-- Neither does one where the field is masked out. -/
  masked (o : F.Operand) : Checked.field (F.toWord o) 0 n = .ok (F.field o)

/-- The low field of a word is its remainder. -/
theorem toNat_low_field (h : n ≤ 16) (w : Word) : ((w.field 0 n).toNat : Int) = w.toNat % 2 ^ n := by
  rw [Word.field, Checked.extractLsb'_zero, BitVec.toNat_setWidth_of_le h, BitVec.toNat_setWidth]
  push_cast
  rfl

namespace Lawful

variable {F : Offsets n} (law : F.Lawful)
include law

/-- Reading a word keeps the remainder of its low bits. -/
theorem read_modEq_low (h : n ≤ 16) (w : Word) : F.read w ≡ w.toNat [ZMOD 2 ^ n] :=
  (law.read_modEq w).of_dvd (pow_dvd_pow 2 h)

theorem eq_value_ofLow_iff {w : Word} {v : Int} :
    v = F.value (F.ofLow w) ↔ F.InRange v ∧ v ≡ F.read w [ZMOD 2 ^ n] := by
  constructor
  · rintro rfl
    exact ⟨law.inRange_value _, law.value_ofLow w⟩
  · rintro ⟨inRange, same⟩
    exact law.eq_of_modEq inRange (law.inRange_value _) (same.trans (law.value_ofLow w).symm)

/-- Cutting changes the number of a word only if it is out of range. -/
theorem value_ofLow_eq_iff {w : Word} : F.value (F.ofLow w) = F.read w ↔ F.InRange (F.read w) := by
  rw [eq_comm, law.eq_value_ofLow_iff, and_iff_left (Int.ModEq.refl _)]

theorem ofLow_eq_iff {w : Word} {o : F.Operand} :
    F.ofLow w = o ↔ F.value o ≡ F.read w [ZMOD 2 ^ n] := by
  rw [eq_comm, ← law.value_injective.eq_iff, law.eq_value_ofLow_iff,
    and_iff_right (law.inRange_value o)]

theorem ofWord?_eq_ok_iff {w : Word} {o : F.Operand} :
    F.ofWord? w = .ok o ↔ F.InRange (F.read w) ∧ F.value o = F.read w := by
  rw [law.ofWord?_eq]
  constructor
  · intro h
    split at h
    · next same =>
      cases h
      exact ⟨law.value_ofLow_eq_iff.1 same, same⟩
    · cases h
  · rintro ⟨inRange, same⟩
    have low : F.ofLow w = o := law.ofLow_eq_iff.2 (same ▸ Int.ModEq.refl _)
    rw [if_pos (law.value_ofLow_eq_iff.2 inRange), low]

theorem ofWord?_eq_error_iff {w : Word} {e : RangeError} :
    F.ofWord? w = .error e ↔ ¬F.InRange (F.read w) ∧ e = F.error := by
  rw [law.ofWord?_eq]
  constructor
  · intro h
    split at h
    · cases h
    · next lost =>
      cases h
      exact ⟨fun inRange => lost (law.value_ofLow_eq_iff.2 inRange), rfl⟩
  · rintro ⟨outside, rfl⟩
    rw [if_neg (fun same => outside (law.value_ofLow_eq_iff.1 same))]

/-- The word of an operand has the remainder of its number. -/
theorem toNat_toWord (h : n ≤ 16) (o : F.Operand) :
    F.value o ≡ (F.toWord o).toNat [ZMOD 2 ^ n] := by
  rw [← law.read_toWord]
  exact law.read_modEq_low h _

theorem toNat_field (h : n ≤ 16) (o : F.Operand) :
    ((F.field o).toNat : Int) = F.value o % 2 ^ n := by
  rw [field, toNat_low_field h]
  exact (law.toNat_toWord h o).symm

theorem field_eq_iff (h : n ≤ 16) {w : Word} {o : F.Operand} :
    F.field o = w.field 0 n ↔ F.value o ≡ w.toNat [ZMOD 2 ^ n] := by
  rw [← BitVec.toNat_inj, ← Int.natCast_inj, law.toNat_field h, toNat_low_field h]
  rfl

theorem field_injective (h : n ≤ 16) : Function.Injective F.field := by
  intro o p same
  have modEq : F.value o ≡ F.value p [ZMOD 2 ^ n] :=
    ((law.field_eq_iff h).1 same).trans (law.toNat_toWord h p).symm
  exact law.value_injective (law.eq_of_modEq (law.inRange_value o) (law.inRange_value p) modEq)

/-- A field is cut to what the word that it was taken from is cut to. -/
theorem ofLow_field_eq_iff (h : n ≤ 16) {w : Word} {o : F.Operand} :
    F.ofLow (w.field 0 n) = o ↔ F.field o = w.field 0 n := by
  have same : F.read (w.field 0 n) ≡ w.toNat [ZMOD 2 ^ n] := by
    refine (law.read_modEq_low h _).trans ?_
    rw [toNat_low_field h]
    exact Int.mod_modEq _ _
  rw [law.ofLow_eq_iff, law.field_eq_iff h]
  exact ⟨fun cut => cut.trans same, fun cut => cut.trans same.symm⟩

theorem toExact (h : n ≤ 16) : F.Exact where
  taken := law.ofWord?_eq_ok_iff
  refused := law.ofWord?_eq_error_iff
  cut := law.eq_value_ofLow_iff
  kept taken := law.ofLow_eq_iff.2 ((law.ofWord?_eq_ok_iff.1 taken).2 ▸ Int.ModEq.refl _)
  stored := law.read_toWord
  again o := law.ofLow_eq_iff.2 (law.read_toWord o ▸ Int.ModEq.refl _)
  field_bits o := by
    rw [field, Word.field, Checked.extractLsb'_zero, law.setWidth_toWord]
  field_injective := law.field_injective h
  field_value := law.toNat_field h
  low := law.ofLow_field_eq_iff h
  shifted := law.narrow_eq
  masked _ := Checked.field_eq _ (by omega)

end Lawful

/-! ## The two readings -/

/-- Of `m` numbers in a row, no two leave the same remainder. -/
theorem eq_of_modEq_of_lt {a m u v : Int} (hu : a ≤ u ∧ u < a + m) (hv : a ≤ v ∧ v < a + m)
    (h : u ≡ v [ZMOD m]) : u = v := by
  have near : |v - u| < m := abs_lt.2 ⟨by omega, by omega⟩
  have same := Int.eq_zero_of_abs_lt_dvd h.dvd near
  omega

/-- What two's complement reads is the number of the bits, up to their number. -/
theorem bmod_modEq (v : Int) (n : Nat) : v.bmod (2 ^ n) ≡ v [ZMOD 2 ^ n] := by
  have same := Int.bmod_emod (x := v) (m := 2 ^ n)
  push_cast at same
  exact same

theorem ofInt_toInt (h : n ≤ 16) (w : Word) : BitVec.ofInt n w.toInt = w.setWidth n := by
  rw [← Checked.setWidth_ofInt h, BitVec.ofInt_toInt]

/-- Extending the low bits of a word by their sign is cutting it to a signed operand. -/
theorem extend_eq (h : n ≤ 16) (w : Word) : w.extend n = (signed n).toWord ((signed n).ofLow w) :=
  congrArg (BitVec.signExtend 16) (ofInt_toInt h w).symm

theorem signed_lawful (h : Checked.IsWidth n) : (signed n).Lawful where
  read_modEq w := by
    show w.toInt ≡ _ [ZMOD _]
    rw [BitVec.toInt_eq_toNat_bmod]
    exact bmod_modEq _ 16
  value_ofLow w := by
    show (BitVec.ofInt n w.toInt).toInt ≡ _ [ZMOD _]
    rw [BitVec.toInt_ofInt]
    exact bmod_modEq _ n
  inRange_value := Signed.inRange_value
  value_injective := by
    rintro ⟨a⟩ ⟨b⟩ same
    exact congrArg _ (BitVec.toInt_inj.1 same)
  eq_of_modEq {u v} hu hv := by
    have double : (2 : Int) ^ n = 2 ^ (n - 1) + 2 ^ (n - 1) := by
      rw [← two_mul, ← pow_succ', Nat.sub_add_cancel h.1]
    obtain ⟨lowU, highU⟩ := hu
    obtain ⟨lowV, highV⟩ := hv
    exact eq_of_modEq_of_lt (a := -2 ^ (n - 1)) ⟨lowU, by omega⟩ ⟨lowV, by omega⟩
  read_toWord s := BitVec.toInt_signExtend_of_le h.2
  ofWord?_eq _ := rfl
  narrow_eq w := (Checked.narrow_sshiftRight h w).trans (congrArg _ (extend_eq h.2 w))
  setWidth_toWord s := Checked.setWidth_signExtend h.2 s.bits

theorem unsigned_lawful (h : Checked.IsWidth n) : (unsigned n).Lawful where
  read_modEq _ := Int.ModEq.refl _
  value_ofLow w := by
    show ((BitVec.ofNat n w.toNat).toNat : Int) ≡ _ [ZMOD _]
    rw [BitVec.toNat_ofNat]
    push_cast
    exact Int.mod_modEq _ _
  inRange_value u := by
    have below : (u.bits.toNat : Int) < 2 ^ n := mod_cast u.bits.isLt
    exact ⟨Int.natCast_nonneg _, below⟩
  value_injective := by
    rintro ⟨a⟩ ⟨b⟩ same
    exact congrArg _ (BitVec.toNat_inj.1 (Int.natCast_inj.1 same))
  eq_of_modEq {u v} hu hv :=
    eq_of_modEq_of_lt (a := 0) ⟨hu.1, by have := hu.2; omega⟩ ⟨hv.1, by have := hv.2; omega⟩
  read_toWord u := congrArg _ (BitVec.toNat_setWidth_of_le h.2)
  ofWord?_eq w := by
    show Unsigned.ofNat? n w.toNat = _
    rw [Unsigned.ofNat?]
    exact if_congr Int.natCast_inj.symm rfl rfl
  narrow_eq w := by
    rw [Checked.narrow_eq _ h]
    refine congrArg _ ((Checked.ushiftRight_shiftLeft h w).trans ?_)
    show _ = (BitVec.ofNat n w.toNat).setWidth 16
    rw [BitVec.ofNat_toNat]
  setWidth_toWord u :=
    (BitVec.setWidth_setWidth_of_le u.bits h.2).trans (BitVec.setWidth_eq u.bits)

theorem extend?_eq (h : Checked.IsWidth n) (w : Word) : w.extend? n = .ok (w.extend n) :=
  if_pos h

end Offsets

/-- At every width, the operands of either reading are exactly the numbers in its range. The sign
of a field is extended by shifting it up and back, and as that of an operand is, which gives back the
number of the operand that the field is of. -/
theorem offsets_exact {n : Nat} (h : Checked.IsWidth n) :
    (Offsets.signed n).Exact ∧ (Offsets.unsigned n).Exact ∧
      (∀ w : Word, w.extend? n = .ok ((w <<< (16 - n)).sshiftRight (16 - n)) ∧
        w.extend? n = .ok ((Offsets.signed n).toWord ((Offsets.signed n).ofLow w))) ∧
      ∀ s : Signed n, (((Offsets.signed n).field s).extend? n).map BitVec.toInt = .ok s.value := by
  have signed := (Offsets.signed_lawful h).toExact h.2
  refine ⟨signed, (Offsets.unsigned_lawful h).toExact h.2, fun w => ?_, fun s => ?_⟩
  · rw [Offsets.extend?_eq h, Word.sshiftRight_shiftLeft h.1 h.2, ← Offsets.extend_eq h.2]
    exact ⟨rfl, rfl⟩
  · have back : (Offsets.signed n).ofLow ((Offsets.signed n).field s) = s := signed.low.2 rfl
    rw [Offsets.extend?_eq h, Offsets.extend_eq h.2, back]
    exact congrArg Except.ok (signed.stored s)

/-- Five bits hold 16 without a sign. In two's complement they do not, and read it as -16. -/
theorem offsets_exact_five :
    Checked.IsWidth 5 ∧ (Offsets.unsigned 5).ofWord? 16 = .ok (⟨16⟩ : Unsigned 5) ∧
      (Offsets.signed 5).ofWord? 16 = .error (.signed 5) ∧
      -16 = (Offsets.signed 5).value ((Offsets.signed 5).ofLow 16) ∧
      (((Offsets.signed 5).field (⟨16⟩ : Signed 5)).extend? 5).map BitVec.toInt = .ok (-16) := by
  have width : Checked.IsWidth 5 := by decide
  obtain ⟨signed, unsigned, -, extended⟩ := offsets_exact width
  have outside : ¬Signed.InRange 5 16 := by decide
  refine ⟨width, unsigned.taken.2 ⟨⟨by decide, by decide⟩, rfl⟩, signed.refused.2 ⟨outside, rfl⟩,
    signed.cut.2 ⟨?_, ?_⟩, extended ⟨16⟩⟩
  · exact show Signed.InRange 5 (-16) by decide
  · exact show -16 ≡ 16 [ZMOD 2 ^ 5] by decide

end Sixteen
