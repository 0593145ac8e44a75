/-!
# Words and their bit fields

A machine word has sixteen bits, numbered from 0 (least significant) to 15.

* `Word.field w start width` : the `width` bits of `w` from bit `start` up, as a number;
* `Word.bit`, `Word.setBit`, `Word.clearBit` : one bit;
* `Word.extend v width` : the low `width` bits of `v`, read in two's complement. They can be got by
  shifting up and back (`Word.sshiftRight_shiftLeft`);
* `FieldError` : a bit or field that lies outside the word. The operations are total (what lies
  outside a word reads as zero); the forms with a question mark refuse such a field first.
-/

namespace Sixteen

/-- A machine word. -/
abbrev Word := BitVec 16

namespace Word

/-! ## Fields -/

/-- The `width` bits of `w` from bit `start` up. -/
def field (w : Word) (start width : Nat) : Word :=
  (w.extractLsb' start width).setWidth 16

/-- Bit `n` of `w`, as 0 or 1. -/
def bit (w : Word) (n : Nat) : Word :=
  field w n 1

def setBit (w : Word) (n : Nat) : Word :=
  w ||| (1 <<< n : Word)

def clearBit (w : Word) (n : Nat) : Word :=
  w &&& ~~~(1 <<< n : Word)

/-- The low `width` bits of `v` as a two's complement number, widened to a word. The bits above
are ignored. -/
def extend (v : Word) (width : Nat) : Word :=
  (v.setWidth width).signExtend 16

/-- The low bits are extended by shifting them up to the end of the word, and back with the sign. -/
theorem sshiftRight_shiftLeft {n : Nat} (pos : 0 < n) (le : n ≤ 16) (w : Word) :
    (w <<< (16 - n)).sshiftRight (16 - n) = w.extend n := by
  apply BitVec.eq_of_getLsbD_eq
  intro i hi
  rw [extend, BitVec.getLsbD_sshiftRight, BitVec.getLsbD_signExtend, BitVec.msb_setWidth,
    BitVec.msb_eq_getLsbD_last]
  simp only [BitVec.getLsbD_shiftLeft, BitVec.getLsbD_setWidth]
  by_cases inside : i < n
  · have back : 16 - n + i - (16 - n) = i := by omega
    simp [hi, inside, back, show 16 - n + i < 16 by omega, show ¬16 ≤ i by omega,
      show ¬16 - n + i < 16 - n by omega]
  · have sign : 15 - (16 - n) = n - 1 := by omega
    simp [hi, inside, sign, pos, show ¬16 - n + i < 16 by omega, show ¬15 < 16 - n by omega]

/-- Whether `w` is below zero when it is read in two's complement. -/
def isNegative (w : Word) : Bool :=
  w.msb

/-- Whether `w` is not below zero when it is read in two's complement. Zero counts. -/
def isPositive (w : Word) : Bool :=
  !w.msb

end Word

/-! ## Fields that are refused -/

/-- Why a field of a word, or an operand of a given width, cannot exist. -/
inductive FieldError where
  | noBit (n : Nat)
  | noField (start width : Nat)
  /-- The field ends where no bit has a number any more. -/
  | noEnd (start width : Nat)
  /-- No number of this many bits can be widened to a word. -/
  | noSign (width : Nat)
  /-- An operand of this many bits does not fit a word. -/
  | tooWide (width : Nat)
  deriving DecidableEq, Repr

def FieldError.message : FieldError → String
  | .noBit n => s!"bit {n} is out of range for a 16-bit word"
  | .noField start width => s!"field [{start}, {start + width}) is out of range for a 16-bit word"
  | .noEnd .. => "attempt to add with overflow"
  | .noSign width => s!"cannot sign extend a {width}-bit field"
  | .tooWide width => s!"bit size {width} exceeds size of backing (16)"

namespace Word

def atBit (f : Word → Nat → Word) (w : Word) (n : Nat) : Except FieldError Word :=
  if n < 16 then .ok (f w n) else .error (.noBit n)

def bit? : Word → Nat → Except FieldError Word :=
  atBit bit

def setBit? : Word → Nat → Except FieldError Word :=
  atBit setBit

def clearBit? : Word → Nat → Except FieldError Word :=
  atBit clearBit

/-- How many numbers there are for bits. -/
def bitNumbers : Nat := 0x100000000

def field? (w : Word) (start width : Nat) : Except FieldError Word :=
  if start + width ≤ 16 then .ok (field w start width)
  else if start + width < bitNumbers then .error (.noField start width)
  else .error (.noEnd start width)

/-- `extend`, refusing a width that is not between 1 and 16. -/
def extend? (v : Word) (width : Nat) : Except FieldError Word :=
  if 1 ≤ width ∧ width ≤ 16 then .ok (extend v width) else .error (.noSign width)

end Word

end Sixteen
