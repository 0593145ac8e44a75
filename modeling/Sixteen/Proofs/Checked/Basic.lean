import Sixteen.Word.Field
import Mathlib.Algebra.Ring.Int.Defs
import Mathlib.Algebra.Ring.Nat

/-!
# Operations that are checked

The machine that hosts this program has integers of fixed sizes, and some of its operations are
defined for part of their arguments only. It checks the others before each use and stops when a
check fails. Here every such operation stands with its check, so that a program over them either
computes something or says which check failed.

* `Violation`, `Checked` : a check that failed, and what is computed under checks;
* `Checked.natural`, `Checked.integer` : arithmetic whose result has to fit a type of integers;
* `Checked.amount`, `Checked.get`, `Checked.set`, `Checked.item`, `Checked.part` : shifts, and
  access by index;
* `Checked.field`, `Checked.bit` : the fields of a word, by shifting and masking.

Each has a lemma that gives its value where the check holds.
-/

namespace Sixteen

/-- A check that failed. -/
inductive Violation where
  /-- A word has no such bit or field, or no operand is so wide. -/
  | field (error : FieldError)
  /-- The type of a result does not hold it. -/
  | overflow (result : Int)
  /-- A number of `width` bits was shifted by `amount`. -/
  | shift (amount width : Nat)
  | index (i size : Nat)
  /-- A part from `start` up to `stop` was taken of `size` elements. -/
  | range (start stop size : Nat)
  /-- A block was copied over one of another length. -/
  | lengths (target source : Nat)
  /-- A text was cut within a character. -/
  | boundary (position : Nat)
  deriving DecidableEq, Repr

/-- What is computed under checks. -/
abbrev Checked := Except Violation

namespace Checked

@[simp] theorem ok_bind {α β : Type} (a : α) (f : α → Checked β) :
    (Except.ok a : Checked α) >>= f = f a := rfl

@[simp] theorem pure_eq {α : Type} (a : α) : (pure a : Checked α) = .ok a := rfl

/-! ## Integers -/

/-- A result of the unsigned type of so many bits. -/
def natural (bits : Nat) (result : Int) : Checked Nat :=
  if 0 ≤ result ∧ result < 2 ^ bits then .ok result.toNat else .error (.overflow result)

/-- A result of the signed type of so many bits. -/
def integer (bits : Nat) (result : Int) : Checked Int :=
  if -2 ^ (bits - 1) ≤ result ∧ result < 2 ^ (bits - 1) then .ok result
  else .error (.overflow result)

/-- By how much a number of `width` bits is shifted. -/
def amount (width n : Nat) : Checked Nat :=
  if n < width then .ok n else .error (.shift n width)

theorem natural_eq {bits n : Nat} {v : Int} (same : v = n) (fits : n < 2 ^ bits) :
    natural bits v = .ok n := by
  subst same
  have below : (n : Int) < 2 ^ bits := mod_cast fits
  rw [natural, if_pos ⟨Int.natCast_nonneg n, below⟩, Int.toNat_natCast]

theorem integer_eq {bits : Nat} {v : Int} (low : -2 ^ (bits - 1) ≤ v)
    (high : v < 2 ^ (bits - 1)) : integer bits v = .ok v :=
  if_pos ⟨low, high⟩

theorem amount_eq {width n : Nat} (h : n < width) : amount width n = .ok n :=
  if_pos h

/-! ## Access by index -/

section
variable {α : Type} {n : Nat}

def get (xs : Vector α n) (i : Nat) : Checked α :=
  if h : i < n then .ok xs[i] else .error (.index i n)

def set (xs : Vector α n) (i : Nat) (a : α) : Checked (Vector α n) :=
  if h : i < n then .ok (xs.set i a h) else .error (.index i n)

def item (xs : List α) (i : Nat) : Checked α :=
  if h : i < xs.length then .ok xs[i] else .error (.index i xs.length)

/-- That `size` elements have a part from `start` up to `stop`. -/
def part (start stop size : Nat) : Checked Unit :=
  if start ≤ stop ∧ stop ≤ size then .ok () else .error (.range start stop size)

theorem get_eq {xs : Vector α n} {i : Nat} (h : i < n) : get xs i = .ok xs[i] :=
  dif_pos h

theorem set_eq {xs : Vector α n} {i : Nat} {a : α} (h : i < n) :
    set xs i a = .ok (xs.set i a h) :=
  dif_pos h

theorem part_eq {start stop size : Nat} (ordered : start ≤ stop) (within : stop ≤ size) :
    part start stop size = .ok () :=
  if_pos ⟨ordered, within⟩

end

/-! ## Words -/

/-- That a field or an operand exists. -/
def require {α : Type} : Except FieldError α → Checked Unit
  | .ok _ => .ok ()
  | .error e => .error (.field e)

def shiftLeft (w : Word) (n : Nat) : Checked Word := do
  return w <<< (← amount 16 n)

def shiftRight (w : Word) (n : Nat) : Checked Word := do
  return w >>> (← amount 16 n)

/-- The `width` bits of `w` from bit `start` up, by a mask of so many ones. -/
def field (w : Word) (start width : Nat) : Checked Word := do
  require (w.field? start width)
  let mask ← natural 32 ((1 <<< (← amount 32 width) : Nat) - 1)
  return w >>> start &&& BitVec.ofNat 16 mask

/-- Bit `n` of `w`, as 0 or 1. -/
def bit (w : Word) (n : Nat) : Checked Word := do
  require (w.bit? n)
  return (← shiftRight w n) &&& 1

theorem shiftLeft_eq {n : Nat} (w : Word) (h : n < 16) : shiftLeft w n = .ok (w <<< n) := by
  rw [shiftLeft, amount_eq h]
  rfl

theorem shiftRight_eq {n : Nat} (w : Word) (h : n < 16) : shiftRight w n = .ok (w >>> n) := by
  rw [shiftRight, amount_eq h]
  rfl

/-- A mask of ones keeps the low bits. -/
theorem ushiftRight_and_mask (w : Word) (start width : Nat) :
    w >>> start &&& BitVec.ofNat 16 (2 ^ width - 1) = w.field start width := by
  apply BitVec.eq_of_getLsbD_eq
  intro i hi
  rw [Word.field, BitVec.getLsbD_and, BitVec.getLsbD_ushiftRight, BitVec.getLsbD_ofNat,
    Nat.testBit_two_pow_sub_one, BitVec.getLsbD_setWidth, BitVec.getLsbD_extractLsb']
  simp [hi, Bool.and_comm]

theorem field_eq (w : Word) {start width : Nat} (h : start + width ≤ 16) :
    field w start width = .ok (w.field start width) := by
  have small : 2 ^ width ≤ 2 ^ 16 := Nat.pow_le_pow_right (by omega) (by omega)
  have mask : natural 32 ((1 <<< width : Nat) - 1) = .ok (2 ^ width - 1) := by
    have pos := Nat.two_pow_pos width
    rw [Nat.one_shiftLeft]
    exact natural_eq (by omega) (by omega)
  rw [field, Word.field?, if_pos h, amount_eq (by omega)]
  simp only [require, ok_bind, mask, pure_eq]
  rw [ushiftRight_and_mask]

theorem bit_eq (w : Word) {n : Nat} (h : n < 16) : bit w n = .ok (w.bit n) := by
  rw [bit, Word.bit?, Word.atBit, if_pos h, shiftRight_eq w h]
  exact congrArg Except.ok (ushiftRight_and_mask w n 1)

/-- A field that ends past the word is found out. -/
example : field 0x1283 9 8 = .error (.field (.noField 9 8)) := rfl

end Checked

end Sixteen
