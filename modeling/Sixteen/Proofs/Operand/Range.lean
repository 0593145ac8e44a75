import Sixteen.Operand
import Mathlib.Algebra.Ring.Int.Defs
import Mathlib.Algebra.Ring.Nat

/-!
# The numbers that fit a field

* `Signed.InRange n v` : `v` is one of the numbers that `n` bits hold in two's complement;
* `Signed.ofInt?_eq_ok_iff` : these are the numbers that a signed operand takes, each as itself;
* `Signed.toWord_eq_ofInt` : an operand as a word is the word of its value.
-/

namespace Sixteen.Signed

variable {n : Nat}

/-- Whether `n` bits hold `v` in two's complement. -/
def InRange (n : Nat) (v : Int) : Prop :=
  -2 ^ (n - 1) ≤ v ∧ v ≤ 2 ^ (n - 1) - 1

instance (n : Nat) (v : Int) : Decidable (InRange n v) :=
  inferInstanceAs (Decidable (_ ∧ _))

theorem inRange_value (s : Signed n) : InRange n s.value := by
  have low := BitVec.le_toInt s.bits
  have high := BitVec.toInt_lt (x := s.bits)
  unfold InRange value
  omega

/-- Operands hold numbers that fit a word. -/
theorem value_bounds (hn : n ≤ 16) (s : Signed n) : -0x8000 ≤ s.value ∧ s.value ≤ 0x7fff := by
  obtain ⟨low, high⟩ := s.inRange_value
  have small : (2 : Int) ^ (n - 1) ≤ 2 ^ 15 := mod_cast Nat.pow_le_pow_right (by omega) (by omega)
  omega

theorem value_truncate (hn : 0 < n) {v : Int} (hv : InRange n v) : (truncate n v).value = v := by
  obtain ⟨low, high⟩ := hv
  exact BitVec.toInt_ofInt_eq_self hn low (by omega)

theorem truncate_value (s : Signed n) : truncate n s.value = s := by
  rw [truncate, value, BitVec.ofInt_toInt]

/-- A signed operand of `n` bits takes exactly the numbers in range, and its value is the number. -/
theorem ofInt?_eq_ok_iff (hn : 0 < n) {v : Int} {s : Signed n} :
    ofInt? n v = .ok s ↔ InRange n v ∧ s = truncate n v := by
  unfold ofInt?
  constructor
  · intro h
    split at h
    · next kept =>
      cases h
      exact ⟨kept ▸ inRange_value _, rfl⟩
    · cases h
  · rintro ⟨hv, rfl⟩
    rw [if_pos (value_truncate hn hv)]

theorem ofInt?_value (s : Signed n) : ofInt? n s.value = .ok s := by
  rw [ofInt?, truncate_value, if_pos rfl]

/-- What is refused is refused as out of the range of this width. -/
theorem ofInt?_eq_error_iff (hn : 0 < n) {v : Int} {e : RangeError} :
    ofInt? n v = .error e ↔ ¬InRange n v ∧ e = .signed n := by
  unfold ofInt?
  constructor
  · intro h
    split at h
    · cases h
    · next lost =>
      cases h
      exact ⟨fun hv => lost (value_truncate hn hv), rfl⟩
  · rintro ⟨hv, rfl⟩
    rw [if_neg]
    intro kept
    exact hv (kept ▸ inRange_value _)

/-! ## As words -/

theorem toWord_eq_ofInt (s : Signed n) : s.toWord = BitVec.ofInt 16 s.value := rfl

end Sixteen.Signed
