import Sixteen.Proofs.Token.Literal

/-!
# Names of registers

A register is a percent sign, the letter r in either case, and digits of base ten that are read as a
number. Numbers may have zeros in front, so that a register has many names, one for each number of
zeros. The documentation knows the one without zeros. All other word characters behind a percent sign
are a fault of the whole text.

* `Numeral.denotes_digit_iff` : the numerals of a number below ten;
* `Reg.Names` : the names of a register, by the zeros in them;
* `Token.readRegister_eq_ok_iff`, `Reg.lex_iff_names` : these are read as the register, and nothing else is.
-/

namespace Sixteen

open Text (isWord)

/-! ## Numerals of one digit -/

namespace Numeral

theorem isDigit_digitChar {n : Nat} (h : n < 10) : IsDigit 10 (Nat.digitChar n) n :=
  ⟨h, .inl rfl⟩

theorem denotesFrom_digit_iff {n : Nat} (h : n < 10) {digits : List Char} (some : digits ≠ []) :
    DenotesFrom 10 0 digits n ↔
      ∃ zeros, digits = List.replicate zeros '0' ++ [Nat.digitChar n] := by
  induction digits with
  | nil => exact absurd rfl some
  | cons c rest ih =>
    by_cases last : rest = []
    · subst last
      constructor
      · rintro ⟨d, digit, same⟩
        have value : n = 0 * 10 + d := same
        rw [Literal.digitChar_of_isDigit_ten digit, show d = n by omega]
        exact ⟨0, rfl⟩
      · rintro ⟨_ | zeros, written⟩
        · cases written
          exact ⟨n, isDigit_digitChar h, show n = 0 * 10 + n by omega⟩
        · have := congrArg List.length written
          simp at this
    · constructor
      · rintro ⟨d, digit, others⟩
        -- A digit in front of others has a weight of ten at least, so it is a zero.
        have weight : d * 10 ≤ n := by
          obtain ⟨e, more, rfl⟩ := List.exists_cons_of_ne_nil last
          obtain ⟨v, -, later⟩ := others
          have := later.le
          omega
        obtain rfl : d = 0 := by omega
        obtain ⟨zeros, written⟩ := (ih last).1 others
        rw [Literal.digitChar_of_isDigit_ten digit, written]
        exact ⟨zeros + 1, rfl⟩
      · rintro ⟨_ | zeros, written⟩
        · cases written
          exact absurd rfl last
        · cases written
          exact ⟨0, isDigit_digitChar (by omega), (ih last).2 ⟨zeros, rfl⟩⟩

/-- The numerals of a number below ten are its digit with zeros in front. -/
theorem denotes_digit_iff {n : Nat} (h : n < 10) {digits : List Char} :
    digits ≠ [] ∧ Denotes 10 digits n ↔
      ∃ zeros, digits = List.replicate zeros '0' ++ [Nat.digitChar n] := by
  constructor
  · rintro ⟨some, value⟩
    exact (denotesFrom_digit_iff h some).1 (denotesFrom_zero.2 value)
  · intro written
    have some : digits ≠ [] := by
      obtain ⟨zeros, rfl⟩ := written
      simp
    exact ⟨some, denotesFrom_zero.1 ((denotesFrom_digit_iff h some).2 written)⟩

end Numeral

/-! ## Names -/

/-- The names of a register with so many zeros before its digit, without the percent sign. -/
def Reg.Names (r : Reg) (zeros : Nat) (name : List Char) : Prop :=
  ∃ letter ∈ ['r', 'R'],
    name = letter :: (List.replicate zeros '0' ++ [Nat.digitChar r.number])

theorem Reg.ofNat?_eq_ok_iff {n : Nat} {r : Reg} : ofNat? n = .ok r ↔ n = r.number := by
  unfold ofNat?
  constructor
  · intro h
    split at h
    · next small =>
      cases h
      exact (Nat.mod_eq_of_lt small).symm
    · cases h
  · rintro rfl
    rw [if_pos r.number_lt, number, BitVec.ofNat_toNat, BitVec.setWidth_eq]

namespace Token

variable {name : List Char} {r : Reg}

theorem readRegister_of_letter {letter : Char} (h : letter ∈ ['r', 'R']) (digits : List Char) :
    readRegister (letter :: digits) =
      match Numeral.read 10 0x100 digits with
      | .ok n => (Reg.ofNat? n).mapError fun _ => .badRegister
      | .error _ => .error .badRegister := by
  simp only [List.mem_cons, List.not_mem_nil, or_false] at h
  obtain rfl | rfl := h <;> rfl

theorem readRegister_of_other (h : ∀ letter ∈ ['r', 'R'], name.head? ≠ some letter) :
    readRegister name = .error .badRegister := by
  unfold readRegister
  split
  · exact absurd rfl (h 'r' (by decide))
  · exact absurd rfl (h 'R' (by decide))
  · rfl

/-- A register is read from a letter and the digits of its number. There is one fault otherwise. -/
theorem readRegister_cases (name : List Char) :
    readRegister name = .error .badRegister ∨
      ∃ letter ∈ ['r', 'R'], ∃ digits, ∃ r : Reg, name = letter :: digits ∧
        Numeral.read 10 0x100 digits = .ok r.number ∧ readRegister name = .ok r := by
  by_cases other : ∀ letter ∈ ['r', 'R'], name.head? ≠ some letter
  · exact .inl (readRegister_of_other other)
  · push Not at other
    obtain ⟨letter, either, first⟩ := other
    obtain ⟨digits, rfl⟩ := List.head?_eq_some_iff.1 first
    rw [readRegister_of_letter either]
    cases read : Numeral.read 10 0x100 digits with
    | error e => exact .inl rfl
    | ok n =>
      cases number : Reg.ofNat? n with
      | error e => exact .inl (by simp only [number]; rfl)
      | ok r =>
        obtain rfl := Reg.ofNat?_eq_ok_iff.1 number
        exact .inr ⟨letter, either, digits, r, rfl, read, by simp only [number]; rfl⟩

theorem readRegister_eq_ok_iff : readRegister name = .ok r ↔ ∃ zeros, r.Names zeros name := by
  have small := r.number_lt
  constructor
  · intro h
    obtain bad | ⟨letter, either, digits, r', rfl, read, same⟩ := readRegister_cases name
    · rw [bad] at h
      cases h
    · obtain rfl : r' = r := Except.ok.inj (same.symm.trans h)
      obtain ⟨nonempty, value, -⟩ := (Numeral.read_eq_ok_iff (by decide) (by decide)).1 read
      obtain ⟨zeros, written⟩ := (Numeral.denotes_digit_iff (by omega)).1 ⟨nonempty, value⟩
      exact ⟨zeros, letter, either, by rw [written]⟩
  · rintro ⟨zeros, letter, either, rfl⟩
    have value := (Numeral.denotes_digit_iff (show r.number < 10 by omega)).2 ⟨zeros, rfl⟩
    rw [readRegister_of_letter either,
      (Numeral.read_eq_ok_iff (by decide) (by decide)).2 ⟨value.1, value.2, by omega⟩]
    simp only [Reg.ofNat?_eq_ok_iff.2 rfl]
    rfl

theorem readRegister_eq_badRegister_iff :
    readRegister name = .error .badRegister ↔ ∀ r zeros, ¬Reg.Names r zeros name := by
  constructor
  · intro h r zeros named
    rw [readRegister_eq_ok_iff.2 ⟨zeros, named⟩] at h
    cases h
  · intro none
    obtain bad | ⟨_, _, _, r, _, _, read⟩ := readRegister_cases name
    · exact bad
    · obtain ⟨zeros, named⟩ := readRegister_eq_ok_iff.1 read
      exact absurd named (none r zeros)

end Token

/-! ## Texts of registers -/

/-- A percent sign and word characters are one run, and a register or a fault as a whole. -/
theorem lex_percent {name : List Char} (word : ∀ c ∈ name, isWord c = true) :
    lex ('%' :: name) =
      match Token.readRegister name with
      | .ok r => ⟨[⟨.reg r, '%' :: name⟩], none⟩
      | .error e => ⟨[], some ⟨e, '%' :: name⟩⟩ := by
  have cut : Shape.cut '%' name = some ⟨.register, '%' :: name, []⟩ := by
    have whole := Cut.munch_append word (show Stops [] by simp [Stops]) .register ['%']
    rw [List.append_nil] at whole
    exact congrArg some whole
  rw [lex_eq, List.dropWhile_cons_of_neg (by decide)]
  simp only [scan, cut, Shape.token, List.tail_cons]
  cases Token.readRegister name with
  | ok r => simp only [Except.map, lex_nil]
  | error e => simp only [Except.map]

namespace Reg

variable {name : List Char}

theorem length_of_names {r : Reg} {zeros : Nat} (h : Names r zeros name) :
    name.length = zeros + 2 := by
  obtain ⟨letter, -, rfl⟩ := h
  simp

/-- A text of a percent sign and word characters is a register by one of its names, and the fault of
the whole text if it is none of them. What has no zero in front of its digit is read as the
documentation says. -/
theorem lex_iff_names (word : ∀ c ∈ name, isWord c = true) :
    (∀ r, lex ('%' :: name) = ⟨[⟨.reg r, '%' :: name⟩], none⟩ ↔ ∃ zeros, Names r zeros name) ∧
    (lex ('%' :: name) = ⟨[], some ⟨.badRegister, '%' :: name⟩⟩ ↔
      ∀ r zeros, ¬Names r zeros name) ∧
    ((∀ r zeros, ¬Names r (zeros + 1) name) →
      (∀ r, lex ('%' :: name) = ⟨[⟨.reg r, '%' :: name⟩], none⟩ ↔ Names r 0 name) ∧
      (lex ('%' :: name) = ⟨[], some ⟨.badRegister, '%' :: name⟩⟩ ↔ ∀ r, ¬Names r 0 name)) := by
  have registers : ∀ r, lex ('%' :: name) = ⟨[⟨.reg r, '%' :: name⟩], none⟩ ↔
      ∃ zeros, Names r zeros name := by
    intro r
    rw [← Token.readRegister_eq_ok_iff, lex_percent word]
    cases Token.readRegister name <;> simp
  have faults : lex ('%' :: name) = ⟨[], some ⟨.badRegister, '%' :: name⟩⟩ ↔
      ∀ r zeros, ¬Names r zeros name := by
    rw [← Token.readRegister_eq_badRegister_iff, lex_percent word]
    cases Token.readRegister name <;> simp
  refine ⟨registers, faults, fun plain => ?_⟩
  have single : ∀ r, (∃ zeros, Names r zeros name) ↔ Names r 0 name := by
    intro r
    constructor
    · rintro ⟨_ | zeros, named⟩
      · exact named
      · exact absurd named (plain r zeros)
    · exact fun named => ⟨0, named⟩
  refine ⟨fun r => (registers r).trans (single r), faults.trans ?_⟩
  simp only [← single, not_exists]

/-- A register in capitals, one with zeros, and a number that is no register. -/
theorem lex_iff_names_seven :
    (∀ c ∈ "R7".toList, isWord c = true) ∧
      lex "%R7".toList = ⟨[⟨.reg ⟨7⟩, "%R7".toList⟩], none⟩ ∧
    (∀ c ∈ "r007".toList, isWord c = true) ∧
      lex "%r007".toList = ⟨[⟨.reg ⟨7⟩, "%r007".toList⟩], none⟩ ∧
    (∀ c ∈ "r8".toList, isWord c = true) ∧
      lex "%r8".toList = ⟨[], some ⟨.badRegister, "%r8".toList⟩⟩ := by
  have named : ∀ name ∈ ["R7".toList, "r007".toList, "r8".toList], IsIdentifier isWord name := by
    decide +kernel
  have word : ∀ name ∈ ["R7".toList, "r007".toList, "r8".toList], ∀ c ∈ name, isWord c = true :=
    fun name hname => (named name hname).isWord
  have plain : ∀ name : List Char, name.length = 2 → ∀ r zeros, ¬Names r (zeros + 1) name := by
    intro name two r zeros named
    have := length_of_names named
    omega
  have eight : ∀ b : BitVec 3, '8' ≠ Nat.digitChar (Reg.mk b).number := by decide
  have capital := (lex_iff_names (word "R7".toList (by simp))).2.2 (plain _ (by decide))
  have padded := lex_iff_names (word "r007".toList (by simp))
  have beyond := (lex_iff_names (word "r8".toList (by simp))).2.2 (plain _ (by decide))
  refine ⟨word _ (by simp), (capital.1 ⟨7⟩).2 ⟨'R', by decide, by decide⟩, word _ (by simp),
    (padded.1 ⟨7⟩).2 ⟨2, 'r', by decide, by decide⟩, word _ (by simp), beyond.2.2 ?_⟩
  rintro r ⟨letter, either, written⟩
  exact eight r.bits (List.cons.inj (List.cons.inj written).2).1

/-- A zero may stand before the digit of a register, although the documentation has no such name. -/
theorem lex_padded :
    lex "%r07".toList = ⟨[⟨.reg ⟨7⟩, "%r07".toList⟩], none⟩ ∧ ∀ r, ¬Names r 0 "r07".toList := by
  refine ⟨by decide +kernel, fun r named => ?_⟩
  have two : "r07".toList.length = 0 + 2 := length_of_names named
  exact absurd two (by decide)

end Reg

end Sixteen
