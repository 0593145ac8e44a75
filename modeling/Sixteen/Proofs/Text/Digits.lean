import Sixteen.Proofs.Text.Numeral
import Mathlib.Data.Nat.Digits.Defs

/-!
# What digits denote

Digits are those that a number is written with, letters in either case, and what they denote is the
sum of their values, each with the weight of its place. A reader goes through them from the left, so
the first of them that is none, or the shortest part in front that is not below the limit, decides
what is wrong.

* `IsDigit`, `Denotes` : a digit and its value, and a text of digits and its number;
* `digitOf?_eq_some_iff` : the reader knows all digits, and nothing else;
* `DenotesFrom`, `readFrom_cons` : one digit and the digits behind it;
* `read_eq_ok_iff`, `read_eq_empty_iff`, `read_eq_badDigit_iff` : what a numeral is read as, and why one
  is refused;
* `readSigned?_eq_some_iff` : numerals that may follow a plus sign.
-/

namespace Sixteen.Numeral

/-! ## Digits and their values -/

/-- `c` is the digit of the value `d`; of letters it may be the capital. -/
def IsDigit (base : Nat) (c : Char) (d : Nat) : Prop :=
  d < base ∧ (c = Nat.digitChar d ∨ c = (Nat.digitChar d).toUpper)

instance (base : Nat) (c : Char) (d : Nat) : Decidable (IsDigit base c d) :=
  inferInstanceAs (Decidable (_ ∧ _))

/-- The digits `digits` denote `n`. No digits denote zero. -/
def Denotes (base : Nat) (digits : List Char) (n : Nat) : Prop :=
  ∃ ds, List.Forall₂ (IsDigit base) digits ds ∧ n = Nat.ofDigits base ds.reverse

variable {base limit : Nat}

theorem digitOf?_eq_some_iff_of_sixteen (hb : base ≤ 16) {c : Char} {d : Nat} :
    digitOf? base c = some d ↔ digitOf? 16 c = some d ∧ d < base := by
  simp only [digitOf?, Option.filter_eq_some_iff, decide_eq_true_eq]
  exact ⟨fun ⟨value, small⟩ => ⟨⟨value, by omega⟩, small⟩, fun ⟨⟨value, _⟩, small⟩ => ⟨value, small⟩⟩

theorem toNat_lt_of_digitOf? {c : Char} {d : Nat} (h : digitOf? base c = some d) :
    c.toNat < 128 := by
  obtain ⟨value, -⟩ := Option.filter_eq_some_iff.1 h
  split at value
  · next digit =>
    have top : c.toNat ≤ 57 := digit.2
    omega
  split at value
  · next lower =>
    have top : c.toNat ≤ 122 := lower.2
    omega
  split at value
  · next upper =>
    have top : c.toNat ≤ 90 := upper.2
    omega
  · cases value

/-- The reader knows the digits of a base, and nothing else. -/
theorem digitOf?_eq_some_iff (hb : base ≤ 16) {c : Char} {d : Nat} :
    digitOf? base c = some d ↔ IsDigit base c d := by
  rw [digitOf?_eq_some_iff_of_sixteen hb]
  constructor
  · rintro ⟨value, small⟩
    have ascii : ∀ n < 128, ∀ d < 16, digitOf? 16 (Char.ofNat n) = some d →
        IsDigit 16 (Char.ofNat n) d := by
      decide +kernel
    have digit := ascii c.toNat (toNat_lt_of_digitOf? value) d (by omega)
    rw [Char.ofNat_toNat] at digit
    exact ⟨small, (digit value).2⟩
  · rintro ⟨small, written⟩
    have known : ∀ d < 16, digitOf? 16 (Nat.digitChar d) = some d ∧
        digitOf? 16 (Nat.digitChar d).toUpper = some d := by
      decide
    obtain ⟨lower, upper⟩ := known d (by omega)
    rcases written with rfl | rfl
    · exact ⟨lower, small⟩
    · exact ⟨upper, small⟩

theorem IsDigit.unique (hb : base ≤ 16) {c : Char} {d e : Nat} (hd : IsDigit base c d)
    (he : IsDigit base c e) : d = e := by
  have same := (digitOf?_eq_some_iff hb).2 hd
  rw [(digitOf?_eq_some_iff hb).2 he] at same
  exact (Option.some.inj same).symm

theorem Denotes.unique (hb : base ≤ 16) {digits : List Char} {m n : Nat}
    (hm : Denotes base digits m) (hn : Denotes base digits n) : m = n := by
  obtain ⟨ds, written, rfl⟩ := hm
  obtain ⟨es, written', rfl⟩ := hn
  have unique : Relator.RightUnique (IsDigit base) := fun _ _ _ hd he => hd.unique hb he
  rw [unique.forall₂ written written']

/-! ## Digits behind others -/

/-- Digits behind digits of the number `acc` make it the number `n`. -/
def DenotesFrom (base acc : Nat) : List Char → Nat → Prop
  | [], n => n = acc
  | c :: rest, n => ∃ d, IsDigit base c d ∧ DenotesFrom base (acc * base + d) rest n

theorem denotesFrom_iff {acc n : Nat} {digits : List Char} :
    DenotesFrom base acc digits n ↔
      ∃ ds, List.Forall₂ (IsDigit base) digits ds ∧ n = ds.foldl (fun m d => m * base + d) acc := by
  induction digits generalizing acc with
  | nil => simp [DenotesFrom]
  | cons c rest ih =>
    simp only [DenotesFrom, ih]
    constructor
    · rintro ⟨d, digit, ds, digits, value⟩
      exact ⟨d :: ds, .cons digit digits, value⟩
    · rintro ⟨_ | ⟨d, ds⟩, digits, value⟩
      · cases digits
      obtain ⟨digit, digits⟩ := List.forall₂_cons.1 digits
      exact ⟨d, digit, ds, digits, value⟩

theorem denotesFrom_zero {n : Nat} {digits : List Char} :
    DenotesFrom base 0 digits n ↔ Denotes base digits n := by
  have weights : ∀ ds : List Nat,
      ds.foldl (fun m d => m * base + d) 0 = Nat.ofDigits base ds.reverse := by
    intro ds
    rw [Nat.ofDigits_eq_foldr, List.foldr_reverse]
    congr 1
    funext m d
    rw [Nat.cast_id, Nat.mul_comm, Nat.add_comm]
  simp only [denotesFrom_iff, weights, Denotes]

theorem DenotesFrom.le {acc n : Nat} {digits : List Char} (h : DenotesFrom base acc digits n) :
    acc ≤ n := by
  induction digits generalizing acc with
  | nil => exact Nat.le_of_eq h.symm
  | cons c rest ih =>
    obtain ⟨d, digit, others⟩ := h
    calc acc ≤ acc * base := Nat.le_mul_of_pos_right acc (Nat.zero_lt_of_lt digit.1)
      _ ≤ acc * base + d := Nat.le_add_right _ d
      _ ≤ n := ih others

/-- What follows a digit goes on from there. -/
theorem denotesFrom_cons_iff (hb : base ≤ 16) {acc d n : Nat} {c : Char} {rest : List Char}
    (digit : IsDigit base c d) :
    DenotesFrom base acc (c :: rest) n ↔ DenotesFrom base (acc * base + d) rest n := by
  constructor
  · rintro ⟨e, digit', others⟩
    rwa [digit.unique hb digit']
  · exact fun others => ⟨d, digit, others⟩

theorem not_denotesFrom_cons {acc n : Nat} {c : Char} {rest : List Char}
    (bad : ∀ d, ¬IsDigit base c d) : ¬DenotesFrom base acc (c :: rest) n :=
  fun ⟨d, digit, _⟩ => bad d digit

/-! ## Reading on -/

/-- A digit is read, and the number it makes is checked; what is no digit is refused. -/
theorem readFrom_cons (hb : base ≤ 16) (acc : Nat) (c : Char) (rest : List Char) :
    (∃ d, IsDigit base c d ∧ readFrom base limit acc (c :: rest) =
      if acc * base + d < limit then readFrom base limit (acc * base + d) rest
      else .error .tooLarge) ∨
    (∀ d, ¬IsDigit base c d) ∧ readFrom base limit acc (c :: rest) = .error .badDigit := by
  rw [readFrom]
  cases hc : digitOf? base c with
  | some d => exact .inl ⟨d, (digitOf?_eq_some_iff hb).1 hc, rfl⟩
  | none =>
    refine .inr ⟨fun d digit => ?_, rfl⟩
    rw [(digitOf?_eq_some_iff hb).2 digit] at hc
    cases hc

theorem readFrom_eq_ok_iff (hb : base ≤ 16) {acc n : Nat} (ha : acc < limit) {digits : List Char} :
    readFrom base limit acc digits = .ok n ↔ DenotesFrom base acc digits n ∧ n < limit := by
  induction digits generalizing acc with
  | nil =>
    rw [readFrom, DenotesFrom, Except.ok.injEq]
    constructor
    · rintro rfl
      exact ⟨rfl, ha⟩
    · exact fun h => h.1.symm
  | cons c rest ih =>
    rcases readFrom_cons hb acc c rest with ⟨d, digit, read⟩ | ⟨bad, read⟩
    · rw [read, denotesFrom_cons_iff hb digit]
      split
      · next small => exact ih small
      · next large =>
        refine iff_of_false (by rintro ⟨⟩) ?_
        rintro ⟨others, fits⟩
        have := others.le
        omega
    · rw [read]
      exact iff_of_false (by rintro ⟨⟩) fun h => not_denotesFrom_cons bad h.1

/-- The first character that is no digit decides, if the digits before it stay below the limit. -/
theorem readFrom_eq_badDigit_iff (hb : base ≤ 16) {acc : Nat} (ha : acc < limit)
    {digits : List Char} :
    readFrom base limit acc digits = .error .badDigit ↔
      ∃ front c back n, digits = front ++ c :: back ∧ DenotesFrom base acc front n ∧ n < limit ∧
        ∀ d, ¬IsDigit base c d := by
  induction digits generalizing acc with
  | nil =>
    refine iff_of_false nofun ?_
    rintro ⟨front, c, back, n, whole, -⟩
    simp at whole
  | cons x rest ih =>
    rcases readFrom_cons hb acc x rest with ⟨d, digit, read⟩ | ⟨bad, read⟩
    · rw [read]
      constructor
      · intro h
        split at h
        · next small =>
          obtain ⟨front, c, back, n, rfl, value, fits, bad⟩ := (ih small).1 h
          exact ⟨x :: front, c, back, n, rfl, (denotesFrom_cons_iff hb digit).2 value, fits, bad⟩
        · cases h
      · rintro ⟨_ | ⟨y, front⟩, c, back, n, whole, value, fits, bad⟩
        · obtain ⟨rfl, rfl⟩ := List.cons.inj whole
          exact absurd digit (bad d)
        obtain ⟨rfl, rfl⟩ := List.cons.inj whole
        have value := (denotesFrom_cons_iff hb digit).1 value
        have small := value.le
        rw [if_pos (by omega)]
        exact (ih (by omega)).2 ⟨front, c, back, n, rfl, value, fits, bad⟩
    · rw [read]
      exact iff_of_true rfl ⟨[], x, rest, acc, rfl, rfl, ha, bad⟩

/-! ## Whole numerals -/

/-- Before its first character that is no digit, a text has digits of a number below `limit`. -/
def Spoilt (base limit : Nat) (digits : List Char) : Prop :=
  ∃ front c back n, digits = front ++ c :: back ∧ Denotes base front n ∧ n < limit ∧
    ∀ d, ¬IsDigit base c d

theorem read_eq_empty_iff (hb : base ≤ 16) {digits : List Char} :
    read base limit digits = .error .empty ↔ digits = [] := by
  have never : ∀ acc, readFrom base limit acc digits ≠ .error .empty := by
    induction digits with
    | nil => exact fun acc => nofun
    | cons c rest ih =>
      intro acc
      rcases readFrom_cons hb acc c rest with ⟨d, -, read⟩ | ⟨-, read⟩ <;> rw [read]
      · split
        · exact ih _
        · exact nofun
      · exact nofun
  cases digits with
  | nil => exact iff_of_true rfl rfl
  | cons c rest => exact iff_of_false (never 0) (List.cons_ne_nil c rest)

/-- A numeral is one or more digits of a number below the limit, and is read as this number. -/
theorem read_eq_ok_iff (hb : base ≤ 16) (pos : 0 < limit) {digits : List Char} {n : Nat} :
    read base limit digits = .ok n ↔ digits ≠ [] ∧ Denotes base digits n ∧ n < limit := by
  cases digits with
  | nil => exact iff_of_false nofun fun h => h.1 rfl
  | cons c rest =>
    rw [read_of_ne_nil (List.cons_ne_nil c rest), readFrom_eq_ok_iff hb pos, denotesFrom_zero,
      and_iff_right (List.cons_ne_nil c rest)]

theorem read_eq_badDigit_iff (hb : base ≤ 16) (pos : 0 < limit) {digits : List Char} :
    read base limit digits = .error .badDigit ↔ Spoilt base limit digits := by
  cases digits with
  | nil =>
    refine iff_of_false nofun ?_
    rintro ⟨front, c, back, n, whole, -⟩
    simp at whole
  | cons c rest =>
    rw [read_of_ne_nil (List.cons_ne_nil c rest), readFrom_eq_badDigit_iff hb pos]
    simp only [denotesFrom_zero, Spoilt]

theorem not_isDigit_plus (hb : base ≤ 16) (d : Nat) : ¬IsDigit base '+' d := by
  rintro ⟨small, written⟩
  have other : ∀ d < 16, ¬('+' = Nat.digitChar d ∨ '+' = (Nat.digitChar d).toUpper) := by decide
  exact other d (by omega) written

theorem not_denotes_plus (hb : base ≤ 16) {digits : List Char} {n : Nat} :
    ¬Denotes base ('+' :: digits) n := by
  rw [← denotesFrom_zero]
  exact not_denotesFrom_cons (not_isDigit_plus hb)

/-- A number may follow one plus sign, and is the same number then. -/
theorem readSigned?_eq_some_iff (hb : base ≤ 16) (pos : 0 < limit) {text : List Char} {n : Nat} :
    readSigned? base limit text = some n ↔
      ∃ digits, (text = digits ∨ text = '+' :: digits) ∧ digits ≠ [] ∧ Denotes base digits n ∧
        n < limit := by
  have toOption : ∀ digits, (read base limit digits).toOption = some n ↔
      digits ≠ [] ∧ Denotes base digits n ∧ n < limit := by
    intro digits
    rw [← read_eq_ok_iff hb pos]
    cases read base limit digits <;> simp [Except.toOption]
  unfold readSigned?
  split
  · next digits =>
    rw [toOption]
    constructor
    · exact fun h => ⟨digits, .inr rfl, h⟩
    · rintro ⟨_, rfl | same, h⟩
      · exact absurd h.2.1 (not_denotes_plus hb)
      · cases same
        exact h
  · next other =>
    rw [toOption]
    constructor
    · exact fun h => ⟨text, .inl rfl, h⟩
    · rintro ⟨digits, rfl | signed, h⟩
      · exact h
      · exact absurd signed (other digits)

end Sixteen.Numeral
