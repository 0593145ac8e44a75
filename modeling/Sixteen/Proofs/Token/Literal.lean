import Sixteen.Proofs.Text.Digits
import Sixteen.Proofs.Token.Shape

/-!
# What numbers in a text mean

A number is read in two steps: its digits as a natural number below a limit far above all words, then
this number, with the sign, as one that a word can hold. The limit is not seen: what is not below it
is in no word either. Only a wrong digit behind it is not looked for any more.

* `Literal` : a number as it is written, with its sign, base and digits;
* `Literal.Reads` : what it is read as, or what is wrong with it (`Literal.readInt_eq_iff`);
* `Literal.exists_of_cut` : the numbers that are cut from a text are all of this form;
* `Literal.lexes_int`, `Literal.lexes_imm` : a number that is read is a token, alone and after a dollar
  sign.
-/

namespace Sixteen

open Text (isDigit isWord)

/-- A number as it is written: perhaps a minus sign, then word characters. -/
structure Literal where
  minus : Bool
  body : List Char
  word : ∀ c ∈ body, isWord c = true

namespace Literal

def text (l : Literal) : List Char :=
  if l.minus then '-' :: l.body else l.body

/-- What follows the mark of base sixteen, where there is one. -/
def marked? : List Char → Option (List Char)
  | '0' :: 'x' :: digits | '0' :: 'X' :: digits => some digits
  | _ => none

def base (l : Literal) : Nat :=
  if (marked? l.body).isSome then 16 else 10

/-- What should be digits. -/
def digits (l : Literal) : List Char :=
  (marked? l.body).getD l.body

/-- The number whose magnitude is `n`. -/
def value (l : Literal) (n : Nat) : Int :=
  if l.minus then -n else n

/-- The fault of a number without digits. -/
def emptyFault (l : Literal) : LexFault :=
  if l.base = 16 then .emptyHex else .emptyDecimal

/-- The fault of a number with a character that is no digit. -/
def digitFault (l : Literal) : LexFault :=
  if l.base = 16 then .badHex else .badDecimal

/-- What a number is read as, or what is wrong with it. -/
inductive Reads (l : Literal) : Except LexFault Int → Prop
  | number {n : Nat} (nonempty : l.digits ≠ []) (magnitude : Numeral.Denotes l.base l.digits n)
    (fits : -0x8000 ≤ l.value n ∧ l.value n ≤ 0xffff) : Reads l (.ok (l.value n))
  | empty (none : l.digits = []) : Reads l (.error l.emptyFault)
  /-- The digits before the first wrong one are those of a number below 2^32. -/
  | badDigit (spoilt : Numeral.Spoilt l.base 0x100000000 l.digits) : Reads l (.error l.digitFault)
  | doesNotFit (nonempty : l.digits ≠ []) (clean : ¬Numeral.Spoilt l.base 0x100000000 l.digits)
    (far : ∀ n, Numeral.Denotes l.base l.digits n → ¬(-0x8000 ≤ l.value n ∧ l.value n ≤ 0xffff)) :
    Reads l (.error .doesNotFit)

variable {l : Literal} {n : Nat} {v : Int} {r : Except LexFault Int}

/-! ## Reading -/

theorem base_le (l : Literal) : l.base ≤ 16 := by
  unfold base
  split <;> decide

theorem natAbs_value (l : Literal) (n : Nat) : (l.value n).natAbs = n := by
  unfold value
  split <;> omega

/-- What no word can hold is the only thing that the limit keeps out. -/
theorem lt_of_fits (fits : -0x8000 ≤ l.value n ∧ l.value n ≤ 0xffff) : n < Token.magnitudeLimit := by
  have := l.natAbs_value n
  unfold Token.magnitudeLimit
  omega

theorem readInt_text (l : Literal) :
    Token.readInt l.text = (Token.readMagnitude l.body).bind fun n => Token.checkWord (l.value n) := by
  unfold text value
  cases l.minus with
  | true => rfl
  | false =>
    show Token.readInt l.body = _
    unfold Token.readInt
    split
    · next digits minus =>
      have first : isWord '-' = true := l.word '-' (by rw [minus]; exact List.mem_cons_self)
      exact absurd first (by decide +kernel)
    · rfl

theorem readMagnitude_body (l : Literal) :
    Token.readMagnitude l.body =
      (Numeral.read l.base Token.magnitudeLimit l.digits).mapError fun
        | .empty => l.emptyFault
        | .badDigit => l.digitFault
        | .tooLarge => .doesNotFit := by
  have forms : ∀ body, Token.readMagnitude body =
      match marked? body with
      | some digits => (Numeral.read 16 Token.magnitudeLimit digits).mapError fun
        | .empty => .emptyHex
        | .badDigit => .badHex
        | .tooLarge => .doesNotFit
      | none => (Numeral.read 10 Token.magnitudeLimit body).mapError fun
        | .empty => .emptyDecimal
        | .badDigit => .badDecimal
        | .tooLarge => .doesNotFit := by
    intro body
    cases body using marked?.fun_cases with
    | case1 digits => rfl
    | case2 digits => rfl
    | case3 body lower upper =>
      rw [marked?.eq_3 body lower upper]
      exact Token.readMagnitude.eq_3 body lower upper
  unfold emptyFault digitFault base digits
  rw [forms]
  cases marked? l.body <;> rfl

/-- What a number is read as is decided by its digits. -/
theorem readInt_eq (l : Literal) :
    Token.readInt l.text = match Numeral.read l.base Token.magnitudeLimit l.digits with
      | .ok n => Token.checkWord (l.value n)
      | .error .empty => .error l.emptyFault
      | .error .badDigit => .error l.digitFault
      | .error .tooLarge => .error .doesNotFit := by
  rw [readInt_text, readMagnitude_body]
  rcases Numeral.read l.base Token.magnitudeLimit l.digits with (_ | _ | _) | n <;> rfl

theorem read_eq_ok_iff :
    Numeral.read l.base Token.magnitudeLimit l.digits = .ok n ↔
      l.digits ≠ [] ∧ Numeral.Denotes l.base l.digits n ∧ n < Token.magnitudeLimit :=
  Numeral.read_eq_ok_iff l.base_le (by decide)

theorem read_eq_badDigit_iff :
    Numeral.read l.base Token.magnitudeLimit l.digits = .error .badDigit ↔
      Numeral.Spoilt l.base 0x100000000 l.digits :=
  Numeral.read_eq_badDigit_iff l.base_le (by decide)

theorem reads_readInt (l : Literal) : l.Reads (Token.readInt l.text) := by
  rw [readInt_eq]
  split
  · next n read =>
    obtain ⟨nonempty, magnitude, -⟩ := read_eq_ok_iff.1 read
    unfold Token.checkWord
    split
    · next fits => exact .number nonempty magnitude fits
    · next far =>
      refine .doesNotFit nonempty (fun spoilt => ?_) fun m other => ?_
      · rw [read_eq_badDigit_iff.2 spoilt] at read
        cases read
      · rwa [other.unique l.base_le magnitude]
  · next read => exact .empty ((Numeral.read_eq_empty_iff l.base_le).1 read)
  · next read => exact .badDigit (read_eq_badDigit_iff.1 read)
  · next read =>
    have nonempty : l.digits ≠ [] := by
      intro none
      rw [(Numeral.read_eq_empty_iff l.base_le).2 none] at read
      cases read
    refine .doesNotFit nonempty (fun spoilt => ?_) fun m magnitude fits => ?_
    · rw [read_eq_badDigit_iff.2 spoilt] at read
      cases read
    · rw [read_eq_ok_iff.2 ⟨nonempty, magnitude, lt_of_fits fits⟩] at read
      cases read

theorem Reads.readInt_eq (h : l.Reads r) : Token.readInt l.text = r := by
  rw [Literal.readInt_eq]
  cases h with
  | @number n nonempty magnitude fits =>
    rw [read_eq_ok_iff.2 ⟨nonempty, magnitude, lt_of_fits fits⟩]
    exact if_pos fits
  | empty none => rw [(Numeral.read_eq_empty_iff l.base_le).2 none]
  | badDigit spoilt => rw [read_eq_badDigit_iff.2 spoilt]
  | doesNotFit nonempty clean far =>
    split
    · next n read => exact if_neg (far n (read_eq_ok_iff.1 read).2.1)
    · next read => exact absurd ((Numeral.read_eq_empty_iff l.base_le).1 read) nonempty
    · next read => exact absurd (read_eq_badDigit_iff.1 read) clean
    · rfl

/-- A number is read as what it means, or refused for what is wrong with it. -/
theorem readInt_eq_iff : Token.readInt l.text = r ↔ l.Reads r :=
  ⟨fun h => h ▸ l.reads_readInt, Reads.readInt_eq⟩

example : Token.readInt "4294967295q".toList = .error .badDecimal ∧
    Token.readInt "4294967296q".toList = .error .doesNotFit := by
  decide +kernel

/-! ## Numbers among tokens -/

/-- Numbers are cut from a text in this form, and so are immediates behind their dollar sign. -/
theorem exists_of_cut {c : Char} {rest : List Char} {k : Cut} (h : Shape.cut c rest = some k) :
    (k.shape = .integer → ∃ l : Literal, k.run = l.text) ∧
    (k.shape = .immediate → ∃ l : Literal, k.run = '$' :: l.text) := by
  have matched := Shape.matches_of_cut h
  generalize k.shape = shape, k.run = run at matched
  cases matched with
  | @integer _ digits first signed digit inside =>
    refine ⟨fun _ => ?_, by rintro ⟨⟩⟩
    have word : ∀ c ∈ first :: digits, isWord c = true :=
      List.forall_mem_cons.2 ⟨isWord_of_isDigit digit, inside⟩
    obtain rfl | rfl := signed
    · exact ⟨⟨false, _, word⟩, rfl⟩
    · exact ⟨⟨true, _, word⟩, rfl⟩
  | immediate signed inside =>
    refine ⟨by rintro ⟨⟩, fun _ => ?_⟩
    obtain rfl | rfl := signed
    · exact ⟨⟨false, _, inside⟩, rfl⟩
    · exact ⟨⟨true, _, inside⟩, rfl⟩
  | register | name | colon | comma => exact ⟨by rintro ⟨⟩, by rintro ⟨⟩⟩

theorem exists_of_marked? {body digits : List Char} (h : marked? body = some digits) :
    ∃ tail, body = '0' :: tail := by
  unfold marked? at h
  split at h
  · exact ⟨_, rfl⟩
  · exact ⟨_, rfl⟩
  · cases h

theorem digitChar_of_isDigit_ten {c : Char} {d : Nat} (h : Numeral.IsDigit 10 c d) :
    c = Nat.digitChar d := by
  have capitals : ∀ d < 10, (Nat.digitChar d).toUpper = Nat.digitChar d := by decide
  obtain ⟨small, same | capital⟩ := h
  · exact same
  · rwa [capitals d small] at capital

/-- A number that is read starts with a digit, which may be that of the mark of a base. -/
theorem exists_digit_of_readInt (h : Token.readInt l.text = .ok v) :
    ∃ c tail, l.body = c :: tail ∧ ∃ d < 10, c = Nat.digitChar d := by
  cases readInt_eq_iff.1 h with
  | number nonempty magnitude fits =>
  obtain ⟨ds, written, -⟩ := magnitude
  cases mark : marked? l.body with
  | some digits =>
    obtain ⟨tail, whole⟩ := exists_of_marked? mark
    exact ⟨'0', tail, whole, 0, by decide, rfl⟩
  | none =>
    have plain : l.digits = l.body ∧ l.base = 10 := by
      rw [digits, base, mark]
      exact ⟨rfl, rfl⟩
    rw [plain.1, plain.2] at written
    rw [plain.1] at nonempty
    obtain ⟨c, tail, whole⟩ := List.exists_cons_of_ne_nil nonempty
    rw [whole] at written
    cases written with
    | cons digit others => exact ⟨c, tail, whole, _, digit.1, digitChar_of_isDigit_ten digit⟩

theorem numberShape (h : Token.readInt l.text = .ok v) : NumberShape l.text := by
  obtain ⟨c, tail, whole, digit⟩ := exists_digit_of_readInt h
  have word : ∀ d ∈ tail, isWord d = true := by
    intro d hd
    exact l.word d (by rw [whole]; exact List.mem_cons_of_mem c hd)
  rw [text, whole]
  split
  · exact .minus digit word
  · exact .plain digit word

theorem lexes_int (h : Token.readInt l.text = .ok v) : Lexes l.text (.int v) :=
  Sixteen.lexes_int (numberShape h) h

theorem lexes_imm (h : Token.readInt l.text = .ok v) : Lexes ('$' :: l.text) (.imm v) :=
  Sixteen.lexes_imm (numberShape h) h

end Literal

end Sixteen
