import Sixteen.Instr.Text
import Sixteen.Proofs.Operand.Range
import Sixteen.Proofs.Text.Numeral
import Sixteen.Proofs.Token.Lexer

/-!
# Written operands are tokens

* `Token.readInt_decimal`, `Token.readInt_literal` : numbers in base ten, and words in base sixteen;
* `isPlain`, `Written` : a run of plain characters is read as a token;
* `written_reg`, `written_offset`, `written_source`, `written_literal` : operands;
* `written_keyword`, `written_mnemonic` : the names of instructions.
-/

namespace Sixteen

open Text (isWord startsName)

/-- Whether `c` is a character of ASCII that ends no part of a line. -/
def isPlain (c : Char) : Bool :=
  '!' ≤ c && c ≤ '~' && c ≠ '#' && c ≠ ':'

/-! ## Numbers -/

namespace Token

theorem digit_ten {n : Nat} {c : Char} (h : c ∈ Nat.toDigits 10 n) :
    isWord c = true ∧ isPlain c = true ∧ c ≠ 'x' ∧ c ≠ 'X' ∧ c ≠ '-' := by
  obtain ⟨d, hd, rfl⟩ := Numeral.mem_toDigits (by omega) h
  have digits : ∀ d < 10, isWord (Nat.digitChar d) = true ∧ isPlain (Nat.digitChar d) = true ∧
      Nat.digitChar d ≠ 'x' ∧ Nat.digitChar d ≠ 'X' ∧ Nat.digitChar d ≠ '-' := by decide
  exact digits d hd

theorem digit_hex {n : Nat} {c : Char} (h : c ∈ (Numeral.hex n).toList) :
    isWord c = true ∧ isPlain c = true := by
  rw [Numeral.hex, String.toList_ofList] at h
  obtain ⟨d, hd, rfl⟩ := Numeral.mem_toDigits (by omega) h
  have digits : ∀ d < 16, isWord (Nat.digitChar d) = true ∧ isPlain (Nat.digitChar d) = true := by
    decide
  exact digits d hd

theorem readMagnitude_toDigits {n : Nat} (hn : n < magnitudeLimit) :
    readMagnitude (Nat.toDigits 10 n) = .ok n := by
  unfold readMagnitude
  split
  · next digits written =>
    exact absurd rfl (digit_ten (n := n) (c := 'x') (by simp [written])).2.2.1
  · next digits written =>
    exact absurd rfl (digit_ten (n := n) (c := 'X') (by simp [written])).2.2.2.1
  · rw [Numeral.read_toDigits_ten hn]
    rfl

theorem readMagnitude_hex {n : Nat} (hn : n < magnitudeLimit) :
    readMagnitude ('0' :: 'x' :: (Numeral.hex n).toList) = .ok n := by
  show (Numeral.read 16 magnitudeLimit (Numeral.hex n).toList).mapError _ = _
  rw [Numeral.read_hex hn]
  rfl

theorem readInt_minus {digits : List Char} {n : Nat} (h : readMagnitude digits = .ok n) :
    readInt ('-' :: digits) = checkWord (-n) := by
  rw [readInt, h]
  rfl

theorem readInt_plain {digits : List Char} {n : Nat} (sign : '-' ∉ digits)
    (h : readMagnitude digits = .ok n) : readInt digits = checkWord n := by
  unfold readInt
  split
  · exact absurd List.mem_cons_self sign
  · rw [h]
    rfl

/-- Numbers that a word can hold are read back. -/
theorem readInt_decimal {v : Int} (hv : -0x8000 ≤ v ∧ v ≤ 0xffff) :
    readInt (Numeral.decimal v).toList = .ok v := by
  have magnitude : readMagnitude (Nat.toDigits 10 v.natAbs) = .ok v.natAbs := by
    apply readMagnitude_toDigits
    unfold magnitudeLimit
    omega
  rw [Numeral.decimal, String.toList_ofList]
  split
  · next below =>
    show readInt ('-' :: Nat.toDigits 10 v.natAbs) = _
    rw [readInt_minus magnitude, show -(v.natAbs : Int) = v by omega]
    exact if_pos hv
  · next above =>
    rw [List.nil_append, readInt_plain (fun sign => (digit_ten sign).2.2.2.2 rfl) magnitude,
      show (v.natAbs : Int) = v by omega]
    exact if_pos hv

theorem numberShape_decimal (v : Int) : NumberShape (Numeral.decimal v).toList := by
  rw [Numeral.decimal, String.toList_ofList]
  cases written : Nat.toDigits 10 v.natAbs with
  | nil => exact absurd written Nat.toDigits_ne_nil
  | cons c tail =>
    have first : c ∈ Nat.toDigits 10 v.natAbs := by rw [written]; exact List.mem_cons_self
    have word : ∀ d ∈ tail, isWord d = true := by
      intro d hd
      exact (digit_ten (n := v.natAbs) (by rw [written]; exact List.mem_cons_of_mem c hd)).1
    split
    · exact .minus (Numeral.mem_toDigits (by omega) first) word
    · exact .plain (Numeral.mem_toDigits (by omega) first) word

theorem toList_literal (w : Word) :
    w.literal.toList = '0' :: 'x' :: (Numeral.hex w.toNat).toList := by
  rw [Word.literal, String.toList_append]
  rfl

theorem readInt_literal (w : Word) : readInt w.literal.toList = .ok w.toNat := by
  have magnitude : readMagnitude w.literal.toList = .ok w.toNat := by
    rw [toList_literal]
    exact readMagnitude_hex (Nat.lt_trans w.isLt (by decide))
  have sign : '-' ∉ w.literal.toList := by
    rw [toList_literal]
    intro h
    rcases List.mem_cons.1 h with h | h
    · cases h
    · rcases List.mem_cons.1 h with h | h
      · cases h
      · exact absurd (digit_hex h).1 (by decide)
  rw [readInt_plain sign magnitude]
  exact if_pos ⟨by omega, by have := w.isLt; omega⟩

theorem numberShape_literal (w : Word) : NumberShape w.literal.toList := by
  rw [toList_literal]
  refine .plain ⟨0, by omega, rfl⟩ ?_
  intro d hd
  rcases List.mem_cons.1 hd with rfl | later
  · decide
  · exact (digit_hex later).1

theorem plain_decimal (v : Int) : ∀ c ∈ (Numeral.decimal v).toList, isPlain c = true := by
  intro c hc
  rw [Numeral.decimal, String.toList_ofList] at hc
  rcases List.mem_append.1 hc with sign | digit
  · split at sign
    · cases List.mem_singleton.1 sign
      decide
    · cases sign
  · exact (digit_ten digit).2.1

theorem plain_literal (w : Word) : ∀ c ∈ w.literal.toList, isPlain c = true := by
  intro c hc
  rw [toList_literal] at hc
  rcases List.mem_cons.1 hc with rfl | hc
  · decide
  · rcases List.mem_cons.1 hc with rfl | digit
    · decide
    · exact (digit_hex digit).2

end Token

/-! ## Operands -/

/-- A run of plain characters that is read as the token `t`. -/
structure Written (run : List Char) (t : Token) : Prop where
  lexes : Lexes run t
  nonempty : run ≠ []
  plain : ∀ c ∈ run, isPlain c = true

theorem written_literal (w : Word) : Written w.literal.toList (.int w.toNat) where
  lexes := lexes_int (Token.numberShape_literal w) (Token.readInt_literal w)
  nonempty := by
    rw [Token.toList_literal]
    exact List.cons_ne_nil _ _
  plain := Token.plain_literal w

theorem Signed.readInt_text {n : Nat} (hn : n ≤ 16) (s : Signed n) :
    Token.readInt s.text.toList = .ok s.value := by
  have := s.value_bounds hn
  exact Token.readInt_decimal (by omega)

/-- A bare number. -/
theorem written_offset {n : Nat} (hn : n ≤ 16) (s : Signed n) :
    Written s.text.toList (.int s.value) where
  lexes := lexes_int (Token.numberShape_decimal s.value) (s.readInt_text hn)
  nonempty h := by
    have shape := Token.numberShape_decimal s.value
    rw [show (Numeral.decimal s.value).toList = [] from h] at shape
    cases shape
  plain := Token.plain_decimal s.value

/-- A number after a dollar sign. -/
theorem written_dollar {n : Nat} (hn : n ≤ 16) (s : Signed n) :
    Written ("$" ++ s.text).toList (.imm s.value) := by
  rw [String.toList_append]
  refine ⟨lexes_imm (Token.numberShape_decimal s.value) (s.readInt_text hn),
    List.cons_ne_nil _ _, ?_⟩
  intro c hc
  rcases List.mem_cons.1 hc with rfl | digit
  · decide
  · exact Token.plain_decimal s.value c digit

theorem written_reg (r : Reg) : Written r.text.toList (.reg r) := by
  have all : ∀ b : BitVec 3, (Reg.mk b).text.toList = '%' :: (Reg.mk b).text.toList.tail ∧
      (Reg.mk b).text.toList.tail.all isWord = true ∧
      Token.readRegister (Reg.mk b).text.toList.tail = .ok ⟨b⟩ ∧
      (Reg.mk b).text.toList.all isPlain = true := by
    decide +kernel
  obtain ⟨percent, word, read, plain⟩ := all r.bits
  refine ⟨?_, ?_, List.all_eq_true.1 plain⟩
  · rw [percent]
    exact lexes_register (List.all_eq_true.1 word) read
  · rw [percent]
    exact List.cons_ne_nil _ _

/-- The token of a source as it is written. -/
def Source.token {n : Nat} : Source n → Token
  | .imm value => .imm value.value
  | .reg register => .reg register

theorem written_source {n : Nat} (hn : n ≤ 16) (s : Source n) : Written s.text.toList s.token := by
  cases s with
  | imm value => exact written_dollar hn value
  | reg register => exact written_reg register

/-! ## Names -/

/-- A name of plain characters, and what it is read as. -/
def IsName (name : List Char) (t : Token) : Prop :=
  name.head?.all startsName = true ∧ name.all isWord = true ∧ name.all isPlain = true ∧
    name ≠ [] ∧ Token.ofName name = t

instance (name : List Char) (t : Token) : Decidable (IsName name t) :=
  inferInstanceAs (Decidable (_ ∧ _))

theorem IsName.written {name : List Char} {t : Token} (h : IsName name t) : Written name t := by
  obtain ⟨first, word, plain, nonempty, rfl⟩ := h
  refine ⟨?_, nonempty, List.all_eq_true.1 plain⟩
  cases name with
  | nil => exact absurd rfl nonempty
  | cons c tail =>
    rw [List.all_cons, Bool.and_eq_true] at word
    exact lexes_name first (List.all_eq_true.1 word.2)

/-- A keyword in lower case. -/
theorem written_keyword (k : Keyword) :
    Written (k.name.toList.map Char.toLower) (.keyword k) := by
  have all : ∀ k ∈ Keyword.all, IsName (k.name.toList.map Char.toLower) (.keyword k) := by
    decide +kernel
  exact (all k k.mem_all).written

theorem written_mnemonic {cond : Branch} (h : cond.toNat < 8) :
    Written cond.mnemonic.toList (.branch cond) := by
  have all : ∀ n < 8, IsName (Branch.mnemonic (BitVec.ofNat 8 n)).toList
      (.branch (BitVec.ofNat 8 n)) := by
    decide +kernel
  have := (all cond.toNat h).written
  rwa [BitVec.ofNat_toNat, BitVec.setWidth_eq] at this

end Sixteen
