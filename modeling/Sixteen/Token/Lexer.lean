import Sixteen.Token.Basic
import Sixteen.Text.WordChar
import Sixteen.Text.UpperCase

/-!
# Reading tokens

A text is cut at the longest run of characters that fits the shape of a token, and the run is read
as a whole: `12ab` is one number with a wrong digit, not a number and a name. The first character
decides the shape, and gaps (spaces, tabs, line ends, form feeds) may stand between tokens.

* `Shape`, `Shape.cut` : the shapes of tokens, and the run that a text starts with;
* `Token.readInt`, `Token.readRegister`, `Token.ofName` : the token of a run;
* `scan` : the token, or the fault, that a text starts with (`scan_eq_ok_iff`, `scan_eq_error_iff`);
* `lex` : the tokens of a text up to the first fault;
* `isLabel` : a text is one name that is not taken by an instruction.
-/

namespace Sixteen

open Text (isDigit isWord startsName)

/-! ## Cutting -/

/-- The shapes of tokens. -/
inductive Shape where
  /-- A number: perhaps a minus sign, a digit, word characters. -/
  | integer
  /-- An immediate: a dollar sign, perhaps a minus sign, word characters. -/
  | immediate
  /-- A register: a percent sign, word characters. -/
  | register
  /-- A name: an ASCII letter or an underscore, word characters. -/
  | name
  | colon
  | comma
  deriving DecidableEq, Repr

/-- Whether `c` may stand between tokens. -/
def isGap (c : Char) : Bool :=
  c == ' ' || c == '\t' || c == '\r' || c == '\n' || c == '\x0c'

/-- A run of characters at the start of a text. -/
structure Cut where
  shape : Shape
  run : List Char
  rest : List Char

/-- The run that starts with the characters `head` and goes on with word characters of `text`. -/
def Cut.munch (shape : Shape) (head text : List Char) : Cut :=
  ⟨shape, head ++ text.takeWhile isWord, text.dropWhile isWord⟩

/-- The run that the text `c :: rest` starts with, if `c` starts a token. -/
def Shape.cut (c : Char) (rest : List Char) : Option Cut :=
  if c = ':' then some ⟨.colon, [c], rest⟩
  else if c = ',' then some ⟨.comma, [c], rest⟩
  else if c = '%' then some (.munch .register [c] rest)
  else if c = '$' then
    match rest with
    | '-' :: rest => some (.munch .immediate [c, '-'] rest)
    | rest => some (.munch .immediate [c] rest)
  else if c = '-' then
    match rest with
    | d :: rest => if isDigit d then some (.munch .integer [c, d] rest) else none
    | [] => none
  else if isDigit c then some (.munch .integer [c] rest)
  else if startsName c then some (.munch .name [c] rest)
  else none

theorem length_dropWhile_le {α : Type} (p : α → Bool) (l : List α) :
    (l.dropWhile p).length ≤ l.length :=
  (List.dropWhile_sublist p).length_le

theorem Shape.length_rest_le_of_cut {c : Char} {rest : List Char} {k : Cut}
    (h : Shape.cut c rest = some k) : k.rest.length ≤ rest.length := by
  have drop := length_dropWhile_le isWord
  unfold Shape.cut at h
  repeat' split at h
  all_goals first
    | contradiction
    | (cases Option.some.inj h
       simp only [Cut.munch, List.length_cons]
       first | exact Nat.le_refl _ | exact drop _ | exact Nat.le_succ_of_le (drop _))

/-! ## Reading a run -/

namespace Token

/-- Where reading a magnitude stops. It lies above the numbers that fit a word, so a number that no
word can hold may still have a wrong digit behind it, and then that is its fault. -/
def magnitudeLimit : Nat := 0x100000000

/-- The magnitude of a number: digits of base ten, or of base sixteen after `0x`. -/
def readMagnitude : List Char → Except LexFault Nat
  | '0' :: 'x' :: digits | '0' :: 'X' :: digits =>
    (Numeral.read 16 magnitudeLimit digits).mapError fun
      | .empty => .emptyHex
      | .badDigit => .badHex
      | .tooLarge => .doesNotFit
  | digits =>
    (Numeral.read 10 magnitudeLimit digits).mapError fun
      | .empty => .emptyDecimal
      | .badDigit => .badDecimal
      | .tooLarge => .doesNotFit

/-- A number as it is written, if a word can hold it with or without a sign. -/
def checkWord (v : Int) : Except LexFault Int :=
  if -0x8000 ≤ v ∧ v ≤ 0xffff then .ok v else .error .doesNotFit

/-- Reads a number: perhaps a minus sign, then a magnitude. -/
def readInt : List Char → Except LexFault Int
  | '-' :: digits => do checkWord (-(← readMagnitude digits))
  | digits => do checkWord (← readMagnitude digits)

/-- Reads the name of a register, without the percent sign. -/
def readRegister : List Char → Except LexFault Reg
  | 'r' :: digits | 'R' :: digits =>
    match Numeral.read 10 0x100 digits with
    | .ok n => (Reg.ofNat? n).mapError fun _ => .badRegister
    | .error _ => .error .badRegister
  | _ => .error .badRegister

def conditionBit? (c : Char) : Option Branch :=
  (Branch.letters.find? fun (letter, _) => letter.toUpper = c).map (·.2)

/-- The condition byte of letters in capitals, each at most once, in any order. -/
def conditions? (cond : Branch) : List Char → Option Branch
  | [] => some cond
  | c :: rest =>
    match conditionBit? c with
    | some bit => if cond &&& bit = 0 then conditions? (cond ||| bit) rest else none
    | none => none

/-- The condition byte of the name of a branch in capitals. -/
def branch? : List Char → Option Branch
  | 'B' :: 'R' :: letters => conditions? 0 letters
  | _ => none

/-- The token of a name: a keyword or a branch in any case of letters, else a label. -/
def ofName (name : List Char) : Token :=
  match Keyword.ofName? (Text.upper name) with
  | some k => .keyword k
  | none =>
    match branch? (Text.upper name) with
    | some cond => .branch cond
    | none => .label (String.ofList name)

end Token

def Shape.token : Shape → List Char → Except LexFault Token
  | .integer, run => (Token.readInt run).map .int
  | .immediate, run => (Token.readInt run.tail).map .imm
  | .register, run => (Token.readRegister run.tail).map .reg
  | .name, run => .ok (Token.ofName run)
  | .colon, _ => .ok .colon
  | .comma, _ => .ok .comma

/-! ## Reading a text -/

/-- The tokens of a text up to the first fault. -/
structure Lexing where
  lexemes : List Lexeme
  error? : Option LexError
  deriving DecidableEq, Repr

/-- What `c :: rest` starts with: a token, or a fault; and the text after it. -/
def scan (c : Char) (rest : List Char) : Except LexError (Lexeme × List Char) :=
  match Shape.cut c rest with
  | none => .error ⟨.badSymbol, [c]⟩
  | some k =>
    match k.shape.token k.run with
    | .ok token => .ok (⟨token, k.run⟩, k.rest)
    | .error fault => .error ⟨fault, k.run⟩

/-- A token is read from the run that the text is cut at. -/
theorem scan_eq_ok_iff {c : Char} {rest rest' : List Char} {x : Lexeme} :
    scan c rest = .ok (x, rest') ↔ ∃ shape : Shape,
      Shape.cut c rest = some ⟨shape, x.text, rest'⟩ ∧ shape.token x.text = .ok x.token := by
  unfold scan
  constructor
  · intro h
    split at h
    · cases h
    next k cut =>
    split at h
    · next read =>
      cases h
      exact ⟨k.shape, cut, read⟩
    · cases h
  · rintro ⟨shape, cut, read⟩
    simp only [cut, read]

/-- The fault is that of this run, or its first character where there is no run. -/
theorem scan_eq_error_iff {c : Char} {rest : List Char} {e : LexError} :
    scan c rest = .error e ↔ Shape.cut c rest = none ∧ e = ⟨.badSymbol, [c]⟩ ∨
      ∃ shape rest', Shape.cut c rest = some ⟨shape, e.text, rest'⟩ ∧
        shape.token e.text = .error e.fault := by
  unfold scan
  constructor
  · intro h
    split at h
    · next none =>
      cases h
      exact .inl ⟨none, rfl⟩
    next k cut =>
    split at h
    · cases h
    · next read =>
      cases h
      exact .inr ⟨k.shape, k.rest, cut, read⟩
  · rintro (⟨none, rfl⟩ | ⟨shape, rest', cut, read⟩)
    · simp only [none]
    · simp only [cut, read]

theorem length_lt_of_scan {c : Char} {rest rest' : List Char} {x : Lexeme}
    (h : scan c rest = .ok (x, rest')) : rest'.length < (c :: rest).length := by
  obtain ⟨shape, cut, -⟩ := scan_eq_ok_iff.1 h
  exact Nat.lt_succ_of_le (Shape.length_rest_le_of_cut cut)

/-- Reads the tokens of a text, up to the first fault. -/
def lex (text : List Char) : Lexing :=
  match _htext : text.dropWhile isGap with
  | [] => ⟨[], none⟩
  | c :: rest =>
    match _hscan : scan c rest with
    | .error e => ⟨[], some e⟩
    | .ok (x, rest') =>
      let tail := lex rest'
      ⟨x :: tail.lexemes, tail.error?⟩
  termination_by text.length
  decreasing_by
    have hle := length_dropWhile_le isGap text
    have hlt := length_lt_of_scan _hscan
    rw [_htext] at hle
    omega

/-- Reading goes on after the gap and the token that a text starts with. -/
theorem lex_eq (text : List Char) :
    lex text = match text.dropWhile isGap with
      | [] => ⟨[], none⟩
      | c :: rest => match scan c rest with
        | .error e => ⟨[], some e⟩
        | .ok (x, rest') => ⟨x :: (lex rest').lexemes, (lex rest').error?⟩ := by
  rw [lex]
  split
  · next h => rw [h]
  · next c rest h => rw [h]; dsimp only; split <;> next h' => rw [h']

/-- Whether a text is the name of a label: one name, not that of an instruction. -/
def isLabel (text : List Char) : Bool :=
  match lex text with
  | ⟨[⟨.label _, _⟩], none⟩ => true
  | _ => false

end Sixteen
