import Sixteen.Proofs.Checked.Instr
import Sixteen.Proofs.Statement.Grammar
import Sixteen.Proofs.Token.Shape

/-!
# Statements under checks

The run of an immediate or a register is cut behind its first character, which has to be one byte
for this, and a number with a minus sign is negated. A number becomes an operand when a place is
read; the widths of all places are those of operands.

* `Checked.readInt`, `Checked.token`, `Checked.lex` : the tokens of a text;
* `Checked.readAll`, `Checked.parse` : an instruction, place by place of its row;
* `Checked.statement?` : a whole line.
-/

namespace Sixteen.Checked

/-! ## Tokens -/

/-- A text from its second byte on. -/
def fromSecondByte : List Char → Checked (List Char)
  | [] => .error (.range 1 0 0)
  | c :: rest => if c.utf8Size = 1 then .ok rest else .error (.boundary 1)

/-- Reads a number. Its magnitude is made a signed number of 64 bits before it is negated. -/
def readInt : List Char → Checked (Except LexFault Int)
  | '-' :: digits => do
    match Token.readMagnitude digits with
    | .ok n => return Token.checkWord (← integer 64 (-n))
    | .error e => return .error e
  | digits => return Token.readInt digits

def token : Shape → List Char → Checked (Except LexFault Token)
  | .integer, run => return (← readInt run).map .int
  | .immediate, run => return (← readInt (← fromSecondByte run)).map .imm
  | .register, run => return (Token.readRegister (← fromSecondByte run)).map .reg
  | .name, run => return .ok (Token.ofName run)
  | .colon, _ => return .ok .colon
  | .comma, _ => return .ok .comma

/-- What `c :: rest` starts with: a token, or a fault; and the text after it. -/
def scan (c : Char) (rest : List Char) : Checked (Except LexError (Lexeme × List Char)) :=
  match Shape.cut c rest with
  | none => return .error ⟨.badSymbol, [c]⟩
  | some k => do
    match ← token k.shape k.run with
    | .ok t => return .ok (⟨t, k.run⟩, k.rest)
    | .error fault => return .error ⟨fault, k.run⟩

theorem readFrom_lt {base limit acc n : Nat} {digits : List Char} (hacc : acc < limit)
    (h : Numeral.readFrom base limit acc digits = .ok n) : n < limit := by
  induction digits generalizing acc with
  | nil =>
    cases h
    exact hacc
  | cons c rest ih =>
    rw [Numeral.readFrom] at h
    split at h
    · cases h
    · split at h
      · next d _ below => exact ih below h
      · cases h

theorem read_lt {base limit n : Nat} {digits : List Char} (hl : 0 < limit)
    (h : Numeral.read base limit digits = .ok n) : n < limit := by
  cases digits with
  | nil => cases h
  | cons c rest => exact readFrom_lt hl h

/-- A magnitude that is read is one of 32 bits. -/
theorem readMagnitude_lt {digits : List Char} {n : Nat}
    (h : Token.readMagnitude digits = .ok n) : n < Token.magnitudeLimit := by
  unfold Token.readMagnitude at h
  split at h <;> exact read_lt (by decide) (Except.mapError_eq_ok_iff.1 h)

theorem readInt_eq (run : List Char) : readInt run = .ok (Token.readInt run) := by
  unfold readInt
  split
  · next digits =>
    rw [Token.readInt]
    cases read : Token.readMagnitude digits with
    | error e => rfl
    | ok n =>
      have small : n < 2 ^ 32 := readMagnitude_lt read
      dsimp only
      rw [integer_eq (by omega) (by omega)]
      rfl
  · rfl

/-- The runs that are cut off behind their first character start with one of one byte. -/
theorem fromSecondByte_eq {c : Char} {rest : List Char} {k : Cut} (h : Shape.cut c rest = some k)
    (marked : k.shape = .immediate ∨ k.shape = .register) :
    fromSecondByte k.run = .ok k.run.tail := by
  have matched := Shape.matches_of_cut h
  generalize k.shape = shape, k.run = run at matched marked
  cases matched with
  | immediate | register => rfl
  | integer | name | colon | comma => obtain ⟨⟨⟩⟩ | ⟨⟨⟩⟩ := marked

theorem token_eq {c : Char} {rest : List Char} {k : Cut} (h : Shape.cut c rest = some k) :
    token k.shape k.run = .ok (k.shape.token k.run) := by
  cases shape : k.shape with
  | integer =>
    rw [token, readInt_eq]
    rfl
  | immediate =>
    rw [token, fromSecondByte_eq h (.inl shape), ok_bind, readInt_eq]
    rfl
  | register =>
    rw [token, fromSecondByte_eq h (.inr shape)]
    rfl
  | name | colon | comma => rfl

theorem scan_eq (c : Char) (rest : List Char) : scan c rest = .ok (Sixteen.scan c rest) := by
  unfold scan Sixteen.scan
  cases cut : Shape.cut c rest with
  | none => rfl
  | some k =>
    dsimp only
    rw [token_eq cut]
    cases k.shape.token k.run <;> rfl

/-- Reads the tokens of a text, up to the first fault. -/
def lex (text : List Char) : Checked Lexing :=
  match _htext : text.dropWhile isGap with
  | [] => return ⟨[], none⟩
  | c :: rest =>
    match _hscan : scan c rest with
    | .error v => .error v
    | .ok (.error e) => return ⟨[], some e⟩
    | .ok (.ok (x, rest')) => do
      let tail ← lex rest'
      return ⟨x :: tail.lexemes, tail.error?⟩
  termination_by text.length
  decreasing_by
    have hle := length_dropWhile_le isGap text
    have hlt := length_lt_of_scan (Except.ok.inj ((scan_eq c rest).symm.trans _hscan))
    rw [_htext] at hle
    omega

theorem lex_eq (text : List Char) : lex text = .ok (Sixteen.lex text) := by
  fun_induction lex text with
  | case1 text gap =>
    rw [Sixteen.lex_eq, gap]
    rfl
  | case2 text c rest gap v bad =>
    rw [scan_eq] at bad
    cases bad
  | case3 text c rest gap e bad =>
    rw [scan_eq] at bad
    rw [Sixteen.lex_eq, gap]
    dsimp only
    rw [Except.ok.inj bad]
    rfl
  | case4 text c rest gap x rest' good ih =>
    rw [scan_eq] at good
    rw [Sixteen.lex_eq, gap]
    dsimp only
    rw [Except.ok.inj good, ih]
    rfl

/-- Whether a text is the name of a label. -/
def isLabel (text : List Char) : Checked Bool := do
  let tokens ← lex text
  return match tokens with
    | ⟨[⟨.label _, _⟩], none⟩ => true
    | _ => false

theorem isLabel_eq (text : List Char) : isLabel text = .ok (Sixteen.isLabel text) := by
  rw [isLabel, lex_eq]
  rfl

/-! ## Instructions -/

/-- What a token is read as at a place, if it is of the right kind. -/
def readSlot : (k : Slot) → Token → Checked (Option (Except RangeError k.Operand))
  | .source n, .imm v => return some ((← offset? n v).map Source.imm)
  | .target n, .int v => return some ((← offset? n v).map Target.offset)
  | .offset n, .int v | .offset n, .imm v => return some (← offset? n v)
  | k, t => return k.read t

/-- Reads the operands behind the name `mnemonic`, from the left, and nothing may be left over. -/
def readAll (mnemonic : String) :
    (ks : List Slot) → Waiting ks → List Lexeme → Checked (Except ParseError Body)
  | [], b, [] => return .ok b
  | [], _, extra :: _ => return .error (.unexpectedToken (String.ofList extra.text))
  | k :: _, _, [] => return .error (.expectedOperand mnemonic k.expected)
  | k :: ks, f, x :: xs => do
    match ← readSlot k x.token with
    | none => return .error (.expectedOperand mnemonic k.expected)
    | some (.error e) => return .error (.range e)
    | some (.ok a) => readAll mnemonic ks (f a) xs

def ofLexemes : List Lexeme → Checked (Except ParseError Body)
  | [] => return .error (.unknownMnemonic "")
  | x :: rest =>
    match x.token.row? with
    | none => return .error (.unknownMnemonic (String.ofList x.text))
    | some row => readAll (String.ofList x.text) row.slots row.body rest

def parse (text : List Char) : Checked (Except ParseError Body) := do
  match ← lex text with
  | ⟨_, some e⟩ => return .error (.lex e.fault (String.ofList e.text))
  | ⟨lexemes, none⟩ => ofLexemes (lexemes.filter (·.token ≠ .comma))

/-- The field of a place is as wide as an operand can be. -/
def IsWide : Slot → Prop
  | .source n | .target n | .offset n => IsWidth n
  | .register | .value => True

instance : DecidablePred IsWide
  | .source n | .target n | .offset n => inferInstanceAs (Decidable (IsWidth n))
  | .register | .value => inferInstanceAs (Decidable True)

theorem isWide_of_row {t : Token} {row : Row} (h : t.row? = some row) :
    ∀ k ∈ row.slots, IsWide k := by
  cases t with
  | keyword k =>
    cases h
    cases k <;> decide
  | branch cond =>
    cases h
    show ∀ k ∈ [Slot.target 9], IsWide k
    decide
  | _ => cases h

theorem readSlot_eq {k : Slot} (h : IsWide k) (t : Token) : readSlot k t = .ok (k.read t) := by
  unfold readSlot
  split
  case h_5 => rfl
  all_goals
    rw [offset?_eq h]
    rfl

theorem readAll_eq (mnemonic : String) {ks : List Slot} (h : ∀ k ∈ ks, IsWide k) (f : Waiting ks)
    (xs : List Lexeme) :
    readAll mnemonic ks f xs = .ok (Slot.settle mnemonic (Slot.readAll ks f xs)) := by
  induction ks generalizing xs with
  | nil => cases xs <;> rfl
  | cons k ks ih =>
    obtain ⟨wide, later⟩ := List.forall_mem_cons.1 h
    cases xs with
    | nil =>
      rw [Slot.settle_readAll_missing]
      rfl
    | cons x xs =>
      rw [Slot.settle_readAll_cons, readAll, readSlot_eq wide, ok_bind]
      rcases k.read x.token with _ | _ | a
      · rfl
      · rfl
      · exact ih later (f a) xs

theorem ofLexemes_eq (xs : List Lexeme) : ofLexemes xs = .ok (Body.ofLexemes xs) := by
  cases xs with
  | nil => rfl
  | cons x xs =>
    cases named : x.token.row? with
    | none =>
      rw [Body.ofLexemes_of_no_row named, ofLexemes, named]
      rfl
    | some row =>
      rw [Body.ofLexemes_of_row named, ofLexemes, named]
      exact readAll_eq _ (isWide_of_row named) _ _

theorem parse_eq (text : List Char) : parse text = .ok (Body.parse text) := by
  rw [parse, lex_eq, ok_bind, Body.parse]
  rcases Sixteen.lex text with ⟨lexemes, _ | e⟩
  · exact ofLexemes_eq _
  · rfl

/-! ## Lines -/

/-- The label of a line, from the text before its colon. -/
def labelOf : Option (List Char) → Checked (Except ParseError (Option String))
  | none => return .ok none
  | some text => do
    if ← isLabel text then return .ok (some (String.ofList text))
    else return .error (.invalidLabel (String.ofList text))

def bodyOf (text : List Char) : Checked (Except ParseError (Option Body)) := do
  if text.isEmpty then return .ok none else return (← parse text).map some

/-- Reads a line that has no comment and no blanks at its ends. -/
def statement? (line : List Char) : Checked (Except ParseError Statement) := do
  let (label, rest) := splitLabel line
  match ← labelOf label with
  | .error e => return .error e
  | .ok label => return (← bodyOf rest).map (Statement.mk label)

theorem labelOf_eq (text : Option (List Char)) :
    labelOf text = .ok (Statement.labelOf text) := by
  cases text with
  | none => rfl
  | some text =>
    rw [labelOf, isLabel_eq, ok_bind, Statement.labelOf]
    split <;> rfl

theorem bodyOf_eq (text : List Char) : bodyOf text = .ok (Statement.bodyOf text) := by
  rw [bodyOf, parse_eq, Statement.bodyOf]
  split <;> rfl

theorem statement?_eq (line : List Char) : statement? line = .ok (Statement.parse line) := by
  rw [statement?, Statement.parse]
  dsimp only
  rw [labelOf_eq, ok_bind]
  cases Statement.labelOf (splitLabel line).1 with
  | error e => rfl
  | ok label =>
    dsimp only
    rw [bodyOf_eq]
    cases Statement.bodyOf (splitLabel line).2 <;> rfl

end Sixteen.Checked
