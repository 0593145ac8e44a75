import Sixteen.Statement.Basic
import Sixteen.Token.Lexer
import Sixteen.Text.Blank

/-!
# Reading statements

A line is cleaned of its comment and of the blanks at its ends, split at its first colon into a
label and the text of an instruction, and read. Commas between operands are optional. The first
fault decides: first the label, then the first token that is none, then the operands from the left,
then what is left over.

* `normalize`, `splitLabel` : the parts of a line;
* `Reader` : reads operands from the front of a list of tokens;
* `Operation.reader`, `Body.parse` : an instruction or a literal word;
* `Statement.parse` : a whole line.
-/

namespace Sixteen

/-! ## The parts of a line -/

/-- A line without its comment, which starts at the first `#`, and without the blanks at the ends
of what is left. -/
def normalize (line : List Char) : List Char :=
  Text.trim (line.takeWhile (· ≠ '#'))

/-- A line split at its first colon: the label before it, if there is a colon, and the rest. -/
def splitLabel (line : List Char) : Option (List Char) × List Char :=
  match line.dropWhile (· ≠ ':') with
  | [] => (none, line)
  | _ :: rest => (some (Text.trim (line.takeWhile (· ≠ ':'))), Text.trim rest)

/-! ## Faults -/

/-- The kinds of operand that an instruction can miss. -/
inductive Expected where
  | register
  | source
  | target
  | offset
  | value
  deriving DecidableEq, Repr

def Expected.text : Expected → String
  | .register => "a register"
  | .source => "a register or an immediate"
  | .target => "an offset or a label"
  | .offset => "an offset"
  | .value => "a value"

/-- Why a line is no statement. -/
inductive ParseError where
  | lex (fault : LexFault) (text : String)
  | unknownMnemonic (text : String)
  | expectedOperand (mnemonic : String) (expected : Expected)
  | unexpectedToken (text : String)
  | invalidLabel (text : String)
  | range (error : RangeError)
  deriving DecidableEq, Repr

instance : Diagnostic ParseError where
  message
    | .lex fault text => s!"{Diagnostic.message fault}: '{text}'"
    | .unknownMnemonic text => s!"unknown instruction '{text}'"
    | .expectedOperand mnemonic expected => s!"'{mnemonic}' expected {expected.text}"
    | .unexpectedToken text => s!"unexpected '{text}' after instruction"
    | .invalidLabel text => s!"'{text}' is not a valid label"
    | .range error => Diagnostic.message error
  help
    | .lex fault _ => Diagnostic.help fault
    | .unknownMnemonic _ =>
      some "lines must start with an instruction, 'val', or a label followed by ':'"
    | .expectedOperand .. =>
      some "registers are written %r0-%r7 and immediates are written with '$'"
    | .unexpectedToken _ => some "remove the extra operand, or start a comment with '#'"
    | .invalidLabel _ =>
      some "labels are made of letters, digits, and '_', do not start with a digit, and cannot be instruction names"
    | .range error => Diagnostic.help error

/-! ## Reading operands -/

/-- Reads from the front of the tokens of a line; a refusal is an operand that was expected, or a
number out of range. -/
abbrev Reader := StateT (List Lexeme) (Except (Expected ⊕ RangeError))

namespace Reader

/-- Reads one token through `f`, which refuses a token that is no operand of this kind. A line that
ends here is refused in the same way. -/
def operand {α : Type} (expected : Expected) (f : Token → Option (Except RangeError α)) :
    Reader α
  | x :: rest =>
    match f x.token with
    | some (.ok a) => .ok (a, rest)
    | some (.error e) => .error (.inr e)
    | none => .error (.inl expected)
  | [] => .error (.inl expected)

def register : Reader Reg :=
  operand .register fun
    | .reg r => some (.ok r)
    | _ => none

def source (n : Nat) : Reader (Source n) :=
  operand .source fun
    | .reg r => some (.ok (.reg r))
    | .imm v => some ((Signed.ofInt? n v).map .imm)
    | _ => none

/-- A bare number or a label. -/
def target (n : Nat) : Reader (Target n) :=
  operand .target fun
    | .int v => some ((Signed.ofInt? n v).map .offset)
    | .label name => some (.ok (.label name))
    | _ => none

/-- A number, bare or immediate. -/
def offset (n : Nat) : Reader (Signed n) :=
  operand .offset fun
    | .int v | .imm v => some (Signed.ofInt? n v)
    | _ => none

/-- A number, bare or immediate, as a word. Every number that a token can hold has a word, those
below zero in two's complement. -/
def value : Reader Word :=
  operand .value fun
    | .int v | .imm v => some (.ok (BitVec.ofInt 16 v))
    | _ => none

end Reader

def Keyword.reader : Keyword → Reader Body
  | .add => do
    let dst ← Reader.register
    let src1 ← Reader.register
    let src2 ← Reader.source 5
    return .operation (.add dst src1 src2)
  | .and => do
    let dst ← Reader.register
    let src1 ← Reader.register
    let src2 ← Reader.source 5
    return .operation (.and dst src1 src2)
  | .not => do
    let dst ← Reader.register
    let src ← Reader.register
    return .operation (.not dst src)
  | .jmp => do
    let base ← Reader.register
    return .operation (.jmp base)
  | .ret => return .operation .ret
  | .jsr => do
    let target ← Reader.target 11
    return .operation (.jsr target)
  | .jssr | .jsrr => do
    let base ← Reader.register
    return .operation (.jsrr base)
  | .ld => do
    let dst ← Reader.register
    let target ← Reader.target 9
    return .operation (.ld dst target)
  | .ldi => do
    let dst ← Reader.register
    let target ← Reader.target 9
    return .operation (.ldi dst target)
  | .lea => do
    let dst ← Reader.register
    let target ← Reader.target 9
    return .operation (.lea dst target)
  | .st => do
    let src ← Reader.register
    let target ← Reader.target 9
    return .operation (.st src target)
  | .sti => do
    let src ← Reader.register
    let target ← Reader.target 9
    return .operation (.sti src target)
  | .ldr => do
    let dst ← Reader.register
    let base ← Reader.register
    let offset ← Reader.offset 6
    return .operation (.ldr dst base offset)
  | .str => do
    let src ← Reader.register
    let base ← Reader.register
    let offset ← Reader.offset 6
    return .operation (.str src base offset)
  | .val => do
    let word ← Reader.value
    return .literal word
  | .getc => return .operation (.service .getc)
  | .putc | .out => return .operation (.service .putc)
  | .puts => return .operation (.service .puts)
  | .enter | .inp => return .operation (.service .enter)
  | .putsp => return .operation (.service .putsp)
  | .halt => return .operation (.service .halt)

def Branch.reader (cond : Branch) : Reader Body := do
  let target ← Reader.target 9
  return .operation (.br cond target)

/-! ## Statements -/

namespace Body

/-- The operands that belong to the first token of an instruction; a token that is no name of one
is refused. -/
def readerOf? : Token → Option (Reader Body)
  | .keyword k => some k.reader
  | .branch cond => some cond.reader
  | _ => none

/-- An instruction or a literal word from its tokens, without commas. -/
def ofLexemes : List Lexeme → Except ParseError Body
  | [] => .error (.unknownMnemonic "")
  | x :: rest =>
    match readerOf? x.token with
    | none => .error (.unknownMnemonic (String.ofList x.text))
    | some reader =>
      match reader rest with
      | .error (.inl expected) => .error (.expectedOperand (String.ofList x.text) expected)
      | .error (.inr e) => .error (.range e)
      | .ok (_, extra :: _) => .error (.unexpectedToken (String.ofList extra.text))
      | .ok (body, []) => .ok body

def parse (text : List Char) : Except ParseError Body :=
  match lex text with
  | ⟨_, some e⟩ => .error (.lex e.fault (String.ofList e.text))
  | ⟨lexemes, none⟩ => ofLexemes (lexemes.filter (·.token ≠ .comma))

end Body

namespace Statement

/-- The label of a line, from the text before its colon. -/
def labelOf : Option (List Char) → Except ParseError (Option String)
  | none => .ok none
  | some text =>
    if isLabel text then .ok (some (String.ofList text))
    else .error (.invalidLabel (String.ofList text))

def bodyOf (text : List Char) : Except ParseError (Option Body) :=
  if text.isEmpty then .ok none else (Body.parse text).map some

/-- Reads a line that has no comment and no blanks at its ends. -/
def parse (line : List Char) : Except ParseError Statement := do
  let (label, rest) := splitLabel line
  let label ← labelOf label
  let body ← bodyOf rest
  return ⟨label, body⟩

end Statement

end Sixteen
