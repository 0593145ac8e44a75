import Sixteen.Instr.Basic
import Sixteen.Diagnostic

/-!
# Tokens of assembly

* `Keyword` : the names of instructions other than branches, and of the directive `val`;
* `Token` : what a line is made of;
* `Lexeme` : a token with the text it was read from;
* `LexFault`, `LexError` : why a text is no token, alone and with that text.
-/

namespace Sixteen

/-! ## Keywords -/

/-- The fixed names of instructions, and of the directive for a literal word. -/
inductive Keyword where
  | add | and | not | jmp | ret | jsr | jssr | jsrr
  | ld | ldi | ldr | lea | st | sti | str | val
  | getc | putc | out | puts | enter | inp | putsp | halt
  deriving DecidableEq, Repr

namespace Keyword

def all : List Keyword :=
  [add, and, not, jmp, ret, jsr, jssr, jsrr, ld, ldi, ldr, lea, st, sti, str, val,
    getc, putc, out, puts, enter, inp, putsp, halt]

def name : Keyword → String
  | add => "ADD"
  | and => "AND"
  | not => "NOT"
  | jmp => "JMP"
  | ret => "RET"
  | jsr => "JSR"
  | jssr => "JSSR"
  | jsrr => "JSRR"
  | ld => "LD"
  | ldi => "LDI"
  | ldr => "LDR"
  | lea => "LEA"
  | st => "ST"
  | sti => "STI"
  | str => "STR"
  | val => "VAL"
  | getc => "GETC"
  | putc => "PUTC"
  | out => "OUT"
  | puts => "PUTS"
  | enter => "ENTER"
  | inp => "IN"
  | putsp => "PUTSP"
  | halt => "HALT"

def ofName? (name : List Char) : Option Keyword :=
  all.find? (·.name.toList = name)

theorem mem_all (k : Keyword) : k ∈ all := by
  cases k <;> decide

end Keyword

/-! ## Tokens -/

/-- A token of a line of assembly. -/
inductive Token where
  /-- A bare number. -/
  | int (value : Int)
  /-- A number after a dollar sign. -/
  | imm (value : Int)
  | reg (register : Reg)
  /-- A keyword, in any case of letters. -/
  | keyword (keyword : Keyword)
  /-- The name of a branch, in any case of letters. -/
  | branch (cond : Branch)
  | label (name : String)
  | colon
  | comma
  deriving DecidableEq, Repr

/-- A token and the text it was read from. -/
structure Lexeme where
  token : Token
  text : List Char
  deriving DecidableEq, Repr

def Branch.name (b : Branch) : String :=
  String.ofList ('B' :: 'R' :: b.conditions.map Char.toUpper)

/-! ## Faults -/

/-- Why a text is no token. -/
inductive LexFault where
  /-- A number that no word can hold. -/
  | doesNotFit
  | badHex
  | emptyHex
  | badDecimal
  | emptyDecimal
  | badRegister
  | badSymbol
  deriving DecidableEq, Repr

instance : Diagnostic LexFault where
  message
    | .doesNotFit => "numeric token does not fit in a 16-bit word"
    | .badHex => "invalid hex literal"
    | .emptyHex => "invalid hex literal"
    | .badDecimal => "invalid decimal literal"
    | .emptyDecimal => "invalid decimal literal"
    | .badRegister => "invalid register"
    | .badSymbol => "unrecognized symbol"
  help
    | .doesNotFit => some "the range for a 16-bit word is [-32768, 65535]"
    | .badHex => some "a hex literal starts with '0x' and consists of 0-9, A-F"
    | .emptyHex => some "there should be hex digits (0-9, A-F) here"
    | .badDecimal => some "a decimal literal only consists of digits 0-9"
    | .emptyDecimal => some "there should be digits (0-9) here"
    | .badRegister => some "this must be %r0-%r7"
    | .badSymbol => some "this char does not occur in any token in x16 assembly"

/-- A text that is no token, and why. -/
structure LexError where
  fault : LexFault
  text : List Char
  deriving DecidableEq, Repr

end Sixteen
