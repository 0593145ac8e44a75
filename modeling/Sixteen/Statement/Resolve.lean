import Sixteen.Statement.Parser
import Sixteen.SymbolTable
import Sixteen.Instr.Codec

/-!
# Resolving labels

An instruction at an address `a` reaches a target `t` by the offset `t - (a + 1)`, taken in the
integers: the machine adds offsets to the address of the next instruction.

* `AssemblyFault` : what can be wrong with a line of a program, `AssemblyFault.ofParse` among it that
  the line cannot be read;
* `Target.resolve` : the offset of a target;
* `Operation.resolve`, `Body.word` : the machine's form of an instruction, and the word of a line.
-/

namespace Sixteen

/-! ## Faults -/

/-- Where the words of a program start. -/
def programOrigin : Word := 0x3000

/-- What is wrong with a line of a program. -/
inductive AssemblyFault where
  | parse (error : ParseError)
  | undefinedLabel (label : String)
  | range (error : RangeError)
  | symbol (error : SymbolError)
  /-- A line defines what cannot be a label. -/
  | invalidLabel (text : String)
  /-- It comes after the last word of memory. -/
  | programTooLarge
  deriving DecidableEq, Repr

/-- The fault of a line that cannot be read. A number out of range is the same fault whether the line
has it or a label leads to it, and a name that cannot be a label is told apart from other texts. -/
def AssemblyFault.ofParse : ParseError → AssemblyFault
  | .range error => .range error
  | .invalidLabel text => .invalidLabel text
  | error => .parse error

instance : Diagnostic SymbolError where
  message
    | .duplicate label firstLine => s!"label '{label}' was already defined on line {firstLine}"
    | .tooLong label => s!"label '{label}' is too long"
    | .full => "too many labels"
  help
    | .duplicate .. =>
      some "labels must be unique within a file, try renaming one of the labels"
    | .tooLong label =>
      some s!"this label is {label.utf8ByteSize} bytes long, try shortening it"
    | .full => some "try reusing labels or splitting the program"

instance : Diagnostic AssemblyFault where
  message
    | .parse error => Diagnostic.message error
    | .undefinedLabel label => s!"label '{label}' could not be found"
    | .range error => Diagnostic.message error
    | .symbol error => Diagnostic.message error
    | .invalidLabel text => Diagnostic.message (ParseError.invalidLabel text)
    | .programTooLarge => "program does not fit in memory"
  help
    | .parse error => Diagnostic.help error
    | .undefinedLabel _ => some "define this label somewhere in the program"
    | .range error => Diagnostic.help error
    | .symbol error => Diagnostic.help error
    | .invalidLabel text => Diagnostic.help (ParseError.invalidLabel text)
    | .programTooLarge => some "programs start at x3000 and cannot extend past xFFFF"

/-- What is wrong with a program, and the line that it is wrong with. -/
structure AssemblyError where
  /-- The line, counted from 1. -/
  line : Nat
  fault : AssemblyFault
  deriving DecidableEq, Repr

instance : Diagnostic AssemblyError where
  message e := Diagnostic.message e.fault
  help e := Diagnostic.help e.fault
  line e := some e.line

/-! ## Targets -/

/-- The distance of a target from the instruction after the one at `address`. -/
def distance (address target : Word) : Int :=
  (target.toNat : Int) - (address.toNat + 1)

/-- The offset of a target for an instruction at `address`. -/
def Target.resolve {n : Nat} (address : Word) (symbols : SymbolTable) :
    Target n → Except AssemblyFault (Signed n)
  | .offset value => .ok value
  | .label name =>
    match symbols.find? name with
    | none => .error (.undefinedLabel name)
    | some target => (Signed.ofInt? n (distance address target)).mapError .range

def Operation.resolve (address : Word) (symbols : SymbolTable) :
    Operation → Except AssemblyFault Instr
  | .add dst src1 src2 => .ok (.add dst src1 src2)
  | .and dst src1 src2 => .ok (.and dst src1 src2)
  | .not dst src => .ok (.not dst src)
  | .br cond target => (target.resolve address symbols).map (.br cond)
  | .jmp base => .ok (.jmp base)
  | .ret => .ok (.jmp .link)
  | .jsr target => (target.resolve address symbols).map .jsr
  | .jsrr base => .ok (.jsrr base)
  | .ld dst target => (target.resolve address symbols).map (.ld dst)
  | .ldi dst target => (target.resolve address symbols).map (.ldi dst)
  | .ldr dst base offset => .ok (.ldr dst base offset)
  | .lea dst target => (target.resolve address symbols).map (.lea dst)
  | .st src target => (target.resolve address symbols).map (.st src)
  | .sti src target => (target.resolve address symbols).map (.sti src)
  | .str src base offset => .ok (.str src base offset)
  | .service s => .ok (.trap s.vector)

def Body.word (address : Word) (symbols : SymbolTable) : Body → Except AssemblyFault Word
  | .operation o => (o.resolve address symbols).map Instr.encode
  | .literal w => .ok w

end Sixteen
