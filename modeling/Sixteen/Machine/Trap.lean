import Sixteen.Machine.Basic
import Sixteen.Console.Basic
import Sixteen.Diagnostic

/-!
# Traps

* `Status`, `Fault` : how a step of a machine ends;
* `Memory.string` : the characters of a string in memory, up to the first zero character;
* `Serving` : computations on a machine, over a console that may refuse. What was done to the machine
  by then is not undone;
* `Service.perform` : what a service does;
* `Machine.trap` : the service of a vector, if it has one, with the machine that it leaves.
-/

namespace Sixteen

/-! ## How steps end -/

/-- Whether a machine goes on after an instruction. -/
inductive Status where
  | running
  | halted
  deriving DecidableEq, Repr

/-- Why a machine cannot go on. -/
inductive Fault where
  | reservedOpcode (opcode : Opcode)
  | unknownTrap (vector : Unsigned 8)
  | console (error : ConsoleError)
  | stepLimit (steps : Nat)
  deriving DecidableEq, Repr

instance : Diagnostic Fault where
  message
    | .reservedOpcode op => s!"simulator executed reserved opcode {op.text}"
    | .unknownTrap vector => "unknown trap vector x" ++ Numeral.hexPadded 2 vector.value
    | .console .closed => "console has no more input"
    | .console .failed => "console IO failed"
    | .stepLimit steps => s!"program did not halt within {steps} instructions"
  help
    | .reservedOpcode _ =>
      some "the program ran into data or uninitialized memory, check that it halts"
    | .unknownTrap _ => some "trap vectors x20 through x25 are supported"
    | .console .closed => some "provide more input to the program"
    | .console .failed => none
    | .stepLimit _ =>
      some "the program may be in an infinite loop, or the limit may need to be raised"

/-! ## Strings in memory -/

/-- A character as a byte: the low byte of its word. -/
def Word.lowByte (w : Word) : UInt8 :=
  ⟨w.setWidth 8⟩

def Word.ofByte (b : UInt8) : Word :=
  b.toBitVec.setWidth 16

def Word.plain (w : Word) : List Word :=
  [w]

/-- The two characters of a word, the one in the low byte first. -/
def Word.packed (w : Word) : List Word :=
  [w &&& 0xff, w >>> 8]

namespace Memory

/-- The characters of at most `count` words from an address up, after the characters `done`.
Collecting ends before the first character that is zero. -/
def stringFrom (m : Memory) (unpack : Word → List Word) :
    (count : Nat) → (address : Word) → (done : Array UInt8) → Array UInt8
  | 0, _, done => done
  | count + 1, address, done =>
    let characters := unpack (m.read address)
    let kept := characters.takeWhile (· ≠ 0)
    let done := done ++ kept.map Word.lowByte
    if kept.length = characters.length then m.stringFrom unpack count (address + 1) done else done

/-- The characters of the string at an address. A string without an end stops when it has covered
all of memory. -/
def string (m : Memory) (unpack : Word → List Word) (address : Word) : List UInt8 :=
  (m.stringFrom unpack memorySize address #[]).toList

end Memory

/-! ## Services -/

/-- Computations on a machine that a console may end early. The machine is then what it has become
so far. -/
abbrev Serving (m : Type → Type) :=
  ExceptT ConsoleError (StateT Machine m)

namespace Service

def prompt : List UInt8 :=
  "Input a character> ".toUTF8.data.toList

def farewell : List UInt8 :=
  "\n--- halting the x16 ---\n".toUTF8.data.toList

variable {m : Type → Type} [Monad m] [Console m]

@[inline] def readByte : Serving m UInt8 :=
  ExceptT.mk (StateT.lift Console.readByte)

@[inline] def writeBytes (bytes : List UInt8) : Serving m Unit :=
  ExceptT.mk (StateT.lift (Console.writeBytes bytes))

@[specialize] def perform : Service → Serving m Status
  | getc => do
    let b ← readByte
    modify (·.setReg .zero (.ofByte b))
    return .running
  | putc => do
    let machine ← get
    writeBytes [(machine.reg .zero).lowByte]
    return .running
  | puts => do
    let machine ← get
    writeBytes (machine.memory.string Word.plain (machine.reg .zero))
    return .running
  | enter => do
    writeBytes prompt
    let b ← readByte
    writeBytes [b, 0x0a]
    -- No sooner: the console may refuse each of the three.
    modify (·.setReg .zero (.ofByte b))
    return .running
  | putsp => do
    let machine ← get
    writeBytes (machine.memory.string Word.packed (machine.reg .zero))
    return .running
  | halt => do
    writeBytes farewell
    return .halted

end Service

@[specialize] def Machine.trap {m : Type → Type} [Monad m] [Console m] (machine : Machine)
    (vector : Unsigned 8) : m (Except Fault Status × Machine) :=
  match Service.ofVector? vector with
  | some service => do
    let (result, machine) ← StateT.run service.perform.run machine
    return (result.mapError .console, machine)
  | none => return (.error (.unknownTrap vector), machine)

end Sixteen
