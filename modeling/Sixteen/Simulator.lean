import Sixteen.Machine.Execute
import Sixteen.Machine.Trap
import Sixteen.Instr.Codec

/-!
# Simulators

A simulator is a machine together with how it is filled anew and a count of the instructions that it
has run. A step fetches the word at the program counter, moves the program counter past it and
executes the instruction. A step that fails is not counted, and nothing that it has done is undone.

* `Simulator.step` : one instruction;
* `Simulator.runFor` : instructions until the machine halts or fails, at most a given number;
* `Simulator.run` : the same, where reaching the number is a fault;
* `Simulator.runToEnd` : instructions until the machine halts or fails, without a limit;
* `Simulator.load`, `Simulator.reset` : puts an image in memory, and starts afresh.
-/

namespace Sixteen

/-- A machine, how it is filled when it starts afresh, and the number of instructions it has run. -/
structure Simulator where
  machine : Machine
  /-- How the machine is filled when it starts afresh. -/
  fill : Fill
  /-- The number of instructions that were run since then. -/
  count : Nat := 0
  deriving DecidableEq

namespace Simulator

def new (fill : Fill) : Simulator :=
  { machine := .new fill, fill }

/-- Starts afresh. What was loaded is gone. -/
def reset (s : Simulator) : Simulator :=
  new s.fill

/-- Puts the words of an image in memory and points the program counter at the first. Words past
the end of memory are dropped. -/
def load (s : Simulator) (image : Image) : Simulator :=
  let ⟨machine, fill, count⟩ := s
  { machine :=
      { machine with
        memory := machine.memory.copyBlock image.origin image.words
        pc := image.origin }
    fill, count }

def fetch (s : Simulator) : Word :=
  s.machine.read s.machine.pc

/-! ## Running -/

section
variable {m : Type → Type} [Monad m] [Console m]

/-- Runs one instruction. -/
@[specialize] def step (s : Simulator) : m (Except Fault Status × Simulator) :=
  let word := s.fetch
  let ⟨machine, fill, count⟩ := s
  let machine := machine.jump (machine.pc + 1)
  match Instr.decode? word with
  | .error op => pure (.error (.reservedOpcode op), ⟨machine, fill, count⟩)
  | .ok (.trap vector) => do
    match ← machine.trap vector with
    | (.ok status, machine) => pure (.ok status, ⟨machine, fill, count + 1⟩)
    | (.error fault, machine) => pure (.error fault, ⟨machine, fill, count⟩)
  | .ok instr => pure (.ok .running, ⟨machine.execute instr, fill, count + 1⟩)

/-- Runs at most `steps` instructions, and looks at the simulator before each. The result is missing
if the machine has neither halted nor failed by then. -/
@[specialize] def runWatched (watch : Simulator → m Unit) :
    (steps : Nat) → Simulator → m (Option (Except Fault Unit) × Simulator)
  | 0, s => pure (none, s)
  | steps + 1, s => do
    watch s
    match ← s.step with
    | (.ok .running, s) => runWatched watch steps s
    | (.ok .halted, s) => pure (some (.ok ()), s)
    | (.error fault, s) => pure (some (.error fault), s)

/-- Runs at most `steps` instructions. The result is missing if the machine has neither halted nor
failed by then. -/
@[specialize] def runFor (steps : Nat) (s : Simulator) :
    m (Option (Except Fault Unit) × Simulator) :=
  runWatched (fun _ => pure ()) steps s

/-- Turns a missing result into the fault that the step limit was reached. -/
def orLimit (limit : Nat) : Option (Except Fault Unit) → Except Fault Unit
  | some result => result
  | none => .error (.stepLimit limit)

/-- Runs until the machine halts or fails. Not to have halted within `limit` instructions is a
fault. -/
@[specialize] def run (limit : Nat) (s : Simulator) : m (Except Fault Unit × Simulator) := do
  let (result, s) ← s.runFor limit
  return (orLimit limit result, s)

end

/-- Runs over a console that is a value until the machine halts or fails, however long that takes.
There is no result if the machine never does. -/
@[specialize] def runToEnd {σ : Type} [Console (StateM σ)] (s : Simulator) (console : σ) :
    Option ((Except Fault Unit × Simulator) × σ) := do
  match ← some (StateT.run (m := Id) s.step console) with
  | ((.ok .running, s), console) => s |>.runToEnd console
  | ((.ok .halted, s), console) => return ((.ok (), s), console)
  | ((.error fault, s), console) => return ((.error fault, s), console)
partial_fixpoint

/-- More instructions than any run can take. It stands for the absence of a limit. -/
def forever : Nat := 0x4000000000000000

/-! ## Showing -/

/-- The state of a simulator in one line, without its memory. -/
def describe (s : Simulator) : String :=
  let number (n : Nat) : String := Numeral.decimal n
  let registers := ", ".intercalate (s.machine.registers.toList.map fun w => number w.toNat)
  "Simulator \x7b pc: " ++ number s.machine.pc.toNat ++ ", cond: " ++ s.machine.cond.name
    ++ ", reg_file: RegFile([" ++ registers ++ "]), flags: SimFlags \x7b machine_init: "
    ++ s.fill.describe ++ " \x7d, instructions_run: " ++ number s.count ++ ", .. \x7d"

end Simulator

end Sixteen
