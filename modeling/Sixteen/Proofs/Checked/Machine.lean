import Sixteen.Proofs.Checked.Instr
import Sixteen.Proofs.Simulator.Failing

/-!
# Steps under checks

Memory and registers are read and written by index, the condition code is set by a bit, the
characters of a packed string are shifted out of their words, and the number of instructions is
raised by one. A console is called in between, so a step under checks runs over a console as a step
does.

* `Checked.execute` : an instruction;
* `Checked.string` : a string in memory;
* `Checked.perform`, `Checked.trap` : a service over a console;
* `Checked.step` : one instruction of a simulator.

As long as one more instruction can be counted, no check fails and a step under checks is a step:
`Checked.step_eq`.
-/

namespace Sixteen.Checked

/-! ## Memory and registers -/

def read (m : Machine) (address : Word) : Checked Word :=
  get m.memory.cells address.toNat

def write (m : Machine) (address w : Word) : Checked Machine := do
  return { m with memory := ⟨← set m.memory.cells address.toNat w⟩ }

def reg (m : Machine) (r : Reg) : Checked Word :=
  get m.registers r.number

def setReg (m : Machine) (r : Reg) (w : Word) : Checked Machine := do
  return { m with registers := ← set m.registers r.number w }

def condOf (w : Word) : Checked Cond := do
  if w = 0 then return .zero
  else if (← bit w 15) = 1 then return .negative
  else return .positive

/-- Writes a register and sets the condition code by the word. -/
def assign (m : Machine) (r : Reg) (w : Word) : Checked Machine := do
  let m ← setReg m r w
  return { m with cond := ← condOf w }

theorem read_eq (m : Machine) (address : Word) : read m address = .ok (m.read address) :=
  get_eq address.toNat_lt_memorySize

theorem write_eq (m : Machine) (address w : Word) :
    write m address w = .ok (m.write address w) := by
  rw [write, set_eq address.toNat_lt_memorySize]
  rfl

theorem reg_eq (m : Machine) (r : Reg) : reg m r = .ok (m.reg r) :=
  get_eq r.number_lt

theorem setReg_eq (m : Machine) (r : Reg) (w : Word) : setReg m r w = .ok (m.setReg r w) := by
  rw [setReg, set_eq r.number_lt]
  rfl

theorem condOf_eq (w : Word) : condOf w = .ok (.ofWord w) := by
  rw [condOf, bit_eq w (by decide), Cond.ofWord, Word.isNegative, BitVec.msb_eq_getLsbD_last]
  simp only [ok_bind, Architecture.bit_eq_one_iff]
  split
  · rfl
  · split <;> rfl

theorem assign_eq (m : Machine) (r : Reg) (w : Word) : assign m r w = .ok (m.assign r w) := by
  rw [assign, setReg_eq, ok_bind, condOf_eq]
  rfl

/-! ## Instructions -/

def wordIn (m : Machine) : Source 5 → Checked Word
  | .imm value => return value.toWord
  | .reg r => reg m r

/-- The machine after an instruction. A trap is left to the console. -/
def execute (m : Machine) : Instr → Checked Machine
  | .br cond offset => return if cond.taken m.cond then m.jump (m.relative offset) else m
  | .add dst src1 src2 => do assign m dst ((← reg m src1) + (← wordIn m src2))
  | .ld dst offset => do assign m dst (← read m (m.relative offset))
  | .st src offset => do write m (m.relative offset) (← reg m src)
  | .jsr offset => return (← setReg m .link m.pc).jump (m.relative offset)
  | .jsrr base => do
    let target ← reg m base
    return (← setReg m .link m.pc).jump target
  | .and dst src1 src2 => do assign m dst ((← reg m src1) &&& (← wordIn m src2))
  | .ldr dst base offset => do assign m dst (← read m ((← reg m base) + offset.toWord))
  | .str src base offset => do write m ((← reg m base) + offset.toWord) (← reg m src)
  | .not dst src => do assign m dst (~~~(← reg m src))
  | .ldi dst offset => do assign m dst (← read m (← read m (m.relative offset)))
  | .sti src offset => do write m (← read m (m.relative offset)) (← reg m src)
  | .jmp base => return m.jump (← reg m base)
  | .lea dst offset => assign m dst (m.relative offset)
  | .trap _ => return m

theorem wordIn_eq (m : Machine) (s : Source 5) : wordIn m s = .ok (s.wordIn m) := by
  cases s with
  | imm value => rfl
  | reg r => exact reg_eq m r

theorem execute_eq (m : Machine) (i : Instr) : execute m i = .ok (m.execute i) := by
  cases i <;>
    simp only [execute, reg_eq, setReg_eq, read_eq, write_eq, assign_eq, wordIn_eq, ok_bind,
      pure_eq] <;>
    rfl

/-! ## Strings in memory -/

/-- The two characters of a word, the one in the low byte first. -/
def packed (w : Word) : Checked (List Word) := do
  return [w &&& 0xff, ← shiftRight w 8]

/-- The characters of at most `count` words from an address up, after the characters `done`. -/
def stringFrom (m : Machine) (unpack : Word → Checked (List Word)) :
    (count : Nat) → (address : Word) → (done : Array UInt8) → Checked (Array UInt8)
  | 0, _, done => return done
  | count + 1, address, done => do
    let characters ← unpack (← read m address)
    let kept := characters.takeWhile (· ≠ 0)
    let done := done ++ kept.map Word.lowByte
    if kept.length = characters.length then stringFrom m unpack count (address + 1) done
    else return done

/-- The characters of the string that register zero points at. -/
def string (m : Machine) (unpack : Word → Checked (List Word)) : Checked (List UInt8) := do
  return (← stringFrom m unpack memorySize (← reg m .zero) #[]).toList

theorem packed_eq (w : Word) : packed w = .ok w.packed := by
  rw [packed, shiftRight_eq w (by decide)]
  rfl

theorem stringFrom_eq {unpack : Word → Checked (List Word)} {f : Word → List Word}
    (same : ∀ w, unpack w = .ok (f w)) (m : Machine) (count : Nat) (address : Word)
    (done : Array UInt8) :
    stringFrom m unpack count address done = .ok (m.memory.stringFrom f count address done) := by
  induction count generalizing address done with
  | zero => rfl
  | succ count ih =>
    rw [stringFrom, read_eq, ok_bind, same, ok_bind, Memory.stringFrom]
    dsimp only
    split
    · next whole =>
      rw [ih]
      exact congrArg Except.ok (if_pos whole).symm
    · next ends => exact congrArg Except.ok (if_neg ends).symm

theorem string_eq {unpack : Word → Checked (List Word)} {f : Word → List Word}
    (same : ∀ w, unpack w = .ok (f w)) (m : Machine) :
    string m unpack = .ok (m.memory.string f (m.reg .zero)) := by
  rw [string, reg_eq, ok_bind, stringFrom_eq same]
  rfl

/-! ## Computations over a console -/

section
variable {m : Type → Type} {α β : Type}

/-- Computations are the same if they do the same on every machine. -/
theorem serving_ext {x y : Serving (ExceptT Violation m) α}
    (same : ∀ machine, (StateT.run x.run machine).run = (StateT.run y.run machine).run) : x = y :=
  ExceptT.ext (StateT.ext fun machine => ExceptT.ext (same machine))

variable [Monad m]

/-- A computation over a console, in which no check can fail. -/
def unchecked (x : Serving m α) : Serving (ExceptT Violation m) α :=
  ExceptT.mk fun machine => ExceptT.lift (StateT.run x.run machine)

theorem run_unchecked (x : Serving m α) (machine : Machine) :
    (StateT.run (unchecked x).run machine).run = Except.ok <$> StateT.run x.run machine :=
  ExceptT.run_lift _

/-- A check that holds is a computation without effects. -/
theorem lift_ok (a : α) : (liftM (Except.ok a : Checked α) : ExceptT Violation m α) = pure a := rfl

variable [LawfulMonad m]

theorem unchecked_pure (a : α) : unchecked (m := m) (pure a) = pure a := by
  refine serving_ext fun machine => ?_
  rw [run_unchecked]
  simp

theorem unchecked_bind (x : Serving m α) (f : α → Serving m β) :
    unchecked (x >>= f) = unchecked x >>= fun a => unchecked (f a) := by
  refine serving_ext fun machine => ?_
  simp only [run_unchecked, ExceptT.run_bind, StateT.run_bind, map_bind, bind_map_left]
  refine bind_congr fun r => ?_
  obtain ⟨a | e, machine⟩ := r
  · simp
  · simp [run_unchecked]

theorem run_get (machine : Machine) :
    StateT.run (MonadState.get : Serving m Machine).run machine = pure (.ok machine, machine) :=
  pure_bind _ _

theorem run_set (machine machine' : Machine) :
    StateT.run (MonadState.set machine' : Serving m PUnit).run machine = pure (.ok ⟨⟩, machine') :=
  pure_bind _ _

theorem run_modify (f : Machine → Machine) (machine : Machine) :
    StateT.run (modify f : Serving m PUnit).run machine = pure (.ok ⟨⟩, f machine) :=
  pure_bind _ _

theorem unchecked_get : unchecked (m := m) MonadState.get = MonadState.get := by
  refine serving_ext fun machine => ?_
  rw [run_unchecked, run_get, run_get, map_pure]
  rfl

/-- A machine is changed by reading it and writing it back. -/
theorem unchecked_modify (f : Machine → Machine) :
    unchecked (m := m) (modify f) =
      MonadState.get >>= fun machine => MonadState.set (f machine) := by
  refine serving_ext fun machine => ?_
  simp only [run_unchecked, ExceptT.run_bind, StateT.run_bind, run_get, run_set, run_modify,
    pure_bind, map_pure]
  rfl

theorem lift_lift_ok (a : α) :
    (liftM (Except.ok a : Checked α) : Serving (ExceptT Violation m) α) = pure a := by
  refine serving_ext fun machine => ?_
  simp [liftM, monadLift, MonadLift.monadLift]

/-- Writes a byte to the register of services. -/
def answer (b : UInt8) : Serving (ExceptT Violation m) Unit := do
  let machine ← MonadState.get
  MonadState.set (← setReg machine .zero (.ofByte b))

theorem answer_eq (b : UInt8) :
    answer (m := m) b = unchecked (modify (·.setReg .zero (.ofByte b))) := by
  simp only [answer, setReg_eq, lift_lift_ok, pure_bind, unchecked_modify]

end

/-! ## Services -/

variable {m : Type → Type} [Monad m] [Console m]

/-- A console can be used under checks as it can be without them. -/
instance : Console (ExceptT Violation m) where
  readByte := ExceptT.lift Console.readByte
  writeBytes bytes := ExceptT.lift (Console.writeBytes bytes)

open Service (readByte writeBytes)

def perform : Service → Serving (ExceptT Violation m) Status
  | .getc => do
    let b ← readByte
    answer b
    return .running
  | .putc => do
    let machine ← MonadState.get
    writeBytes [(← reg machine .zero).lowByte]
    return .running
  | .puts => do
    let machine ← MonadState.get
    writeBytes (← string machine fun w => return w.plain)
    return .running
  | .enter => do
    writeBytes Service.prompt
    let b ← readByte
    writeBytes [b, 0x0a]
    answer b
    return .running
  | .putsp => do
    let machine ← MonadState.get
    writeBytes (← string machine packed)
    return .running
  | .halt => do
    writeBytes Service.farewell
    return .halted

/-- The service whose number is in the low byte of a word, if it has one. -/
def trap (machine : Machine) (w : Word) :
    ExceptT Violation m (Except Fault Status × Machine) := do
  let vector : Unsigned 8 := ⟨(← field w 0 8).setWidth 8⟩
  match Service.ofVector? vector with
  | some service =>
    let (result, machine) ← StateT.run (perform service).run machine
    return (result.mapError .console, machine)
  | none => return (.error (.unknownTrap vector), machine)

variable [LawfulMonad m]

theorem unchecked_readByte : unchecked (m := m) readByte = readByte := by
  refine serving_ext fun machine => ?_
  rw [run_unchecked]
  simp [readByte, Console.readByte, Except.map]

theorem unchecked_writeBytes (bytes : List UInt8) :
    unchecked (m := m) (writeBytes bytes) = writeBytes bytes := by
  refine serving_ext fun machine => ?_
  rw [run_unchecked]
  simp [writeBytes, Console.writeBytes, Except.map]

theorem perform_eq (service : Service) : perform service = unchecked (m := m) service.perform := by
  have plain (machine : Machine) : string machine (fun w => return w.plain) =
      .ok (machine.memory.string Word.plain (machine.reg .zero)) := string_eq (fun _ => rfl) machine
  have packed := string_eq packed_eq
  cases service <;>
    simp only [perform, Service.perform, unchecked_bind, unchecked_pure, unchecked_get,
      unchecked_readByte, unchecked_writeBytes, answer_eq, reg_eq, plain, packed, lift_lift_ok,
      pure_bind]

theorem trap_eq (machine : Machine) (w : Word) :
    trap (m := m) machine w = ExceptT.lift (machine.trap ⟨w.extractLsb' 0 8⟩) := by
  refine ExceptT.ext ?_
  rw [trap, field_eq w (by decide), lift_ok, pure_bind, setWidth_field w (by decide),
    BitVec.setWidth_eq, Machine.trap]
  cases found : Service.ofVector? ⟨w.extractLsb' 0 8⟩ with
  | none => simp [found]
  | some service => simp [found, perform_eq, run_unchecked, Except.map]

/-! ## Steps -/

/-- Runs one instruction, whose text goes to the log before it is executed. -/
def step (s : Simulator) : ExceptT Violation m (Except Fault Status × Simulator) := do
  let ⟨machine, fill, count⟩ := s
  let word ← read machine machine.pc
  let machine := machine.jump (machine.pc + 1)
  match ← decode? word with
  | .error op => return (.error (.reservedOpcode op), ⟨machine, fill, count⟩)
  | .ok instr =>
    let _ ← text instr
    match instr with
    | .trap _ =>
      match ← trap machine word with
      | (.ok status, machine) => return (.ok status, ⟨machine, fill, ← natural 64 (count + 1)⟩)
      | (.error fault, machine) => return (.error fault, ⟨machine, fill, count⟩)
    | instr =>
      let machine ← execute machine instr
      return (.ok .running, ⟨machine, fill, ← natural 64 (count + 1)⟩)

theorem vector_of_decode? {w : Word} {v : Unsigned 8} (h : Instr.decode? w = .ok (.trap v)) :
    v = ⟨w.extractLsb' 0 8⟩ := by
  have number := (Instr.decode?_eq_trap_iff.1 h).2
  rw [Word.toNat_field_vector] at number
  exact congrArg Unsigned.mk (BitVec.eq_of_toNat_eq number)

/-- A step under checks is a step, as long as the instructions can be counted. -/
theorem step_eq {s : Simulator} (h : s.count < 2 ^ 64 - 1) :
    (step s : ExceptT Violation m _).run = Except.ok <$> s.step := by
  have raised : natural 64 (s.count + 1) = .ok (s.count + 1) := natural_eq (by omega) (by omega)
  have fetched : read s.machine s.machine.pc = .ok s.fetch := read_eq _ _
  rw [step]
  simp only [fetched, decode?_eq, text_eq, execute_eq, raised, lift_ok, pure_bind]
  cases decoded : Instr.decode? s.fetch with
  | error op =>
    rw [Simulator.step_of_reserved decoded, map_pure]
    rfl
  | ok i =>
    cases i with
    | trap v =>
      rw [Simulator.step_of_trap decoded, trap_eq, ← vector_of_decode? decoded]
      simp only [ExceptT.run_bind, ExceptT.run_lift, bind_map_left, map_bind]
      refine bind_congr fun r => ?_
      rcases r with ⟨fault | status, machine⟩ <;>
        · dsimp only
          rw [map_pure]
          rfl
    | _ =>
      rw [Simulator.step_of_decode? decoded (by rintro ⟨⟩), map_pure]
      rfl

end Sixteen.Checked
