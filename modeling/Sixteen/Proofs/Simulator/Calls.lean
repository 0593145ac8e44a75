import Sixteen.Proofs.Simulator.Steps

/-!
# What services ask of a console

A service asks a console for a byte, gives it bytes, or does both one after the other. It goes on
with what the console answers, and ends as soon as the console refuses. What it has done to the
machine by then stays, so it matters that a service writes a register behind its last call only.

* `Console.read`, `Console.write` : one call, with the console after it;
* `Service.bytes?`, `Service.status` : the bytes that a service writes if it does nothing else, and
  how it ends then;
* `Service.call`, `Service.call_bind` : a computation on a machine and a console, part by part;
* `Service.call_perform_of_bytes` : a service that only writes, on a machine of its own;
* `System.step_of_reserved`, `System.step_of_plain`, `System.step_of_unknown` : the steps that make
  no call;
* `System.serve_of_bytes`, `System.serve_getc`, `System.serve_enter` : every service by its calls;
* `System.machine_of_serve` : what a service that succeeds can do to a machine;
* `System.Refuses`, `System.Refuses.serve`, `System.refuses_of_serve` : the call that a service fails
  with, and that the machine is untouched then.
-/

namespace Sixteen

variable {σ : Type}

/-! ## Calls -/

namespace Console

variable [Console (StateM σ)]

/-- Asks for a byte. -/
def read (console : σ) : Except ConsoleError UInt8 × σ :=
  StateT.run (m := Id) Console.readByte console

/-- Gives bytes. -/
def write (bytes : List UInt8) (console : σ) : Except ConsoleError Unit × σ :=
  StateT.run (m := Id) (Console.writeBytes bytes) console

end Console

namespace Service

/-! ## Calls one after the other -/

section
variable {α β : Type}

/-- A computation on a machine, over a console that is a value. -/
def call (x : Serving (StateM σ) α) (m : Machine) (console : σ) :
    (Except ConsoleError α × Machine) × σ :=
  StateT.run (m := Id) (StateT.run x.run m) console

/-- The first part that is refused ends the computation, and leaves the machine and the console as
they are then. -/
theorem call_bind (x : Serving (StateM σ) α) (f : α → Serving (StateM σ) β) (m : Machine)
    (console : σ) :
    call (x >>= f) m console = match call x m console with
      | ((.ok a, m), console) => call (f a) m console
      | ((.error e, m), console) => ((.error e, m), console) := by
  have first : StateT.run (m := Id) (StateT.run x.run m) console = call x m console := rfl
  rw [call, ExceptT.run_bind, StateT.run_bind, StateT.run_bind, first]
  rcases call x m console with ⟨⟨_ | a, m⟩, console⟩ <;> rfl

theorem call_pure (a : α) (m : Machine) (console : σ) :
    call (pure a) m console = ((.ok a, m), console) := rfl

theorem call_get (m : Machine) (console : σ) :
    call get m console = ((.ok m, m), console) := rfl

theorem call_modify (f : Machine → Machine) (m : Machine) (console : σ) :
    call (modify f) m console = ((.ok (), f m), console) := rfl

variable [Console (StateM σ)]

/-- The calls of a console leave the machine alone. -/
theorem call_readByte (m : Machine) (console : σ) :
    call readByte m console = (((Console.read console).1, m), (Console.read console).2) := rfl

theorem call_writeBytes (bytes : List UInt8) (m : Machine) (console : σ) :
    call (writeBytes bytes) m console =
      (((Console.write bytes console).1, m), (Console.write bytes console).2) := rfl

end

/-- The bytes that a service writes, if this is all that it does. -/
def bytes? (m : Machine) : Service → Option (List UInt8)
  | putc => some [(m.reg .zero).lowByte]
  | puts => some (m.memory.string Word.plain (m.reg .zero))
  | putsp => some (m.memory.string Word.packed (m.reg .zero))
  | halt => some farewell
  | getc | enter => none

/-- How a service ends if the console does not refuse. -/
def status : Service → Status
  | halt => .halted
  | _ => .running

/-- A service that writes does so in one call, and leaves the machine alone. -/
theorem call_perform_of_bytes [Console (StateM σ)] {m : Machine} {service : Service}
    {bytes : List UInt8} (h : service.bytes? m = some bytes) (console : σ) :
    call service.perform m console = match Console.write bytes console with
      | (.ok (), console) => ((.ok service.status, m), console)
      | (.error e, console) => ((.error e, m), console) := by
  cases service with
  | getc | enter => cases h
  | putc | puts | putsp | halt =>
    cases h
    simp only [perform, call_bind, call_get, call_writeBytes]
    rcases Console.write _ console with ⟨_ | ⟨⟩, console⟩ <;> rfl

end Service

namespace System

open Service (call_bind call_pure call_modify call_readByte call_writeBytes)

variable [Console (StateM σ)] {x : System σ} {service : Service}

/-! ## Steps that ask for nothing -/

theorem step_of_reserved {op : Opcode} (decoded : Instr.decode? x.simulator.fetch = .error op) :
    x.step = (.error (.reservedOpcode op), ⟨x.simulator.moved, x.console⟩) := by
  rw [step, Simulator.step_of_reserved decoded]
  rfl

theorem step_of_plain {i : Instr} (decoded : Instr.decode? x.simulator.fetch = .ok i)
    (plain : i.opcode ≠ .trap) :
    x.step =
      (.ok .running, ⟨x.simulator.ran (x.simulator.moved.machine.execute i), x.console⟩) := by
  rw [step, Simulator.step_of_decode? decoded plain]
  rfl

theorem step_of_unknown {v : Unsigned 8}
    (decoded : Instr.decode? x.simulator.fetch = .ok (.trap v))
    (unknown : Service.ofVector? v = none) :
    x.step = (.error (.unknownTrap v), ⟨x.simulator.moved, x.console⟩) := by
  rw [step, Simulator.step_of_trap decoded, Machine.trap, unknown]
  rfl

/-! ## Services -/

theorem serve_eq_call (x : System σ) (service : Service) :
    x.serve service = Service.call service.perform x.simulator.moved.machine x.console := rfl

/-- A service that writes does so in one call, and leaves the machine alone. -/
theorem serve_of_bytes {bytes : List UInt8}
    (h : service.bytes? x.simulator.moved.machine = some bytes) :
    x.serve service = match Console.write bytes x.console with
      | (.ok (), console) => ((.ok service.status, x.simulator.moved.machine), console)
      | (.error e, console) => ((.error e, x.simulator.moved.machine), console) :=
  Service.call_perform_of_bytes h x.console

theorem serve_getc (x : System σ) :
    x.serve .getc = match Console.read x.console with
      | (.ok b, console) =>
        ((.ok .running, x.simulator.moved.machine.setReg .zero (.ofByte b)), console)
      | (.error e, console) => ((.error e, x.simulator.moved.machine), console) := by
  rw [serve_eq_call, Service.perform, call_bind, call_readByte]
  rcases Console.read x.console with ⟨_ | b, console⟩ <;> rfl

/-- The register is written last, when the console has taken everything. -/
theorem serve_enter (x : System σ) :
    x.serve .enter = match Console.write Service.prompt x.console with
      | (.error e, console) => ((.error e, x.simulator.moved.machine), console)
      | (.ok (), console) => match Console.read console with
        | (.error e, console) => ((.error e, x.simulator.moved.machine), console)
        | (.ok b, console) => match Console.write [b, 0x0a] console with
          | (.error e, console) => ((.error e, x.simulator.moved.machine), console)
          | (.ok (), console) =>
            ((.ok .running, x.simulator.moved.machine.setReg .zero (.ofByte b)), console) := by
  simp only [serve_eq_call, Service.perform, call_bind, call_readByte, call_writeBytes, call_modify,
    call_pure]
  rcases Console.write Service.prompt x.console with ⟨_ | ⟨⟩, console⟩
  · rfl
  rcases read : Console.read console with ⟨_ | b, console'⟩ <;> simp only [read]
  rcases Console.write [b, 0x0a] console' with ⟨_ | ⟨⟩, console⟩ <;> rfl

/-- A service that succeeds leaves a byte in the register of services, or leaves the machine
alone. -/
theorem machine_of_serve {status : Status} {machine : Machine} {console : σ}
    (h : x.serve service = ((.ok status, machine), console)) :
    status = service.status ∧ (machine = x.simulator.moved.machine ∨
      ∃ b, machine = x.simulator.moved.machine.setReg .zero (.ofByte b)) := by
  cases bytes : service.bytes? x.simulator.moved.machine with
  | some _ =>
    rw [serve_of_bytes bytes] at h
    split at h <;> cases h
    exact ⟨rfl, .inl rfl⟩
  | none =>
    cases service with
    | getc =>
      rw [serve_getc] at h
      split at h <;> cases h
      exact ⟨rfl, .inr ⟨_, rfl⟩⟩
    | enter =>
      rw [serve_enter] at h
      split at h
      · cases h
      split at h
      · cases h
      split at h <;> cases h
      exact ⟨rfl, .inr ⟨_, rfl⟩⟩
    | putc | puts | putsp | halt => cases bytes

/-! ## Refusals -/

/-- The console takes some of the calls of a service and then refuses one with the error `e`, which
leaves the console `left`. -/
inductive Refuses (m : Machine) (console : σ) : Service → (e : ConsoleError) → (left : σ) → Prop
  | input {e : ConsoleError} {left : σ} (refused : Console.read console = (.error e, left)) :
    Refuses m console .getc e left
  | output {service : Service} {bytes : List UInt8} {e : ConsoleError} {left : σ}
    (writes : service.bytes? m = some bytes)
    (refused : Console.write bytes console = (.error e, left)) : Refuses m console service e left
  | prompt {e : ConsoleError} {left : σ}
    (refused : Console.write Service.prompt console = (.error e, left)) :
    Refuses m console .enter e left
  | answer {e : ConsoleError} {prompted left : σ}
    (prompt : Console.write Service.prompt console = (.ok (), prompted))
    (refused : Console.read prompted = (.error e, left)) : Refuses m console .enter e left
  | echo {e : ConsoleError} {b : UInt8} {prompted answered left : σ}
    (prompt : Console.write Service.prompt console = (.ok (), prompted))
    (answer : Console.read prompted = (.ok b, answered))
    (refused : Console.write [b, 0x0a] answered = (.error e, left)) :
    Refuses m console .enter e left

theorem Refuses.serve {e : ConsoleError} {left : σ}
    (h : Refuses x.simulator.moved.machine x.console service e left) :
    x.serve service = ((.error e, x.simulator.moved.machine), left) := by
  cases h with
  | input refused => rw [serve_getc, refused]
  | output writes refused => rw [serve_of_bytes writes, refused]
  | prompt refused => rw [serve_enter, refused]
  | answer prompt refused => simp only [serve_enter, prompt, refused]
  | echo prompt answer refused => simp only [serve_enter, prompt, answer, refused]

/-- Whichever call is refused, the machine is as it was before the service. -/
theorem refuses_of_serve {e : ConsoleError} {machine : Machine} {left : σ}
    (h : x.serve service = ((.error e, machine), left)) :
    machine = x.simulator.moved.machine ∧
      Refuses x.simulator.moved.machine x.console service e left := by
  cases bytes : service.bytes? x.simulator.moved.machine with
  | some _ =>
    rw [serve_of_bytes bytes] at h
    split at h <;> cases h
    next refused => exact ⟨rfl, .output bytes refused⟩
  | none =>
    cases service with
    | getc =>
      rw [serve_getc] at h
      split at h <;> cases h
      next refused => exact ⟨rfl, .input refused⟩
    | enter =>
      rw [serve_enter] at h
      split at h
      · next refused =>
        cases h
        exact ⟨rfl, .prompt refused⟩
      next prompt =>
      split at h
      · next refused =>
        cases h
        exact ⟨rfl, .answer prompt refused⟩
      next answer =>
      split at h <;> cases h
      next refused => exact ⟨rfl, .echo prompt answer refused⟩
    | putc | puts | putsp | halt => cases bytes

end System

end Sixteen
