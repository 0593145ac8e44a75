import Sixteen.Proofs.Program.Execution
import Mathlib.Logic.Function.Iterate

/-!
# Steps of a simulator and its console

A simulator and a console that is a value make a system, which goes from state to state by itself. A
step may fail; the system goes on from there all the same, when it is asked to.

* `System.result`, `System.next` : how the next step ends, and the system after it;
* `System.Stepped`, `System.stepped` : what a step can do;
* `System.after`, `System.tally` : the system after some steps, and how many of them are of a kind;
* `System.succeeded`, `System.count_after` : only the steps that do not fail are counted.
-/

namespace Sixteen

/-! ## One step over a word -/

theorem Instr.eq_trap_of_opcode {i : Instr} (h : i.opcode = .trap) : ∃ v, i = .trap v := by
  cases i with
  | trap v => exact ⟨v, rfl⟩
  | _ => cases h

namespace Simulator

/-- The program counter is past the next instruction, and nothing else has happened. -/
def moved (s : Simulator) : Simulator :=
  { s with machine := s.machine.jump (s.machine.pc + 1) }

/-- An instruction was run, and left the machine `machine`. -/
def ran (s : Simulator) (machine : Machine) : Simulator :=
  { s with machine, count := s.count + 1 }

variable {m : Type → Type} [Monad m] [Console m] {s : Simulator}

theorem step_of_reserved {op : Opcode} (h : Instr.decode? s.fetch = .error op) :
    (s.step : m (Except Fault Status × Simulator)) =
      pure (.error (.reservedOpcode op), s.moved) := by
  unfold step
  simp only [h]
  rfl

theorem step_of_trap {v : Unsigned 8} (h : Instr.decode? s.fetch = .ok (.trap v)) :
    (s.step : m (Except Fault Status × Simulator)) = s.moved.machine.trap v >>= fun
      | (.ok status, machine) => pure (.ok status, s.ran machine)
      | (.error fault, machine) => pure (.error fault, { s with machine }) := by
  unfold step
  simp only [h]
  rfl

end Simulator

/-! ## Systems -/

/-- A simulator and its console. -/
@[ext] structure System (σ : Type) where
  simulator : Simulator
  console : σ

namespace System

variable {σ : Type} [Console (StateM σ)]

/-- The next step, with how it ends. -/
def step (x : System σ) : Except Fault Status × System σ :=
  let ((result, s), console) := StateT.run (m := Id) x.simulator.step x.console
  (result, ⟨s, console⟩)

/-- How the next step ends. -/
def result (x : System σ) : Except Fault Status :=
  x.step.1

/-- The system after the next step. -/
def next (x : System σ) : System σ :=
  x.step.2

/-- What a service does: how it ends, with the machine and the console that it leaves. -/
def serve (x : System σ) (service : Service) : (Except ConsoleError Status × Machine) × σ :=
  StateT.run (m := Id) (StateT.run service.perform.run x.simulator.moved.machine) x.console

/-- What a step can do: its result and the system after it. -/
inductive Stepped (x : System σ) : Except Fault Status → System σ → Prop
  | reserved {op : Opcode} (decoded : Instr.decode? x.simulator.fetch = .error op) :
    Stepped x (.error (.reservedOpcode op)) ⟨x.simulator.moved, x.console⟩
  /-- An instruction that is no trap. -/
  | plain {i : Instr} (decoded : Instr.decode? x.simulator.fetch = .ok i)
    (plain : i.opcode ≠ .trap) :
    Stepped x (.ok .running) ⟨x.simulator.ran (x.simulator.moved.machine.execute i), x.console⟩
  | unknown {v : Unsigned 8} (decoded : Instr.decode? x.simulator.fetch = .ok (.trap v))
    (unknown : Service.ofVector? v = none) :
    Stepped x (.error (.unknownTrap v)) ⟨x.simulator.moved, x.console⟩
  | served {v : Unsigned 8} {service : Service} {status : Status} {machine : Machine} {console : σ}
    (decoded : Instr.decode? x.simulator.fetch = .ok (.trap v))
    (found : Service.ofVector? v = some service)
    (served : x.serve service = ((.ok status, machine), console)) :
    Stepped x (.ok status) ⟨x.simulator.ran machine, console⟩
  /-- The console refuses what the service asks of it. -/
  | refused {v : Unsigned 8} {service : Service} {e : ConsoleError} {machine : Machine}
    {console : σ} (decoded : Instr.decode? x.simulator.fetch = .ok (.trap v))
    (found : Service.ofVector? v = some service)
    (refused : x.serve service = ((.error e, machine), console)) :
    Stepped x (.error (.console e)) ⟨{ x.simulator with machine }, console⟩

/-- A step over a trap that has a service. -/
theorem step_of_service {x : System σ} {v : Unsigned 8} {service : Service}
    (decoded : Instr.decode? x.simulator.fetch = .ok (.trap v))
    (found : Service.ofVector? v = some service) :
    x.step = match x.serve service with
      | ((.ok status, machine), console) => (.ok status, ⟨x.simulator.ran machine, console⟩)
      | ((.error e, machine), console) =>
        (.error (.console e), ⟨{ x.simulator with machine }, console⟩) := by
  have served : StateT.run (m := Id) (StateT.run service.perform.run x.simulator.moved.machine)
    x.console = x.serve service := rfl
  rw [step, Simulator.step_of_trap decoded, Machine.trap]
  simp only [found, StateT.run_bind, served]
  rcases x.serve service with ⟨⟨_ | status, machine⟩, console⟩ <;> rfl

theorem stepped (x : System σ) : x.Stepped x.result x.next := by
  suffices ∀ y, x.step = y → x.Stepped y.1 y.2 from this _ rfl
  intro y h
  cases decoded : Instr.decode? x.simulator.fetch with
  | error op =>
    rw [step, Simulator.step_of_reserved decoded] at h
    subst h
    exact .reserved decoded
  | ok i =>
    by_cases plain : i.opcode ≠ .trap
    · rw [step, Simulator.step_of_decode? decoded plain] at h
      subst h
      exact .plain decoded plain
    obtain ⟨v, rfl⟩ := Instr.eq_trap_of_opcode (not_not.1 plain)
    cases found : Service.ofVector? v with
    | none =>
      rw [step, Simulator.step_of_trap decoded, Machine.trap, found] at h
      subst h
      exact .unknown decoded found
    | some service =>
      rw [step_of_service decoded found] at h
      rcases served : x.serve service with ⟨⟨_ | status, machine⟩, console⟩
      · rw [served] at h
        subst h
        exact .refused decoded found served
      · rw [served] at h
        subst h
        exact .served decoded found served

/-- A step never reports that it is one too many. -/
theorem Stepped.ne_stepLimit {x y : System σ} {result : Except Fault Status}
    (h : x.Stepped result y) (limit : Nat) : result ≠ .error (.stepLimit limit) := by
  cases h <;> nofun

/-- A step is counted unless it fails. -/
theorem Stepped.count {x y : System σ} {result : Except Fault Status} (h : x.Stepped result y) :
    y.simulator.count = x.simulator.count + if result.isOk then 1 else 0 := by
  cases h <;> rfl

/-! ## Many steps -/

/-- The system after `n` steps. -/
def after (x : System σ) (n : Nat) : System σ :=
  next^[n] x

@[simp] theorem after_zero (x : System σ) : x.after 0 = x := rfl

theorem after_succ (x : System σ) (n : Nat) : x.after (n + 1) = (x.after n).next :=
  Function.iterate_succ_apply' next n x

theorem after_after (x : System σ) (m n : Nat) : (x.after m).after n = x.after (m + n) := by
  rw [after, after, after, Nat.add_comm, Function.iterate_add_apply]

/-- How many of the first `n` steps are from a system of which `p` holds. -/
def tally (x : System σ) (p : System σ → Bool) (n : Nat) : Nat :=
  (List.range n).countP fun i => p (x.after i)

theorem tally_succ (x : System σ) (p : System σ → Bool) (n : Nat) :
    x.tally p (n + 1) = x.tally p n + if p (x.after n) then 1 else 0 := by
  rw [tally, List.range_succ, List.countP_append, List.countP_singleton]
  rfl

/-- How many of the first `n` steps do not fail. -/
def succeeded (x : System σ) (n : Nat) : Nat :=
  x.tally (·.result.isOk) n

/-- The count grows by the number of steps that do not fail. -/
theorem count_after (x : System σ) (n : Nat) :
    (x.after n).simulator.count = x.simulator.count + x.succeeded n := by
  induction n with
  | zero => rfl
  | succ n ih =>
    rw [after_succ, (x.after n).stepped.count, ih, succeeded, succeeded, tally_succ, Nat.add_assoc]

end System

end Sixteen
