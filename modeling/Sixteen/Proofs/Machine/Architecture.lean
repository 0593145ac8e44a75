import Sixteen.Proofs.Instr.Canonical
import Sixteen.Proofs.Program.Execution

/-!
# The architecture

What a step does is said here over the bits of the fetched word alone: operands are fields of the
word, or its low bits in two's complement, and memory and registers are functions. The machine, which
decodes the word to an instruction first, does the same.

* `Architecture.State`, `Machine.state` : what a machine holds, as functions;
* `Architecture.step` : the step over a word;
* `Architecture.dispatch_cases` : what a word can change besides registers and the program counter;
* `Architecture.Frame`, `Architecture.frame_step` : what a step over a word leaves alone;
* `Machine.state_execute` : the instruction of a word does what the step over the word does;
* `Simulator.step_eq_architecture` : a step of a simulator over a word that is not reserved, and no
  trap.
-/

namespace Sixteen

namespace Architecture

/-! ## The step over a word -/

/-- What a machine holds. -/
@[ext] structure State where
  registers : Reg → Word
  memory : Word → Word
  pc : Word
  cond : Cond

/-- Sums wrap at the size of a word. -/
def sum (a b : Word) : Word :=
  BitVec.ofNat 16 ((a.toNat + b.toNat) % 65536)

def opcode (w : Word) : Nat :=
  (w.field 12 4).toNat

/-- The register that three bits of a word name. -/
def register (w : Word) (start : Nat) : Reg :=
  ⟨(w.field start 3).setWidth 3⟩

/-- The low bits of a word, in two's complement. -/
def signed (w : Word) (width : Nat) : Word :=
  (w.field 0 width).extend width

def flag (v : Word) : Cond :=
  if v = 0 then .zero else if v.bit 15 = 1 then .negative else .positive

/-- The bit of a condition code in the condition field of a branch. -/
def nzp : Cond → Word
  | .negative => 4
  | .zero => 2
  | .positive => 1

namespace State

/-- Writes a register and sets the condition code by what was written. -/
def put (s : State) (r : Reg) (v : Word) : State :=
  { s with registers := Function.update s.registers r v, cond := flag v }

def store (s : State) (address v : Word) : State :=
  { s with memory := Function.update s.memory address v }

theorem registers_put_self (s : State) (r : Reg) (v : Word) : (s.put r v).registers r = v := by
  simp [put]

theorem memory_store_of_ne {s : State} {a b v : Word} (h : b ≠ a) :
    (s.store a v).memory b = s.memory b := by
  simp [store, h]

end State

/-- The last operand of `add` and `and`. Bit 5 tells a number from a register. -/
def operand (w : Word) (s : State) : Word :=
  if w.bit 5 = 1 then signed w 5 else s.registers (register w 0)

/-- The address at an offset from the next instruction. -/
def near (w : Word) (s : State) : Word :=
  sum s.pc (signed w 9)

/-- The address at an offset from the one in a register. -/
def indexed (w : Word) (s : State) : Word :=
  sum (s.registers (register w 6)) (signed w 6)

/-- What is done over the word `w` when the program counter is past it. Traps are left to the
console. -/
def dispatch (w : Word) (s : State) : State :=
  match opcode w with
  | 0x0 =>
    if w.field 9 3 = 0 ∨ w.field 9 3 &&& nzp s.cond ≠ 0 then { s with pc := near w s } else s
  | 0x1 => s.put (register w 9) (sum (s.registers (register w 6)) (operand w s))
  | 0x2 => s.put (register w 9) (s.memory (near w s))
  | 0x3 => s.store (near w s) (s.registers (register w 9))
  | 0x4 =>
    -- Both of these read `s`, so the base is that before the call. Bit 11 tells the forms apart.
    { s with
      registers := Function.update s.registers ⟨7⟩ s.pc
      pc := if w.bit 11 = 1 then sum s.pc (signed w 11) else s.registers (register w 6) }
  | 0x5 => s.put (register w 9) (s.registers (register w 6) &&& operand w s)
  | 0x6 => s.put (register w 9) (s.memory (indexed w s))
  | 0x7 => s.store (indexed w s) (s.registers (register w 9))
  | 0x9 => s.put (register w 9) (~~~s.registers (register w 6))
  | 0xa => s.put (register w 9) (s.memory (s.memory (near w s)))
  | 0xb => s.store (s.memory (near w s)) (s.registers (register w 9))
  | 0xc => { s with pc := s.registers (register w 6) }
  | 0xe => s.put (register w 9) (near w s)
  | _ => s

/-- The step over the word `w`. -/
def step (w : Word) (s : State) : State :=
  dispatch w { s with pc := sum s.pc 1 }

/-! ## What a step leaves alone -/

/-- The opcodes that set the condition code: `add`, `and`, `not` and the loads. -/
def setters : List Nat :=
  [0x1, 0x5, 0x9, 0x2, 0xa, 0x6, 0xe]

/-- The opcodes that change memory. -/
def stores : List Nat :=
  [0x3, 0xb, 0x7]

/-- What the step over `w` from `s` to `t` leaves alone, and where branches and calls lead. -/
structure Frame (w : Word) (s t : State) : Prop where
  /-- The condition code is that of the register that was written, or stays. -/
  cond : t.cond = if opcode w ∈ setters then flag (t.registers (register w 9)) else s.cond
  memory : opcode w ∉ stores → t.memory = s.memory
  /-- Memory changes at one address at most. -/
  cell : ∃ a, ∀ b, b ≠ a → t.memory b = s.memory b
  /-- A branch on none of the conditions, or on all of them, is taken. -/
  branch : opcode w = 0x0 → w.field 9 3 = 0 ∨ w.field 9 3 = 7 →
    t.pc = sum (sum s.pc 1) (signed w 9)
  /-- A call through a register goes where the register led before the call. -/
  call : opcode w = 0x4 → w.bit 11 = 0 →
    t.pc = s.registers (register w 6) ∧ t.registers ⟨7⟩ = sum s.pc 1

variable {w : Word} {s : State}

/-- What is done over a word sets the condition code with a register, or changes a cell of memory, or
does neither. -/
theorem dispatch_cases (w : Word) (s : State) :
    (opcode w ∈ setters ∧ ∃ v, dispatch w s = s.put (register w 9) v) ∨
    (opcode w ∉ setters ∧ opcode w ∈ stores ∧ ∃ a v, dispatch w s = s.store a v) ∨
    (opcode w ∉ setters ∧ ∃ registers pc, dispatch w s = { s with registers, pc }) := by
  by_cases setter : opcode w ∈ setters
  · refine .inl ⟨setter, ?_⟩
    simp only [setters, List.mem_cons, List.not_mem_nil, or_false] at setter
    rcases setter with code | code | code | code | code | code | code <;>
      simp only [dispatch, code] <;> exact ⟨_, rfl⟩
  by_cases store : opcode w ∈ stores
  · refine .inr (.inl ⟨setter, store, ?_⟩)
    simp only [stores, List.mem_cons, List.not_mem_nil, or_false] at store
    rcases store with code | code | code <;> simp only [dispatch, code] <;> exact ⟨_, _, rfl⟩
  -- Branches, calls and jumps are left, and the words that nothing is done over.
  refine .inr (.inr ⟨setter, ?_⟩)
  unfold dispatch
  split
  case h_1 => split <;> exact ⟨_, _, rfl⟩
  case h_2 code | h_3 code | h_6 code | h_7 code | h_9 code | h_10 code | h_13 code =>
    exact absurd (by rw [code]; decide) setter
  case h_4 code | h_8 code | h_11 code => exact absurd (by rw [code]; decide) store
  all_goals exact ⟨_, _, rfl⟩

theorem cond_dispatch :
    (dispatch w s).cond =
      if opcode w ∈ setters then flag ((dispatch w s).registers (register w 9)) else s.cond := by
  obtain ⟨setter, v, eq⟩ | ⟨setter, -, a, v, eq⟩ | ⟨setter, registers, pc, eq⟩ := dispatch_cases w s
  · rw [if_pos setter, eq, State.registers_put_self]
    rfl
  · rw [if_neg setter, eq]
    rfl
  · rw [if_neg setter, eq]

theorem memory_dispatch (h : opcode w ∉ stores) : (dispatch w s).memory = s.memory := by
  obtain ⟨-, v, eq⟩ | ⟨-, store, -⟩ | ⟨-, registers, pc, eq⟩ := dispatch_cases w s
  · rw [eq]
    rfl
  · exact absurd store h
  · rw [eq]

theorem exists_memory_dispatch : ∃ a, ∀ b, b ≠ a → (dispatch w s).memory b = s.memory b := by
  obtain ⟨-, v, eq⟩ | ⟨-, -, a, v, eq⟩ | ⟨-, registers, pc, eq⟩ := dispatch_cases w s
  · exact ⟨0, fun b _ => by rw [eq]; rfl⟩
  · exact ⟨a, fun b hb => by rw [eq, State.memory_store_of_ne hb]⟩
  · exact ⟨0, fun b _ => by rw [eq]⟩

theorem pc_step_branch (code : opcode w = 0x0) (h : w.field 9 3 = 0 ∨ w.field 9 3 = 7) :
    (step w s).pc = sum (sum s.pc 1) (signed w 9) := by
  have all : ∀ c : Cond, 7 &&& nzp c ≠ 0 := by
    intro c
    cases c <;> decide
  simp only [step, dispatch, code]
  rw [if_pos]
  · rfl
  rcases h with none | every
  · exact .inl none
  · rw [every]
    exact .inr (all s.cond)

theorem step_call (code : opcode w = 0x4) (h : w.bit 11 = 0) :
    (step w s).pc = s.registers (register w 6) ∧ (step w s).registers ⟨7⟩ = sum s.pc 1 := by
  simp [step, dispatch, code, h]

theorem frame_step (w : Word) (s : State) : Frame w s (step w s) where
  cond := cond_dispatch
  memory := memory_dispatch
  cell := exists_memory_dispatch
  branch := pc_step_branch
  call := step_call

/-! ## Fields of a word and operands of an instruction -/

theorem opcode_eq (w : Word) : opcode w = (Opcode.ofWord w).bits.toNat := by
  rw [opcode, Opcode.ofWord_eq_iff.1 rfl, BitVec.toNat_setWidth_of_le (by omega)]

theorem sum_eq (a b : Word) : sum a b = a + b := by
  apply BitVec.eq_of_toNat_eq
  rw [sum, BitVec.toNat_ofNat, BitVec.toNat_add, Nat.mod_mod]

theorem register_eq (w : Word) (start : Nat) : register w start = w.reg start := by
  rw [register, Word.reg, Word.field, BitVec.setWidth_setWidth_of_le _ (by omega),
    BitVec.setWidth_eq]

theorem signed_eq {n : Nat} (h : n ≤ 16) :
    signed w n = (w.low n).toWord := by
  rw [signed, Word.extend, Word.field, BitVec.setWidth_setWidth_of_le _ h, BitVec.setWidth_eq]
  rfl

theorem bit_eq_one_iff {n : Nat} : w.bit n = 1 ↔ w.getLsbD n = true := by
  have lowest : ∀ b : BitVec 1, b.setWidth 16 = (1 : Word) ↔ b.getLsbD 0 = true := by decide
  rw [Word.bit, Word.field, lowest, BitVec.getLsbD_extractLsb']
  rfl

theorem flag_eq (v : Word) : flag v = Cond.ofWord v := by
  rw [flag, Cond.ofWord]
  simp only [bit_eq_one_iff]
  rfl

/-- A branch is taken by its condition byte if it is taken by its condition field. -/
theorem taken_field (w : Word) (c : Cond) :
    Branch.taken ((w.extractLsb' 9 3).setWidth 8) c = true ↔
      w.field 9 3 = 0 ∨ w.field 9 3 &&& nzp c ≠ 0 := by
  have all : ∀ b : BitVec 3, Branch.taken (b.setWidth 8) c = true ↔
      (b.setWidth 16 : Word) = 0 ∨ (b.setWidth 16 : Word) &&& nzp c ≠ 0 := by
    cases c <;> decide
  exact all _

end Architecture

/-! ## The machine -/

open Architecture

namespace Machine

variable {m : Machine}

def state (m : Machine) : State :=
  ⟨m.reg, m.read, m.pc, m.cond⟩

/-- Nothing of a machine is lost in its state. -/
theorem state_injective : Function.Injective state := by
  rintro ⟨⟨cells⟩, registers, pc, cond⟩ ⟨⟨cells'⟩, registers', pc', cond'⟩ h
  obtain ⟨same_registers, same_memory, rfl, rfl⟩ := State.mk.inj h
  obtain rfl : cells = cells' := by
    ext i hi
    have place : (BitVec.ofNat 16 i).toNat = i := Nat.mod_eq_of_lt hi
    have same := congrFun same_memory (BitVec.ofNat 16 i)
    simp only [read, Memory.read, place] at same
    rw [same]
  obtain rfl : registers = registers' := by
    ext i hi
    have place : Reg.number ⟨BitVec.ofNat 3 i⟩ = i := Nat.mod_eq_of_lt hi
    have same := congrFun same_registers ⟨BitVec.ofNat 3 i⟩
    simp only [reg, place] at same
    rw [same]
  rfl

theorem state_jump (a : Word) : (m.jump a).state = { m.state with pc := a } := rfl

theorem state_setReg (r : Reg) (v : Word) :
    (m.setReg r v).state = { m.state with registers := Function.update m.reg r v } := by
  have registers : (m.setReg r v).reg = Function.update m.reg r v := by
    funext s
    rw [reg_setReg, Function.update_apply]
    simp only [eq_comm]
  rw [state, registers]
  rfl

theorem state_assign (r : Reg) (v : Word) : (m.assign r v).state = m.state.put r v := by
  show { (m.setReg r v).state with cond := .ofWord v } = _
  rw [state_setReg, ← flag_eq]
  rfl

theorem state_write (a v : Word) : (m.write a v).state = m.state.store a v := by
  have memory : (m.write a v).read = Function.update m.read a v := by
    funext b
    rw [read, write, Memory.read_write, Function.update_apply]
    simp only [eq_comm]
    rfl
  rw [state, memory]
  rfl

theorem state_call (a : Word) : (m.call a).state =
    { m.state with registers := Function.update m.reg .link m.pc, pc := a } := by
  rw [call, state_jump, state_setReg]

theorem wordIn_source (w : Word) : w.source.wordIn m = operand w m.state := by
  rw [Word.source, operand]
  simp only [bit_eq_one_iff]
  split
  · rw [signed_eq (by omega)]
    rfl
  · rw [register_eq]
    rfl

theorem relative_low (w : Word) : m.relative (w.low 9) = near w m.state := by
  rw [near, sum_eq, signed_eq (by omega)]
  rfl

theorem based_low (w : Word) : m.based (w.reg 6) (w.low 6) = indexed w m.state := by
  rw [indexed, sum_eq, signed_eq (by omega), register_eq]
  rfl

/-- The instruction of a word does what is done over the word. -/
theorem state_execute {w : Word} {i : Instr} (h : Instr.decode? w = .ok i)
    (hi : i.opcode ≠ .trap) : (m.execute i).state = dispatch w m.state := by
  have code := opcode_eq w
  unfold Instr.decode? at h
  cases op : Opcode.ofWord w with simp only [op] at h code
  | br =>
    cases h
    simp only [execute, dispatch, code, taken_field, apply_ite state, relative_low]
    rfl
  | add | and | not | ld | ldi | ldr | lea =>
    cases h
    rw [execute, state_assign]
    simp only [dispatch, code, wordIn_source, relative_low, based_low, sum_eq, register_eq]
    rfl
  | st | sti | str =>
    cases h
    rw [execute, state_write]
    simp only [dispatch, code, relative_low, based_low, register_eq]
    rfl
  | jsr =>
    have offset : signed w 11 = (w.low 11).toWord := signed_eq (by omega)
    simp only [dispatch, code, bit_eq_one_iff, sum_eq, register_eq, offset]
    by_cases long : w.getLsbD 11 = true
    · rw [if_pos long] at h
      cases h
      rw [execute, state_call, if_pos long]
      rfl
    · rw [if_neg long] at h
      cases h
      rw [execute, state_call, if_neg long]
      rfl
  | jmp =>
    cases h
    simp only [execute, dispatch, code, register_eq]
    rfl
  | rti | res => cases h
  | trap =>
    cases h
    exact absurd rfl hi

end Machine

namespace Simulator

/-- A step over a word that is not reserved, and no trap, goes on, counts one instruction, and does to
the machine what the step over the bits of the word does. -/
theorem step_eq_architecture (s : Simulator) (rti : s.fetch.field 12 4 ≠ 0x8)
    (res : s.fetch.field 12 4 ≠ 0xd) (trap : s.fetch.field 12 4 ≠ 0xf) :
    ∃ machine : Machine,
      (∀ (m : Type → Type) [Monad m] [Console m],
        (s.step : m (Except Fault Status × Simulator)) =
          pure (.ok .running, { s with machine := machine, count := s.count + 1 })) ∧
      machine.state = Architecture.step s.fetch s.machine.state ∧
      Frame s.fetch s.machine.state machine.state := by
  obtain ⟨i, decoded⟩ : ∃ i, Instr.decode? s.fetch = .ok i := by
    cases decoded : Instr.decode? s.fetch with
    | ok i => exact ⟨i, rfl⟩
    | error op =>
      rcases Instr.decode?_eq_error_iff.1 decoded with ⟨eight, -⟩ | ⟨thirteen, -⟩
      · exact absurd eight rti
      · exact absurd thirteen res
  have plain : i.opcode ≠ .trap := by
    rw [Instr.opcode_of_decode? decoded]
    exact fun h => trap (Opcode.ofWord_eq_iff.1 h)
  have stepped : ((s.machine.jump (s.machine.pc + 1)).execute i).state =
      Architecture.step s.fetch s.machine.state := by
    rw [Machine.state_execute decoded plain, Machine.state_jump, Architecture.step, sum_eq]
    rfl
  refine ⟨_, fun m _ _ => step_of_decode? decoded plain, stepped, ?_⟩
  rw [stepped]
  exact frame_step _ _

/-- A call through the register that the return address is left in. -/
theorem step_eq_architecture_link :
    ∃ s : Simulator, s.fetch = 0x41c0 ∧
      (s.fetch.field 12 4 ≠ 0x8 ∧ s.fetch.field 12 4 ≠ 0xd ∧ s.fetch.field 12 4 ≠ 0xf) ∧
      s.machine.pc = 0x3000 ∧ s.machine.reg ⟨7⟩ = 0x4000 ∧
      ∃ machine : Machine,
        (∀ (m : Type → Type) [Monad m] [Console m],
          (s.step : m (Except Fault Status × Simulator)) =
            pure (.ok .running, { s with machine := machine, count := s.count + 1 })) ∧
        machine.pc = 0x4000 ∧ machine.reg ⟨7⟩ = 0x3001 := by
  let s : Simulator := {
    machine := ((Machine.new .zeroed).setReg ⟨7⟩ 0x4000).write 0x3000 0x41c0
    fill := .zeroed }
  have fetched : s.fetch = 0x41c0 := Memory.read_write_self _ _ _
  have old : s.machine.reg ⟨7⟩ = 0x4000 := by
    rw [Machine.reg_write, Machine.reg_setReg, if_pos rfl]
  have others : s.fetch.field 12 4 ≠ 0x8 ∧ s.fetch.field 12 4 ≠ 0xd ∧ s.fetch.field 12 4 ≠ 0xf := by
    rw [fetched]
    decide
  obtain ⟨machine, stepped, -, frame⟩ := step_eq_architecture s others.1 others.2.1 others.2.2
  obtain ⟨pc, link⟩ := frame.call (by rw [fetched]; decide) (by rw [fetched]; decide)
  refine ⟨s, fetched, others, rfl, old, machine, stepped, ?_, link⟩
  calc machine.pc = s.machine.reg (register s.fetch 6) := pc
    _ = s.machine.reg ⟨7⟩ := by rw [fetched, register_eq]; rfl
    _ = 0x4000 := old

end Simulator

end Sixteen
