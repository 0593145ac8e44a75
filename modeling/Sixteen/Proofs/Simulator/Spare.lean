import Sixteen.Proofs.Simulator.Failing
import Sixteen.Proofs.Machine.Architecture

/-!
# Bits that no step depends on

Several words may be decoded as one instruction. A system whose next word is replaced by another of
these takes the same step, up to the word that was replaced: an instruction that loads or stores has
only one word, and of the others only the services that write a string look at memory at all. Those
may come across the word itself. The one that writes a character for each word only sees the low
byte, which holds the vector; the one that writes both bytes may write the other one too.

* `Instr.usesMemory`, `Instr.eq_of_usesMemory` : the instructions that have only one word;
* `Instr.store?`, `Machine.memory_execute` : what an instruction stores, and where;
* `Machine.execute_withMemory` : the other instructions, on a machine with another memory;
* `Simulator.AgreeOff` : simulators that differ in one word of memory at most;
* `System.Indifferent`, `System.indifferent` : one step.
-/

namespace Sixteen

/-! ## Instructions that look at memory -/

namespace Instr

variable {w : Word} {i : Instr}

/-- The instruction loads or stores. -/
def usesMemory : Instr → Bool
  | ld .. | st .. | ldr .. | str .. | ldi .. | sti .. => true
  | _ => false

/-- The address that an instruction stores at, and the word that it stores there. -/
def store? (m : Machine) : Instr → Option (Word × Word)
  | st src offset => some (m.relative offset, m.reg src)
  | str src base offset => some (m.based base offset, m.reg src)
  | sti src offset => some (m.read (m.relative offset), m.reg src)
  | _ => none

theorem store?_of_free (m : Machine) (free : i.usesMemory = false) : i.store? m = none := by
  cases i with
  | st | str | sti => cases free
  | _ => rfl

/-- The layout of an instruction that loads or stores uses every bit. -/
theorem encode_of_usesMemory (h : decode? w = .ok i) (uses : i.usesMemory = true) :
    i.encode = w := by
  refine encode_eq_of_spareFixed h fun f hf => ?_
  rw [Word.spare, ← opcode_of_decode? h] at hf
  cases i with
  | ld | st | ldr | str | ldi | sti => cases hf
  | _ => cases uses

theorem eq_of_usesMemory {w' : Word} (h : decode? w = .ok i) (h' : decode? w' = .ok i)
    (uses : i.usesMemory = true) : w = w' :=
  (encode_of_usesMemory h uses).symm.trans (encode_of_usesMemory h' uses)

end Instr

namespace Machine

variable {i : Instr}

def withMemory (m : Machine) (memory : Memory) : Machine :=
  { m with memory }

/-- Nothing but a store changes memory. -/
theorem memory_execute (m : Machine) (i : Instr) : (m.execute i).memory =
    match i.store? m with
    | some (address, word) => m.memory.write address word
    | none => m.memory := by
  cases i with
  | br =>
    rw [execute]
    split <;> rfl
  | _ => rfl

/-- An instruction that neither loads nor stores does the same over any memory. -/
theorem execute_withMemory (m : Machine) (memory : Memory) (free : i.usesMemory = false) :
    (m.withMemory memory).execute i = (m.execute i).withMemory memory := by
  cases i with
  | ld | st | ldr | str | ldi | sti => cases free
  | br cond offset =>
    show (if cond.taken m.cond then _ else _) = withMemory (if cond.taken m.cond then _ else _) _
    split <;> rfl
  | add _ _ src2 | and _ _ src2 => cases src2 <;> rfl
  | _ => rfl

end Machine

/-! ## Simulators that differ in one word -/

namespace Simulator

/-- Two simulators are the same but for the word at an address. -/
structure AgreeOff (a : Word) (s t : Simulator) : Prop where
  registers : s.machine.registers = t.machine.registers
  pc : s.machine.pc = t.machine.pc
  cond : s.machine.cond = t.machine.cond
  fill : s.fill = t.fill
  count : s.count = t.count
  memory : ∀ b, b ≠ a → s.machine.read b = t.machine.read b

def withMemory (s : Simulator) (memory : Memory) : Simulator :=
  { s with machine := s.machine.withMemory memory }

variable {a : Word} {s t : Simulator}

theorem AgreeOff.refl (a : Word) (s : Simulator) : AgreeOff a s s :=
  ⟨rfl, rfl, rfl, rfl, rfl, fun _ _ => rfl⟩

theorem AgreeOff.eq_withMemory (h : AgreeOff a s t) : t = s.withMemory t.machine.memory := by
  obtain ⟨⟨_, _, _, _⟩, _, _⟩ := s
  obtain ⟨⟨_, _, _, _⟩, _, _⟩ := t
  obtain ⟨rfl, rfl, rfl, rfl, rfl, -⟩ := h
  rfl

theorem agreeOff_withMemory {memory : Memory}
    (h : ∀ b, b ≠ a → s.machine.read b = memory.read b) : AgreeOff a s (s.withMemory memory) :=
  ⟨rfl, rfl, rfl, rfl, rfl, h⟩

theorem agreeOff_write (m : Machine) (fill : Fill) (count : Nat) (a w₁ w₂ : Word) :
    AgreeOff a ⟨m.write a w₁, fill, count⟩ ⟨m.write a w₂, fill, count⟩ where
  registers := rfl
  pc := rfl
  cond := rfl
  fill := rfl
  count := rfl
  memory _ off := (Memory.read_write_of_ne _ _ off.symm).trans
    (Memory.read_write_of_ne _ _ off.symm).symm

/-- Simulators that have the same word there, too, are the same. -/
theorem AgreeOff.eq (h : AgreeOff a s t) (same : s.machine.read a = t.machine.read a) : s = t := by
  have memory : s.machine.read = t.machine.read := by
    funext b
    by_cases at_a : b = a
    · rw [at_a, same]
    · exact h.memory b at_a
  have machine : s.machine.state = t.machine.state := by
    have reg : s.machine.reg = t.machine.reg := by
      unfold Machine.reg
      rw [h.registers]
    rw [Machine.state, Machine.state, reg, memory, h.pc, h.cond]
  obtain ⟨_, _, _⟩ := s
  obtain ⟨_, _, _⟩ := t
  obtain ⟨-, -, -, rfl, rfl, -⟩ := h
  obtain rfl := Machine.state_injective machine
  rfl

end Simulator

/-! ## Strings that come across a trap -/

namespace Memory

variable {char char' : Nat → Nat} {limit : Nat} {bytes : List UInt8}

/-- A string is the one of any characters that have the same bytes as far as it goes, and end where
it ends. -/
theorem IsString.congr (h : IsString char limit bytes)
    (same : ∀ i < bytes.length, char' i ≠ 0 ∧ char' i % 256 = char i % 256)
    (stop : bytes.length < limit → char' bytes.length = 0) : IsString char' limit bytes where
  length_le := h.length_le
  byte i hi := ⟨(same i hi).1, by rw [(same i hi).2, (h.byte i hi).2]⟩
  stop := stop

variable {m m' : Memory} {a start : Word}

/-- Where the words do not differ, the characters do not. -/
theorem wide_congr (same : ∀ b, b ≠ a → m.read b = m'.read b) {i : Nat}
    (off : start + BitVec.ofNat 16 i ≠ a) : m'.wide start i = m.wide start i :=
  congrArg BitVec.toNat (same _ off).symm

/-- Two words with the same low byte, which is not zero, are not told apart by a string of words. -/
theorem string_plain_congr (same : ∀ b, b ≠ a → m.read b = m'.read b)
    (low : (m.read a).toNat % 256 = (m'.read a).toNat % 256)
    (nonzero : (m.read a).toNat % 256 ≠ 0) :
    m.string Word.plain start = m'.string Word.plain start := by
  have h := m.isString_plain start
  have char : ∀ i, m'.wide start i % 256 = m.wide start i % 256 ∧
      (m'.wide start i = 0 ↔ m.wide start i = 0) := by
    intro i
    by_cases at_a : start + BitVec.ofNat 16 i = a
    · rw [wide, wide, at_a]
      omega
    · rw [wide_congr same at_a]
      exact ⟨rfl, Iff.rfl⟩
  refine (h.congr (fun i hi => ?_) fun short => ?_).unique (m'.isString_plain start)
  · exact ⟨fun zero => (h.byte i hi).1 ((char i).2.1 zero), (char i).1⟩
  · exact (char _).2.2 (h.stop short)

/-- A string of bytes that does not come across a word is the same whatever that word is, as long as
it does not start with a zero. -/
theorem string_packed_congr (same : ∀ b, b ≠ a → m.read b = m'.read b)
    (nonzero : (m.read a).toNat % 256 ≠ 0)
    (off : ∀ k < (m.string Word.packed start).length, start + BitVec.ofNat 16 (k / 2) ≠ a) :
    m.string Word.packed start = m'.string Word.packed start := by
  have h := m.isString_packed start
  have char : ∀ k, start + BitVec.ofNat 16 (k / 2) ≠ a → m'.narrow start k = m.narrow start k := by
    intro k off
    rw [narrow, narrow, wide_congr same off]
  refine (h.congr (fun k hk => ?_) fun short => ?_).unique (m'.isString_packed start)
  · rw [char k (off k hk)]
    exact ⟨(h.byte k hk).1, rfl⟩
  -- The word behind the string cannot be the other one: it would start with a zero, or with the last
  -- byte of the string.
  have zero := h.stop short
  generalize (m.string Word.packed start).length = k at off zero
  rw [char k ?_, zero]
  intro at_a
  obtain ⟨j, rfl | rfl⟩ : ∃ j, k = 2 * j ∨ k = 2 * j + 1 := ⟨k / 2, by omega⟩
  · rw [narrow, if_pos (by omega), wide, at_a] at zero
    exact nonzero zero
  · refine off (2 * j) (by omega) ?_
    rwa [show 2 * j / 2 = (2 * j + 1) / 2 by omega]

end Memory

/-! ## One step -/

namespace System

open Console (Buffered)

section
variable {σ : Type} [Console (StateM σ)] {x : System σ} {i : Instr}

/-- A step changes memory by what its instruction stores. -/
theorem memory_next (decoded : Instr.decode? x.simulator.fetch = .ok i) :
    x.next.simulator.machine.memory = match i.store? x.simulator.moved.machine with
      | some (address, word) => x.simulator.machine.memory.write address word
      | none => x.simulator.machine.memory := by
  have h := x.stepped
  generalize x.result = result, x.next = y at h
  cases h with
  | reserved decoded' => cases decoded.symm.trans decoded'
  | plain decoded' =>
    cases decoded.symm.trans decoded'
    exact Machine.memory_execute _ i
  | unknown decoded' =>
    cases decoded.symm.trans decoded'
    rfl
  | served decoded' _ served =>
    cases decoded.symm.trans decoded'
    rcases (machine_of_serve served).2 with rfl | ⟨_, rfl⟩ <;> rfl
  | refused decoded' _ refused =>
    cases decoded.symm.trans decoded'
    obtain ⟨rfl, -⟩ := refuses_of_serve refused
    rfl

/-- The word at the program counter after a step. -/
theorem read_pc_next (decoded : Instr.decode? x.simulator.fetch = .ok i) :
    ((∀ word, i.store? x.simulator.moved.machine ≠ some (x.simulator.machine.pc, word)) →
      x.next.simulator.machine.read x.simulator.machine.pc = x.simulator.fetch) ∧
    ∀ word, i.store? x.simulator.moved.machine = some (x.simulator.machine.pc, word) →
      x.next.simulator.machine.read x.simulator.machine.pc = word := by
  rw [Machine.read, memory_next decoded]
  refine ⟨fun other => ?_, fun word stored => ?_⟩
  · split
    · next address word stored =>
      refine Memory.read_write_of_ne _ _ fun same => other word ?_
      rw [stored, same]
    · rfl
  · rw [stored]
    exact Memory.read_write_self _ _ _

end

variable {x y : System Buffered} {i : Instr}

/-- The step of `y` is the step of `x`, over the memory of `y`. -/
structure Follows (x y : System Buffered) : Prop where
  result : y.result = x.result
  simulator : y.next.simulator = x.next.simulator.withMemory y.simulator.machine.memory
  input : y.next.console.input = x.next.console.input

theorem follows_of_step {result : Except Fault Status} {s : Simulator} {left left' : Buffered}
    (step : x.step = (result, ⟨s, left⟩))
    (step' : y.step = (result, ⟨s.withMemory y.simulator.machine.memory, left'⟩))
    (input : left'.input = left.input) : x.Follows y where
  result := by rw [System.result, System.result, step, step']
  simulator := by rw [next, next, step, step']
  input := by rw [next, next, step, step', input]

/-- An instruction that neither loads nor stores does the same over any memory, but for what it
writes to the console. -/
theorem follows_of_free {memory : Memory}
    (same : y = ⟨x.simulator.withMemory memory, x.console⟩) (free : i.usesMemory = false)
    (decoded : Instr.decode? x.simulator.fetch = .ok i)
    (decoded' : Instr.decode? y.simulator.fetch = .ok i) : x.Follows y := by
  obtain ⟨s, console⟩ := x
  subst same
  by_cases plain : i.opcode ≠ .trap
  · have step : System.step ⟨s.withMemory memory, console⟩ =
        (.ok .running, ⟨(s.withMemory memory).ran ((s.moved.machine.withMemory memory).execute i),
          console⟩) := step_of_plain decoded' plain
    rw [Machine.execute_withMemory _ _ free] at step
    exact follows_of_step (step_of_plain decoded plain) step rfl
  obtain ⟨v, rfl⟩ := Instr.eq_trap_of_opcode (not_not.1 plain)
  cases found : Service.ofVector? v with
  | none =>
    exact follows_of_step (step_of_unknown decoded found) (step_of_unknown decoded' found) rfl
  | some service =>
    obtain ⟨input, output⟩ := console
    have step := step_of_service decoded found
    have step' := step_of_service decoded' found
    rw [serve_eq] at step step'
    cases service with
    | getc | enter => cases input <;> exact follows_of_step step step' rfl
    | putc | puts | putsp | halt => exact follows_of_step step step' rfl

/-! ## What is written -/

/-- The next step writes a byte of the word at an address, as one of a string. -/
def PrintsOver (x : System Buffered) (a : Word) : Prop :=
  x.request = some .putsp ∧
    ∃ k < x.contribution.length, x.operand + BitVec.ofNat 16 (k / 2) = a

theorem request_of_decode? {σ : Type} {x y : System σ}
    (decoded : Instr.decode? x.simulator.fetch = .ok i)
    (decoded' : Instr.decode? y.simulator.fetch = .ok i) : y.request = x.request := by
  by_cases plain : i.opcode ≠ .trap
  · have op := Instr.opcode_of_decode? decoded ▸ plain
    have op' := Instr.opcode_of_decode? decoded' ▸ plain
    exact (Word.service?_of_opcode op').trans (Word.service?_of_opcode op).symm
  obtain ⟨v, rfl⟩ := Instr.eq_trap_of_opcode (not_not.1 plain)
  exact (Word.service?_of_trap decoded').trans (Word.service?_of_trap decoded).symm

/-- The low byte of a word that asks for a service is the vector of the service. -/
theorem toNat_mod_of_request {σ : Type} [Console (StateM σ)] {x : System σ} {service : Service}
    (h : x.request = some service) : x.simulator.fetch.toNat % 256 = service.vector.value := by
  obtain ⟨v, decoded, found⟩ := request_eq_some_iff.1 h
  rw [Service.vector_of_ofVector? found, (Instr.decode?_eq_trap_iff.1 decoded).2,
    Word.toNat_field_vector, Unsigned.value, BitVec.extractLsb'_toNat]
  rfl

theorem contribution_of_puts (h : x.request = some .puts) :
    x.contribution = x.simulator.machine.memory.string Word.plain x.operand := by
  rw [contribution, h, ← string_moved Word.plain_eq]
  rfl

theorem contribution_of_putsp (h : x.request = some .putsp) :
    x.contribution = x.simulator.machine.memory.string Word.packed x.operand := by
  rw [contribution, h, ← string_moved Word.packed_eq]
  rfl

/-- What is written is the same, unless it has a byte of the word that differs. -/
theorem contribution_congr (agree : x.simulator.AgreeOff x.simulator.machine.pc y.simulator)
    (console : x.console = y.console) (request : y.request = x.request)
    (off : ¬x.PrintsOver x.simulator.machine.pc) : x.contribution = y.contribution := by
  have operand : y.operand = x.operand := by
    rw [System.operand, System.operand, Machine.reg, Machine.reg, agree.registers]
  cases asked : x.request with
  | none => rw [contribution, contribution, request, asked]
  | some service =>
    have asked' := request.trans asked
    have low := toNat_mod_of_request asked
    have low' := toNat_mod_of_request asked'
    rw [Simulator.fetch, ← agree.pc] at low'
    have nonzero : x.simulator.fetch.toNat % 256 ≠ 0 := by
      rw [low]
      cases service <;> decide
    cases service with
    | putc | getc | halt => simp only [contribution, request, asked, operand]
    | enter => simp only [contribution, request, asked, console]
    | puts =>
      rw [contribution_of_puts asked, contribution_of_puts asked', operand]
      exact Memory.string_plain_congr agree.memory (low.trans low'.symm) nonzero
    | putsp =>
      have written := contribution_of_putsp asked
      rw [written, contribution_of_putsp asked', operand]
      refine Memory.string_packed_congr agree.memory nonzero fun k hk here => off ⟨asked, k, ?_, here⟩
      rwa [written]

/-! ## Both steps -/

/-- The steps of two systems that differ in the word at the program counter, where both words are
decoded as `i`. -/
structure Indifferent (x y : System Buffered) (i : Instr) : Prop where
  result : x.result = y.result
  /-- Nothing but the word that differs can be told apart after them. -/
  simulator : x.next.simulator.AgreeOff x.simulator.machine.pc y.next.simulator
  /-- Each has its own word still, unless the instruction stores another at this very address. -/
  kept : (∀ word, i.store? x.simulator.moved.machine ≠ some (x.simulator.machine.pc, word)) →
    x.next.simulator.machine.read x.simulator.machine.pc = x.simulator.fetch ∧
      y.next.simulator.machine.read x.simulator.machine.pc = y.simulator.fetch
  stored : ∀ word, i.store? x.simulator.moved.machine = some (x.simulator.machine.pc, word) →
    x.next.simulator.machine.read x.simulator.machine.pc = word ∧
      y.next.simulator.machine.read x.simulator.machine.pc = word
  /-- It does not store at all if the words are different. -/
  distinct : x.simulator.fetch ≠ y.simulator.fetch →
    x.next.simulator.machine.read x.simulator.machine.pc = x.simulator.fetch ∧
      y.next.simulator.machine.read x.simulator.machine.pc = y.simulator.fetch
  input : x.next.console.input = y.next.console.input
  output : ¬x.PrintsOver x.simulator.machine.pc → x.next.console.output = y.next.console.output

theorem indifferent (agree : x.simulator.AgreeOff x.simulator.machine.pc y.simulator)
    (console : x.console = y.console) (decoded : Instr.decode? x.simulator.fetch = .ok i)
    (decoded' : Instr.decode? y.simulator.fetch = .ok i) : x.Indifferent y i := by
  obtain ⟨kept, stored⟩ := read_pc_next decoded
  cases uses : i.usesMemory with
  | true =>
    -- There is one word only, and the systems are the same.
    have word := Instr.eq_of_usesMemory decoded decoded' uses
    rw [Simulator.fetch, Simulator.fetch, ← agree.pc] at word
    obtain rfl : x = y := System.ext (agree.eq word) console
    exact ⟨rfl, .refl _ _, fun other => ⟨kept other, kept other⟩,
      fun word h => ⟨stored word h, stored word h⟩, fun ne => absurd rfl ne, rfl, fun _ => rfl⟩
  | false =>
    have free := fun m => Instr.store?_of_free (i := i) m uses
    have memory : x.next.simulator.machine.memory = x.simulator.machine.memory := by
      rw [memory_next decoded, free]
    have follows : x.Follows y :=
      follows_of_free (System.ext agree.eq_withMemory console.symm) uses decoded decoded'
    have still := kept (by simp [free])
    have still' := (read_pc_next decoded').1 (by simp [free])
    rw [← agree.pc] at still'
    refine ⟨follows.result.symm, ?_, fun _ => ⟨still, still'⟩, fun word h => ?_,
      fun _ => ⟨still, still'⟩, follows.input.symm, fun off => ?_⟩
    · rw [follows.simulator]
      refine Simulator.agreeOff_withMemory fun b other => ?_
      rw [Machine.read, memory]
      exact agree.memory b other
    · rw [free] at h
      cases h
    · have written := contribution_congr agree console (request_of_decode? decoded decoded') off
      apply Array.toList_inj.1
      rw [x.transfers.output, y.transfers.output, console, written]

/-- A new system with a word where the program counter points, and an empty console. -/
def starting (word : Word) : System Buffered :=
  ⟨{ machine := (Machine.new .zeroed).write Machine.start word, fill := .zeroed }, {}⟩

theorem fetch_starting (word : Word) : (starting word).simulator.fetch = word :=
  Memory.read_write_self _ _ word

/-- Two words of one addition, with different bits between its operands. -/
theorem indifferent_add :
    (starting 0x1280).Indifferent (starting 0x1298) (.add ⟨1⟩ ⟨2⟩ (.reg ⟨0⟩)) := by
  refine indifferent (Simulator.agreeOff_write _ _ _ _ _ _) rfl ?_ ?_
  · rw [fetch_starting]
    rfl
  · rw [fetch_starting]
    rfl

/-- An instruction need not be there any more after its step: a store may be over itself. -/
theorem not_kept_store : ¬∀ (x y : System Buffered) (i : Instr),
    x.simulator.AgreeOff x.simulator.machine.pc y.simulator → x.console = y.console →
    Instr.decode? x.simulator.fetch = .ok i → Instr.decode? y.simulator.fetch = .ok i →
      x.next.simulator.machine.read x.simulator.machine.pc = x.simulator.fetch ∧
        y.next.simulator.machine.read x.simulator.machine.pc = y.simulator.fetch := by
  intro h
  have fetch := fetch_starting 0x31ff
  have decoded : Instr.decode? (starting 0x31ff).simulator.fetch = .ok (.st ⟨0⟩ ⟨0x1ff⟩) := by
    rw [fetch]
    rfl
  have kept := (h _ _ _ (.refl _ _) rfl decoded decoded).1
  have zero : (starting 0x31ff).simulator.moved.machine.reg ⟨0⟩ = 0 :=
    Machine.getElem_registers_new .zeroed (i := 0) (by decide)
  have stored := (read_pc_next decoded).2 0 (by rw [← zero]; rfl)
  rw [stored, fetch] at kept
  exact absurd kept (by decide)

end System

end Sixteen
