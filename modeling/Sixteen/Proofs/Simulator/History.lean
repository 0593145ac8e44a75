import Sixteen.Proofs.Simulator.Steps
import Sixteen.Proofs.Instr.Canonical
import Sixteen.Proofs.Machine.Strings

/-!
# The console over a whole run

What a simulator writes and reads is told here from its states alone: the word that is fetched asks
for a service, and the service takes a byte of the input or adds bytes to the output. Nothing that
was written changes, and no byte of the input is lost, whatever fails and whatever goes on after a
halt.

* `Word.service?`, `System.request` : the service that a word asks for, by its bits;
* `System.contribution`, `System.reads` : what a step writes, and whether it takes a byte;
* `System.Transfers`, `System.transfers` : one step;
* `System.History`, `System.history` : any number of steps.
-/

namespace Sixteen

/-! ## What a word asks for -/

/-- The service of a number. -/
def Service.ofNumber? : Nat → Option Service
  | 0x20 => some getc
  | 0x21 => some putc
  | 0x22 => some puts
  | 0x23 => some enter
  | 0x24 => some putsp
  | 0x25 => some halt
  | _ => none

theorem Service.ofVector?_eq (b : BitVec 8) : ofVector? ⟨b⟩ = ofNumber? b.toNat := by
  revert b
  decide +kernel

namespace Word

/-- The service that a word asks for: the word is a trap, and its low byte the number of the
service. -/
def service? (w : Word) : Option Service :=
  if w.field 12 4 = 0xf then Service.ofNumber? (w.field 0 8).toNat else none

variable {w : Word}

theorem service?_of_trap {v : Unsigned 8} (h : Instr.decode? w = .ok (.trap v)) :
    w.service? = Service.ofVector? v := by
  have code : Opcode.ofWord w = .trap := (Instr.opcode_of_decode? h).symm
  have vector : v = ⟨w.extractLsb' 0 8⟩ := by
    simp only [Instr.decode?, code] at h
    cases h
    rfl
  have mark : w.field 12 4 = 0xf := Opcode.ofWord_eq_iff.1 code
  rw [service?, if_pos mark, vector, Service.ofVector?_eq, field,
    BitVec.toNat_setWidth_of_le (by omega)]

theorem service?_of_opcode (h : Opcode.ofWord w ≠ .trap) : w.service? = none :=
  if_neg fun code => h (Opcode.ofWord_eq_iff.2 code)

theorem service?_of_reserved {op : Opcode} (h : Instr.decode? w = .error op) :
    w.service? = none := by
  refine if_neg fun code => ?_
  rcases Instr.decode?_eq_error_iff.1 h with ⟨rti, -⟩ | ⟨res, -⟩
  · exact absurd (code.symm.trans rti) (by decide)
  · exact absurd (code.symm.trans res) (by decide)

end Word

namespace System

open Console (Buffered)

/-! ## One step -/

/-- The service that the next step is asked for. -/
def request {σ : Type} (x : System σ) : Option Service :=
  x.simulator.fetch.service?

/-- The next step is asked for a byte of the input, and succeeds. -/
def reads {σ : Type} [Console (StateM σ)] (x : System σ) : Bool :=
  (x.request = some .getc || x.request = some .enter) && x.result.isOk

/-- The word of the register that services use. -/
def operand {σ : Type} (x : System σ) : Word :=
  x.simulator.machine.reg .zero

/-- The characters in memory, from the address in the register up to the first zero. -/
def string {σ : Type} (x : System σ) (unpack : Word → List Word) : List UInt8 :=
  ((x.simulator.machine.memory.characters unpack memorySize x.operand).takeWhile (· ≠ 0)).map
    Word.byte

/-- What the next step writes. -/
def contribution (x : System Buffered) : List UInt8 :=
  match x.request with
  | some .putc => [x.operand.byte]
  | some .puts => x.string fun w => [w]
  | some .putsp => x.string fun w => [w.field 0 8, w.field 8 8]
  | some .enter => Service.prompt ++ (x.console.input.head?.map fun b => [b, 0x0a]).getD []
  | some .halt => Service.farewell
  | some .getc | none => []

/-- What a step does to the console: what it writes is added to the output, and a byte is taken from
the input and left in the register exactly if it is one that reads. -/
structure Transfers (x : System Buffered) : Prop where
  output : x.next.console.output.toList = x.console.output.toList ++ x.contribution
  kept : x.reads = false → x.next.console.input = x.console.input
  taken : x.reads = true →
    ∃ b, x.console.input = b :: x.next.console.input ∧ x.next.operand.toNat = b.toNat

variable {x : System Buffered}

theorem transfers_of_write (quiet : x.reads = false)
    (written : x.next.console = ⟨x.console.input, x.console.output ++ x.contribution⟩) :
    x.Transfers where
  output := by rw [written, Array.toList_appendList]
  kept _ := by rw [written]
  taken h := by
    rw [quiet] at h
    cases h

theorem toNat_ofByte (b : UInt8) : (Word.ofByte b).toNat = b.toNat :=
  BitVec.toNat_setWidth_of_le (by omega)

theorem reg_setReg_self (m : Machine) (word : Word) : (m.setReg .zero word).reg .zero = word := by
  rw [Machine.reg_setReg, if_pos rfl]

theorem transfers_of_read {b : UInt8} {rest : List UInt8} (loud : x.reads = true)
    (input : x.console.input = b :: rest)
    (left : x.next.console = ⟨rest, x.console.output ++ x.contribution⟩)
    (operand : x.next.operand = .ofByte b) : x.Transfers where
  output := by rw [left, Array.toList_appendList]
  kept h := by
    rw [loud] at h
    cases h
  taken _ := ⟨b, by rw [input, left], by rw [operand, toNat_ofByte]⟩

theorem transfers_of_no_request (h : x.request = none) (same : x.next.console = x.console) :
    x.Transfers := by
  refine transfers_of_write (by simp [reads, h]) ?_
  rw [same, contribution, h, Array.appendList_nil]

theorem reads_eq_isOk (h : x.request = some .getc ∨ x.request = some .enter) :
    x.reads = x.result.isOk := by
  rcases h with getc | enter
  · simp [reads, getc]
  · simp [reads, enter]

/-- A service finds the string where it was before the program counter was moved. -/
theorem string_moved {unpack unpack' : Word → List Word} (same : unpack = unpack') :
    x.simulator.moved.machine.memory.string unpack (x.simulator.moved.machine.reg .zero) =
      x.string unpack' := by
  rw [same]
  exact Memory.string_eq _ _ _

/-- What a service does over a buffer. -/
theorem serve_eq (s : Simulator) (service : Service) (input : List UInt8) (output : Array UInt8) :
    serve ⟨s, (⟨input, output⟩ : Buffered)⟩ service =
      let m := s.moved.machine
      match service, input with
      | .getc, [] => ((.error .closed, m), ⟨[], output⟩)
      | .getc, b :: rest => ((.ok .running, m.setReg .zero (.ofByte b)), ⟨rest, output⟩)
      | .putc, _ => ((.ok .running, m), ⟨input, output ++ [(m.reg .zero).lowByte]⟩)
      | .puts, _ =>
        ((.ok .running, m), ⟨input, output ++ m.memory.string Word.plain (m.reg .zero)⟩)
      | .enter, [] => ((.error .closed, m), ⟨[], output ++ Service.prompt⟩)
      | .enter, b :: rest =>
        ((.ok .running, m.setReg .zero (.ofByte b)),
          ⟨rest, output ++ Service.prompt ++ [b, 0x0a]⟩)
      | .putsp, _ =>
        ((.ok .running, m), ⟨input, output ++ m.memory.string Word.packed (m.reg .zero)⟩)
      | .halt, _ => ((.ok .halted, m), ⟨input, output ++ Service.farewell⟩) := by
  cases service <;> cases input <;> rfl

theorem transfers_of_service {v : Unsigned 8} {service : Service}
    (decoded : Instr.decode? x.simulator.fetch = .ok (.trap v))
    (found : Service.ofVector? v = some service) : x.Transfers := by
  have h : x.request = some service := (Word.service?_of_trap decoded).trans found
  have step := step_of_service decoded found
  obtain ⟨s, ⟨input, output⟩⟩ := x
  rw [serve_eq] at step
  have ends := congrArg Prod.fst step
  have leads := congrArg Prod.snd step
  cases service with
  | putc =>
    refine transfers_of_write (by simp [reads, h]) ?_
    rw [next, leads, contribution, h, ← Word.lowByte_eq]
    rfl
  | puts =>
    refine transfers_of_write (by simp [reads, h]) ?_
    rw [next, leads, contribution, h, ← string_moved Word.plain_eq]
  | putsp =>
    refine transfers_of_write (by simp [reads, h]) ?_
    rw [next, leads, contribution, h, ← string_moved Word.packed_eq]
  | halt =>
    refine transfers_of_write (by simp [reads, h]) ?_
    rw [next, leads, contribution, h]
  | getc =>
    have reads := reads_eq_isOk (.inl h)
    rw [result, ends] at reads
    cases input with
    | nil =>
      refine transfers_of_write reads ?_
      rw [next, leads, contribution, h, Array.appendList_nil]
    | cons b rest =>
      refine transfers_of_read reads rfl ?_ ?_
      · rw [next, leads, contribution, h, Array.appendList_nil]
      · rw [next, leads]
        exact reg_setReg_self _ _
  | enter =>
    have reads := reads_eq_isOk (.inr h)
    rw [result, ends] at reads
    cases input with
    | nil =>
      -- The prompt is written before the console refuses.
      refine transfers_of_write reads ?_
      rw [next, leads, contribution, h]
      rfl
    | cons b rest =>
      refine transfers_of_read reads rfl ?_ ?_
      · rw [next, leads, contribution, h]
        exact congrArg (Buffered.mk rest) (Array.ext' (by simp))
      · rw [next, leads]
        exact reg_setReg_self _ _

/-- A step that is asked for no service leaves the console alone. -/
theorem Stepped.request_none_or {σ : Type} [Console (StateM σ)] {x y : System σ}
    {result : Except Fault Status} (h : x.Stepped result y) :
    (x.request = none ∧ y.console = x.console) ∨
      ∃ v service, Instr.decode? x.simulator.fetch = .ok (.trap v) ∧
        Service.ofVector? v = some service := by
  cases h with
  | reserved decoded => exact .inl ⟨Word.service?_of_reserved decoded, rfl⟩
  | plain decoded plain =>
    rw [Instr.opcode_of_decode? decoded] at plain
    exact .inl ⟨Word.service?_of_opcode plain, rfl⟩
  | unknown decoded unknown => exact .inl ⟨(Word.service?_of_trap decoded).trans unknown, rfl⟩
  | served decoded found _ | refused decoded found _ => exact .inr ⟨_, _, decoded, found⟩

theorem transfers (x : System Buffered) : x.Transfers := by
  rcases x.stepped.request_none_or with ⟨request, same⟩ | ⟨v, service, decoded, found⟩
  · exact transfers_of_no_request request same
  · exact transfers_of_service decoded found

/-! ## Any number of steps -/

/-- How many of the first `n` steps take a byte of the input. -/
def taken {σ : Type} [Console (StateM σ)] (x : System σ) (n : Nat) : Nat :=
  x.tally reads n

/-- What the first `n` steps write, one after the other. -/
def written (x : System Buffered) (n : Nat) : List UInt8 :=
  (List.range n).flatMap fun i => (x.after i).contribution

theorem written_succ (x : System Buffered) (n : Nat) :
    x.written (n + 1) = x.written n ++ (x.after n).contribution := by
  rw [written, List.range_succ, List.flatMap_append, List.flatMap_singleton]
  rfl

theorem output_after (x : System Buffered) (n : Nat) :
    (x.after n).console.output.toList = x.console.output.toList ++ x.written n := by
  induction n with
  | zero => simp [written]
  | succ n ih => rw [after_succ, (x.after n).transfers.output, ih, written_succ, List.append_assoc]

/-- The bytes that were taken are as many as the steps that took one. -/
theorem input_after (x : System Buffered) (n : Nat) :
    ∃ consumed, x.console.input = consumed ++ (x.after n).console.input ∧
      consumed.length = x.taken n := by
  induction n with
  | zero => exact ⟨[], rfl, rfl⟩
  | succ n ih =>
    obtain ⟨consumed, split, count⟩ := ih
    rw [after_succ, taken, tally_succ]
    cases reads : (x.after n).reads with
    | false => exact ⟨consumed, by rw [split, (x.after n).transfers.kept reads], count⟩
    | true =>
      obtain ⟨b, first, -⟩ := (x.after n).transfers.taken reads
      refine ⟨consumed ++ [b], ?_, by simp [count, taken]⟩
      rw [split, first, List.append_assoc, List.singleton_append]

/-- A step that takes a byte takes the one behind those that were taken before. -/
theorem operand_after_succ (x : System Buffered) {i : Nat} (h : (x.after i).reads = true) :
    ∃ b, x.console.input[x.taken i]? = some b ∧ (x.after (i + 1)).operand.toNat = b.toNat := by
  obtain ⟨consumed, split, count⟩ := x.input_after i
  obtain ⟨b, first, operand⟩ := (x.after i).transfers.taken h
  refine ⟨b, ?_, by rw [after_succ, operand]⟩
  rw [split, first, ← count, List.getElem?_append_right (Nat.le_refl _), Nat.sub_self]
  rfl

/-- What `n` steps have read and written. -/
structure History (x : System Buffered) (n : Nat) : Prop where
  /-- The input is what was taken of it and what is left, and a byte was taken for each step that
  reads and succeeds. -/
  input : ∃ consumed, x.console.input = consumed ++ (x.after n).console.input ∧
    consumed.length = x.taken n
  /-- Each of these steps leaves the byte of its turn in the register. -/
  operands : ∀ i < n, (x.after i).reads = true →
    ∃ b, x.console.input[x.taken i]? = some b ∧ (x.after (i + 1)).operand.toNat = b.toNat
  /-- The output is what the steps write, in their order. -/
  output : (x.after n).console.output.toList = x.console.output.toList ++ x.written n
  /-- What was written before is still there. -/
  kept : ∀ k ≤ n, (x.after k).console.output.toList <+: (x.after n).console.output.toList

theorem history (x : System Buffered) (n : Nat) : x.History n where
  input := x.input_after n
  operands _ _ := x.operand_after_succ
  output := x.output_after n
  kept k le := by
    obtain ⟨rest, rfl⟩ := Nat.exists_eq_add_of_le le
    rw [← after_after, output_after (x.after k)]
    exact List.prefix_append _ _

end System

end Sixteen
