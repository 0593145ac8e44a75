import Sixteen.Proofs.Simulator.Failing
import Sixteen.Proofs.Machine.Architecture

/-!
# The condition code over a whole run

The condition code is the sign of the word that the last addition, conjunction, complement or load
has written, whatever has become of the register since: console services and calls write registers
too, but leave the condition code alone, and so does every step that fails.

* `Architecture.Names` : a branch names the sign of a word;
* `System.sets`, `System.assigned` : a step that sets the condition code, and what it writes;
* `System.cond_next` : one step;
* `System.LastAssigned`, `System.LastAssigned.cond_after` : what the last of some steps that set the
  condition code has written, and the condition code then;
* `Simulator.filledWith` : a new machine with anything in its memory and registers;
* `System.Reflects`, `System.reflects` : any number of steps from there.
-/

namespace Sixteen

open Architecture (opcode setters register)

namespace Architecture

/-! ## The sign of a word -/

/-- The branch `w` names the sign of the word `v` in its condition field. -/
def Names (w v : Word) : Prop :=
  w.bit 11 = 1 ∧ v.toInt < 0 ∨ w.bit 10 = 1 ∧ v.toInt = 0 ∨ w.bit 9 = 1 ∧ 0 < v.toInt

instance (w v : Word) : Decidable (Names w v) :=
  inferInstanceAs (Decidable (_ ∨ _))

theorem ofWord_cases (v : Word) :
    v.toInt < 0 ∧ Cond.ofWord v = .negative ∨ v.toInt = 0 ∧ Cond.ofWord v = .zero ∨
      0 < v.toInt ∧ Cond.ofWord v = .positive := by
  unfold Cond.ofWord Word.isNegative
  have sign := BitVec.msb_eq_toInt (x := v)
  by_cases zero : v = 0
  · subst zero
    decide
  have other : v.toInt ≠ 0 := fun h => zero (BitVec.toInt_inj.1 h)
  rw [if_neg zero, sign]
  by_cases negative : v.toInt < 0
  · exact .inl ⟨negative, if_pos (decide_eq_true negative)⟩
  · exact .inr (.inr ⟨by omega, if_neg (by simpa using negative)⟩)

theorem field_and_eq_iff (w : Word) :
    (w.field 9 3 &&& 4 ≠ 0 ↔ w.bit 11 = 1) ∧ (w.field 9 3 &&& 2 ≠ 0 ↔ w.bit 10 = 1) ∧
      (w.field 9 3 &&& 1 ≠ 0 ↔ w.bit 9 = 1) := by
  have all : ∀ b : BitVec 3, ((b.setWidth 16 : Word) &&& 4 ≠ 0 ↔ b.getLsbD 2 = true) ∧
      ((b.setWidth 16 : Word) &&& 2 ≠ 0 ↔ b.getLsbD 1 = true) ∧
      ((b.setWidth 16 : Word) &&& 1 ≠ 0 ↔ b.getLsbD 0 = true) := by
    decide
  have bits := all (w.extractLsb' 9 3)
  simp only [BitVec.getLsbD_extractLsb', show 2 < 3 by omega, show 1 < 3 by omega,
    show 0 < 3 by omega, decide_true, Bool.true_and] at bits
  simp only [bit_eq_one_iff]
  exact bits

/-- The mask of a branch meets the condition code of a word if the branch names its sign. -/
theorem field_and_nzp_iff (w v : Word) :
    w.field 9 3 &&& nzp (Cond.ofWord v) ≠ 0 ↔ Names w v := by
  obtain ⟨n, z, p⟩ := field_and_eq_iff w
  unfold Names
  rcases ofWord_cases v with ⟨sign, cond⟩ | ⟨sign, cond⟩ | ⟨sign, cond⟩ <;> rw [cond, nzp]
  · rw [n]
    simp [sign, show v.toInt ≠ 0 by omega, show ¬0 < v.toInt by omega]
  · rw [z]
    simp [sign]
  · rw [p]
    simp [sign, show v.toInt ≠ 0 by omega, show ¬v.toInt < 0 by omega]

/-- A branch goes to its target if it has no condition, or if it names the sign of the word that the
condition code is of. -/
theorem pc_step_branch_of_ofWord {w v : Word} {s : State} (code : opcode w = 0)
    (cond : s.cond = Cond.ofWord v) :
    (step w s).pc =
      if w.field 9 3 = 0 ∨ Names w v then sum (sum s.pc 1) (signed w 9) else sum s.pc 1 := by
  simp only [step, dispatch, code, cond, field_and_nzp_iff, apply_ite State.pc]
  rfl

/-- Words with a reserved opcode and traps do not set the condition code. -/
theorem opcode_notMem_setters {w : Word}
    (h : w.field 12 4 = 0x8 ∨ w.field 12 4 = 0xd ∨ w.field 12 4 = 0xf) : opcode w ∉ setters := by
  unfold opcode
  rcases h with code | code | code <;> rw [code] <;> decide

end Architecture

/-! ## One step -/

namespace System

variable {σ : Type} [Console (StateM σ)] {x : System σ} {n : Nat}

/-- The next step is an addition, a conjunction, a complement or a load. -/
def sets (x : System σ) : Bool :=
  opcode x.simulator.fetch ∈ setters

/-- The word that the next step leaves in the register that it names as its destination. -/
def assigned (x : System σ) : Word :=
  x.next.simulator.machine.reg (register x.simulator.fetch 9)

/-- The condition code. -/
def cond (x : System σ) : Cond :=
  x.simulator.machine.cond

/-- Services leave the condition code alone, however they end. -/
theorem cond_serve {service : Service} {result : Except ConsoleError Status} {machine : Machine}
    {console : σ} (h : x.serve service = ((result, machine), console)) : machine.cond = x.cond := by
  cases result with
  | error e =>
    obtain ⟨rfl, -⟩ := refuses_of_serve h
    rfl
  | ok status => rcases (machine_of_serve h).2 with rfl | ⟨b, rfl⟩ <;> rfl

/-- The condition code is the sign of what a step writes that sets it, and otherwise stays. -/
theorem cond_next (x : System σ) :
    x.next.cond = if x.sets then Cond.ofWord x.assigned else x.cond := by
  have stepped := x.stepped
  unfold assigned sets cond
  generalize x.result = result, x.next = y at *
  cases stepped with
  | reserved decoded =>
    have code : x.simulator.fetch.field 12 4 = 0x8 ∨ x.simulator.fetch.field 12 4 = 0xd :=
      (Instr.decode?_eq_error_iff.1 decoded).imp And.left And.left
    rw [if_neg]
    · rfl
    · simpa using Architecture.opcode_notMem_setters (code.imp_right .inl)
  | plain decoded plain =>
    have done := Machine.state_execute (m := x.simulator.moved.machine) decoded plain
    have cond := Architecture.cond_dispatch (w := x.simulator.fetch)
      (s := x.simulator.moved.machine.state)
    rw [← done, Architecture.flag_eq] at cond
    simp only [decide_eq_true_iff]
    exact cond
  | unknown decoded _ =>
    have code := (Instr.decode?_eq_trap_iff.1 decoded).1
    rw [if_neg]
    · rfl
    · simpa using Architecture.opcode_notMem_setters (.inr (.inr code))
  | served decoded _ served | refused decoded _ served =>
    have code := (Instr.decode?_eq_trap_iff.1 decoded).1
    rw [if_neg]
    · exact cond_serve served
    · simpa using Architecture.opcode_notMem_setters (.inr (.inr code))

/-- Where a branch leads. -/
theorem pc_next_of_branch {v : Word} (code : opcode x.simulator.fetch = 0)
    (cond : x.cond = Cond.ofWord v) :
    x.next.simulator.machine.pc =
      if x.simulator.fetch.field 9 3 = 0 ∨ Architecture.Names x.simulator.fetch v
      then x.simulator.machine.pc + 1 + Architecture.signed x.simulator.fetch 9
      else x.simulator.machine.pc + 1 := by
  have other : ∀ c : Word, c ≠ 0 → x.simulator.fetch.field 12 4 ≠ c := by
    rintro c nonzero rfl
    exact nonzero (BitVec.eq_of_toNat_eq code)
  have stepped := x.stepped
  generalize x.result = result, x.next = y at *
  cases stepped with
  | reserved decoded =>
    rcases Instr.decode?_eq_error_iff.1 decoded with ⟨rti, -⟩ | ⟨res, -⟩
    · exact absurd rti (other _ (by decide))
    · exact absurd res (other _ (by decide))
  | unknown decoded _ | served decoded _ _ | refused decoded _ _ =>
    exact absurd (Instr.decode?_eq_trap_iff.1 decoded).1 (other _ (by decide))
  | @plain i decoded plain =>
    have done := Machine.state_execute (m := x.simulator.moved.machine) decoded plain
    have moved : x.simulator.moved.machine.state =
        { x.simulator.machine.state with pc := Architecture.sum x.simulator.machine.pc 1 } := by
      rw [Architecture.sum_eq]
      rfl
    have target := Architecture.pc_step_branch_of_ofWord (s := x.simulator.machine.state) code cond
    rw [Architecture.step] at target
    simp only [Architecture.sum_eq] at target moved
    calc (x.simulator.moved.machine.execute i).state.pc
        = (Architecture.dispatch x.simulator.fetch x.simulator.moved.machine.state).pc := by
          rw [done]
      _ = _ := by
          rw [moved]
          exact target

/-! ## Any number of steps -/

/-- What the last of the first `n` steps that set the condition code has written; nothing, if none
of them sets it. -/
inductive LastAssigned (x : System σ) (n : Nat) : Option Word → Prop
  | never (quiet : ∀ i < n, (x.after i).sets = false) : LastAssigned x n none
  | step {i : Nat} (before : i < n) (sets : (x.after i).sets = true)
    (quiet : ∀ j, i < j → j < n → (x.after j).sets = false) :
    LastAssigned x n (some (x.after i).assigned)

theorem exists_lastAssigned (x : System σ) (n : Nat) : ∃ v, x.LastAssigned n v := by
  induction n with
  | zero => exact ⟨none, .never nofun⟩
  | succ n ih =>
    cases sets : (x.after n).sets with
    | true => exact ⟨_, .step (Nat.lt_succ_self n) sets fun j after before => by omega⟩
    | false =>
      obtain ⟨_, quiet | @⟨i, before, set, quiet⟩⟩ := ih
      · refine ⟨none, .never fun i hi => ?_⟩
        rcases Nat.lt_succ_iff_lt_or_eq.1 hi with earlier | rfl
        · exact quiet i earlier
        · exact sets
      · refine ⟨_, .step (Nat.lt_succ_of_lt before) set fun j after hj => ?_⟩
        rcases Nat.lt_succ_iff_lt_or_eq.1 hj with earlier | rfl
        · exact quiet j after earlier
        · exact sets

/-- Steps that do not set the condition code leave it as it was. -/
theorem cond_after_of_quiet {a b : Nat} (le : a ≤ b)
    (quiet : ∀ j, a ≤ j → j < b → (x.after j).sets = false) :
    (x.after b).cond = (x.after a).cond := by
  induction b, le using Nat.le_induction with
  | base => rfl
  | succ b le ih =>
    rw [after_succ, cond_next, quiet b le (Nat.lt_succ_self b), if_neg Bool.false_ne_true]
    exact ih fun j ge lt => quiet j ge (Nat.lt_succ_of_lt lt)

theorem LastAssigned.cond_after {v : Option Word} (h : x.LastAssigned n v) :
    (x.after n).cond = (v.map Cond.ofWord).getD x.cond := by
  cases h with
  | never quiet => exact cond_after_of_quiet (Nat.zero_le n) fun j _ lt => quiet j lt
  | @step i before sets quiet =>
    rw [cond_after_of_quiet (Nat.succ_le_of_lt before) fun j ge lt => quiet j ge lt, after_succ,
      cond_next, if_pos sets]
    rfl

/-- What the condition code is after `n` steps, and what a branch does then. -/
structure Reflects (x : System σ) (n : Nat) : Prop where
  known : ∃ v, x.LastAssigned n v
  /-- Nothing has set the condition code. -/
  unset : x.LastAssigned n none → (x.after n).cond = .zero
  /-- It is that of the word that was written last with it. -/
  set : ∀ v, x.LastAssigned n (some v) → (x.after n).cond = Cond.ofWord v
  /-- A branch is taken if it has no condition or names the sign of that word, which counts as zero
  if there is none. -/
  branch : ∀ v, x.LastAssigned n v → opcode (x.after n).simulator.fetch = 0 →
    (x.after n).next.simulator.machine.pc =
      if (x.after n).simulator.fetch.field 9 3 = 0 ∨
        Architecture.Names (x.after n).simulator.fetch (v.getD 0)
      then (x.after n).simulator.machine.pc + 1 + Architecture.signed (x.after n).simulator.fetch 9
      else (x.after n).simulator.machine.pc + 1

theorem reflects_of_cond (zero : x.cond = .zero) (n : Nat) : x.Reflects n where
  known := x.exists_lastAssigned n
  unset h := by rw [h.cond_after, zero]; rfl
  set v h := h.cond_after
  branch v h code := by
    refine pc_next_of_branch code ?_
    rw [h.cond_after, zero]
    cases v <;> rfl

end System

namespace Simulator

/-- A new simulator whose memory and registers hold any words. What an unseeded fill puts there
cannot be told in advance. -/
def filledWith (fill : Fill) (memory : Memory) (registers : Vector Word 8) : Simulator :=
  { new fill with machine := { Machine.new fill with memory, registers } }

theorem cond_load (s : Simulator) (image : Image) : (s.load image).machine.cond = s.machine.cond :=
  rfl

/-- Images may be put in the memory of a new machine. -/
theorem cond_foldl_load (s : Simulator) (images : List Image) :
    (images.foldl load s).machine.cond = s.machine.cond := by
  induction images generalizing s with
  | nil => rfl
  | cons image images ih => rw [List.foldl_cons, ih, cond_load]

end Simulator

/-- The condition code of a machine that starts afresh, whatever it is filled with and whichever
images are put in its memory, is always that of the word that was written last by an instruction
that sets it. -/
theorem System.reflects {σ : Type} [Console (StateM σ)] (fill : Fill) (memory : Memory)
    (registers : Vector Word 8) (images : List Image) (console : σ) (n : Nat) :
    Reflects ⟨images.foldl Simulator.load (.filledWith fill memory registers), console⟩ n := by
  have zero : cond ⟨images.foldl Simulator.load (.filledWith fill memory registers), console⟩ =
      .zero := Simulator.cond_foldl_load (.filledWith fill memory registers) images
  exact reflects_of_cond zero n

end Sixteen
