import Sixteen.Proofs.Simulator.Calls
import Sixteen.Proofs.Simulator.History

/-!
# Steps that fail

A step fails for one of three reasons: the word that is fetched has a reserved opcode, it is a trap
that no service belongs to, or the console refuses what a service asks of it. The console can be any
value with any answers, so it may refuse at any call. Whatever the reason, the simulator has moved
its program counter and is otherwise as it was: nothing is undone when a console refuses, but a
service has not written a register by then.

* `Instr.decode?_eq_trap_iff`, `Service.ofVector?_eq_none_iff` : the words that are traps, and the
  vectors that no service belongs to, by their bits;
* `System.next_of_error` : what a step that fails leaves alone;
* `System.result_eq_reserved_iff`, `System.result_eq_unknown_iff`, `System.result_eq_console_iff` :
  when a step fails, reason by reason;
* `System.result_eq_halted_iff` : when a step halts;
* `System.Outcomes`, `System.outcomes` : all of it.
-/

namespace Sixteen

/-! ## Traps by their bits -/

theorem Service.ofVector?_eq_none_iff (v : Unsigned 8) :
    ofVector? v = none ↔ v.value < 0x20 ∨ 0x25 < v.value := by
  have all : ∀ b : BitVec 8, ofNumber? b.toNat = none ↔ b.toNat < 0x20 ∨ 0x25 < b.toNat := by
    decide +kernel
  rw [ofVector?_eq]
  exact all v.bits

theorem Service.ofNumber?_eq_halt_iff {n : Nat} : ofNumber? n = some .halt ↔ n = 0x25 := by
  unfold ofNumber?
  split <;> simp_all

theorem Word.service?_eq_some_iff {w : Word} {service : Service} :
    w.service? = some service ↔
      w.field 12 4 = 0xf ∧ Service.ofNumber? (w.field 0 8).toNat = some service := by
  unfold service?
  split
  · next mark => exact ⟨fun found => ⟨mark, found⟩, And.right⟩
  · next mark => exact ⟨nofun, fun h => absurd h.1 mark⟩

theorem Word.toNat_field_vector (w : Word) :
    (w.field 0 8).toNat = Unsigned.value ⟨w.extractLsb' 0 8⟩ :=
  BitVec.toNat_setWidth_of_le (by omega)

/-- A word is a trap by its top four bits, and its vector is its low byte. -/
theorem Instr.decode?_eq_trap_iff {w : Word} {v : Unsigned 8} :
    decode? w = .ok (.trap v) ↔ w.field 12 4 = 0xf ∧ v.value = (w.field 0 8).toNat := by
  have mark : w.field 12 4 = 0xf ↔ Opcode.ofWord w = .trap := by
    rw [Opcode.ofWord_eq_iff]
    rfl
  rw [mark, Word.toNat_field_vector]
  constructor
  · intro h
    have code : Opcode.ofWord w = .trap := (opcode_of_decode? h).symm
    simp only [decode?, code] at h
    cases h
    exact ⟨code, rfl⟩
  · rintro ⟨code, vector⟩
    have same : v = ⟨w.extractLsb' 0 8⟩ := congrArg Unsigned.mk (BitVec.eq_of_toNat_eq vector)
    simp only [decode?, code, same]

namespace System

variable {σ : Type} [Console (StateM σ)] {x : System σ}

/-! ## What a failing step leaves alone -/

theorem next_of_error {fault : Fault} (h : x.result = .error fault) :
    x.next.simulator = x.simulator.moved := by
  have stepped := x.stepped
  generalize x.result = result, x.next = y at *
  subst h
  cases stepped with
  | reserved | unknown => rfl
  | refused _ _ refused =>
    obtain ⟨rfl, -⟩ := refuses_of_serve refused
    rfl

/-! ## Why a step fails, and when it halts -/

/-- The reason for a result is the only way to come to it. -/
theorem exists_stepped {result : Except Fault Status} (h : x.result = result) :
    ∃ y, x.Stepped result y :=
  ⟨x.next, h ▸ x.stepped⟩

theorem result_eq_reserved_iff {op : Opcode} :
    x.result = .error (.reservedOpcode op) ↔ Instr.decode? x.simulator.fetch = .error op := by
  constructor
  · intro h
    obtain ⟨_, ⟨decoded⟩⟩ := exists_stepped h
    exact decoded
  · intro decoded
    rw [result, step_of_reserved decoded]

theorem result_eq_unknown_iff {v : Unsigned 8} :
    x.result = .error (.unknownTrap v) ↔
      Instr.decode? x.simulator.fetch = .ok (.trap v) ∧ Service.ofVector? v = none := by
  constructor
  · intro h
    obtain ⟨_, stepped⟩ := exists_stepped h
    cases stepped with
    | unknown decoded unknown => exact ⟨decoded, unknown⟩
  · rintro ⟨decoded, unknown⟩
    rw [result, step_of_unknown decoded unknown]

theorem request_eq_some_iff {service : Service} :
    x.request = some service ↔ ∃ v, Instr.decode? x.simulator.fetch = .ok (.trap v) ∧
      Service.ofVector? v = some service := by
  constructor
  · intro h
    rcases x.stepped.request_none_or with ⟨none, -⟩ | ⟨v, found, decoded, vector⟩
    · cases none.symm.trans h
    · have same := (Word.service?_of_trap decoded).trans vector
      cases same.symm.trans h
      exact ⟨v, decoded, vector⟩
  · rintro ⟨v, decoded, vector⟩
    exact (Word.service?_of_trap decoded).trans vector

/-- A step that is asked for a service ends as the service does. -/
theorem result_of_request {service : Service} (h : x.request = some service) :
    x.result = (x.serve service).1.1.mapError .console := by
  obtain ⟨v, decoded, found⟩ := request_eq_some_iff.1 h
  rw [result, step_of_service decoded found]
  rcases x.serve service with ⟨⟨_ | status, machine⟩, console⟩ <;> rfl

theorem result_eq_console_iff {e : ConsoleError} :
    x.result = .error (.console e) ↔ ∃ service left, x.request = some service ∧
      Refuses x.simulator.moved.machine x.console service e left := by
  constructor
  · intro h
    obtain ⟨_, stepped⟩ := exists_stepped h
    cases stepped with
    | refused decoded found refused =>
      exact ⟨_, _, request_eq_some_iff.2 ⟨_, decoded, found⟩, (refuses_of_serve refused).2⟩
  · rintro ⟨service, left, request, refused⟩
    rw [result_of_request request, refused.serve]
    rfl

theorem result_eq_halted_iff :
    x.result = .ok .halted ↔
      x.request = some .halt ∧ (Console.write Service.farewell x.console).1 = .ok () := by
  have bytes : Service.halt.bytes? x.simulator.moved.machine = some Service.farewell := rfl
  have halt := serve_of_bytes bytes
  constructor
  · intro h
    obtain ⟨_, stepped⟩ := exists_stepped h
    cases stepped with
    | @served v service status machine console decoded found served =>
      obtain rfl : service = .halt := by
        have status := (machine_of_serve served).1
        cases service <;> first | rfl | cases status
      refine ⟨request_eq_some_iff.2 ⟨v, decoded, found⟩, ?_⟩
      rw [halt] at served
      split at served
      · next accepted => rw [accepted]
      · cases served
  · rintro ⟨request, accepted⟩
    obtain ⟨console, taken⟩ : ∃ console,
        Console.write Service.farewell x.console = (.ok (), console) := ⟨_, Prod.ext accepted rfl⟩
    rw [result_of_request request, halt, taken]
    rfl

/-! ## All of it -/

/-- How the next step can end, by the bits of the word that it fetches. -/
structure Outcomes (x : System σ) : Prop where
  /-- A step that fails has moved the program counter, and changed nothing else: not a register, not
  a word of memory, not the condition code and not the count. -/
  kept : ∀ fault, x.result = .error fault →
    x.next.simulator = { x.simulator with
      machine := { x.simulator.machine with pc := x.simulator.machine.pc + 1 } }
  reserved : ∀ op, x.result = .error (.reservedOpcode op) ↔
    x.simulator.fetch.field 12 4 = 0x8 ∧ op = .rti ∨ x.simulator.fetch.field 12 4 = 0xd ∧ op = .res
  unknown : ∀ v, x.result = .error (.unknownTrap v) ↔
    x.simulator.fetch.field 12 4 = 0xf ∧ v.value = (x.simulator.fetch.field 0 8).toNat ∧
      (v.value < 0x20 ∨ 0x25 < v.value)
  /-- Any other step that fails is asked for a service, and fails with the error that the console
  refuses a call of it with. -/
  refused : ∀ e, x.result = .error (.console e) ↔
    x.simulator.fetch.field 12 4 = 0xf ∧ ∃ service left,
      Service.ofNumber? (x.simulator.fetch.field 0 8).toNat = some service ∧
      Refuses x.simulator.moved.machine x.console service e left
  unlimited : ∀ limit, x.result ≠ .error (.stepLimit limit)
  halts : x.result = .ok .halted ↔
    x.simulator.fetch.field 12 4 = 0xf ∧ x.simulator.fetch.field 0 8 = 0x25 ∧
      (Console.write Service.farewell x.console).1 = .ok ()

theorem outcomes (x : System σ) : x.Outcomes where
  kept fault h := next_of_error h
  reserved op := by rw [result_eq_reserved_iff, Instr.decode?_eq_error_iff]
  unknown v := by
    rw [result_eq_unknown_iff, Instr.decode?_eq_trap_iff, Service.ofVector?_eq_none_iff, and_assoc]
  refused e := by
    rw [result_eq_console_iff]
    simp only [request, Word.service?_eq_some_iff, and_assoc, exists_and_left]
  unlimited limit := x.stepped.ne_stepLimit limit
  halts := by
    have code : x.simulator.fetch.field 0 8 = 0x25 ↔ (x.simulator.fetch.field 0 8).toNat = 0x25 :=
      BitVec.toNat_inj.symm
    rw [result_eq_halted_iff, request, Word.service?_eq_some_iff, Service.ofNumber?_eq_halt_iff,
      and_assoc, code]

end System

end Sixteen
