import Sixteen.Proofs.Simulator.Failing

/-!
# What the string services write

A string service writes the string in memory at the address in the register of services, and leaves
the machine as it was. Which bytes these are is said here place by place, over the words of memory:
behind the last address comes the first, a string of words ends before a word that is zero, and a
string of bytes before a byte that is.

* `Machine.trap_of_bytes` : a trap that writes, over a console that takes what is written;
* `Machine.Prints` : what a trap and a step over it do that write some bytes and nothing else;
* `Memory.Stores` : a string and the zero byte behind it are in memory, two bytes in a word;
* `Machine.StringTraps`, `Machine.string_traps` : both services.
-/

namespace Sixteen

/-- The bytes of `s` and a zero byte behind them are in memory from an address on, two in a word,
the first of them in the low byte. -/
def Memory.Stores (m : Memory) (address : Word) (s : List UInt8) : Prop :=
  ∀ i b, (s ++ [0])[i]? = some b → m.narrow address i = b.toNat

/-- A string that is stored is the one that is read. -/
theorem Memory.Stores.isString {m : Memory} {address : Word} {s : List UInt8}
    (h : m.Stores address s) (short : s.length ≤ 131071) (nonzero : 0 ∉ s) :
    IsString (m.narrow address) 131072 s where
  length_le := Nat.le_succ_of_le short
  byte i hi := by
    have number : m.narrow address i = s[i].toNat := by
      refine h i s[i] ?_
      rw [List.getElem?_append_left hi, List.getElem?_eq_getElem hi]
    rw [number, Nat.mod_eq_of_lt s[i].toNat_lt]
    refine ⟨fun zero => nonzero ?_, rfl⟩
    rw [← UInt8.toNat_inj.1 (show s[i].toNat = (0 : UInt8).toNat from zero)]
    exact List.getElem_mem hi
  stop _ := h s.length 0 (by simp)

namespace Machine

variable {m : Machine} {service : Service} {bytes : List UInt8}

section
variable {σ : Type} [Console (StateM σ)] {console left : σ}

/-- A trap that writes, over a console that takes what is written. -/
theorem trap_of_bytes (h : service.bytes? m = some bytes)
    (taken : Console.write bytes console = (.ok (), left)) :
    StateT.run (m := Id) (m.trap service.vector) console = ((.ok service.status, m), left) := by
  have served : StateT.run (m := Id) (StateT.run service.perform.run m) console =
      Service.call service.perform m console := rfl
  simp only [trap, Service.ofVector?_vector, StateT.run_bind, served]
  rw [Service.call_perform_of_bytes h, taken]
  rfl

end

/-- What the trap `vector` does over a console that takes `bytes`: it writes them and nothing else,
and the machine goes on as it was. -/
structure Prints (m : Machine) (vector : Unsigned 8) (bytes : List UInt8) : Prop where
  trap : ∀ {σ : Type} [Console (StateM σ)] {console left : σ},
    Console.write bytes console = (.ok (), left) →
      StateT.run (m := Id) (m.trap vector) console = ((.ok .running, m), left)
  /-- A step over the trap moves the program counter and is counted besides. -/
  step : ∀ {σ : Type} [Console (StateM σ)] {s : Simulator} {console left : σ}, s.machine = m →
    s.fetch.field 12 4 = 0xf → (s.fetch.field 0 8).toNat = vector.value →
    Console.write bytes console = (.ok (), left) →
      System.step ⟨s, console⟩ = (.ok .running,
        ⟨{ s with machine := { m with pc := m.pc + 1 }, count := s.count + 1 }, left⟩)

/-- A string service prints what it writes. The bytes are found when the program counter has moved,
which plays no part in them. -/
theorem prints_of_bytes (service : Service) (h : service.bytes? m = some bytes)
    (same : service.bytes? (m.jump (m.pc + 1)) = some bytes) (running : service.status = .running) :
    m.Prints service.vector bytes where
  trap taken := by rw [trap_of_bytes h taken, running]
  step := by
    rintro σ _ s console left rfl mark vector taken
    let x : System σ := ⟨s, console⟩
    have decoded : Instr.decode? x.simulator.fetch = .ok (.trap service.vector) :=
      Instr.decode?_eq_trap_iff.2 ⟨mark, vector.symm⟩
    have served : x.serve service = ((.ok .running, s.moved.machine), left) := by
      rw [System.serve_of_bytes (x := x) same, taken, running]
    rw [System.step_of_service decoded (Service.ofVector?_vector service), served]
    rfl

/-- What the string services write. -/
structure StringTraps (m : Machine) : Prop where
  /-- The low bytes of the words, up to the first word that is zero. A word that is not zero is
  written even if its low byte is. -/
  puts : ∃ bytes, Memory.IsString (m.memory.wide (m.reg .zero)) 65536 bytes ∧ m.Prints ⟨0x22⟩ bytes
  /-- The two bytes of each word, the low one first, up to the first byte that is zero. -/
  putsp : ∃ bytes, Memory.IsString (m.memory.narrow (m.reg .zero)) 131072 bytes ∧ 0 ∉ bytes ∧
    m.Prints ⟨0x24⟩ bytes
  /-- A string that was stored is written as it is. -/
  stored : ∀ s : List UInt8, s.length ≤ 131071 → 0 ∉ s → m.memory.Stores (m.reg .zero) s →
    m.Prints ⟨0x24⟩ s

theorem zero_notMem_of_isString {address : Word} {limit : Nat} {mem : Memory}
    (h : Memory.IsString (mem.narrow address) limit bytes) : 0 ∉ bytes := by
  intro zero
  obtain ⟨i, hi, same⟩ := List.getElem_of_mem zero
  obtain ⟨nonzero, number⟩ := h.byte i hi
  rw [same, Nat.mod_eq_of_lt (mem.narrow_lt address i)] at number
  exact nonzero number.symm

theorem string_traps (m : Machine) : m.StringTraps := by
  have plain := m.memory.isString_plain (m.reg .zero)
  have packed := m.memory.isString_packed (m.reg .zero)
  have prints : m.Prints ⟨0x24⟩ (m.memory.string Word.packed (m.reg .zero)) :=
    prints_of_bytes .putsp rfl rfl rfl
  refine ⟨⟨_, plain, prints_of_bytes .puts rfl rfl rfl⟩,
    ⟨_, packed, zero_notMem_of_isString packed, prints⟩, fun s short nonzero stored => ?_⟩
  rw [(stored.isString short nonzero).unique packed]
  exact prints

/-- Three bytes from the last address on: two in the last word of memory, and one in the first. -/
theorem string_traps_wrapped :
    ((((new .zeroed).setReg .zero 0xffff).write 0xffff 0x6261).write 0 0x63).Prints ⟨0x24⟩
      [0x61, 0x62, 0x63] := by
  let m := (((new .zeroed).setReg .zero 0xffff).write 0xffff 0x6261).write 0 0x63
  have last : m.memory.wide 0xffff 0 = 0x6261 := congrArg BitVec.toNat
    ((Memory.read_write_of_ne _ _ (by decide)).trans (Memory.read_write_self _ 0xffff 0x6261))
  have first : m.memory.wide 0xffff 1 = 0x63 :=
    congrArg BitVec.toNat (Memory.read_write_self _ 0 0x63)
  refine (string_traps m).stored _ (by decide) (by decide) fun i b found => ?_
  show (if i % 2 = 0 then m.memory.wide 0xffff (i / 2) % 256
    else m.memory.wide 0xffff (i / 2) / 256) = b.toNat
  match i, found with
  | 0, rfl | 1, rfl => rw [last]; rfl
  | 2, rfl | 3, rfl => rw [first]; rfl

end Machine

end Sixteen
