import Sixteen.Simulator
import Sixteen.Proofs.Program.Assembly
import Sixteen.Proofs.Statement.Reader

/-!
# Instructions with labels at work

An assembled instruction finds its label again when it is executed, since the distance that was
taken in the integers is added to the address that it was counted from.

* `Operation.effect` : what an instruction is to do, given the address of its label;
* `Machine.relative_truncate` : an offset from the next instruction leads back to the address that
  it is the distance of;
* `Machine.execute_instr` : the machine's form of an instruction has its effect;
* `Simulator.step_of_decode?` : a step over an instruction that is no trap;
* `step_of_assemble` : a step over an assembled instruction.
-/

namespace Sixteen

/-- What an instruction does to a machine that has come to it, where `t` is the address of its
label. Instructions without labels are left out, and only passed here. -/
def Operation.effect (t : Word) (m : Machine) : Operation → Machine
  | .br cond _ => if cond = 0 ∨ cond &&& m.cond.bits ≠ 0 then m.jump t else m.jump (m.pc + 1)
  | .jsr _ => (m.setReg .link (m.pc + 1)).jump t
  | .lea dst _ => (m.jump (m.pc + 1)).assign dst t
  | .ld dst _ => (m.jump (m.pc + 1)).assign dst (m.read t)
  | .ldi dst _ => (m.jump (m.pc + 1)).assign dst (m.read (m.read t))
  | .st src _ => (m.jump (m.pc + 1)).write t (m.reg src)
  | .sti src _ => (m.jump (m.pc + 1)).write (m.read t) (m.reg src)
  | _ => m.jump (m.pc + 1)

theorem Branch.taken_iff {b : Branch} {cond : Cond} :
    b.taken cond = true ↔ b = 0 ∨ b &&& cond.bits ≠ 0 := by
  simp [taken]

namespace Machine

theorem ofInt_toNat (w : Word) : BitVec.ofInt 16 w.toNat = w := by
  rw [BitVec.ofInt_natCast, BitVec.ofNat_toNat, BitVec.setWidth_eq]

/-- The distance of `t` from the next instruction leads back to `t`, where the program counter may
have wrapped. -/
theorem relative_truncate {n : Nat} (hn : 0 < n) (m : Machine) {t : Word}
    (h : Signed.InRange n (t.toNat - (m.pc.toNat + 1))) :
    (m.jump (m.pc + 1)).relative (.truncate n (t.toNat - (m.pc.toNat + 1))) = t := by
  have next : m.pc + 1 = BitVec.ofInt 16 (m.pc.toNat + 1) := by
    rw [BitVec.ofInt_add, ofInt_toNat]
    rfl
  calc (m.jump (m.pc + 1)).relative (.truncate n (t.toNat - (m.pc.toNat + 1)))
      = m.pc + 1 + BitVec.ofInt 16 (t.toNat - (m.pc.toNat + 1)) := by
        rw [relative, Signed.toWord_eq_ofInt, Signed.value_truncate hn h]
        rfl
    _ = BitVec.ofInt 16 (m.pc.toNat + 1 + (t.toNat - (m.pc.toNat + 1))) := by
        rw [next, ← BitVec.ofInt_add]
    _ = t := by
        rw [show (m.pc.toNat + 1 + (t.toNat - (m.pc.toNat + 1)) : Int) = t.toNat by omega,
          ofInt_toNat]

/-- The machine's form of an instruction does what the instruction is to do. -/
theorem execute_instr (m : Machine) {o : Operation} {r : Reference} (hr : o.reference? = some r)
    {t : Word} (h : Signed.InRange r.bits (t.toNat - (m.pc.toNat + 1))) :
    (m.jump (m.pc + 1)).execute (o.instr (t.toNat - (m.pc.toNat + 1))) = o.effect t m := by
  have reached : ∀ {n : Nat} (target : Target n), 0 < n → target.reference? = some r →
      (m.jump (m.pc + 1)).relative (target.offsetAt (t.toNat - (m.pc.toNat + 1))) = t := by
    intro n target hn ht
    cases target with
    | offset value => cases ht
    | label name =>
      cases ht
      exact relative_truncate hn m h
  cases o with
  | br cond target =>
    rw [Operation.instr, execute, reached target (by omega) hr]
    show (if cond.taken m.cond = true then (m.jump (m.pc + 1)).jump t else m.jump (m.pc + 1)) =
      if cond = 0 ∨ cond &&& m.cond.bits ≠ 0 then m.jump t else m.jump (m.pc + 1)
    by_cases taken : cond.taken m.cond = true
    · rw [if_pos taken, if_pos (Branch.taken_iff.1 taken)]
      rfl
    · rw [if_neg taken, if_neg fun h => taken (Branch.taken_iff.2 h)]
  | jsr target => rw [Operation.instr, execute, reached target (by omega) hr]; rfl
  | ld dst target => rw [Operation.instr, execute, reached target (by omega) hr]; rfl
  | ldi dst target => rw [Operation.instr, execute, reached target (by omega) hr]; rfl
  | lea dst target => rw [Operation.instr, execute, reached target (by omega) hr]; rfl
  | st src target => rw [Operation.instr, execute, reached target (by omega) hr]; rfl
  | sti src target => rw [Operation.instr, execute, reached target (by omega) hr]; rfl
  | _ => cases hr

end Machine

namespace Simulator

variable {m : Type → Type} [Monad m] [Console m]

/-- A step over an instruction that is no trap asks nothing of the console. -/
theorem step_of_decode? {s : Simulator} {i : Instr} (h : Instr.decode? s.fetch = .ok i)
    (hi : i.opcode ≠ .trap) :
    (s.step : m (Except Fault Status × Simulator)) =
      pure (.ok .running, { s with
        machine := (s.machine.jump (s.machine.pc + 1)).execute i, count := s.count + 1 }) := by
  unfold step
  simp only [h]
  cases i with
  | trap vector => exact absurd rfl hi
  | _ => rfl

/-- A step over an instruction with a label, whose word holds its distance. -/
theorem step_of_fetch {s : Simulator} {o : Operation} {r : Reference} (ho : o.Encodable)
    (hr : o.reference? = some r) {t : Word}
    (reach : Signed.InRange r.bits (t.toNat - (s.machine.pc.toNat + 1)))
    (fetched : s.fetch = (o.instr (t.toNat - (s.machine.pc.toNat + 1))).encode) :
    (s.step : m (Except Fault Status × Simulator)) =
      pure (.ok .running, { s with
        machine := o.effect t s.machine, count := s.count + 1 }) := by
  have decoded : Instr.decode? s.fetch = .ok (o.instr (t.toNat - (s.machine.pc.toNat + 1))) := by
    rw [fetched, Instr.decode?_encode (ho.instr _)]
  rw [step_of_decode? decoded, s.machine.execute_instr hr reach]
  cases o with
  | service v => cases hr
  | _ => exact nofun

end Simulator

/-! ## Assembled programs -/

/-- The number of bits that an instruction has for the distance of its label. -/
def Operation.width : Operation → Nat
  | .jsr _ => 11
  | _ => 9

theorem Operation.bits_of_reference? {o : Operation} {r : Reference} (h : o.reference? = some r) :
    r.bits = o.width := by
  have width : ∀ {n : Nat} (target : Target n), target.reference? = some r → r.bits = n := by
    intro n target ht
    cases target with
    | offset value => cases ht
    | label name =>
      cases ht
      rfl
  cases o <;> first | exact width _ h | cases h

/-- Every instruction with a label reaches the one line of the label: the distance is in range, and
where the machine comes to the address of the instruction and finds its word, a step does what the
instruction is to do with the address of the label, and nothing else. -/
theorem step_of_assemble {source : String} {limits : Limits} {image : Image}
    (h : assemble source limits = .ok image) :
    ∃ p, Program.Reads (Text.lines source.toList) p ∧
      ∀ i s o r, p[i]? = some s → s.body = some (.operation o) → o.reference? = some r →
        r.bits = o.width ∧ p.address i < 2 ^ 16 ∧
        ∃ j, (∀ k, p.Defines k r.label ↔ k = j) ∧
          p.address j < 2 ^ 16 ∧
          Signed.InRange r.bits (p.address j - (p.address i + 1)) ∧
          ∃ word, image.words[p.address i - 0x3000]? = some word ∧
            ∀ (m : Type → Type) [Monad m] [Console m] (sim : Simulator),
              sim.machine.pc.toNat = p.address i → sim.machine.read sim.machine.pc = word →
              (sim.step : m (Except Fault Status × Simulator)) =
                pure (.ok .running, { sim with
                  machine := o.effect (BitVec.ofNat 16 (p.address j)) sim.machine
                  count := sim.count + 1 }) := by
  obtain ⟨p, reads, wf, rfl⟩ := assemble_eq_ok_iff.1 h
  refine ⟨p, reads, ?_⟩
  intro i s o r hs hb hr
  have here : p.address i < 2 ^ 16 := wf.address_lt hs (Program.ne_blank_of_body hb)
  obtain ⟨j, hj, reach⟩ := wf.resolvable i s r hs (by rw [Statement.reference?, hb]; exact hr)
  have there : p.address j < 2 ^ 16 := wf.address_lt_of_defines hj
  obtain ⟨line, -, holds⟩ := reads.line hs
  have encodable : o.Encodable := holds.encodable hb
  have toNat : (BitVec.ofNat 16 (p.address j)).toNat = p.address j := Program.toNat_ofNat_of_lt there
  have placed : p.words[p.address i - 0x3000]? =
      some (o.instr (p.address j - (p.address i + 1))).encode := by
    have index : p.address i - 0x3000 = Program.size (p.take i) := Nat.add_sub_cancel_left ..
    rw [index, Program.getElem?_words hs hb, Program.distance_eq wf.distinct (b := .operation o) hr hj]
    rfl
  refine ⟨Operation.bits_of_reference? hr, here, j, ?_, there, reach, _, placed, ?_⟩
  · intro k
    constructor
    · intro hk
      exact hk.unique wf.distinct hj
    · rintro rfl
      exact hj
  · intro m _ _ sim come found
    apply Simulator.step_of_fetch encodable hr
    · rwa [toNat, come]
    · rw [toNat, come]
      exact found

/-- A branch to its own line stays there. -/
theorem step_of_assemble_loop : assemble "x: br x" = .ok ⟨0x3000, [0x01ff]⟩ ∧
    ∀ (m : Type → Type) [Monad m] [Console m] (sim : Simulator),
      sim.machine.pc = 0x3000 → sim.machine.read 0x3000 = 0x01ff →
      (sim.step : m (Except Fault Status × Simulator)) =
        pure (.ok .running, { sim with count := sim.count + 1 }) := by
  have assembled : assemble "x: br x" = .ok ⟨0x3000, [0x01ff]⟩ := by decide +kernel
  refine ⟨assembled, ?_⟩
  intro m _ _ sim come found
  obtain ⟨p, reads, steps⟩ := step_of_assemble assembled
  have p_eq : p = [⟨some "x", some (.operation (.br 0 (.label "x")))⟩] := by
    refine reads.unique ?_
    rw [show Text.lines "x: br x".toList = ["x: br x".toList] by decide +kernel]
    exact .cons (by unfold Statement.Reads; decide +kernel) .nil
  subst p_eq
  obtain ⟨-, -, j, defined, -, -, word, placed, step⟩ := steps 0 _ _ ⟨"x", 9⟩ rfl rfl rfl
  obtain rfl : 0 = j := (defined 0).1 ⟨_, rfl, rfl⟩
  obtain rfl : 0x01ff = word := Option.some.inj placed
  have stays : ∀ t, sim.machine.pc = t →
      Operation.effect t sim.machine (.br 0 (.label "x")) = sim.machine := by
    rintro _ rfl
    rw [Operation.effect, if_pos (.inl rfl)]
    rfl
  rw [step m sim (by rw [come]; rfl) (by rw [come]; exact found), stays _ (by rw [come]; rfl)]

end Sixteen
