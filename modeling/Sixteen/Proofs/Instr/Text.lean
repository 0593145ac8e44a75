import Sixteen.Listing
import Sixteen.Proofs.Statement.Reader
import Sixteen.Proofs.Token.Written

/-!
# Written instructions are read back

* `Reader.register_cons`, `Reader.source_cons`, `Reader.target_cons`, `Reader.offset_cons`,
  `Reader.value_cons` : an operand of every kind is read from the token that it is written as;
* `Instr.body` : the body that an instruction is written as;
* `Spells` : the parts of a text are the tokens of a body;
* `Instr.spells` : the parts of an instruction are those of its body.
-/

namespace Sixteen

/-! ## Readers -/

namespace Reader

variable {n : Nat} {text : List Char} {ts : List Lexeme}

theorem register_cons (r : Reg) : register (⟨.reg r, text⟩ :: ts) = .ok (r, ts) := rfl

theorem source_cons (s : Source n) : source n (⟨s.token, text⟩ :: ts) = .ok (s, ts) := by
  cases s with
  | reg r => rfl
  | imm v =>
    simp only [source, operand, Source.token, Signed.ofInt?_value]
    rfl

theorem target_cons (s : Signed n) :
    target n (⟨.int s.value, text⟩ :: ts) = .ok (.offset s, ts) := by
  simp only [target, operand, Signed.ofInt?_value]
  rfl

theorem offset_cons (s : Signed n) : offset n (⟨.imm s.value, text⟩ :: ts) = .ok (s, ts) := by
  simp only [offset, operand, Signed.ofInt?_value]

theorem value_cons (w : Word) : value (⟨.int w.toNat, text⟩ :: ts) = .ok (w, ts) := by
  simp only [value, operand, BitVec.ofInt_natCast, BitVec.ofNat_toNat, BitVec.setWidth_eq]

end Reader

/-! ## Bodies -/

/-- The body that an instruction is written as. A trap without a service is written as a word. -/
def Instr.body : Instr → Body
  | .br cond offset => .operation (.br cond (.offset offset))
  | .add dst src1 src2 => .operation (.add dst src1 src2)
  | .ld dst offset => .operation (.ld dst (.offset offset))
  | .st src offset => .operation (.st src (.offset offset))
  | .jsr offset => .operation (.jsr (.offset offset))
  | .jsrr base => .operation (.jsrr base)
  | .and dst src1 src2 => .operation (.and dst src1 src2)
  | .ldr dst base offset => .operation (.ldr dst base offset)
  | .str src base offset => .operation (.str src base offset)
  | .not dst src => .operation (.not dst src)
  | .ldi dst offset => .operation (.ldi dst (.offset offset))
  | .sti src offset => .operation (.sti src (.offset offset))
  | .jmp base => .operation (.jmp base)
  | .lea dst offset => .operation (.lea dst (.offset offset))
  | .trap vector =>
    match Service.ofVector? vector with
    | some s => .operation (.service s)
    | none => .literal (Instr.trap vector).encode

theorem Instr.reference?_body (i : Instr) : i.body.reference? = none := by
  cases i with
  | trap vector =>
    rw [body]
    split <;> rfl
  | _ => rfl

theorem Instr.wordAt_body (i : Instr) (d : Int) : i.body.wordAt d = i.encode := by
  cases i with
  | trap vector =>
    rw [body]
    split
    · next s known =>
      rw [← Service.vector_of_ofVector? known]
      rfl
    · rfl
  | _ => rfl

/-! ## Parts of a text -/

/-- The tokens of `parts` are those of the body `b`. -/
def Spells (parts : List String) (b : Body) : Prop :=
  ∃ ts, List.Forall₂ Written (parts.map String.toList) ts ∧ Token.comma ∉ ts ∧
    Body.ofLexemes (List.zipWith Lexeme.mk ts (parts.map String.toList)) = .ok b

/-- The name of an instruction and its operands. -/
theorem spells_keyword {name : String} {operands : List String} {k : Keyword} {ts : List Token}
    {b : Body} (hk : name.toList = k.name.toList.map Char.toLower)
    (written : List.Forall₂ Written (operands.map String.toList) ts) (comma : Token.comma ∉ ts)
    (read : k.reader (List.zipWith Lexeme.mk ts (operands.map String.toList)) = .ok (b, [])) :
    Spells (name :: operands) b := by
  refine ⟨.keyword k :: ts, .cons ?_ written, ?_, ?_⟩
  · rw [hk]
    exact written_keyword k
  · rintro (_ | ⟨_, later⟩)
    exact comma later
  · exact Body.ofLexemes_cons_eq_ok_iff.2 ⟨k.reader, rfl, read⟩

theorem Source.token_ne_comma {n : Nat} (s : Source n) : Token.comma ≠ s.token := by
  cases s <;> exact nofun

/-- A word given as such. -/
theorem spells_literal (w : Word) : Spells ["val", w.literal] (.literal w) := by
  refine spells_keyword (k := .val) (by decide +kernel) (.cons (written_literal w) .nil)
    (by simp) ?_
  apply Reader.bind_ok (Reader.value_cons w)
  rfl

/-- The keyword of a service. -/
def Service.keyword : Service → Keyword
  | .getc => .getc
  | .putc => .putc
  | .puts => .puts
  | .enter => .enter
  | .putsp => .putsp
  | .halt => .halt

theorem spells_service (s : Service) : Spells [s.name] (.operation (.service s)) := by
  refine spells_keyword (k := s.keyword) ?_ .nil (by simp) ?_
  · cases s <;> decide +kernel
  · cases s <;> rfl

/-- The instructions with a register and an offset from the program counter differ in `f`. -/
theorem spells_reg_target {name : String} {k : Keyword} {f : Reg → Target 9 → Operation}
    (hk : name.toList = k.name.toList.map Char.toLower)
    (reader : k.reader = do
      let r ← Reader.register
      let target ← Reader.target 9
      return .operation (f r target)) (r : Reg) (offset : Signed 9) :
    Spells [name, r.text, offset.text] (.operation (f r (.offset offset))) := by
  refine spells_keyword hk (.cons (written_reg r)
    (.cons (written_offset (by omega) offset) .nil)) (by simp) ?_
  rw [reader]
  apply Reader.bind_ok (Reader.register_cons r)
  apply Reader.bind_ok (Reader.target_cons offset)
  rfl

/-- The instructions with two registers and a third operand, which `x` reads, differ in `f`. -/
theorem spells_reg_reg {α : Type} {name last : String} {k : Keyword} {x : Reader α} {t : Token}
    {a : α} {f : Reg → Reg → α → Operation} (hk : name.toList = k.name.toList.map Char.toLower)
    (reader : k.reader = do
      let r ← Reader.register
      let s ← Reader.register
      let v ← x
      return .operation (f r s v)) (r s : Reg) (written : Written last.toList t)
    (comma : Token.comma ≠ t) (read : ∀ text ts, x (⟨t, text⟩ :: ts) = .ok (a, ts)) :
    Spells [name, r.text, s.text, last] (.operation (f r s a)) := by
  refine spells_keyword hk (.cons (written_reg r)
    (.cons (written_reg s) (.cons written .nil))) (by simp [comma]) ?_
  rw [reader]
  apply Reader.bind_ok (Reader.register_cons r)
  apply Reader.bind_ok (Reader.register_cons s)
  apply Reader.bind_ok (read _ _)
  rfl

theorem Instr.spells {i : Instr} (h : i.Encodable) : Spells i.parts i.body := by
  cases i with
  | add dst src1 src2 =>
    exact spells_reg_reg (k := .add) (by decide +kernel) rfl dst src1
      (written_source (by omega) src2) src2.token_ne_comma fun _ _ => Reader.source_cons src2
  | and dst src1 src2 =>
    exact spells_reg_reg (k := .and) (by decide +kernel) rfl dst src1
      (written_source (by omega) src2) src2.token_ne_comma fun _ _ => Reader.source_cons src2
  | ldr dst base offset =>
    exact spells_reg_reg (k := .ldr) (by decide +kernel) rfl dst base
      (written_dollar (by omega) offset) nofun fun _ _ => Reader.offset_cons offset
  | str src base offset =>
    exact spells_reg_reg (k := .str) (by decide +kernel) rfl src base
      (written_dollar (by omega) offset) nofun fun _ _ => Reader.offset_cons offset
  | not dst src =>
    refine spells_keyword (k := .not) (by decide +kernel)
      (.cons (written_reg dst) (.cons (written_reg src) .nil)) (by simp) ?_
    apply Reader.bind_ok (Reader.register_cons dst)
    apply Reader.bind_ok (Reader.register_cons src)
    rfl
  | ld dst offset => exact spells_reg_target (k := .ld) (by decide +kernel) rfl dst offset
  | ldi dst offset => exact spells_reg_target (k := .ldi) (by decide +kernel) rfl dst offset
  | lea dst offset => exact spells_reg_target (k := .lea) (by decide +kernel) rfl dst offset
  | st src offset => exact spells_reg_target (k := .st) (by decide +kernel) rfl src offset
  | sti src offset => exact spells_reg_target (k := .sti) (by decide +kernel) rfl src offset
  | jmp base =>
    refine spells_keyword (k := .jmp) (by decide +kernel) (.cons (written_reg base) .nil)
      (by simp) ?_
    apply Reader.bind_ok (Reader.register_cons base)
    rfl
  | jsrr base =>
    refine spells_keyword (k := .jssr) (by decide +kernel) (.cons (written_reg base) .nil)
      (by simp) ?_
    apply Reader.bind_ok (Reader.register_cons base)
    rfl
  | jsr offset =>
    refine spells_keyword (k := .jsr) (by decide +kernel)
      (.cons (written_offset (by omega) offset) .nil) (by simp) ?_
    apply Reader.bind_ok (Reader.target_cons offset)
    rfl
  | br cond offset =>
    refine ⟨[.branch cond, .int offset.value],
      .cons (written_mnemonic h) (.cons (written_offset (by omega) offset) .nil), by simp, ?_⟩
    refine Body.ofLexemes_cons_eq_ok_iff.2 ⟨Branch.reader cond, rfl, ?_⟩
    apply Reader.bind_ok (Reader.target_cons offset)
    rfl
  | trap vector =>
    rw [parts, body]
    cases known : Service.ofVector? vector with
    | none => exact spells_literal _
    | some s => exact spells_service s

end Sixteen
