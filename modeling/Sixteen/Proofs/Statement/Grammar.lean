import Sixteen.Proofs.Statement.Reader
import Sixteen.Proofs.Operand.Range
import Sixteen.Proofs.Token.Lexer

/-!
# The grammar of instructions

The name of an instruction asks for operands, one at each of its places. The rows of the table say
which, and what the instruction is that holds them; nothing in them reads tokens in order. A line
that is no instruction is blamed for the first thing that is wrong with it from the left.

* `Slot`, `Slot.Denotes` : what may stand at a place, and the operand that a token stands for there;
* `Row`, `Token.row?` : the places behind a name, and the body that their operands make;
* `Row.Operands` : tokens are the operands of all places, one for one;
* `FirstFault` : the first operand that is missing, of the wrong kind or out of range, or else the
  first token that is left over;
* `Body.notMem_colon_of_parse` : an instruction has no colon in it;
* `Body.parse_iff_grammar` : what a text is read as, or blamed for.
-/

namespace Sixteen

/-! ## Operands -/

/-- What may stand at one place behind the name of an instruction. -/
inductive Slot where
  | register
  /-- A register, or an immediate of `n` bits. -/
  | source (n : Nat)
  /-- A bare number of `n` bits, or a label. -/
  | target (n : Nat)
  /-- A number of `n` bits, bare or immediate. -/
  | offset (n : Nat)
  /-- A number, bare or immediate, that becomes a word. -/
  | value
  deriving DecidableEq, Repr

namespace Slot

/-- What an instruction holds for a place. -/
def Operand : Slot → Type
  | register => Reg
  | source n => Source n
  | target n => Target n
  | offset n => Signed n
  | value => Word

/-- What is asked for where the operand of a place is missing. -/
def expected : Slot → Expected
  | register => .register
  | source _ => .source
  | target _ => .target
  | offset _ => .offset
  | value => .value

/-- Whether a token is of the right kind for a place. A number may be out of range all the same. -/
def takes : Slot → Token → Bool
  | register, .reg _ => true
  | source _, .reg _ | source _, .imm _ => true
  | target _, .int _ | target _, .label _ => true
  | offset _, .int _ | offset _, .imm _ => true
  | value, .int _ | value, .imm _ => true
  | _, _ => false

/-- A token gives the number `v` for the field of a place, which has `n` bits. -/
inductive Number : Slot → Token → (n : Nat) → (v : Int) → Prop
  | source {n : Nat} {v : Int} : Number (.source n) (.imm v) n v
  | target {n : Nat} {v : Int} : Number (.target n) (.int v) n v
  | offset {n : Nat} {v : Int} : Number (.offset n) (.int v) n v
  | immediate {n : Nat} {v : Int} : Number (.offset n) (.imm v) n v

/-- The operand that a token stands for at a place. -/
inductive Denotes : (k : Slot) → Token → k.Operand → Prop
  | register (r : Reg) : Denotes .register (.reg r) r
  | sourceRegister {n : Nat} (r : Reg) : Denotes (.source n) (.reg r) (Source.reg r)
  | sourceNumber {n : Nat} {s : Signed n} {v : Int} (fits : Signed.InRange n v)
    (same : s.value = v) : Denotes (.source n) (.imm v) (Source.imm s)
  | targetNumber {n : Nat} {s : Signed n} {v : Int} (fits : Signed.InRange n v)
    (same : s.value = v) : Denotes (.target n) (.int v) (Target.offset s)
  | targetLabel {n : Nat} (name : String) : Denotes (.target n) (.label name) (Target.label name)
  | offset {n : Nat} {s : Signed n} {v : Int} (fits : Signed.InRange n v) (same : s.value = v) :
    Denotes (.offset n) (.int v) s
  | offsetImmediate {n : Nat} {s : Signed n} {v : Int} (fits : Signed.InRange n v)
    (same : s.value = v) : Denotes (.offset n) (.imm v) s
  | value {w : Word} {v : Int} (same : (w.toNat : Int) = v % 0x10000) : Denotes .value (.int v) w
  | valueImmediate {w : Word} {v : Int} (same : (w.toNat : Int) = v % 0x10000) :
    Denotes .value (.imm v) w

/-- The field of a place has room for a number. -/
def Proper : Slot → Prop
  | source n | target n | offset n => 0 < n
  | register | value => True

instance : DecidablePred Proper
  | source n | target n | offset n => inferInstanceAs (Decidable (0 < n))
  | register | value => inferInstanceAs (Decidable True)

end Slot

/-! ## The table -/

/-- A body that still waits for the operands of some places. -/
def Waiting : List Slot → Type
  | [] => Body
  | k :: ks => k.Operand → Waiting ks

/-- The places behind the name of an instruction, and the body that their operands make. -/
structure Row where
  slots : List Slot
  body : Waiting slots
  proper : ∀ k ∈ slots, k.Proper := by decide

namespace Row

def plain (o : Operation) : Row :=
  .mk [] (Body.operation o)

def arithmetic (make : Reg → Reg → Source 5 → Operation) : Row :=
  .mk [.register, .register, .source 5] fun dst src1 src2 => Body.operation (make dst src1 src2)

def through (make : Reg → Operation) : Row :=
  .mk [.register] fun base => Body.operation (make base)

/-- An operand that is relative to the next instruction. -/
def relative (make : Reg → Target 9 → Operation) : Row :=
  .mk [.register, .target 9] fun r target => Body.operation (make r target)

/-- An operand at an offset from a register. -/
def based (make : Reg → Reg → Signed 6 → Operation) : Row :=
  .mk [.register, .register, .offset 6] fun r base offset => Body.operation (make r base offset)

end Row

def Keyword.row : Keyword → Row
  | .add => .arithmetic .add
  | .and => .arithmetic .and
  | .not => .mk [.register, .register] fun dst src => Body.operation (.not dst src)
  | .jmp => .through .jmp
  | .ret => .plain .ret
  | .jsr => .mk [.target 11] fun target => Body.operation (.jsr target)
  | .jssr | .jsrr => .through .jsrr
  | .ld => .relative .ld
  | .ldi => .relative .ldi
  | .lea => .relative .lea
  | .st => .relative .st
  | .sti => .relative .sti
  | .ldr => .based .ldr
  | .str => .based .str
  | .val => .mk [.value] fun word => Body.literal word
  | .getc => .plain (.service .getc)
  | .putc | .out => .plain (.service .putc)
  | .puts => .plain (.service .puts)
  | .enter | .inp => .plain (.service .enter)
  | .putsp => .plain (.service .putsp)
  | .halt => .plain (.service .halt)

def Branch.row (cond : Branch) : Row :=
  .mk [.target 9] fun target => Body.operation (.br cond target)

/-- The row of the name of an instruction. No other token has one. -/
def Token.row? : Token → Option Row
  | .keyword k => some k.row
  | .branch cond => some cond.row
  | _ => none

/-! ## What is right, and what is wrong first -/

/-- The tokens are the operands of the places, one for one, and `b` is the body with them. -/
inductive Operands : (ks : List Slot) → Waiting ks → List Lexeme → Body → Prop
  | none {b : Body} : Operands [] b [] b
  | next {k : Slot} {ks : List Slot} {f : Waiting (k :: ks)} {x : Lexeme} {xs : List Lexeme}
    {a : k.Operand} {b : Body} (first : k.Denotes x.token a) (rest : Operands ks (f a) xs b) :
    Operands (k :: ks) f (x :: xs) b

theorem Operands.ne_colon {ks : List Slot} {f : Waiting ks} {xs : List Lexeme} {b : Body}
    (h : Operands ks f xs b) : ∀ x ∈ xs, x.token ≠ .colon := by
  induction h with
  | none => exact List.forall_mem_nil _
  | @next k ks f x xs a b first rest ih =>
    refine List.forall_mem_cons.2 ⟨fun colon => ?_, ih⟩
    rw [colon] at first
    cases first

/-- What is wrong first with the tokens behind the name `mnemonic`, from the left. -/
inductive FirstFault (mnemonic : String) : List Slot → List Lexeme → ParseError → Prop
  /-- The line ends before this place. -/
  | missing {k : Slot} {ks : List Slot} :
    FirstFault mnemonic (k :: ks) [] (.expectedOperand mnemonic k.expected)
  | wrongKind {k : Slot} {ks : List Slot} {x : Lexeme} {xs : List Lexeme}
    (other : k.takes x.token = false) :
    FirstFault mnemonic (k :: ks) (x :: xs) (.expectedOperand mnemonic k.expected)
  | outOfRange {k : Slot} {ks : List Slot} {x : Lexeme} {xs : List Lexeme} {n : Nat} {v : Int}
    (number : k.Number x.token n v) (far : ¬Signed.InRange n v) :
    FirstFault mnemonic (k :: ks) (x :: xs) (.range (.signed n))
  /-- All places are taken. -/
  | extra {x : Lexeme} {xs : List Lexeme} :
    FirstFault mnemonic [] (x :: xs) (.unexpectedToken (String.ofList x.text))
  | later {k : Slot} {ks : List Slot} {x : Lexeme} {xs : List Lexeme} {e : ParseError}
    {a : k.Operand} (first : k.Denotes x.token a) (rest : FirstFault mnemonic ks xs e) :
    FirstFault mnemonic (k :: ks) (x :: xs) e

namespace Body

/-- The tokens are the name of an instruction and its operands. -/
inductive Sentence : List Lexeme → Body → Prop
  | mk {x : Lexeme} {xs : List Lexeme} {row : Row} {b : Body} (name : x.token.row? = some row)
    (operands : Operands row.slots row.body xs b) : Sentence (x :: xs) b

/-- What is wrong first with tokens, from the left. -/
inductive Blamed : List Lexeme → ParseError → Prop
  | empty : Blamed [] (.unknownMnemonic "")
  | noName {x : Lexeme} {xs : List Lexeme} (other : x.token.row? = none) :
    Blamed (x :: xs) (.unknownMnemonic (String.ofList x.text))
  | operands {x : Lexeme} {xs : List Lexeme} {row : Row} {e : ParseError}
    (name : x.token.row? = some row) (fault : FirstFault (String.ofList x.text) row.slots xs e) :
    Blamed (x :: xs) e

end Body

/-! ## One place -/

namespace Slot

def reader : (k : Slot) → Reader k.Operand
  | register => Reader.register
  | source n => Reader.source n
  | target n => Reader.target n
  | offset n => Reader.offset n
  | value => Reader.value

/-- What a token is read as at a place, if it is of the right kind. -/
def read : (k : Slot) → Token → Option (Except RangeError k.Operand)
  | register, .reg r => some (.ok r)
  | source _, .reg r => some (.ok (Source.reg r))
  | source n, .imm v => some ((Signed.ofInt? n v).map Source.imm)
  | target n, .int v => some ((Signed.ofInt? n v).map Target.offset)
  | target _, .label name => some (.ok (Target.label name))
  | offset n, .int v | offset n, .imm v => some (Signed.ofInt? n v)
  | value, .int v | value, .imm v => some (.ok (BitVec.ofInt 16 v))
  | _, _ => none

theorem reader_eq (k : Slot) : k.reader = Reader.operand k.expected k.read := by
  cases k <;>
    simp only [reader, Reader.register, Reader.source, Reader.target, Reader.offset,
      Reader.value] <;>
    congr 1 <;> funext t <;> cases t <;> rfl

theorem read_eq_none_iff (k : Slot) (t : Token) : k.read t = none ↔ k.takes t = false := by
  cases k <;> cases t <;> simp [read, takes]

theorem ofInt?_eq_ok_iff_value {n : Nat} (hn : 0 < n) {v : Int} {s : Signed n} :
    Signed.ofInt? n v = .ok s ↔ Signed.InRange n v ∧ s.value = v := by
  rw [Signed.ofInt?_eq_ok_iff hn]
  refine and_congr_right fun fits => ?_
  constructor
  · rintro rfl
    exact Signed.value_truncate hn fits
  · rintro rfl
    exact (Signed.truncate_value s).symm

theorem ofInt_eq_iff {v : Int} {w : Word} :
    BitVec.ofInt 16 v = w ↔ (w.toNat : Int) = v % 0x10000 := by
  have toNat : ((BitVec.ofInt 16 v).toNat : Int) = v % 0x10000 := by
    rw [BitVec.toNat_ofInt]
    exact Int.toNat_of_nonneg (Int.emod_nonneg v (by decide))
  constructor
  · rintro rfl
    exact toNat
  · intro same
    apply BitVec.eq_of_toNat_eq
    omega

variable {k : Slot} {t : Token}

theorem denotes_of_read (hk : k.Proper) {a : k.Operand} (h : k.read t = some (.ok a)) :
    k.Denotes t a := by
  unfold read at h
  split at h
  case h_1 r =>
    cases h
    exact .register _
  case h_2 n r =>
    cases h
    exact .sourceRegister r
  case h_3 n v =>
    obtain ⟨s, hs, rfl⟩ := Except.map_eq_ok_iff.1 (Option.some.inj h)
    obtain ⟨fits, same⟩ := (ofInt?_eq_ok_iff_value hk).1 hs
    exact .sourceNumber fits same
  case h_4 n v =>
    obtain ⟨s, hs, rfl⟩ := Except.map_eq_ok_iff.1 (Option.some.inj h)
    obtain ⟨fits, same⟩ := (ofInt?_eq_ok_iff_value hk).1 hs
    exact .targetNumber fits same
  case h_5 n name =>
    cases h
    exact .targetLabel name
  case h_6 n v =>
    obtain ⟨fits, same⟩ := (ofInt?_eq_ok_iff_value hk).1 (Option.some.inj h)
    exact .offset fits same
  case h_7 n v =>
    obtain ⟨fits, same⟩ := (ofInt?_eq_ok_iff_value hk).1 (Option.some.inj h)
    exact .offsetImmediate fits same
  case h_8 v => exact .value (ofInt_eq_iff.1 (Except.ok.inj (Option.some.inj h)))
  case h_9 v => exact .valueImmediate (ofInt_eq_iff.1 (Except.ok.inj (Option.some.inj h)))
  case h_10 => cases h

theorem Denotes.read {a : k.Operand} (hk : k.Proper) (h : k.Denotes t a) :
    k.read t = some (.ok a) := by
  cases h with
  | register r | sourceRegister r | targetLabel name => rfl
  | sourceNumber fits same | targetNumber fits same | offset fits same
  | offsetImmediate fits same =>
    rw [Slot.read, (ofInt?_eq_ok_iff_value hk).2 ⟨fits, same⟩]
    rfl
  | value same | valueImmediate same => rw [Slot.read, ofInt_eq_iff.2 same]

theorem Number.pos {n : Nat} {v : Int} (hk : k.Proper) (h : k.Number t n v) : 0 < n := by
  cases h <;> exact hk

theorem exists_number_of_read {e : RangeError} (h : k.read t = some (.error e)) :
    ∃ n v, k.Number t n v ∧ Signed.ofInt? n v = .error e := by
  unfold read at h
  split at h
  case h_3 n v => exact ⟨n, v, .source, Except.map_eq_error_iff.1 (Option.some.inj h)⟩
  case h_4 n v => exact ⟨n, v, .target, Except.map_eq_error_iff.1 (Option.some.inj h)⟩
  case h_6 n v => exact ⟨n, v, .offset, Option.some.inj h⟩
  case h_7 n v => exact ⟨n, v, .immediate, Option.some.inj h⟩
  all_goals cases h

theorem read_eq_error_iff (hk : k.Proper) {e : RangeError} :
    k.read t = some (.error e) ↔ ∃ n v, k.Number t n v ∧ ¬Signed.InRange n v ∧ e = .signed n := by
  constructor
  · intro h
    obtain ⟨n, v, number, refused⟩ := exists_number_of_read h
    obtain ⟨far, rfl⟩ := (Signed.ofInt?_eq_error_iff (number.pos hk)).1 refused
    exact ⟨n, v, number, far, rfl⟩
  · rintro ⟨n, v, number, far, rfl⟩
    have refused := (Signed.ofInt?_eq_error_iff (number.pos hk)).2 ⟨far, rfl⟩
    cases number <;> rw [read, refused] <;> rfl

/-! ## All places -/

/-- Reads the operands of places, from the left. -/
def readAll : (ks : List Slot) → Waiting ks → Reader Body
  | [], b => pure b
  | k :: ks, f => do
    let a ← k.reader
    readAll ks (f a)

end Slot

theorem Keyword.reader_eq (k : Keyword) : k.reader = Slot.readAll k.row.slots k.row.body := by
  cases k <;> rfl

theorem Body.readerOf?_eq (t : Token) :
    readerOf? t = t.row?.map fun row => Slot.readAll row.slots row.body := by
  cases t with
  | keyword k => exact congrArg some k.reader_eq
  | _ => rfl

namespace Slot

variable {ks : List Slot} {mnemonic : String} {x : Lexeme} {xs : List Lexeme} {b : Body}
  {e : ParseError}

/-- What comes of reading all operands behind the name `mnemonic`. -/
def settle (mnemonic : String) :
    Except (Expected ⊕ RangeError) (Body × List Lexeme) → Except ParseError Body
  | .error (.inl expected) => .error (.expectedOperand mnemonic expected)
  | .error (.inr e) => .error (.range e)
  | .ok (_, extra :: _) => .error (.unexpectedToken (String.ofList extra.text))
  | .ok (b, []) => .ok b

theorem settle_readAll_missing (f : Waiting (k :: ks)) :
    settle mnemonic (readAll (k :: ks) f []) = .error (.expectedOperand mnemonic k.expected) := by
  rw [readAll, reader_eq]
  rfl

theorem settle_readAll_cons (f : Waiting (k :: ks)) :
    settle mnemonic (readAll (k :: ks) f (x :: xs)) =
      match k.read x.token with
      | none => .error (.expectedOperand mnemonic k.expected)
      | some (.error e) => .error (.range e)
      | some (.ok a) => settle mnemonic (readAll ks (f a) xs) := by
  have peel : readAll (k :: ks) f (x :: xs) =
      Reader.operand k.expected k.read (x :: xs) >>= fun r => readAll ks (f r.1) r.2 := by
    rw [← reader_eq]
    rfl
  rw [peel, Reader.operand]
  rcases k.read x.token with _ | _ | a <;> rfl

theorem settle_readAll_eq_ok_iff (proper : ∀ k ∈ ks, k.Proper) {f : Waiting ks} :
    settle mnemonic (readAll ks f xs) = .ok b ↔ Operands ks f xs b := by
  induction ks generalizing xs with
  | nil =>
    constructor
    · intro h
      cases xs with
      | nil =>
        cases h
        exact .none
      | cons x xs => cases h
    · rintro ⟨⟩
      rfl
  | cons k ks ih =>
    obtain ⟨hk, hks⟩ := List.forall_mem_cons.1 proper
    constructor
    · intro h
      cases xs with
      | nil =>
        rw [settle_readAll_missing] at h
        cases h
      | cons x xs =>
        rw [settle_readAll_cons] at h
        split at h
        · cases h
        · cases h
        · next a ha => exact .next (denotes_of_read hk ha) ((ih hks).1 h)
    · rintro (_ | ⟨first, rest⟩)
      rw [settle_readAll_cons, first.read hk]
      exact (ih hks).2 rest

theorem settle_readAll_eq_error_iff (proper : ∀ k ∈ ks, k.Proper) {f : Waiting ks} :
    settle mnemonic (readAll ks f xs) = .error e ↔ FirstFault mnemonic ks xs e := by
  induction ks generalizing xs with
  | nil =>
    constructor
    · intro h
      cases xs with
      | nil => cases h
      | cons x xs =>
        cases h
        exact .extra
    · rintro ⟨⟩
      rfl
  | cons k ks ih =>
    obtain ⟨hk, hks⟩ := List.forall_mem_cons.1 proper
    constructor
    · intro h
      cases xs with
      | nil =>
        rw [settle_readAll_missing] at h
        cases h
        exact .missing
      | cons x xs =>
        rw [settle_readAll_cons] at h
        split at h
        · next other =>
          cases h
          exact .wrongKind ((read_eq_none_iff k _).1 other)
        · next refused =>
          cases h
          obtain ⟨n, v, number, far, rfl⟩ := (read_eq_error_iff hk).1 refused
          exact .outOfRange number far
        · next a ha => exact .later (denotes_of_read hk ha) ((ih hks).1 h)
    · intro h
      cases h with
      | missing => exact settle_readAll_missing f
      | wrongKind other => rw [settle_readAll_cons, (read_eq_none_iff k _).2 other]
      | outOfRange number far =>
        rw [settle_readAll_cons, (read_eq_error_iff hk).2 ⟨_, _, number, far, rfl⟩]
      | later first rest =>
        rw [settle_readAll_cons, first.read hk]
        exact (ih hks).2 rest

end Slot

/-! ## Lines -/

namespace Body

variable {x : Lexeme} {xs : List Lexeme}

theorem ofLexemes_of_row {row : Row} (h : x.token.row? = some row) :
    ofLexemes (x :: xs) =
      Slot.settle (String.ofList x.text) (Slot.readAll row.slots row.body xs) := by
  rw [ofLexemes, readerOf?_eq, h, Option.map_some]
  rfl

theorem ofLexemes_of_no_row (h : x.token.row? = none) :
    ofLexemes (x :: xs) = .error (.unknownMnemonic (String.ofList x.text)) := by
  rw [ofLexemes, readerOf?_eq, h, Option.map_none]

theorem ofLexemes_eq_ok_iff {b : Body} : ofLexemes xs = .ok b ↔ Sentence xs b := by
  constructor
  · intro h
    cases xs with
    | nil => cases h
    | cons x xs =>
      cases name : x.token.row? with
      | none =>
        rw [ofLexemes_of_no_row name] at h
        cases h
      | some row =>
        rw [ofLexemes_of_row name] at h
        exact .mk name ((Slot.settle_readAll_eq_ok_iff row.proper).1 h)
  · rintro ⟨name, operands⟩
    rw [ofLexemes_of_row name]
    exact (Slot.settle_readAll_eq_ok_iff (Row.proper _)).2 operands

theorem ofLexemes_eq_error_iff {e : ParseError} : ofLexemes xs = .error e ↔ Blamed xs e := by
  constructor
  · intro h
    cases xs with
    | nil =>
      cases h
      exact .empty
    | cons x xs =>
      cases name : x.token.row? with
      | none =>
        rw [ofLexemes_of_no_row name] at h
        cases h
        exact .noName name
      | some row =>
        rw [ofLexemes_of_row name] at h
        exact .operands name ((Slot.settle_readAll_eq_error_iff row.proper).1 h)
  · intro h
    cases h with
    | empty => rfl
    | noName other => exact ofLexemes_of_no_row other
    | operands name fault =>
      rw [ofLexemes_of_row name]
      exact (Slot.settle_readAll_eq_error_iff (Row.proper _)).2 fault

theorem parse_eq_error_iff {text : List Char} {e : ParseError} :
    parse text = .error e ↔
      (∃ l, (lex text).error? = some l ∧ e = .lex l.fault (String.ofList l.text)) ∨
      (lex text).error? = none ∧
        ofLexemes ((lex text).lexemes.filter (·.token ≠ .comma)) = .error e := by
  unfold parse
  rcases lex text with ⟨ts, _ | l⟩ <;> simp [eq_comm]

theorem Sentence.ne_colon {b : Body} (h : Sentence xs b) : ∀ x ∈ xs, x.token ≠ .colon := by
  obtain ⟨name, operands⟩ := h
  refine List.forall_mem_cons.2 ⟨fun colon => ?_, operands.ne_colon⟩
  rw [colon] at name
  cases name

/-- There is no colon in an instruction. -/
theorem notMem_colon_of_parse {text : List Char} {b : Body} (h : parse text = .ok b) :
    ':' ∉ text := by
  obtain ⟨clean, read⟩ := parse_eq_ok_iff.1 h
  intro mem
  obtain ⟨x, hx, colon⟩ := exists_colon_of_lex mem clean
  have kept : x ∈ (lex text).lexemes.filter (·.token ≠ .comma) :=
    List.mem_filter.2 ⟨hx, by simp [colon]⟩
  exact (ofLexemes_eq_ok_iff.1 read).ne_colon x kept colon

/-- A text is read as an instruction exactly if its tokens are one of the grammar, and then as this.
What is no token in a text comes before all other faults; else the first fault of the tokens from
the left decides. -/
theorem parse_iff_grammar (text : List Char) :
    (∀ b, parse text = .ok b ↔
      (lex text).error? = none ∧ Sentence ((lex text).lexemes.filter (·.token ≠ .comma)) b) ∧
    ∀ e, parse text = .error e ↔
      (∃ l, (lex text).error? = some l ∧ e = .lex l.fault (String.ofList l.text)) ∨
      (lex text).error? = none ∧ Blamed ((lex text).lexemes.filter (·.token ≠ .comma)) e := by
  refine ⟨fun b => ?_, fun e => ?_⟩
  · rw [parse_eq_ok_iff, ofLexemes_eq_ok_iff]
  · rw [parse_eq_error_iff, ofLexemes_eq_error_iff]

end Body

end Sixteen
