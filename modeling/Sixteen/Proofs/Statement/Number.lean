import Sixteen.Proofs.Instr.Codec
import Sixteen.Proofs.Statement.Label
import Sixteen.Proofs.Token.Literal

/-!
# Numbers in instructions

A number is the last operand of the instructions that have an offset or an immediate, and the operand
of `val`. The field of an instruction takes the numbers that it can hold in two's complement and no
others; a `val` takes all that are read. In either case the bits are those of the number.

* `Body.Consists` : a text is read as these tokens;
* `Opening` : an instruction up to an operand that may be a number, with the width of its field
  (`Opening.exists_word` : it is the low end of the word);
* `Leads` : the operands of all places but the last;
* `Body.Fate`, `Body.fate_of_consists` : what becomes of a number behind an opening;
* `Body.parse_value` : what becomes of it behind `val`;
* `Body.exists_place_of_parse` : there are no other places for it;
* `Literal.meaning` : from the characters of a number to the bits of a word.
-/

namespace Sixteen

/-! ## Places for numbers -/

/-- A text is read as the tokens `ts`, with commas anywhere among them. -/
def Body.Consists (text : List Char) (ts : List Token) : Prop :=
  (lex text).error? = none ∧
    ((lex text).lexemes.filter (·.token ≠ .comma)).map (·.token) = ts

instance (text : List Char) (ts : List Token) : Decidable (Body.Consists text ts) :=
  inferInstanceAs (Decidable (_ ∧ _))

/-- An instruction up to an operand that may be a number. -/
inductive Opening where
  | relative (approach : Approach)
  | add (dst src : Reg)
  | and (dst src : Reg)
  | ldr (dst base : Reg)
  | str (src base : Reg)
  deriving DecidableEq, Repr

namespace Opening

/-- The width of the field of the number. -/
def bits : Opening → Nat
  | relative approach => approach.bits
  | add .. | and .. => 5
  | ldr .. | str .. => 6

theorem bits_pos (o : Opening) : 0 < o.bits := by
  cases o with
  | relative approach => cases approach <;> exact Nat.succ_pos _
  | _ => exact Nat.succ_pos _

def slot : Opening → Slot
  | relative approach => .target approach.bits
  | add .. | and .. => .source 5
  | ldr .. | str .. => .offset 6

theorem slot_eq (o : Opening) :
    o.slot = .target o.bits ∨ o.slot = .source o.bits ∨ o.slot = .offset o.bits := by
  cases o with
  | relative approach => exact .inl rfl
  | add | and => exact .inr (.inl rfl)
  | ldr | str => exact .inr (.inr rfl)

/-- The tokens before the operand. -/
def tokens : Opening → List Token
  | relative approach => approach.tokens
  | add dst src => [.keyword .add, .reg dst, .reg src]
  | and dst src => [.keyword .and, .reg dst, .reg src]
  | ldr dst base => [.keyword .ldr, .reg dst, .reg base]
  | str src base => [.keyword .str, .reg src, .reg base]

/-- The instruction with the operand. -/
def body : (o : Opening) → o.slot.Operand → Body
  | relative approach, target => .operation (approach.operation target)
  | add dst src, source => .operation (.add dst src source)
  | and dst src, source => .operation (.and dst src source)
  | ldr dst base, offset => .operation (.ldr dst base offset)
  | str src base, offset => .operation (.str src base offset)

/-- A number as the operand. -/
def operand : (o : Opening) → Signed o.bits → o.slot.Operand
  | relative _, s => Target.offset s
  | add .. , s | and .., s => Source.imm s
  | ldr .., s | str .., s => s

variable {o : Opening} {xs : List Lexeme} {t : Token} {v : Int}

theorem denotes_operand (number : o.slot.Number t o.bits v) {s : Signed o.bits}
    (fits : Signed.InRange o.bits v) (same : s.value = v) : o.slot.Denotes t (o.operand s) := by
  cases o with
  | relative approach =>
    cases number
    exact .targetNumber fits same
  | add dst src | and dst src =>
    cases number
    exact .sourceNumber fits same
  | ldr r base | str r base =>
    cases number with
    | offset => exact .offset fits same
    | immediate => exact .offsetImmediate fits same

/-! ## Fields -/

/-- The immediate of an addition is at the low end of the word. -/
theorem extractLsb'_encode_imm {i : Instr} {a b : BitVec 3} {s : Signed 5}
    (h : i.operands = a ++ b ++ (Source.imm s).field) : i.encode.extractLsb' 0 5 = s.bits := by
  rw [← Source.extractLsb'_field_imm s, ← (Instr.fields_of_three h).2.2,
    BitVec.extractLsb'_extractLsb'_of_le (by decide)]

/-- The number is the low end of the word, whatever the labels and the address of the instruction. -/
theorem exists_word (o : Opening) (s : Signed o.bits) (address : Word) (symbols : SymbolTable) :
    ∃ w, (o.body (o.operand s)).word address symbols = .ok w ∧ w.extractLsb' 0 o.bits = s.bits := by
  cases o with
  | relative approach =>
    cases approach with
    | br cond => exact ⟨_, rfl, (Instr.fields_of_two (i := .br cond s) rfl).2⟩
    | jsr =>
      refine ⟨_, rfl, ?_⟩
      rw [Instr.extractLsb'_encode _ (by decide)]
      exact BitVec.extractLsb'_append_eq_right
    | ld dst => exact ⟨_, rfl, (Instr.fields_of_two (i := .ld dst s) rfl).2⟩
    | ldi dst => exact ⟨_, rfl, (Instr.fields_of_two (i := .ldi dst s) rfl).2⟩
    | lea dst => exact ⟨_, rfl, (Instr.fields_of_two (i := .lea dst s) rfl).2⟩
    | st src => exact ⟨_, rfl, (Instr.fields_of_two (i := .st src s) rfl).2⟩
    | sti src => exact ⟨_, rfl, (Instr.fields_of_two (i := .sti src s) rfl).2⟩
  | add dst src => exact ⟨_, rfl, extractLsb'_encode_imm (i := .add dst src (.imm s)) rfl⟩
  | and dst src => exact ⟨_, rfl, extractLsb'_encode_imm (i := .and dst src (.imm s)) rfl⟩
  | ldr dst base => exact ⟨_, rfl, (Instr.fields_of_three (i := .ldr dst base s) rfl).2.2⟩
  | str src base => exact ⟨_, rfl, (Instr.fields_of_three (i := .str src base s) rfl).2.2⟩

end Opening

/-! ## Reading -/

/-- The tokens are the operands of all places but the last one, which is `k`; with the operand of this
place, `g` is the body. -/
inductive Leads : (ks : List Slot) → Waiting ks → List Lexeme → (k : Slot) → (k.Operand → Body) → Prop
  | last {k : Slot} {f : Waiting [k]} : Leads [k] f [] k f
  | next {k last : Slot} {ks : List Slot} {f : Waiting (k :: ks)} {x : Lexeme} {xs : List Lexeme}
    {a : k.Operand} {g : last.Operand → Body} (first : k.Denotes x.token a)
    (rest : Leads ks (f a) xs last g) : Leads (k :: ks) f (x :: xs) last g

section
variable {ks : List Slot} {f : Waiting ks} {xs : List Lexeme} {x : Lexeme} {k : Slot}
  {g : k.Operand → Body}

theorem Leads.operands (h : Leads ks f xs k g) {a : k.Operand} (ha : k.Denotes x.token a) :
    Operands ks f (xs ++ [x]) (g a) := by
  induction h with
  | last => exact .next ha .none
  | next first rest ih => exact .next first (ih ha)

theorem Leads.firstFault (h : Leads ks f xs k g) {n : Nat} {v : Int} (number : k.Number x.token n v)
    (far : ¬Signed.InRange n v) (mnemonic : String) :
    FirstFault mnemonic ks (xs ++ [x]) (.range (.signed n)) := by
  induction h with
  | last => exact .outOfRange number far
  | next first rest ih => exact .later first (ih number)

end

/-- An opening is a name and the operands of all places but the last one. -/
theorem Opening.leads {o : Opening} {xs : List Lexeme} (h : xs.map (·.token) = o.tokens) :
    ∃ name rest row, xs = name :: rest ∧ name.token.row? = some row ∧
      Leads row.slots row.body rest o.slot o.body := by
  have one : ∀ {t : Token} {ys : List Lexeme}, ys.map (·.token) = [t] → ∃ run, ys = [⟨t, run⟩] := by
    intro t ys h
    obtain ⟨⟨_, run⟩, rfl, rfl⟩ := List.map_eq_singleton_iff.1 h
    exact ⟨run, rfl⟩
  have cons : ∀ {t : Token} {ts : List Token} {ys : List Lexeme}, ys.map (·.token) = t :: ts →
      ∃ run zs, ys = ⟨t, run⟩ :: zs ∧ zs.map (·.token) = ts := by
    intro t ts ys h
    obtain ⟨⟨_, run⟩, zs, rfl, rfl, more⟩ := List.map_eq_cons_iff.1 h
    exact ⟨run, zs, rfl, more⟩
  cases o with
  | relative approach =>
    cases approach with
    | br cond | jsr =>
      obtain ⟨name, rfl⟩ := one h
      exact ⟨_, _, _, rfl, rfl, .last⟩
    | ld r | ldi r | lea r | st r | sti r =>
      obtain ⟨name, rest, rfl, more⟩ := cons h
      obtain ⟨first, rfl⟩ := one more
      exact ⟨_, _, _, rfl, rfl, .next (.register r) .last⟩
  | add a b | and a b | ldr a b | str a b =>
    obtain ⟨name, rest, rfl, more⟩ := cons h
    obtain ⟨first, rest, rfl, last⟩ := cons more
    obtain ⟨second, rfl⟩ := one last
    exact ⟨_, _, _, rfl, rfl, .next (.register a) (.next (.register b) .last)⟩

namespace Body

variable {text : List Char} {o : Opening} {t : Token} {v : Int}

theorem exists_of_consists {front : List Token} (h : Consists text (front ++ [t])) :
    ∃ xs x, (lex text).lexemes.filter (·.token ≠ .comma) = xs ++ [x] ∧ xs.map (·.token) = front ∧
      x.token = t := by
  obtain ⟨xs, ys, split, fronts, last⟩ := List.map_eq_append_iff.1 h.2
  obtain ⟨x, rfl, same⟩ := List.map_eq_singleton_iff.1 last
  exact ⟨xs, x, split, fronts, same⟩

/-- A number in range makes the instruction. -/
theorem parse_of_inRange (h : Consists text (o.tokens ++ [t])) (number : o.slot.Number t o.bits v)
    {s : Signed o.bits} (fits : Signed.InRange o.bits v) (same : s.value = v) :
    parse text = .ok (o.body (o.operand s)) := by
  obtain ⟨xs, x, split, front, rfl⟩ := exists_of_consists h
  obtain ⟨name, rest, row, rfl, named, leads⟩ := Opening.leads front
  rw [parse_eq_ok_iff, ofLexemes_eq_ok_iff, split]
  exact ⟨h.1, .mk named (leads.operands (Opening.denotes_operand number fits same))⟩

/-- A number that is out of range is to blame. -/
theorem parse_of_not_inRange (h : Consists text (o.tokens ++ [t]))
    (number : o.slot.Number t o.bits v) (far : ¬Signed.InRange o.bits v) :
    parse text = .error (.range (.signed o.bits)) := by
  obtain ⟨xs, x, split, front, rfl⟩ := exists_of_consists h
  obtain ⟨name, rest, row, rfl, named, leads⟩ := Opening.leads front
  rw [parse_eq_error_iff, ofLexemes_eq_error_iff, split]
  exact .inr ⟨h.1, .operands named (leads.firstFault number far _)⟩

/-- What becomes of the number `v` behind the opening `o`. -/
structure Fate (o : Opening) (v : Int) (text : List Char) : Prop where
  accepted : (∃ b, parse text = .ok b) ↔ Signed.InRange o.bits v
  refused : ¬Signed.InRange o.bits v → parse text = .error (.range (.signed o.bits))
  /-- The field has the low bits of the number, wherever the instruction is. -/
  field : ∀ b, parse text = .ok b → ∀ (address : Word) (symbols : SymbolTable),
    ∃ w, b.word address symbols = .ok w ∧
      ((w.extractLsb' 0 o.bits).toNat : Int) = v % 2 ^ o.bits

theorem fate_of_consists (h : Consists text (o.tokens ++ [t])) (number : o.slot.Number t o.bits v) :
    Fate o v text := by
  have taken : Signed.InRange o.bits v →
      parse text = .ok (o.body (o.operand (Signed.truncate o.bits v))) := fun fits =>
    parse_of_inRange h number fits (Signed.value_truncate o.bits_pos fits)
  have refused := parse_of_not_inRange h number
  have accepted : (∃ b, parse text = .ok b) ↔ Signed.InRange o.bits v := by
    refine ⟨fun ⟨b, read⟩ => ?_, fun fits => ⟨_, taken fits⟩⟩
    by_contra far
    rw [refused far] at read
    cases read
  refine ⟨accepted, refused, fun b read address symbols => ?_⟩
  obtain ⟨w, word, field⟩ := o.exists_word (Signed.truncate o.bits v) address symbols
  rw [taken (accepted.1 ⟨b, read⟩)] at read
  cases read
  refine ⟨w, word, ?_⟩
  rw [field, Signed.truncate, BitVec.toNat_ofInt, Int.toNat_of_nonneg]
  · push_cast
    rfl
  · exact Int.emod_nonneg v (by positivity)

/-- A `val` makes the word of the low bits of its number, wherever it is. -/
theorem parse_value (h : Consists text [.keyword .val, t]) (number : t = .int v ∨ t = .imm v) :
    ∃ w : Word, parse text = .ok (.literal w) ∧ (w.toNat : Int) = v % 0x10000 := by
  have low : ((BitVec.ofInt 16 v).toNat : Int) = v % 0x10000 := Slot.ofInt_eq_iff.1 rfl
  have denotes : Slot.value.Denotes t (BitVec.ofInt 16 v : Word) := by
    rcases number with rfl | rfl
    · exact .value low
    · exact .valueImmediate low
  have named : Consists text ([.keyword .val] ++ [t]) := h
  obtain ⟨xs, x, split, front, rfl⟩ := exists_of_consists named
  obtain ⟨⟨_, name⟩, rfl, rfl⟩ := List.map_eq_singleton_iff.1 front
  refine ⟨BitVec.ofInt 16 v, ?_, low⟩
  rw [parse_eq_ok_iff, ofLexemes_eq_ok_iff, split]
  exact ⟨h.1, .mk rfl (.next denotes .none)⟩

/-! ## There are no other places -/

variable {xs : List Lexeme} {x : Lexeme} {b : Body}

theorem number_of_denotes {n : Nat} {k : Slot} {a : k.Operand} (h : k.Denotes t a)
    (wide : k = .target n ∨ k = .source n ∨ k = .offset n) (number : t = .int v ∨ t = .imm v) :
    k.Number t n v := by
  rcases wide with rfl | rfl | rfl <;> rcases number with rfl | rfl <;> cases h
  · exact .target
  · exact .source
  · exact .offset
  · exact .immediate

theorem token_of_register {r : Reg} (h : Slot.register.Denotes t r) : t = .reg r := by
  cases h
  rfl

theorem not_number_of_register {r : Reg} (h : Slot.register.Denotes t r) :
    ¬(t = .int v ∨ t = .imm v) := by
  cases h
  simp

/-- Where registers stand before the last place, a number is the last operand. -/
theorem tokens_of_number {m : Nat} {k : Slot} {f : Waiting (List.replicate m .register ++ [k])}
    (h : Operands (List.replicate m .register ++ [k]) f xs b) (hx : x ∈ xs)
    (number : x.token = .int v ∨ x.token = .imm v) :
    ∃ (rs : List Reg) (a : k.Operand), rs.length = m ∧
      xs.map (·.token) = rs.map .reg ++ [x.token] ∧ k.Denotes x.token a := by
  induction m generalizing xs with
  | zero =>
    obtain _ | ⟨last, _ | _⟩ := h
    obtain rfl := List.mem_singleton.1 hx
    exact ⟨[], _, rfl, rfl, last⟩
  | succ m ih =>
    obtain _ | ⟨first, rest⟩ := h
    rename_i y ys _
    obtain ⟨r, register⟩ : ∃ r : Reg, y.token = .reg r := ⟨_, token_of_register first⟩
    have behind : x ∈ ys := by
      rcases List.mem_cons.1 hx with rfl | behind
      · exact absurd number (not_number_of_register first)
      · exact behind
    obtain ⟨rs, a, count, tokens, last⟩ := ih rest behind
    exact ⟨r :: rs, a, by rw [List.length_cons, count], by simp [register, tokens], last⟩

section
variable {k : Slot} (hx : x ∈ xs) (number : x.token = .int v ∨ x.token = .imm v)
include hx number

theorem tokens_of_one {f : Waiting [k]} (h : Operands [k] f xs b) :
    ∃ a : k.Operand, xs.map (·.token) = [x.token] ∧ k.Denotes x.token a := by
  obtain ⟨rs, a, count, tokens, last⟩ := tokens_of_number (m := 0) h hx number
  obtain rfl := List.length_eq_zero_iff.1 count
  exact ⟨a, tokens, last⟩

theorem tokens_of_two {f : Waiting [.register, k]} (h : Operands [.register, k] f xs b) :
    ∃ (r : Reg) (a : k.Operand), xs.map (·.token) = [.reg r, x.token] ∧ k.Denotes x.token a := by
  obtain ⟨rs, a, count, tokens, last⟩ := tokens_of_number (m := 1) h hx number
  obtain ⟨r, rfl⟩ := List.length_eq_one_iff.1 count
  exact ⟨r, a, tokens, last⟩

theorem tokens_of_three {f : Waiting [.register, .register, k]}
    (h : Operands [.register, .register, k] f xs b) :
    ∃ (r s : Reg) (a : k.Operand),
      xs.map (·.token) = [.reg r, .reg s, x.token] ∧ k.Denotes x.token a := by
  obtain ⟨rs, a, count, tokens, last⟩ := tokens_of_number (m := 2) h hx number
  obtain ⟨r, s, rfl⟩ := List.length_eq_two.1 count
  exact ⟨r, s, a, tokens, last⟩

end

/-- A number in an instruction is its last operand. -/
theorem Sentence.exists_place (h : Sentence xs b) (hx : x ∈ xs)
    (number : x.token = .int v ∨ x.token = .imm v) :
    xs.map (·.token) = [.keyword .val, x.token] ∨
      ∃ o : Opening, xs.map (·.token) = o.tokens ++ [x.token] ∧ o.slot.Number x.token o.bits v := by
  obtain ⟨name, operands⟩ := h
  rename_i head xs row
  have behind : x ∈ xs := by
    rcases List.mem_cons.1 hx with rfl | behind
    · rcases number with bare | immediate
      · rw [bare] at name
        cases name
      · rw [immediate] at name
        cases name
    · exact behind
  have place : ∀ (o : Opening) {a : o.slot.Operand},
      head.token :: xs.map (·.token) = o.tokens ++ [x.token] → o.slot.Denotes x.token a →
      ∃ o : Opening, (head :: xs).map (·.token) = o.tokens ++ [x.token] ∧
        o.slot.Number x.token o.bits v := fun o a tokens last =>
    ⟨o, tokens, number_of_denotes last o.slot_eq number⟩
  cases named : head.token with
  | branch cond =>
    rw [named] at name place
    cases name
    obtain ⟨a, tokens, target⟩ := tokens_of_one behind number operands
    exact .inr (place (.relative (.br cond)) (by rw [tokens]; rfl) target)
  | keyword k =>
    rw [named] at name place
    cases name
    cases k with
    | val =>
      obtain ⟨a, tokens, -⟩ := tokens_of_one behind number operands
      exact .inl (by rw [List.map_cons, named, tokens])
    | jsr =>
      obtain ⟨a, tokens, target⟩ := tokens_of_one behind number operands
      exact .inr (place (.relative .jsr) (by rw [tokens]; rfl) target)
    | ld =>
      obtain ⟨r, a, tokens, target⟩ := tokens_of_two behind number operands
      exact .inr (place (.relative (.ld r)) (by rw [tokens]; rfl) target)
    | ldi =>
      obtain ⟨r, a, tokens, target⟩ := tokens_of_two behind number operands
      exact .inr (place (.relative (.ldi r)) (by rw [tokens]; rfl) target)
    | lea =>
      obtain ⟨r, a, tokens, target⟩ := tokens_of_two behind number operands
      exact .inr (place (.relative (.lea r)) (by rw [tokens]; rfl) target)
    | st =>
      obtain ⟨r, a, tokens, target⟩ := tokens_of_two behind number operands
      exact .inr (place (.relative (.st r)) (by rw [tokens]; rfl) target)
    | sti =>
      obtain ⟨r, a, tokens, target⟩ := tokens_of_two behind number operands
      exact .inr (place (.relative (.sti r)) (by rw [tokens]; rfl) target)
    | add =>
      obtain ⟨r, s, a, tokens, source⟩ := tokens_of_three behind number operands
      exact .inr (place (.add r s) (by rw [tokens]; rfl) source)
    | and =>
      obtain ⟨r, s, a, tokens, source⟩ := tokens_of_three behind number operands
      exact .inr (place (.and r s) (by rw [tokens]; rfl) source)
    | ldr =>
      obtain ⟨r, s, a, tokens, offset⟩ := tokens_of_three behind number operands
      exact .inr (place (.ldr r s) (by rw [tokens]; rfl) offset)
    | str =>
      obtain ⟨r, s, a, tokens, offset⟩ := tokens_of_three behind number operands
      exact .inr (place (.str r s) (by rw [tokens]; rfl) offset)
    | not =>
      obtain ⟨r, a, -, last⟩ := tokens_of_two behind number operands
      exact absurd number (not_number_of_register last)
    | jmp | jssr | jsrr =>
      obtain ⟨a, -, last⟩ := tokens_of_one behind number operands
      exact absurd number (not_number_of_register last)
    | ret | getc | putc | out | puts | enter | inp | putsp | halt =>
      cases operands
      cases behind
  | _ =>
    rw [named] at name
    cases name

/-- In a text that is read, a number is the operand of a `val`, or the last one of an instruction. -/
theorem exists_place_of_parse (h : parse text = .ok b) (number : t = .int v ∨ t = .imm v)
    (ht : t ∈ ((lex text).lexemes.filter (·.token ≠ .comma)).map (·.token)) :
    Consists text [.keyword .val, t] ∨
      ∃ o : Opening, o.slot.Number t o.bits v ∧ Consists text (o.tokens ++ [t]) := by
  obtain ⟨clean, read⟩ := parse_eq_ok_iff.1 h
  obtain ⟨x, hx, rfl⟩ := List.mem_map.1 ht
  rcases (ofLexemes_eq_ok_iff.1 read).exists_place hx number with value | ⟨o, tokens, numbered⟩
  · exact .inl ⟨clean, value⟩
  · exact .inr ⟨o, numbered, clean, tokens⟩

end Body

/-! ## From characters to bits -/

namespace Literal

/-- A number is read as its value if a word can hold it, and refused for its first fault otherwise. A
number that is read is the word of a `val`, and it is the operand of an instruction exactly if the
field has room for it in two's complement. The bits are the low ones of the number, and there are no
other places for numbers. -/
theorem meaning :
    (∀ (c : Char) (rest : List Char) (k : Cut), Shape.cut c rest = some k →
      (k.shape = .integer → ∃ l : Literal, k.run = l.text) ∧
      (k.shape = .immediate → ∃ l : Literal, k.run = '$' :: l.text)) ∧
    ∀ l : Literal, (∀ r, Token.readInt l.text = r ↔ l.Reads r) ∧
      ∀ v, Token.readInt l.text = .ok v →
        Lexes l.text (.int v) ∧ Lexes ('$' :: l.text) (.imm v) ∧
        ∀ t : Token, t = .int v ∨ t = .imm v → ∀ text : List Char,
          (Body.Consists text [.keyword .val, t] → ∃ w : Word,
            Body.parse text = .ok (.literal w) ∧ (w.toNat : Int) = v % 0x10000 ∧
            ∀ (address : Word) (symbols : SymbolTable),
              (Body.literal w).word address symbols = .ok w) ∧
          (∀ o : Opening, o.slot.Number t o.bits v → Body.Consists text (o.tokens ++ [t]) →
            Body.Fate o v text) ∧
          ∀ b, Body.parse text = .ok b →
            t ∈ ((lex text).lexemes.filter (·.token ≠ .comma)).map (·.token) →
            Body.Consists text [.keyword .val, t] ∨
              ∃ o : Opening, o.slot.Number t o.bits v ∧ Body.Consists text (o.tokens ++ [t]) := by
  refine ⟨fun c rest k cut => exists_of_cut cut, fun l => ⟨fun r => readInt_eq_iff, ?_⟩⟩
  refine fun v read => ⟨lexes_int read, lexes_imm read, fun t number text => ⟨?_, ?_, ?_⟩⟩
  · intro tokens
    obtain ⟨w, parsed, low⟩ := Body.parse_value tokens number
    exact ⟨w, parsed, low, fun _ _ => rfl⟩
  · exact fun o numbered tokens => Body.fate_of_consists tokens numbered
  · exact fun b parsed mem => Body.exists_place_of_parse parsed number mem

/-- The lowest immediate of five bits, in base sixteen. -/
theorem meaning_lowest :
    Token.readInt "-0x10".toList = .ok (-16) ∧
    Body.parse "val -0x10".toList = .ok (.literal 0xfff0) ∧
    Body.Fate (.add ⟨0⟩ ⟨1⟩) (-16) "add %r0, %r1, $-0x10".toList := by
  obtain ⟨-, numbers⟩ := meaning
  let l : Literal := ⟨true, "0x10".toList, List.all_eq_true.1 (by decide +kernel)⟩
  obtain ⟨-, uses⟩ := numbers l
  have read : Token.readInt l.text = .ok (-16) := by decide +kernel
  obtain ⟨-, -, places⟩ := uses (-16) read
  obtain ⟨word, -, -⟩ := places (.int (-16)) (.inl rfl) "val -0x10".toList
  obtain ⟨w, parsed, low, -⟩ := word (by decide +kernel)
  obtain ⟨-, field, -⟩ := places (.imm (-16)) (.inr rfl) "add %r0, %r1, $-0x10".toList
  have same : w = 0xfff0 := BitVec.eq_of_toNat_eq (Int.natCast_inj.1 low)
  exact ⟨read, by rw [parsed, same], field (.add ⟨0⟩ ⟨1⟩) .source (by decide +kernel)⟩

end Literal

end Sixteen
