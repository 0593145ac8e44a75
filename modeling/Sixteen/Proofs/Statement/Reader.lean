import Sixteen.Proofs.Statement.Reference
import Sixteen.Proofs.Token.Branch
import Sixteen.Proofs.Instr.Codec

/-!
# What readers read

* `Reader.bind_eq_ok_iff`, `Reader.pure_eq_ok_iff` : readers one after the other;
* `Reader.Gives P` : whatever a reader reads has the property `P`;
* `Operation.Encodable` : an instruction word has room for the instruction, wherever its label is;
* `Statement.Reads.encodable` : it has for every instruction that a line can hold.
-/

namespace Sixteen

/-! ## Readers -/

namespace Reader

variable {α β : Type} {ts : List Lexeme}

theorem bind_eq_ok_iff {x : Reader α} {f : α → Reader β} {r : β × List Lexeme} :
    (x >>= f) ts = .ok r ↔ ∃ a rest, x ts = .ok (a, rest) ∧ f a rest = .ok r := by
  rw [show (x >>= f) ts = (x ts >>= fun p => f p.1 p.2) from rfl, Except.bind_eq_ok_iff]
  constructor
  · rintro ⟨⟨a, rest⟩, hx, hf⟩
    exact ⟨a, rest, hx, hf⟩
  · rintro ⟨a, rest, hx, hf⟩
    exact ⟨(a, rest), hx, hf⟩

theorem bind_ok {x : Reader α} {f : α → Reader β} {a : α} {rest : List Lexeme}
    {r : β × List Lexeme} (hx : x ts = .ok (a, rest)) (hf : f a rest = .ok r) :
    (x >>= f) ts = .ok r :=
  bind_eq_ok_iff.2 ⟨a, rest, hx, hf⟩

theorem pure_eq_ok_iff {a : α} {r : α × List Lexeme} :
    (pure a : Reader α) ts = .ok r ↔ (a, ts) = r := by
  rw [show (pure a : Reader α) ts = .ok (a, ts) from rfl, Except.ok.injEq]

/-- Whatever `x` reads has the property `P`. -/
def Gives (P : α → Prop) (x : Reader α) : Prop :=
  ∀ ts a rest, x ts = .ok (a, rest) → P a

theorem Gives.pure {P : α → Prop} {a : α} (h : P a) : Gives P (pure a) := by
  intro ts b rest hb
  cases pure_eq_ok_iff.1 hb
  exact h

/-- What is read last decides. -/
theorem Gives.bind {P : β → Prop} {x : Reader α} {f : α → Reader β} (h : ∀ a, Gives P (f a)) :
    Gives P (x >>= f) := by
  intro ts b rest hb
  obtain ⟨a, ts', -, hf⟩ := bind_eq_ok_iff.1 hb
  exact h a ts' b rest hf

end Reader

/-! ## Instructions that words have room for -/

/-- Whether an instruction word has room for the instruction. -/
def Operation.Encodable : Operation → Prop
  | .br cond _ => cond.toNat < 8
  | _ => True

theorem Operation.Encodable.instr {o : Operation} (h : o.Encodable) (d : Int) :
    (o.instr d).Encodable := by
  cases o with
  | br cond target => exact h
  | _ => exact trivial

/-- Whether an instruction word has room for a body. -/
def Body.Encodable : Body → Prop
  | .operation o => o.Encodable
  | .literal _ => True

/-- No keyword is the name of a branch. -/
theorem Keyword.gives_encodable (k : Keyword) : Reader.Gives Body.Encodable k.reader := by
  cases k <;> repeat' first
    | exact Reader.Gives.pure trivial
    | apply Reader.Gives.bind; intro _

theorem Branch.gives_encodable {cond : Branch} (h : cond.toNat < 8) :
    Reader.Gives Body.Encodable (Branch.reader cond) := by
  apply Reader.Gives.bind
  intro target
  exact Reader.Gives.pure h

/-! ## Lines -/

/-- What the tokens of an instruction are read by and give. -/
theorem Body.ofLexemes_cons_eq_ok_iff {x : Lexeme} {ts : List Lexeme} {b : Body} :
    ofLexemes (x :: ts) = .ok b ↔
      ∃ reader, readerOf? x.token = some reader ∧ reader ts = .ok (b, []) := by
  rw [ofLexemes]
  cases readerOf? x.token with
  | none => simp
  | some reader =>
    simp only [Option.some.injEq, exists_eq_left']
    rcases reader ts with (expected | e) | ⟨body, _ | ⟨extra, rest⟩⟩ <;> simp

theorem Body.encodable_of_ofLexemes {ts : List Lexeme} {b : Body}
    (h : ∀ x ∈ ts, ∀ cond, x.token = .branch cond → cond.toNat < 8) (hb : ofLexemes ts = .ok b) :
    b.Encodable := by
  cases ts with
  | nil => cases hb
  | cons x ts =>
    obtain ⟨reader, hr, hb⟩ := ofLexemes_cons_eq_ok_iff.1 hb
    have hx := h x List.mem_cons_self
    unfold readerOf? at hr
    split at hr
    · cases hr
      exact Keyword.gives_encodable _ _ _ _ hb
    · next cond branch =>
      cases hr
      exact Branch.gives_encodable (hx cond branch) _ _ _ hb
    · cases hr

theorem Body.parse_eq_ok_iff {text : List Char} {b : Body} :
    parse text = .ok b ↔
      (lex text).error? = none ∧ ofLexemes ((lex text).lexemes.filter (·.token ≠ .comma)) = .ok b := by
  unfold parse
  rcases lex text with ⟨ts, _ | e⟩ <;> simp

theorem Body.encodable_of_parse {text : List Char} {b : Body} (h : parse text = .ok b) :
    b.Encodable := by
  refine encodable_of_ofLexemes ?_ (parse_eq_ok_iff.1 h).2
  intro x hx cond branch
  exact lt_of_mem_lexemes (List.mem_filter.1 hx).1 branch

/-- An instruction word has room for whatever instruction a line holds. -/
theorem Statement.Reads.encodable {line : List Char} {s : Statement} (h : Statement.Reads line s)
    {b : Body} (hb : s.body = some b) : b.Encodable := by
  unfold Statement.Reads at h
  split at h
  · rw [h] at hb
    cases hb
  · obtain ⟨-, body⟩ := Statement.parse_eq_ok_iff.1 h
    rw [hb, Statement.bodyOf] at body
    split at body
    · cases body
    · obtain ⟨b', parsed, same⟩ := Except.map_eq_ok_iff.1 body
      cases same
      exact Body.encodable_of_parse parsed

end Sixteen
