import Sixteen.Proofs.Statement.Grammar
import Sixteen.Proofs.SymbolTable.Attempts
import Sixteen.Proofs.Token.Label
import Sixteen.Proofs.Token.Written

/-!
# Labels in programs

A label is written where it is defined, before a colon, and where an instruction refers to it. Both
take the same names, and take them as they are.

* `Statement.isLabelName_of_parse`, `Statement.parse_label` : labels that lines define;
* `Statement.IsDocumented`, `Statement.label_iff` : these are the documented ones, as far as they are
  in ASCII;
* `Approach` : an instruction up to an operand that is relative to the next instruction. With a label
  behind it, these are the instructions that refer to one (`Operation.reference?_eq_some_iff`);
* `Body.isLabelName_of_parse`, `Body.parse_append_label` : labels that instructions refer to;
* `UsableLabel`, `Apart`, `label_sides_agree` : both sides, and the table between them.
-/

namespace Sixteen

open Text (isWord)

/-! ## Definitions -/

namespace Statement

variable {line : List Char} {s : Statement} {label : String}

theorem isLabelName_of_parse (h : parse line = .ok s) (hs : s.label = some label) :
    IsLabelName label.toList := by
  have named := (parse_eq_ok_iff.1 h).1
  rw [hs] at named
  unfold splitLabel at named
  split at named
  · cases named
  · rw [labelOf] at named
    split at named
    · next taken =>
      cases named
      rw [String.toList_ofList]
      exact isLabel_trim_iff.1 taken
    · cases named

theorem parse_label (h : IsLabelName label.toList) :
    parse (label.toList ++ [':']) = .ok ⟨some label, none⟩ := by
  have colon : ':' ∉ label.toList := fun mem => absurd (h.isWord _ mem) (by decide +kernel)
  rw [parse_eq_ok_iff, splitLabel_append_colon colon, h.trim_eq, labelOf, if_pos h.isLabel,
    String.ofList_toList]
  exact ⟨rfl, rfl⟩

/-- The labels that the documentation allows: a letter or an underscore, then letters, digits and
underscores of ASCII, and in no case of letters the name of an instruction. -/
def IsDocumented (name : List Char) : Prop :=
  IsIdentifier isAsciiWord name ∧ ¬NamesInstruction (name.map Char.toUpper)

theorem isDocumented_iff {name : List Char} :
    IsDocumented name ↔ IsLabelName name ∧ ∀ c ∈ name, c.toNat < 128 := by
  rw [IsDocumented, isIdentifier_isAsciiWord_iff, IsLabelName]
  constructor
  · rintro ⟨⟨word, ascii⟩, free⟩
    rw [← Text.upper_of_ascii ascii] at free
    exact ⟨⟨word, free⟩, ascii⟩
  · rintro ⟨⟨word, free⟩, ascii⟩
    rw [Text.upper_of_ascii ascii] at free
    exact ⟨⟨word, ascii⟩, free⟩

/-- A line can define the names that are not those of instructions, and no others. Where they are in
ASCII these are the documented labels, and a line with such a label alone is read as its
definition. -/
theorem label_iff (label : String) :
    ((∃ line s, parse line = .ok s ∧ s.label = some label) ↔ IsLabelName label.toList) ∧
    ((∃ line s, parse line = .ok s ∧ s.label = some label) →
      ¬NamesInstruction (label.toList.map Char.toUpper)) ∧
    ((∀ c ∈ label.toList, c.toNat < 128) →
      ((∃ line s, parse line = .ok s ∧ s.label = some label) ↔ IsDocumented label.toList)) ∧
    (IsDocumented label.toList → parse (label.toList ++ [':']) = .ok ⟨some label, none⟩) := by
  have exact_names : (∃ line s, parse line = .ok s ∧ s.label = some label) ↔
      IsLabelName label.toList := by
    constructor
    · rintro ⟨line, s, h, hs⟩
      exact isLabelName_of_parse h hs
    · intro h
      exact ⟨_, _, parse_label h, rfl⟩
  refine ⟨exact_names, fun defined => ?_, fun ascii => ?_, fun h => ?_⟩
  · exact fun named => (exact_names.1 defined).2 named.upper
  · rw [exact_names, isDocumented_iff, and_iff_left ascii]
  · exact parse_label (isDocumented_iff.1 h).1

/-- A label before an instruction. -/
theorem label_iff_halt :
    parse "Brn2: halt".toList = .ok ⟨some "Brn2", some (.operation (.service .halt))⟩ ∧
    ¬NamesInstruction ("Brn2".toList.map Char.toUpper) ∧ IsDocumented "Brn2".toList ∧
    parse "Brn2:".toList = .ok ⟨some "Brn2", none⟩ := by
  have read : parse "Brn2: halt".toList =
      .ok ⟨some "Brn2", some (.operation (.service .halt))⟩ := by
    decide +kernel
  obtain ⟨-, free, documented, alone⟩ := label_iff "Brn2"
  have ascii : "Brn2".toList.all (·.toNat < 128) = true := by decide
  have allowed := (documented fun c hc => of_decide_eq_true (List.all_eq_true.1 ascii c hc)).1
    ⟨_, _, read, rfl⟩
  exact ⟨read, free ⟨_, _, read, rfl⟩, allowed, alone allowed⟩

/-- A letter outside ASCII may stand in a label, although the documentation says otherwise. -/
theorem label_not_documented :
    parse "aé:".toList = .ok ⟨some "aé", none⟩ ∧ ¬IsIdentifier isAsciiWord "aé".toList := by
  decide +kernel

end Statement

/-! ## References -/

/-- An instruction up to an operand that is relative to the next instruction. -/
inductive Approach where
  | br (cond : Branch)
  | jsr
  | ld (dst : Reg)
  | ldi (dst : Reg)
  | lea (dst : Reg)
  | st (src : Reg)
  | sti (src : Reg)
  deriving DecidableEq, Repr

namespace Approach

/-- The width of the offset of the operand. -/
def bits : Approach → Nat
  | jsr => 11
  | br _ | ld _ | ldi _ | lea _ | st _ | sti _ => 9

/-- The tokens before the operand. -/
def tokens : Approach → List Token
  | br cond => [.branch cond]
  | jsr => [.keyword .jsr]
  | ld dst => [.keyword .ld, .reg dst]
  | ldi dst => [.keyword .ldi, .reg dst]
  | lea dst => [.keyword .lea, .reg dst]
  | st src => [.keyword .st, .reg src]
  | sti src => [.keyword .sti, .reg src]

/-- The instruction with the operand. -/
def operation : (a : Approach) → Target a.bits → Operation
  | br cond, target => .br cond target
  | jsr, target => .jsr target
  | ld dst, target => .ld dst target
  | ldi dst, target => .ldi dst target
  | lea dst, target => .lea dst target
  | st src, target => .st src target
  | sti src, target => .sti src target

/-- A text is read as the tokens of `a`, with commas anywhere among them. -/
def Begins (a : Approach) (text : List Char) : Prop :=
  (lex text).error? = none ∧
    ((lex text).lexemes.filter (·.token ≠ .comma)).map (·.token) = a.tokens

instance (a : Approach) (text : List Char) : Decidable (a.Begins text) :=
  inferInstanceAs (Decidable (_ ∧ _))

/-- The parts of an approach as it is written. -/
def parts : Approach → List (List Char)
  | br cond => [cond.mnemonic.toList]
  | jsr => [Keyword.jsr.name.toList.map Char.toLower]
  | ld dst => [Keyword.ld.name.toList.map Char.toLower, dst.text.toList]
  | ldi dst => [Keyword.ldi.name.toList.map Char.toLower, dst.text.toList]
  | lea dst => [Keyword.lea.name.toList.map Char.toLower, dst.text.toList]
  | st src => [Keyword.st.name.toList.map Char.toLower, src.text.toList]
  | sti src => [Keyword.sti.name.toList.map Char.toLower, src.text.toList]

/-- The letters of a branch give a condition byte below eight. -/
def Written : Approach → Prop
  | br cond => cond.toNat < 8
  | jsr | ld _ | ldi _ | lea _ | st _ | sti _ => True

theorem begins_parts {a : Approach} (h : a.Written) : a.Begins ([' '].intercalate a.parts) := by
  have lexes : List.Forall₂ Lexes a.parts a.tokens := by
    cases a with
    | br cond => exact .cons (written_mnemonic h).lexes .nil
    | jsr => exact .cons (written_keyword _).lexes .nil
    | ld r | ldi r | lea r | st r | sti r =>
      exact .cons (written_keyword _).lexes (.cons (written_reg r).lexes .nil)
  rw [Begins, lex_intercalate lexes]
  cases a <;> exact ⟨rfl, rfl⟩

end Approach

theorem Target.reference?_eq_some_iff {n : Nat} {target : Target n} {r : Reference} :
    target.reference? = some r ↔ r.bits = n ∧ target = .label r.label := by
  obtain ⟨label, bits⟩ := r
  cases target with
  | offset value => simp [reference?]
  | label name =>
    simp only [reference?, Option.some.injEq, Reference.mk.injEq, Target.label.injEq]
    exact and_comm.trans (and_congr_left' eq_comm)

namespace Operation

theorem reference?_operation (a : Approach) (target : Target a.bits) :
    (a.operation target).reference? = target.reference? := by
  cases a <;> rfl

theorem exists_approach {o : Operation} {r : Reference} (h : o.reference? = some r) :
    ∃ (a : Approach) (target : Target a.bits), o = a.operation target := by
  cases o with
  | br cond target => exact ⟨.br cond, target, rfl⟩
  | jsr target => exact ⟨.jsr, target, rfl⟩
  | ld dst target => exact ⟨.ld dst, target, rfl⟩
  | ldi dst target => exact ⟨.ldi dst, target, rfl⟩
  | lea dst target => exact ⟨.lea dst, target, rfl⟩
  | st src target => exact ⟨.st src, target, rfl⟩
  | sti src target => exact ⟨.sti src, target, rfl⟩
  | _ => cases h

/-- The instructions that refer to a label are those with a label behind an approach. -/
theorem reference?_eq_some_iff {o : Operation} {r : Reference} :
    o.reference? = some r ↔
      ∃ a : Approach, r.bits = a.bits ∧ o = a.operation (.label r.label) := by
  constructor
  · intro h
    obtain ⟨a, target, rfl⟩ := exists_approach h
    rw [reference?_operation, Target.reference?_eq_some_iff] at h
    exact ⟨a, h.1, congrArg a.operation h.2⟩
  · rintro ⟨a, bits, rfl⟩
    rw [reference?_operation, Target.reference?_eq_some_iff]
    exact ⟨bits, rfl⟩

end Operation

namespace Body

variable {text : List Char} {label : String} {xs : List Lexeme} {b : Body} {r : Reference}

theorem token_of_reference? {n : Nat} {t : Token} {target : Target n}
    (h : (Slot.target n).Denotes t target) (hr : target.reference? = some r) :
    t = .label r.label := by
  cases h with
  | targetNumber fits same => cases hr
  | targetLabel name =>
    cases hr
    rfl

/-- The label that an instruction refers to is one of its tokens. -/
theorem Sentence.exists_label (h : Sentence xs b) (hr : b.reference? = some r) :
    ∃ x ∈ xs, x.token = .label r.label := by
  obtain ⟨name, operands⟩ := h
  rename_i x xs row
  cases hx : x.token with
  | branch cond =>
    rw [hx] at name
    cases name
    obtain _ | ⟨target, _ | _⟩ := operands
    exact ⟨_, by simp, token_of_reference? target hr⟩
  | keyword k =>
    rw [hx] at name
    cases name
    cases k with
    | jsr =>
      obtain _ | ⟨target, _ | _⟩ := operands
      exact ⟨_, by simp, token_of_reference? target hr⟩
    | ld | ldi | lea | st | sti =>
      obtain _ | ⟨_, _ | ⟨target, _ | _⟩⟩ := operands
      exact ⟨_, by simp, token_of_reference? target hr⟩
    | add | and | ldr | str =>
      obtain _ | ⟨_, _ | ⟨_, _ | ⟨_, _ | _⟩⟩⟩ := operands
      cases hr
    | not =>
      obtain _ | ⟨_, _ | ⟨_, _ | _⟩⟩ := operands
      cases hr
    | jmp | jssr | jsrr | val =>
      obtain _ | ⟨_, _ | _⟩ := operands
      cases hr
    | ret | getc | putc | out | puts | enter | inp | putsp | halt =>
      obtain _ | _ := operands
      cases hr
  | _ =>
    rw [hx] at name
    cases name

theorem isLabelName_of_parse (h : parse text = .ok b) (hr : b.reference? = some r) :
    IsLabelName r.label.toList := by
  obtain ⟨x, hx, named⟩ := (ofLexemes_eq_ok_iff.1 (parse_eq_ok_iff.1 h).2).exists_label hr
  obtain ⟨isName, same⟩ := isLabelName_of_mem_lexemes (List.mem_filter.1 hx).1 named
  rwa [same, String.toList_ofList]

/-- A label behind an approach makes its instruction. -/
theorem sentence_append_label {a : Approach} (h : xs.map (·.token) = a.tokens) (run : List Char) :
    Sentence (xs ++ [⟨.label label, run⟩]) (.operation (a.operation (.label label))) := by
  cases a with
  | br cond =>
    obtain ⟨⟨t, name⟩, rfl, rfl⟩ := List.map_eq_singleton_iff.1 h
    exact .mk rfl (.next (.targetLabel label) .none)
  | jsr =>
    obtain ⟨⟨t, name⟩, rfl, rfl⟩ := List.map_eq_singleton_iff.1 h
    exact .mk rfl (.next (.targetLabel label) .none)
  | ld r | ldi r | lea r | st r | sti r =>
    obtain ⟨⟨t, name⟩, rest, rfl, rfl, more⟩ := List.map_eq_cons_iff.1 h
    obtain ⟨⟨t, reg⟩, rfl, rfl⟩ := List.map_eq_singleton_iff.1 more
    exact .mk rfl (.next (.register r) (.next (.targetLabel label) .none))

/-- Behind an approach, the name of a label is read as a reference to this label. -/
theorem parse_append_label {a : Approach} (begins : a.Begins text)
    (h : IsLabelName label.toList) :
    parse (text ++ ' ' :: label.toList) = .ok (.operation (a.operation (.label label))) := by
  obtain ⟨clean, tokens⟩ := begins
  have whole : lex (text ++ ' ' :: label.toList) =
      ⟨(lex text).lexemes ++ [⟨.label label, label.toList⟩], none⟩ := by
    rw [lex_append clean (separate_cons _ (by decide +kernel) (by decide)), lex_gap (by decide),
      lex_label h, String.ofList_toList]
  rw [parse_eq_ok_iff, whole, ofLexemes_eq_ok_iff, List.filter_append]
  exact ⟨rfl, sentence_append_label tokens label.toList⟩

end Body

/-! ## Both sides -/

/-- A label that lines define and instructions refer to by the same name, and that a table keeps by
this name. -/
structure UsableLabel (label : String) : Prop where
  isLabel : isLabel label.toList = true
  defined : Statement.parse (label.toList ++ [':']) = .ok ⟨some label, none⟩
  referred : ∀ (a : Approach) (text : List Char), a.Begins text →
    Body.parse (text ++ ' ' :: label.toList) = .ok (.operation (a.operation (.label label)))
  written : ∀ a : Approach, a.Written →
    Body.parse ([' '].intercalate a.parts ++ ' ' :: label.toList) =
      .ok (.operation (a.operation (.label label)))
  /-- Whatever is tried after its definition, references go there. -/
  resolved : ∀ (t t' : SymbolTable) (address : Word) (line : Nat),
    t.attempt ⟨label, address, line⟩ = (.ok (), t') → ∀ tried,
      (t'.after tried).find? label = some address ∧
      ∀ (n : Nat) (here : Word), (Target.label label : Target n).resolve here (t'.after tried) =
        (Signed.ofInt? n (distance here address)).mapError .range

/-- The definition of `label` says nothing about `other`: it is found where it was, and it is as new
or as old as it was. -/
structure Apart (label other : String) : Prop where
  find? : ∀ (t t' : SymbolTable) (address : Word) (line : Nat),
    t.attempt ⟨label, address, line⟩ = (.ok (), t') → t'.find? other = t.find? other
  duplicate : ∀ (t t' : SymbolTable) (address address' : Word) (line line' : Nat),
    t.attempt ⟨label, address, line⟩ = (.ok (), t') → ∀ (first : Nat),
      (t'.attempt ⟨other, address', line'⟩).1 = .error (.duplicate other first) ↔
        (t.attempt ⟨other, address', line'⟩).1 = .error (.duplicate other first)

namespace UsableLabel

variable {label other : String}

theorem of_isLabelName (h : IsLabelName label.toList) : UsableLabel label where
  isLabel := h.isLabel
  defined := Statement.parse_label h
  referred a text begins := Body.parse_append_label begins h
  written a ha := Body.parse_append_label (Approach.begins_parts ha) h
  resolved t t' address line taken tried := by
    have found := SymbolTable.find?_after (SymbolTable.find?_attempt taken) tried
    refine ⟨found, fun n here => ?_⟩
    rw [Target.resolve, found]

theorem isLabelName (h : UsableLabel label) : IsLabelName label.toList :=
  Statement.isLabelName_of_parse h.defined rfl

end UsableLabel

theorem apart_of_ne {label other : String} (ne : other ≠ label) : Apart label other where
  find? t t' address line taken := by
    rw [SymbolTable.find?, SymbolTable.symbol?_attempt_of_ne taken ne]
    rfl
  duplicate t t' address address' line line' taken first := by
    simp [SymbolTable.fst_attempt_eq_error_iff, SymbolTable.symbol?_attempt_of_ne taken ne]

/-- Lines define the labels that instructions refer to, and both use them by the same name. Labels
with different names are different ones, even if it is only the case of a letter in which they
differ. -/
theorem label_sides_agree (label : String) :
    ((∃ line s, Statement.parse line = .ok s ∧ s.label = some label) ↔ UsableLabel label) ∧
    ((∃ text b r, Body.parse text = .ok b ∧ b.reference? = some r ∧ r.label = label) ↔
      UsableLabel label) ∧
    ∀ other : String, other ≠ label →
      Apart label other ∧ (other.toList.map Char.toUpper = label.toList.map Char.toUpper →
        (UsableLabel other ↔ UsableLabel label)) := by
  refine ⟨⟨?_, fun h => ?_⟩, ⟨?_, fun h => ?_⟩, fun other ne => ⟨apart_of_ne ne, fun same => ?_⟩⟩
  · rintro ⟨line, s, read, named⟩
    exact .of_isLabelName (Statement.isLabelName_of_parse read named)
  · exact ⟨_, _, h.defined, rfl⟩
  · rintro ⟨text, b, r, read, refers, rfl⟩
    exact .of_isLabelName (Body.isLabelName_of_parse read refers)
  · exact ⟨_, _, _, h.written .jsr trivial, rfl, rfl⟩
  · have case : IsLabelName other.toList ↔ IsLabelName label.toList := by
      rw [IsLabelName, IsLabelName, ← isIdentifier_map_toUpper, ← Text.upper_map_toUpper, same,
        isIdentifier_map_toUpper, Text.upper_map_toUpper]
    exact ⟨fun h => .of_isLabelName (case.1 h.isLabelName),
      fun h => .of_isLabelName (case.2 h.isLabelName)⟩

/-- A label that a line defines, and a reference to another one. -/
theorem label_sides_agree_loop :
    Statement.parse "Loop: halt".toList =
      .ok ⟨some "Loop", some (.operation (.service .halt))⟩ ∧
    Body.parse "LD %R007,LOOP".toList = .ok (.operation (.ld ⟨7⟩ (.label "LOOP"))) ∧
    UsableLabel "Loop" ∧ UsableLabel "LOOP" ∧ Apart "Loop" "LOOP" := by
  have defines : Statement.parse "Loop: halt".toList =
      .ok ⟨some "Loop", some (.operation (.service .halt))⟩ := by
    decide +kernel
  have refers : Body.parse "LD %R007,LOOP".toList =
      .ok (.operation (.ld ⟨7⟩ (.label "LOOP"))) := by
    decide +kernel
  obtain ⟨defined, -, others⟩ := label_sides_agree "Loop"
  obtain ⟨-, referred, -⟩ := label_sides_agree "LOOP"
  obtain ⟨apart, same_case⟩ := others "LOOP" (by decide)
  have usable := defined.1 ⟨_, _, defines, rfl⟩
  have usable' := referred.1 ⟨_, _, _, refers, rfl, rfl⟩
  exact ⟨defines, refers, (same_case (by decide)).1 usable', (same_case (by decide)).2 usable,
    apart⟩

end Sixteen
