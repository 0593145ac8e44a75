import Sixteen.Proofs.Checked.Statement
import Sixteen.Proofs.Program.Faults

/-!
# Assembling under checks

The distance of a label is worked out in integers of 32 bits, lines are counted, and the bounds of a
field are shown when a number is out of range. A line is numbered before it is known whether there
is one, so the number behind the last line has to be in range as well.

* `Checked.resolve`, `Checked.wordOf` : the offset of a label, and the word of a body;
* `Checked.addLines`, `Checked.assemble` : both passes over a program;
* `Checked.help`, `Checked.report` : what is shown of an error;
* `Checked.OfOperand`, `Checked.ofOperand_of_error` : what assembling finds out of range is a number
  for one of the operands of instructions;
* `Checked.assemble_eq`, `Checked.report_eq` : no check fails in them for a text that the host can
  hold.
-/

namespace Sixteen.Checked

/-! ## Words -/

/-- The offset of a target for an instruction at `address`. -/
def resolve {n : Nat} (address : Word) (symbols : SymbolTable) :
    Target n → Checked (Except AssemblyFault (Signed n))
  | .offset value => return .ok value
  | .label name =>
    match symbols.find? name with
    | none => return .error (.undefinedLabel name)
    | some target => do
      let next ← integer 32 (address.toNat + 1)
      let distance ← integer 32 (target.toNat - next)
      return (← offset? n distance).mapError .range

/-- The machine's form of an instruction at `address`. Services are named by their numbers, which
are cut to the field for them. -/
def instr (address : Word) (symbols : SymbolTable) :
    Operation → Checked (Except AssemblyFault Instr)
  | .br cond target => return (← resolve address symbols target).map (.br cond)
  | .jsr target => return (← resolve address symbols target).map .jsr
  | .ld dst target => return (← resolve address symbols target).map (.ld dst)
  | .ldi dst target => return (← resolve address symbols target).map (.ldi dst)
  | .lea dst target => return (← resolve address symbols target).map (.lea dst)
  | .st src target => return (← resolve address symbols target).map (.st src)
  | .sti src target => return (← resolve address symbols target).map (.sti src)
  | .service s => return .ok (.trap (← vector (s.vector.bits.setWidth 16)))
  | o => return o.resolve address symbols

def wordOf (address : Word) (symbols : SymbolTable) : Body → Checked (Except AssemblyFault Word)
  | .operation o => do
    match ← instr address symbols o with
    | .ok i => return .ok (← encode i)
    | .error fault => return .error fault
  | .literal w => return .ok w

/-- The words of bodies, up to the first that has none. -/
def words (symbols : SymbolTable) : List Placement → Checked (Except AssemblyError (List Word))
  | [] => return .ok []
  | p :: rest => do
    match ← wordOf p.address symbols p.body with
    | .ok w => return (← words symbols rest).map (w :: ·)
    | .error fault => return .error ⟨p.line, fault⟩

theorem resolve_eq {n : Nat} (h : IsWidth n) (address : Word) (symbols : SymbolTable)
    (target : Target n) :
    resolve address symbols target = .ok (target.resolve address symbols) := by
  cases target with
  | offset value => rfl
  | label name =>
    rw [resolve, Target.resolve]
    cases symbols.find? name with
    | none => rfl
    | some target =>
      have := address.isLt
      have := target.isLt
      dsimp only
      rw [integer_eq (v := address.toNat + 1) (by omega) (by omega), ok_bind,
        integer_eq (by omega) (by omega), ok_bind, offset?_eq h]
      rfl

theorem instr_eq (address : Word) (symbols : SymbolTable) (o : Operation) :
    instr address symbols o = .ok (o.resolve address symbols) := by
  have nine := resolve_eq (n := 9) (by decide) address symbols
  have eleven := resolve_eq (n := 11) (by decide) address symbols
  cases o with
  | br cond target | ld r target | ldi r target | lea r target | st r target | sti r target =>
    rw [instr, nine]
    rfl
  | jsr target =>
    rw [instr, eleven]
    rfl
  | service s =>
    rw [instr, vector_eq, BitVec.setWidth_setWidth_of_le _ (by decide), BitVec.setWidth_eq]
    rfl
  | _ => rfl

theorem wordOf_eq (address : Word) (symbols : SymbolTable) (b : Body) :
    wordOf address symbols b = .ok (b.word address symbols) := by
  cases b with
  | literal w => rfl
  | operation o =>
    rw [wordOf, instr_eq, ok_bind, Body.word]
    cases o.resolve address symbols with
    | error fault => rfl
    | ok i =>
      dsimp only
      rw [encode_eq]
      rfl

theorem words_eq (symbols : SymbolTable) (ps : List Placement) :
    words symbols ps = .ok (ps.mapM (Layout.wordOf symbols)) := by
  induction ps with
  | nil => rfl
  | cons p ps ih =>
    rw [words, wordOf_eq, ok_bind, List.mapM_cons, Layout.wordOf]
    cases p.body.word p.address symbols with
    | error fault => rfl
    | ok w =>
      dsimp only
      rw [ih]
      cases ps.mapM (Layout.wordOf symbols) <;> rfl

/-! ## Programs -/

def addLine (l : Layout) (line : Nat) (text : List Char) :
    Checked (Except AssemblyFault Layout) := do
  let text := normalize text
  if text.isEmpty then return .ok l
  else match ← statement? text with
    | .ok s => return l.addStatement line s
    | .error e => return .error (.ofParse e)

/-- Adds lines, the first of which has the number `line`. The next number is made before it is
looked whether there is a line. -/
def addLines (l : Layout) (line : Nat) : List (List Char) → Checked (Except AssemblyError Layout)
  | [] => do
    let _ ← natural 64 (line + 1)
    return .ok l
  | text :: rest => do
    let next ← natural 64 (line + 1)
    match ← addLine l line text with
    | .ok l => addLines l next rest
    | .error fault => return .error ⟨line, fault⟩

/-- Assembles a program. The log shows how many lines it has. -/
def assemble (source : String) (limits : Limits := {}) :
    Checked (Except AssemblyError Image) := do
  let lines := Text.lines source.toList
  let _ ← natural 64 lines.length
  match ← addLines (.empty limits) 1 lines with
  | .error e => return .error e
  | .ok l => return (← words l.symbols l.placements.toList).map (Image.mk programOrigin)

theorem addLine_eq (l : Layout) (line : Nat) (text : List Char) :
    addLine l line text = .ok (l.addLine line text) := by
  unfold addLine Layout.addLine
  dsimp only
  split
  · next blank => rfl
  · next held =>
    rw [statement?_eq, ok_bind]
    cases Statement.parse (normalize text) <;> rfl

theorem addLines_eq {line : Nat} {lines : List (List Char)}
    (h : line + lines.length + 1 < 2 ^ 64) (l : Layout) :
    addLines l line lines = .ok (l.addLines line lines) := by
  induction lines generalizing l line with
  | nil =>
    rw [List.length_nil] at h
    rw [addLines, natural_eq (n := line + 1) (by omega) (by omega)]
    rfl
  | cons text rest ih =>
    rw [List.length_cons] at h
    rw [addLines, natural_eq (n := line + 1) (by omega) (by omega), ok_bind, addLine_eq, ok_bind,
      Layout.addLines]
    cases l.addLine line text with
    | error fault => rfl
    | ok l => exact ih (by omega) l

/-- A text has at most one line more than it has characters. -/
theorem length_lines_le_length (text : List Char) : (Text.lines text).length ≤ text.length + 1 := by
  have each : ∀ ls : List (List Char), ls.length ≤ (ls.map (·.length + 1)).sum := by
    intro ls
    induction ls with
    | nil => exact Nat.le_refl _
    | cons l ls ih =>
      rw [List.map_cons, List.sum_cons, List.length_cons]
      omega
  exact Nat.le_trans (each _) (Text.sum_length_lines text)

theorem assemble_eq {source : String} (h : source.toList.length < 2 ^ 63) (limits : Limits) :
    assemble source limits = .ok (Sixteen.assemble source limits) := by
  have count := length_lines_le_length source.toList
  rw [assemble, natural_eq (n := (Text.lines source.toList).length) rfl (by omega), ok_bind,
    addLines_eq (by omega), ok_bind, Sixteen.assemble, layout]
  cases (Layout.empty limits).addLines 1 (Text.lines source.toList) with
  | error e => rfl
  | ok l =>
    dsimp only
    rw [words_eq, ok_bind]
    show _ = Except.ok (l.words >>= fun ws => pure (Image.mk programOrigin ws))
    rw [Layout.words]
    cases l.placements.toList.mapM (Layout.wordOf l.symbols) <;> rfl

/-! ## Errors -/

/-- The range of a field. Its bounds are made of ones that are shifted in 32 bits. -/
def help : RangeError → Checked (Option String)
  | .unsigned n => do
    let top ← integer 32 ((1#32 <<< (← amount 32 n)).toInt - 1)
    return some s!"the range for an unsigned {n}-bit integer is [0, {Numeral.decimal top}]"
  | .signed n => do
    let k ← amount 32 (← natural 32 (n - 1))
    let bottom := Numeral.decimal ((-1#32) <<< k).toInt
    let top := Numeral.decimal (← integer 32 ((1#32 <<< k).toInt - 1))
    return some s!"the range for a signed {n}-bit integer is [{bottom}, {top}]"

def faultHelp : AssemblyFault → Checked (Option String)
  | .parse (.range e) | .range e => help e
  | fault => return Diagnostic.help fault

def report (e : AssemblyError) : Checked String := do
  let hint := match ← faultHelp e.fault with
    | some text => "\n  help: " ++ text
    | none => ""
  return s!"line {e.line}: " ++ Diagnostic.message e ++ hint

/-- The number that a fault finds out of range, by its field. -/
def range? : AssemblyFault → Option RangeError
  | .parse (.range e) | .range e => some e
  | _ => none

/-- A number is out of range for one of the operands of instructions. -/
def OfOperand (r : RangeError) : Prop :=
  ∃ n, IsWidth n ∧ r = .signed n

theorem help_eq {n : Nat} (h : IsWidth n) :
    help (.signed n) = .ok (Diagnostic.help (RangeError.signed n)) := by
  have ones : ∀ k < 16, (1#32 <<< k).toInt = (1 <<< k : Nat) ∧
      ((-1#32) <<< k).toInt = -(1 <<< k : Nat) ∧ 1 <<< k ≤ 2 ^ 15 := by
    decide
  obtain ⟨pos, le⟩ := h
  obtain ⟨one, minus, small⟩ := ones (n - 1) (by omega)
  have top : integer 32 ((1#32 <<< (n - 1)).toInt - 1) = .ok ((1 <<< (n - 1) : Nat) - 1) := by
    rw [one]
    generalize 1 <<< (n - 1) = power at small ⊢
    exact integer_eq (by omega) (by omega)
  rw [help, natural_eq (n := n - 1) (by omega) (by omega), ok_bind, amount_eq (by omega), ok_bind,
    minus, top]
  rfl

theorem faultHelp_eq {fault : AssemblyFault}
    (h : ∀ r, range? fault = some r → OfOperand r) :
    faultHelp fault = .ok (Diagnostic.help fault) := by
  unfold faultHelp
  split
  case h_1 r | h_2 r =>
    obtain ⟨n, width, rfl⟩ := h r rfl
    exact help_eq width
  case h_3 => rfl

/-! ## Which numbers are out of range -/

theorem isWidth_of_number {k : Slot} {t : Token} {n : Nat} {v : Int} (wide : IsWide k)
    (number : k.Number t n v) : IsWidth n := by
  cases number <;> exact wide

/-- A number that does not fit its place is for an operand. -/
theorem ofOperand_of_firstFault {mnemonic : String} {ks : List Slot} {xs : List Lexeme}
    {e : ParseError} (wide : ∀ k ∈ ks, IsWide k) (h : FirstFault mnemonic ks xs e) {r : RangeError}
    (range : e = .range r) : OfOperand r := by
  induction h with
  | missing | wrongKind | extra => cases range
  | outOfRange number far =>
    cases range
    exact ⟨_, isWidth_of_number (wide _ List.mem_cons_self) number, rfl⟩
  | later first rest ih => exact ih (fun k hk => wide k (List.mem_cons_of_mem _ hk)) range

theorem ofOperand_of_blamed {xs : List Lexeme} {e : ParseError} (h : Body.Blamed xs e)
    {r : RangeError} (range : e = .range r) : OfOperand r := by
  cases h with
  | empty | noName => cases range
  | operands name fault => exact ofOperand_of_firstFault (isWide_of_row name) fault range

theorem ofOperand_of_parse {text : List Char} {r : RangeError}
    (h : Body.parse text = .error (.range r)) : OfOperand r := by
  rcases Body.parse_eq_error_iff.1 h with ⟨l, -, other⟩ | ⟨-, refused⟩
  · cases other
  · exact ofOperand_of_blamed (Body.ofLexemes_eq_error_iff.1 refused) rfl

theorem labelOf_ne_range {text : Option (List Char)} {r : RangeError} :
    Statement.labelOf text ≠ .error (.range r) := by
  intro h
  unfold Statement.labelOf at h
  split at h
  · cases h
  · split at h <;> cases h

theorem ofOperand_of_statement {line : List Char} {r : RangeError}
    (h : Statement.parse line = .error (.range r)) : OfOperand r := by
  unfold Statement.parse at h
  generalize splitLabel line = parts at h
  rcases Except.bind_eq_error_iff.1 h with label | ⟨label, -, rest⟩
  · exact absurd label labelOf_ne_range
  · rcases Except.bind_eq_error_iff.1 rest with body | ⟨body, -, done⟩
    · unfold Statement.bodyOf at body
      split at body
      · cases body
      · exact ofOperand_of_parse (Except.map_eq_error_iff.1 body)
    · cases done

/-- A label operand is in a field as wide as an operand can be. -/
theorem isWidth_of_reference {s : Statement} {r : Reference} (h : s.reference? = some r) :
    IsWidth r.bits := by
  have target : ∀ {n : Nat} {t : Target n}, IsWidth n → t.reference? = some r → IsWidth r.bits := by
    intro n t width found
    cases t with
    | offset value => cases found
    | label name =>
      cases found
      exact width
  obtain ⟨b, -, held⟩ := Option.bind_eq_some_iff.1 h
  cases b with
  | literal w => cases held
  | operation o =>
    cases o with
    | br _ t | ld _ t | ldi _ t | lea _ t | st _ t | sti _ t => exact target (by decide) held
    | jsr t => exact target (by decide) held
    | _ => cases held

/-- What assembling finds out of range is a number for an operand. -/
theorem ofOperand_of_error {source : String} {limits : Limits} {e : AssemblyError}
    (h : Sixteen.assemble source limits = .error e) {r : RangeError}
    (range : range? e.fault = some r) : OfOperand r := by
  obtain ⟨line, fault⟩ := e
  rcases assemble_eq_error_iff.1 h with ⟨i, -, p, text, -, -, -, wrong⟩ |
    ⟨p, -, -, i, -, ⟨s, found, -, held, wrong⟩, -⟩
  · cases wrong with
    | @unread e _ refused =>
      cases e with
      | range e =>
        cases range
        exact ofOperand_of_statement refused
      | _ => cases range
    | _ => cases range
  · cases wrong with
    | undefined unknown => cases range
    | outOfReach known far =>
      cases range
      exact ⟨_, isWidth_of_reference held, rfl⟩

theorem report_eq {source : String} {limits : Limits} {e : AssemblyError}
    (h : Sixteen.assemble source limits = .error e) : report e = .ok (Sixteen.report e) := by
  rw [report, faultHelp_eq fun r => ofOperand_of_error h]
  rfl

end Sixteen.Checked
