import Sixteen.Proofs.Program.Assembly
import Sixteen.Proofs.Text.Lines

/-!
# Faults of programs

What is wrong with a line is said here of the program before it, and which label operand is wrong of
the whole program. Assembling reports the first line that cannot be laid out; what follows this line
plays no part. Only where all lines can be laid out, it reports the first label operand that cannot
be resolved.

* `Program.LineFault` : what is wrong with a line behind a program, by rank;
* `Program.FailsAt` : a line is wrong behind those before it, which are not;
* `Program.UnresolvedAt` : a label operand is wrong, and none before it is;
* `layout_eq_error_iff`, `Layout.words_ofProgram_eq_error_iff` : the faults of both passes;
* `assemble_eq_error_iff` : the faults of assembling;
* `assemble_error_diagnosis` : what an error says of the source.
-/

namespace Sixteen

open Program (Admissible)

namespace Program

/-! ## What is wrong with a line -/

/-- What is wrong with a line behind the lines of `p`. Each fault is named only where those before
it do not hold. -/
inductive LineFault (limits : Limits) (p : Program) (line : List Char) : AssemblyFault → Prop
  | unread {e : ParseError} (held : normalize line ≠ [])
    (refused : Statement.parse (normalize line) = .error e) : LineFault limits p line (.ofParse e)
  | tooLarge {s : Statement} (held : normalize line ≠ []) (reads : Statement.Reads line s)
    (full : 0xd000 ≤ p.size) : LineFault limits p line .programTooLarge
  /-- The label is defined on an earlier line, which is the one of number `j` from 0. -/
  | duplicate {s : Statement} {name : String} {j : Nat} (reads : Statement.Reads line s)
    (room : p.size < 0xd000) (label : s.label = some name) (earlier : p.Defines j name) :
    LineFault limits p line (.symbol (.duplicate name (j + 1)))
  | tooLong {s : Statement} {name : String} (reads : Statement.Reads line s)
    (room : p.size < 0xd000) (label : s.label = some name) (new : name ∉ p.labels)
    (long : limits.labelLength < name.utf8ByteSize) :
    LineFault limits p line (.symbol (.tooLong name))
  | tooMany {s : Statement} {name : String} (reads : Statement.Reads line s)
    (room : p.size < 0xd000) (label : s.label = some name) (new : name ∉ p.labels)
    (short : name.utf8ByteSize ≤ limits.labelLength) (many : limits.symbols ≤ p.labels.length) :
    LineFault limits p line (.symbol .full)

/-- Nothing is wrong with a blank line. -/
theorem LineFault.held {limits : Limits} {p : Program} {line : List Char} {fault : AssemblyFault}
    (h : LineFault limits p line fault) : normalize line ≠ [] := by
  intro blank
  have reads : Statement.Reads line .blank := by rw [Statement.Reads, if_pos blank]
  cases h with
  | unread held _ | tooLarge held _ _ => exact held blank
  | duplicate other _ label _ | tooLong other _ label _ _ | tooMany other _ label _ _ _ =>
    cases other.unique reads
    cases label

/-- The line number `i`, counted from 0, is wrong behind the lines before it, and these can be laid
out. -/
def FailsAt (limits : Limits) (lines : List (List Char)) (i : Nat) (fault : AssemblyFault) : Prop :=
  ∃ p line, Program.Reads (lines.take i) p ∧ Admissible limits p ∧ lines[i]? = some line ∧
    LineFault limits p line fault

/-! ## What is wrong with a label operand -/

/-- What is wrong with the label operand `r` of an instruction at the address `a`. -/
inductive ReferenceFault (p : Program) (a : Nat) (r : Reference) : AssemblyFault → Prop
  | undefined (unknown : r.label ∉ p.labels) : ReferenceFault p a r (.undefinedLabel r.label)
  | outOfReach {j : Nat} (known : p.Defines j r.label)
    (far : ¬Signed.InRange r.bits (p.address j - (a + 1))) :
    ReferenceFault p a r (.range (.signed r.bits))

/-- The label operand of the line number `i`, counted from 0, is wrong, and none before it is. -/
def UnresolvedAt (p : Program) (i : Nat) (fault : AssemblyFault) : Prop :=
  (∃ s r, p[i]? = some s ∧ s.reference? = some r ∧ ReferenceFault p (p.address i) r fault) ∧
  ∀ j < i, ∀ s r, p[j]? = some s → s.reference? = some r → p.InReach (p.address j) r

end Program

/-! ## The first pass -/

namespace Layout

open Program (LineFault)

variable {limits : Limits} {p : Program} {s : Statement} {fault : AssemblyFault}

theorem addLabel_some_eq_error_iff {l : Layout} {line : Nat} {name : String} :
    l.addLabel line (some name) = .error fault ↔
      ∃ e, (l.symbols.attempt ⟨name, l.next, line⟩).1 = .error e ∧ fault = .symbol e := by
  rw [addLabel]
  rcases l.symbols.attempt ⟨name, l.next, line⟩ with ⟨_ | _, _⟩ <;> simp [eq_comm]

theorem addStatement_eq_error_iff {l : Layout} {line : Nat} :
    l.addStatement line s = .error fault ↔
      capacity ≤ l.placements.size ∧ fault = .programTooLarge ∨
      l.placements.size < capacity ∧ l.addLabel line s.label = .error fault := by
  unfold addStatement
  split
  · next room => cases l.addLabel line s.label <;> simp [room, Nat.not_le.2 room]
  · next full => simp [full, Nat.not_lt.1 full, eq_comm]

theorem attempt_ofProgram_eq_error_iff (hp : Admissible limits p) {name : String} {address : Word}
    {line : Nat} {e : SymbolError} :
    ((ofProgram limits p).symbols.attempt ⟨name, address, line⟩).1 = .error e ↔
      (∃ j, p.Defines j name ∧ e = .duplicate name (j + 1)) ∨
      name ∉ p.labels ∧
        (limits.labelLength < name.utf8ByteSize ∧ e = .tooLong name ∨
          name.utf8ByteSize ≤ limits.labelLength ∧ limits.symbols ≤ p.labels.length ∧
            e = .full) := by
  rw [SymbolTable.fst_attempt_eq_error_iff, symbol?_ofProgram_eq_none_iff, size_symbols_ofProgram]
  refine or_congr_left ?_
  simp only [Program.symbol?_ofProgram_eq_some_iff hp]
  constructor
  · rintro ⟨_, ⟨j, hj, rfl⟩, rfl⟩
    exact ⟨j, hj, rfl⟩
  · rintro ⟨j, hj, rfl⟩
    exact ⟨_, ⟨j, hj, rfl⟩, rfl⟩

/-- Why the label of a statement cannot be defined behind the lines of `p`. -/
theorem addLabel_ofProgram_eq_error_iff (hp : Admissible limits p) {line : Nat} :
    (ofProgram limits p).addLabel line s.label = .error fault ↔
      ∃ name, s.label = some name ∧
        ((∃ j, p.Defines j name ∧ fault = .symbol (.duplicate name (j + 1))) ∨
          name ∉ p.labels ∧
            (limits.labelLength < name.utf8ByteSize ∧ fault = .symbol (.tooLong name) ∨
              name.utf8ByteSize ≤ limits.labelLength ∧ limits.symbols ≤ p.labels.length ∧
                fault = .symbol .full)) := by
  cases label : s.label with
  | none => simp [addLabel]
  | some name =>
    simp only [addLabel_some_eq_error_iff, attempt_ofProgram_eq_error_iff hp, Option.some.injEq,
      exists_eq_left']
    constructor
    · rintro ⟨_, ⟨j, hj, rfl⟩ | ⟨new, ⟨long, rfl⟩ | ⟨short, many, rfl⟩⟩, rfl⟩
      · exact .inl ⟨j, hj, rfl⟩
      · exact .inr ⟨new, .inl ⟨long, rfl⟩⟩
      · exact .inr ⟨new, .inr ⟨short, many, rfl⟩⟩
    · rintro (⟨j, hj, rfl⟩ | ⟨new, ⟨long, rfl⟩ | ⟨short, many, rfl⟩⟩)
      · exact ⟨_, .inl ⟨j, hj, rfl⟩, rfl⟩
      · exact ⟨_, .inr ⟨new, .inl ⟨long, rfl⟩⟩, rfl⟩
      · exact ⟨_, .inr ⟨new, .inr ⟨short, many, rfl⟩⟩, rfl⟩

/-- Why a statement cannot follow the lines of `p`. -/
theorem addStatement_ofProgram_eq_error_iff (hp : Admissible limits p) {line : List Char}
    (reads : Statement.Reads line s) (held : normalize line ≠ []) :
    (ofProgram limits p).addStatement (p.length + 1) s = .error fault ↔
      LineFault limits p line fault := by
  rw [addStatement_eq_error_iff, size_placements_ofProgram, addLabel_ofProgram_eq_error_iff hp]
  constructor
  · rintro (⟨full, rfl⟩ | ⟨room, name, label, cause⟩)
    · exact .tooLarge held reads full
    · rcases cause with ⟨j, earlier, rfl⟩ | ⟨new, ⟨long, rfl⟩ | ⟨short, many, rfl⟩⟩
      · exact .duplicate reads room label earlier
      · exact .tooLong reads room label new long
      · exact .tooMany reads room label new short many
  · intro h
    have same : ∀ {t : Statement}, Statement.Reads line t → t = s := fun ht => ht.unique reads
    cases h with
    | unread held refused =>
      rw [Statement.Reads, if_neg held, refused] at reads
      cases reads
    | tooLarge held reads full => exact .inl ⟨full, rfl⟩
    | duplicate reads room label earlier =>
      cases same reads
      exact .inr ⟨room, _, label, .inl ⟨_, earlier, rfl⟩⟩
    | tooLong reads room label new long =>
      cases same reads
      exact .inr ⟨room, _, label, .inr ⟨new, .inl ⟨long, rfl⟩⟩⟩
    | tooMany reads room label new short many =>
      cases same reads
      exact .inr ⟨room, _, label, .inr ⟨new, .inr ⟨short, many, rfl⟩⟩⟩

/-- Why a line cannot follow the lines of `p`. -/
theorem addLine_ofProgram_eq_error_iff (hp : Admissible limits p) {line : List Char} :
    (ofProgram limits p).addLine (p.length + 1) line = .error fault ↔
      LineFault limits p line fault := by
  unfold addLine
  by_cases blank : normalize line = []
  · rw [if_pos (by rw [blank]; rfl)]
    exact ⟨nofun, fun h => absurd blank h.held⟩
  · rw [if_neg (by simpa using blank)]
    cases parsed : Statement.parse (normalize line) with
    | ok s =>
      have reads : Statement.Reads line s := by rw [Statement.Reads, if_neg blank, parsed]
      exact addStatement_ofProgram_eq_error_iff hp reads blank
    | error e =>
      have unread : ∀ s, ¬Statement.Reads line s := by
        intro s reads
        rw [Statement.Reads, if_neg blank, parsed] at reads
        cases reads
      constructor
      · rintro ⟨⟩
        exact .unread blank parsed
      · intro h
        cases h with
        | unread _ refused =>
          rw [parsed] at refused
          cases refused
          rfl
        | tooLarge _ reads _ => exact absurd reads (unread _)
        | duplicate reads _ _ _ | tooLong reads _ _ _ _ | tooMany reads _ _ _ _ _ =>
          exact absurd reads (unread _)

/-- Lines fail at the first line that cannot be added. -/
theorem addLines_eq_error_iff {l : Layout} {line : Nat} {lines : List (List Char)}
    {e : AssemblyError} :
    l.addLines line lines = .error e ↔
      ∃ done text rest k, lines = done ++ text :: rest ∧ l.addLines line done = .ok k ∧
        e.line = line + done.length ∧ k.addLine e.line text = .error e.fault := by
  induction lines generalizing l line with
  | nil => simp [addLines]
  | cons text lines ih =>
    rw [addLines]
    cases added : l.addLine line text with
    | error fault =>
      constructor
      · rintro ⟨⟩
        exact ⟨[], text, lines, l, rfl, rfl, rfl, added⟩
      · rintro ⟨_ | ⟨first, done⟩, other, rest, k, same, before, count, fails⟩
        · cases same
          cases before
          obtain ⟨number, cause⟩ := e
          cases count
          cases added.symm.trans fails
          rfl
        · cases same
          rw [addLines, added] at before
          cases before
    | ok k =>
      rw [ih]
      constructor
      · rintro ⟨done, other, rest, k', rfl, before, count, fails⟩
        refine ⟨text :: done, other, rest, k', rfl, ?_, ?_, fails⟩
        · rw [addLines, added]
          exact before
        · rw [count, List.length_cons, Nat.add_assoc, Nat.add_comm 1]
      · rintro ⟨_ | ⟨first, done⟩, other, rest, k', same, before, count, fails⟩
        · cases same
          cases before
          rw [count, List.length_nil, Nat.add_zero, added] at fails
          cases fails
        · cases same
          rw [addLines, added] at before
          exact ⟨done, other, rest, k', rfl, before, by rw [count, List.length_cons]; omega, fails⟩

end Layout

/-- Laying out fails at the first line that is wrong behind those before it. -/
theorem layout_eq_error_iff {limits : Limits} {lines : List (List Char)} {e : AssemblyError} :
    layout limits lines = .error e ↔
      ∃ i, e.line = i + 1 ∧ Program.FailsAt limits lines i e.fault := by
  rw [layout, Layout.addLines_eq_error_iff]
  constructor
  · rintro ⟨done, text, rest, k, rfl, before, count, fails⟩
    obtain ⟨p, reads, adm, rfl⟩ := layout_eq_ok_iff.1 before
    rw [count, reads.length_eq, Nat.add_comm 1, Layout.addLine_ofProgram_eq_error_iff adm] at fails
    refine ⟨done.length, by rw [count, Nat.add_comm], p, text, ?_, adm, by simp, fails⟩
    rwa [List.take_left' rfl]
  · rintro ⟨i, count, p, text, reads, adm, found, fails⟩
    obtain ⟨hi, rfl⟩ := List.getElem?_eq_some_iff.1 found
    have length : (lines.take i).length = i := List.length_take_of_le (Nat.le_of_lt hi)
    refine ⟨lines.take i, lines[i], lines.drop (i + 1), _, by simp,
      layout_eq_ok_iff.2 ⟨p, reads, adm, rfl⟩, by rw [count, length, Nat.add_comm], ?_⟩
    have refused := (Layout.addLine_ofProgram_eq_error_iff adm).2 fails
    rwa [← reads.length_eq, length, ← count] at refused

/-! ## The second pass -/

/-- What is wrong with a label operand among the symbols of a table. -/
def Reference.Misses (symbols : SymbolTable) (address : Word) (r : Reference)
    (fault : AssemblyFault) : Prop :=
  symbols.find? r.label = none ∧ fault = .undefinedLabel r.label ∨
    ∃ target, symbols.find? r.label = some target ∧
      ¬Signed.InRange r.bits (Sixteen.distance address target) ∧ fault = .range (.signed r.bits)

section
variable {address : Word} {symbols : SymbolTable} {fault : AssemblyFault}

theorem Target.resolve_eq_error_iff {n : Nat} (hn : 0 < n) {target : Target n} :
    target.resolve address symbols = .error fault ↔
      ∃ r, target.reference? = some r ∧ r.Misses symbols address fault := by
  cases target with
  | offset value => simp [resolve, reference?]
  | label name =>
    simp only [resolve, reference?, Option.some.injEq, exists_eq_left', Reference.Misses]
    cases found : symbols.find? name with
    | none => simp [eq_comm]
    | some a =>
      simp only [Except.mapError_eq_error_iff, Signed.ofInt?_eq_error_iff hn, Option.some.injEq]
      constructor
      · rintro ⟨_, ⟨far, rfl⟩, rfl⟩
        exact .inr ⟨a, rfl, far, rfl⟩
      · rintro (⟨⟨⟩, -⟩ | ⟨_, rfl, far, rfl⟩)
        exact ⟨_, ⟨far, rfl⟩, rfl⟩

theorem Target.map_resolve_eq_error_iff {n : Nat} (hn : 0 < n) {target : Target n}
    {f : Signed n → Instr} :
    (target.resolve address symbols).map f = .error fault ↔
      ∃ r, target.reference? = some r ∧ r.Misses symbols address fault := by
  rw [Except.map_eq_error_iff, resolve_eq_error_iff hn]

theorem Operation.resolve_eq_error_iff {o : Operation} :
    o.resolve address symbols = .error fault ↔
      ∃ r, o.reference? = some r ∧ r.Misses symbols address fault := by
  cases o with
  | br cond target => exact Target.map_resolve_eq_error_iff (by decide)
  | jsr target => exact Target.map_resolve_eq_error_iff (by decide)
  | ld dst target => exact Target.map_resolve_eq_error_iff (by decide)
  | ldi dst target => exact Target.map_resolve_eq_error_iff (by decide)
  | lea dst target => exact Target.map_resolve_eq_error_iff (by decide)
  | st src target => exact Target.map_resolve_eq_error_iff (by decide)
  | sti src target => exact Target.map_resolve_eq_error_iff (by decide)
  | _ => simp [resolve, reference?]

theorem Body.word_eq_error_iff {b : Body} :
    b.word address symbols = .error fault ↔
      ∃ r, b.reference? = some r ∧ r.Misses symbols address fault := by
  cases b with
  | literal v => simp [word, reference?]
  | operation o => rw [word, Except.map_eq_error_iff, Operation.resolve_eq_error_iff, reference?]

end

namespace Program

variable {limits : Limits} {p : Program} {fault : AssemblyFault}

/-- A label operand misses among the symbols of a program as it does among its lines. -/
theorem misses_ofProgram_iff (h : Admissible limits p) {a : Nat} (ha : a < 2 ^ 16) {r : Reference} :
    r.Misses (Layout.ofProgram limits p).symbols (BitVec.ofNat 16 a) fault ↔
      ReferenceFault p a r fault := by
  have unknown : (Layout.ofProgram limits p).symbols.find? r.label = none ↔ r.label ∉ p.labels := by
    rw [SymbolTable.find?, Option.map_eq_none_iff, Layout.symbol?_ofProgram_eq_none_iff]
  rw [Reference.Misses, unknown]
  simp only [find?_ofProgram_eq_some_iff h]
  constructor
  · rintro (⟨unknown, rfl⟩ | ⟨_, ⟨j, known, rfl⟩, far, rfl⟩)
    · exact .undefined unknown
    · rw [distance_ofNat ha (h.address_lt_of_defines known)] at far
      exact .outOfReach known far
  · intro fails
    cases fails with
    | undefined unknown => exact .inl ⟨unknown, rfl⟩
    | outOfReach known far =>
      rw [← distance_ofNat ha (h.address_lt_of_defines known)] at far
      exact .inr ⟨_, ⟨_, known, rfl⟩, far, rfl⟩

end Program

namespace Layout

variable {limits : Limits} {p : Program} {i : Nat} {s : Statement} {x : Placement}

/-- Where the body of a line is placed. -/
theorem placementOf_eq_some_iff {line address : Nat} :
    placementOf line address s = some x ↔
      ∃ b, s.body = some b ∧ x = ⟨line, BitVec.ofNat 16 address, b⟩ := by
  rw [placementOf, Option.map_eq_some_iff]
  exact exists_congr fun b => and_congr_right fun _ => eq_comm

theorem placementOf_of_body {b : Body} (hb : s.body = some b) (line address : Nat) :
    placementOf line address s = some ⟨line, BitVec.ofNat 16 address, b⟩ := by
  rw [placementOf, hb, Option.map_some]

/-- A line has its word exactly if its label operand, if any, is in reach. -/
theorem exists_wordOf_ofProgram_iff (h : Admissible limits p) (hs : p[i]? = some s)
    (hx : placementOf (i + 1) (p.address i) s = some x) :
    (∃ w, wordOf (ofProgram limits p).symbols x = .ok w) ↔
      ∀ r, s.reference? = some r → p.InReach (p.address i) r := by
  obtain ⟨b, hb, rfl⟩ := placementOf_eq_some_iff.1 hx
  have fits := h.address_lt hs (Program.ne_blank_of_body hb)
  simp only [wordOf, Except.mapError_eq_ok_iff, Program.word_ofProgram_eq_ok_iff h fits,
    exists_and_left, exists_eq, and_true, Statement.reference?, hb, Option.bind_some]

/-- A line has no word exactly if its label operand is wrong. -/
theorem wordOf_ofProgram_eq_error_iff (h : Admissible limits p) (hs : p[i]? = some s)
    (hx : placementOf (i + 1) (p.address i) s = some x) {e : AssemblyError} :
    wordOf (ofProgram limits p).symbols x = .error e ↔
      e.line = i + 1 ∧
        ∃ r, s.reference? = some r ∧ Program.ReferenceFault p (p.address i) r e.fault := by
  obtain ⟨b, hb, rfl⟩ := placementOf_eq_some_iff.1 hx
  have fits := h.address_lt hs (Program.ne_blank_of_body hb)
  simp only [wordOf, Except.mapError_eq_error_iff, Body.word_eq_error_iff,
    Program.misses_ofProgram_iff h fits, Statement.reference?, hb, Option.bind_some]
  constructor
  · rintro ⟨fault, fails, rfl⟩
    exact ⟨rfl, fails⟩
  · rintro ⟨line, fails⟩
    exact ⟨e.fault, fails, by rw [← line]⟩

/-- The words of an admissible program fail at its first label operand that is wrong. -/
theorem words_ofProgram_eq_error_iff (h : Admissible limits p) {e : AssemblyError} :
    (ofProgram limits p).words = .error e ↔
      ∃ i, e.line = i + 1 ∧ p.UnresolvedAt i e.fault := by
  have placements : (ofProgram limits p).placements.toList = p.collect placementOf := rfl
  rw [words, Except.mapM_eq_error_iff, placements]
  constructor
  · rintro ⟨done, x, rest, split, well, fails⟩
    obtain ⟨i, s, hs, hx, rfl⟩ := Program.exists_of_collect_eq_append_cons split
    obtain ⟨line, r, hr, wrong⟩ := (wordOf_ofProgram_eq_error_iff h hs hx).1 fails
    refine ⟨i, line, ⟨s, r, hs, hr, wrong⟩, ?_⟩
    intro j hj t q ht hq
    obtain ⟨b, hb, -⟩ := Option.bind_eq_some_iff.1 hq
    have hy := placementOf_of_body hb (j + 1) (p.address j)
    refine (exists_wordOf_ofProgram_iff h ht hy).1 (well _ ?_) q hq
    exact Program.mem_collect_take_iff.2 ⟨j, hj, t, ht, hy⟩
  · rintro ⟨i, line, ⟨s, r, hs, hr, wrong⟩, before⟩
    obtain ⟨b, hb, -⟩ := Option.bind_eq_some_iff.1 hr
    have hx := placementOf_of_body hb (i + 1) (p.address i)
    have split := Program.collect_split (f := placementOf) hs
    rw [hx, Option.toList_some, List.singleton_append] at split
    refine ⟨_, _, _, split, ?_, (wordOf_ofProgram_eq_error_iff h hs hx).2 ⟨line, r, hr, wrong⟩⟩
    intro y hy
    obtain ⟨j, hj, t, ht, hy⟩ := Program.mem_collect_take_iff.1 hy
    exact (exists_wordOf_ofProgram_iff h ht hy).2 fun q hq => before j hj t q ht hq

end Layout

/-! ## Both passes -/

/-- Assembling fails at the first line that cannot be laid out or, if there is none, at the first
label operand that cannot be resolved. -/
theorem assemble_eq_error_iff {source : String} {limits : Limits} {e : AssemblyError} :
    assemble source limits = .error e ↔
      (∃ i, e.line = i + 1 ∧ Program.FailsAt limits (Text.lines source.toList) i e.fault) ∨
      ∃ p, Program.Reads (Text.lines source.toList) p ∧ Admissible limits p ∧
        ∃ i, e.line = i + 1 ∧ p.UnresolvedAt i e.fault := by
  unfold assemble
  rw [Except.bind_eq_error_iff, layout_eq_error_iff]
  refine or_congr_right ?_
  simp only [layout_eq_ok_iff, Except.bind_eq_error_iff, pure, Except.pure, reduceCtorEq, and_false,
    exists_false, or_false]
  constructor
  · rintro ⟨_, ⟨p, reads, adm, rfl⟩, fails⟩
    exact ⟨p, reads, adm, (Layout.words_ofProgram_eq_error_iff adm).1 fails⟩
  · rintro ⟨p, reads, adm, fails⟩
    exact ⟨_, ⟨p, reads, adm, rfl⟩, (Layout.words_ofProgram_eq_error_iff adm).2 fails⟩

namespace Program

variable {limits : Limits} {lines : List (List Char)} {i j : Nat} {fault other : AssemblyFault}

/-- At most one line cannot be laid out, for one reason. -/
theorem FailsAt.unique (h : FailsAt limits lines i fault) (h' : FailsAt limits lines j other) :
    i = j ∧ fault = other := by
  have first : layout limits lines = .error ⟨i + 1, fault⟩ := layout_eq_error_iff.2 ⟨i, rfl, h⟩
  have second : layout limits lines = .error ⟨j + 1, other⟩ := layout_eq_error_iff.2 ⟨j, rfl, h'⟩
  cases first.symm.trans second
  exact ⟨rfl, rfl⟩

/-- The lines of an admissible program can all be laid out. -/
theorem Admissible.not_failsAt {p : Program} (h : Admissible limits p)
    (reads : Program.Reads lines p) : ¬FailsAt limits lines i fault := by
  intro fails
  have failed : layout limits lines = .error ⟨i + 1, fault⟩ := layout_eq_error_iff.2 ⟨i, rfl, fails⟩
  cases failed.symm.trans (layout_eq_ok_iff.2 ⟨p, reads, h, rfl⟩)

/-- Whether a line can be laid out is a matter of the lines up to it. -/
theorem FailsAt.of_take {others : List (List Char)} (h : FailsAt limits lines i fault)
    (same : others.take (i + 1) = lines.take (i + 1)) : FailsAt limits others i fault := by
  have first : ∀ xs : List (List Char), (xs.take (i + 1)).take i = xs.take i := by
    intro xs
    rw [List.take_take, Nat.min_eq_left (Nat.le_succ i)]
  obtain ⟨p, line, reads, adm, found, wrong⟩ := h
  refine ⟨p, line, ?_, adm, ?_, wrong⟩
  · rwa [← first, same, first]
  · rw [← List.getElem?_take_of_lt (Nat.lt_succ_self i), same,
      List.getElem?_take_of_lt (Nat.lt_succ_self i), found]

/-- A line that cannot be laid out is there, and is not blank. -/
theorem FailsAt.held (h : FailsAt limits lines i fault) :
    ∃ line, lines[i]? = some line ∧ normalize line ≠ [] := by
  obtain ⟨p, line, -, -, found, wrong⟩ := h
  exact ⟨line, found, wrong.held⟩

/-- A label operand that is wrong stands on a line that is there, and is not blank. -/
theorem UnresolvedAt.held {p : Program} (h : p.UnresolvedAt i fault)
    (reads : Program.Reads lines p) : ∃ line, lines[i]? = some line ∧ normalize line ≠ [] := by
  obtain ⟨⟨s, r, hs, hr, -⟩, -⟩ := h
  obtain ⟨line, found, holds⟩ := reads.line hs
  refine ⟨line, found, fun blank => ?_⟩
  rw [Statement.Reads, if_pos blank] at holds
  subst holds
  cases hr

/-- The error `e` is that of the line of `source` which cannot be laid out. -/
structure Stops (limits : Limits) (source : String) (e : AssemblyError) : Prop where
  fails : FailsAt limits (Text.lines source.toList) (e.line - 1) e.fault
  /-- What follows the line plays no part. -/
  stable : ∀ other : String,
    (Text.lines other.toList).take e.line = (Text.lines source.toList).take e.line →
      assemble other limits = .error e
  /-- Cut before the line, the source can be laid out. -/
  cut : ∃ before after : String, source = before ++ after ∧
    Text.lines before.toList = (Text.lines source.toList).take (e.line - 1) ∧
      ∀ i fault, ¬FailsAt limits (Text.lines before.toList) i fault

theorem FailsAt.stops {source : String} (h : FailsAt limits (Text.lines source.toList) i fault) :
    Stops limits source ⟨i + 1, fault⟩ where
  fails := h
  stable other same := assemble_eq_error_iff.2 (.inl ⟨i, rfl, h.of_take same⟩)
  cut := by
    obtain ⟨p, -, reads, adm, -⟩ := h
    obtain ⟨before, after, split, same⟩ := Text.exists_lines_take source.toList i
    refine ⟨String.ofList before, String.ofList after, ?_, ?_, ?_⟩
    · rw [← String.ofList_append, ← split, String.ofList_toList]
    · rw [String.toList_ofList, same]
      rfl
    · intro j fault
      rw [String.toList_ofList, same]
      exact adm.not_failsAt reads

/-- What the error `e` says of `source`. -/
structure Diagnosis (limits : Limits) (source : String) (e : AssemblyError) : Prop where
  shown : Diagnostic.line e = some e.line
  positive : 1 ≤ e.line
  within : e.line ≤ (Text.lines source.toList).length
  held : ∀ line, (Text.lines source.toList)[e.line - 1]? = some line → normalize line ≠ []
  /-- A line that cannot be laid out is the one of the error. -/
  firstPass : ∀ i fault, FailsAt limits (Text.lines source.toList) i fault →
    e = ⟨i + 1, fault⟩ ∧ Stops limits source e
  /-- If there is none, it is the first line with a label operand that is wrong. -/
  secondPass : (∀ i fault, ¬FailsAt limits (Text.lines source.toList) i fault) →
    ∃ p, Program.Reads (Text.lines source.toList) p ∧ Admissible limits p ∧
      p.UnresolvedAt (e.line - 1) e.fault

end Program

/-- An error names the line and the fault that are to blame. -/
theorem assemble_error_diagnosis {source : String} {limits : Limits} {e : AssemblyError}
    (h : assemble source limits = .error e) : Program.Diagnosis limits source e := by
  obtain ⟨line, fault⟩ := e
  have passes := assemble_eq_error_iff.1 h
  obtain ⟨i, rfl, text, found, held⟩ : ∃ i, line = i + 1 ∧
      ∃ text, (Text.lines source.toList)[i]? = some text ∧ normalize text ≠ [] := by
    rcases passes with ⟨i, line, fails⟩ | ⟨p, reads, -, i, line, wrong⟩
    · exact ⟨i, line, fails.held⟩
    · exact ⟨i, line, wrong.held reads⟩
  obtain ⟨within, -⟩ := List.getElem?_eq_some_iff.1 found
  refine ⟨rfl, Nat.le_add_left 1 i, within, ?_, ?_, ?_⟩
  · intro other sameLine
    rw [Nat.add_sub_cancel, found] at sameLine
    cases sameLine
    exact held
  · intro j cause fails
    have first : assemble source limits = .error ⟨j + 1, cause⟩ :=
      assemble_eq_error_iff.2 (.inl ⟨j, rfl, fails⟩)
    cases h.symm.trans first
    exact ⟨rfl, fails.stops⟩
  · intro clean
    rcases passes with ⟨j, -, fails⟩ | ⟨p, reads, adm, j, line, wrong⟩
    · exact absurd fails (clean _ _)
    · cases line
      exact ⟨p, reads, adm, wrong⟩

theorem assemble_error_diagnosis_duplicate :
    assemble "x: halt\nx: halt" = .error ⟨2, .symbol (.duplicate "x" 1)⟩ ∧
      Program.Diagnosis {} "x: halt\nx: halt" ⟨2, .symbol (.duplicate "x" 1)⟩ := by
  have fails : assemble "x: halt\nx: halt" = .error ⟨2, .symbol (.duplicate "x" 1)⟩ := by
    decide +kernel
  exact ⟨fails, assemble_error_diagnosis fails⟩

end Sixteen
